import IngestionLab.Machine.Run
import IngestionLab.Receiver.Server
import Mathlib.Data.Nat.Basic
import Mathlib.Order.MinMax

/-!
# What the receiver counts, concurrently

Any number of requests accept batches while others take snapshots, and time passes. A
request first reads the clock and then waits for the lock; what is done under the lock is
one step, as it is for a snapshot. The machine notes on the side which accepts have taken
effect, and what the snapshots have returned.

* `IngestionLab.Receiver.counts_of_reachable`: the totals are those of the accepts that
  have taken effect, in every order of the steps.
* `IngestionLab.Receiver.along_inOrder_iff`: **the last acceptance is the latest one, and
  never moves back, exactly along the runs in which no accept gets the lock after one that
  read a later time.** Nothing in the code sees to that.
-/

namespace IngestionLab.Receiver

/-- A call of `accept` that has read the clock. -/
structure Accept where
  acceptedAt : ℕ
  transactionCount : ℕ
  deriving DecidableEq, Repr

/-- **A receiver under way.** -/
structure Counting where
  clock : ℕ := 0
  server : ServerState := {}
  /-- The accepts that wait for the lock. -/
  waiting : List Accept := []
  /-- The accepts that have taken effect, in their order. -/
  accepted : List Accept := []
  /-- What the snapshots returned, and which accepts had taken effect then. -/
  snapshots : List (ServerState × List Accept) := []
  deriving DecidableEq, Repr

namespace Counting

inductive Action
  /-- Time passes. -/
  | tick (nanoseconds : ℕ)
  /-- A request has been accepted and reads the clock. -/
  | readClock (transactionCount : ℕ)
  /-- One of the accepts that wait gets the lock. -/
  | publish (index : ℕ)
  | snapshot
  deriving DecidableEq, Repr

/-- What an action does. -/
def next (s : Counting) : Action → Counting
  | .tick nanoseconds => { s with clock := s.clock + nanoseconds }
  | .readClock transactionCount =>
    { s with waiting := s.waiting ++ [⟨s.clock, transactionCount⟩] }
  | .publish index =>
    match s.waiting[index]? with
    | none => s
    | some a =>
      { s with
        server := s.server.accept a.acceptedAt a.transactionCount
        waiting := s.waiting.eraseIdx index
        accepted := s.accepted ++ [a] }
  | .snapshot => { s with snapshots := s.snapshots ++ [(s.server.snapshot, s.accepted)] }

/-- The machine. -/
def machine : Machine Counting Action where
  Enabled s
    | .publish index => index < s.waiting.length
    | _ => True
  next := next

instance : ∀ s a, Decidable (machine.Enabled s a)
  | s, .publish index => inferInstanceAs (Decidable (index < s.waiting.length))
  | _, .tick _ | _, .readClock _ | _, .snapshot => .isTrue trivial

end Counting

open Counting

/-! ### The totals -/

/-- The totals are those of these accepts. -/
structure ServerState.Counts (state : ServerState) (accepted : List Accept) : Prop where
  batches : state.acceptedBatchesTotal = accepted.length
  transactions : state.acceptedTransactionsTotal = (accepted.map Accept.transactionCount).sum

theorem ServerState.Counts.accept {state : ServerState} {accepted : List Accept}
    (h : state.Counts accepted) (a : Accept) :
    (state.accept a.acceptedAt a.transactionCount).Counts (accepted ++ [a]) where
  batches := by
    rw [ServerState.accept, List.length_append, h.batches]
    rfl
  transactions := by
    rw [ServerState.accept, List.map_append, List.sum_append, h.transactions, List.map_singleton,
      List.sum_singleton]

/-- Every snapshot, of those there were and of one now, has the totals of the accepts that have taken
effect. -/
structure Counting.Counted (s : Counting) : Prop where
  now : s.server.snapshot.Counts s.accepted
  taken : ∀ x ∈ s.snapshots, x.1.Counts x.2

theorem Counting.Counted.next {s : Counting} (h : s.Counted) (a : Action) :
    (s.next a).Counted := by
  cases a with
  | tick nanoseconds => exact ⟨h.now, h.taken⟩
  | readClock transactionCount => exact ⟨h.now, h.taken⟩
  | publish index =>
    rw [Counting.next]
    split
    · exact h
    · exact ⟨h.now.accept _, h.taken⟩
  | snapshot =>
    refine ⟨h.now, fun x hx => ?_⟩
    rcases List.mem_append.mp hx with hx | hx
    · exact h.taken x hx
    · rw [List.mem_singleton.mp hx]
      exact h.now

/-- **The totals are right**, in every order of the steps. -/
theorem counts_of_reachable {s : Counting} (h : machine.Reachable {} s) : s.Counted :=
  h.invariant (fun _ a hs _ => hs.next a) ⟨⟨rfl, rfl⟩, fun _ hx => absurd hx List.not_mem_nil⟩

/-! ### The last acceptance -/

/-- A timestamp that is there is not after another. -/
def NotAfter (earlier later : Option ℕ) : Prop := ∀ t ∈ earlier, ∃ t' ∈ later, t ≤ t'

theorem NotAfter.refl (t : Option ℕ) : NotAfter t t := fun t ht => ⟨t, ht, le_rfl⟩

theorem NotAfter.trans {a b c : Option ℕ} (hab : NotAfter a b) (hbc : NotAfter b c) :
    NotAfter a c := by
  intro t ht
  obtain ⟨t', ht', hle⟩ := hab t ht
  obtain ⟨t'', ht'', hle'⟩ := hbc t' ht'
  exact ⟨t'', ht'', hle.trans hle'⟩

/-- The last acceptance is the latest of these accepts. -/
def ServerState.Latest (state : ServerState) (accepted : List Accept) : Prop :=
  state.lastAcceptedAt = (accepted.map Accept.acceptedAt).max?

/-- **Snapshots that are right**: those there were, and one now. Each has the totals and the latest
of the accepts that have taken effect, and no later one is behind. -/
structure Counting.Right (s : Counting) : Prop where
  counted : s.Counted
  latest : s.server.snapshot.Latest s.accepted
  taken : ∀ x ∈ s.snapshots, x.1.Latest x.2
  forward : s.snapshots.Pairwise fun x y => NotAfter x.1.lastAcceptedAt y.1.lastAcceptedAt

/-- **An accept in order**: what it publishes is no earlier than what has been published last. -/
def InOrder (s : Counting) : Action → Prop
  | .publish index =>
    ∀ a ∈ s.waiting[index]?, ∀ t ∈ s.server.lastAcceptedAt, t ≤ a.acceptedAt
  | _ => True

/-- One more accept is the latest if and only if it is not before the latest of the others. -/
theorem latest_accept_iff {state : ServerState} {accepted : List Accept} (h : state.Latest accepted)
    (a : Accept) :
    (state.accept a.acceptedAt a.transactionCount).Latest (accepted ++ [a]) ↔
      ∀ t ∈ state.lastAcceptedAt, t ≤ a.acceptedAt := by
  rw [ServerState.Latest, ServerState.accept, eq_comm, List.max?_eq_some_iff, h]
  constructor
  · rintro ⟨-, hle⟩ t ht
    refine hle t ?_
    rw [List.map_append]
    exact List.mem_append_left _ (List.max?_mem ht)
  · intro hle
    refine ⟨by simp, fun t ht => ?_⟩
    rw [List.map_append, List.mem_append, List.map_singleton, List.mem_singleton] at ht
    rcases ht with ht | rfl
    · obtain ⟨latest, hlatest⟩ : ∃ latest, (accepted.map Accept.acceptedAt).max? = some latest :=
        Option.isSome_iff_exists.mp (List.isSome_max?_of_mem ht)
      exact ((List.max?_eq_some_iff.mp hlatest).2 t ht).trans (hle latest hlatest)
    · exact le_rfl

/-- Snapshots that are right, none of which is ahead of what a snapshot would return now. -/
structure Counting.Ordered (s : Counting) : Prop where
  right : s.Right
  ahead : ∀ x ∈ s.snapshots, NotAfter x.1.lastAcceptedAt s.server.lastAcceptedAt

theorem Counting.Ordered.next {s : Counting} (h : s.Ordered) {a : Action} (ha : InOrder s a) :
    (s.next a).Ordered := by
  obtain ⟨⟨hcounted, hlatest, htaken, hforward⟩, hahead⟩ := h
  have hcounted' := hcounted.next a
  cases a with
  | tick nanoseconds => exact ⟨⟨hcounted', hlatest, htaken, hforward⟩, hahead⟩
  | readClock transactionCount => exact ⟨⟨hcounted', hlatest, htaken, hforward⟩, hahead⟩
  | publish index =>
    rw [Counting.next] at hcounted' ⊢
    cases hwaiting : s.waiting[index]? with
    | none => exact ⟨⟨hcounted, hlatest, htaken, hforward⟩, hahead⟩
    | some accept =>
      rw [hwaiting] at hcounted'
      have horder := ha accept hwaiting
      refine ⟨⟨hcounted', (latest_accept_iff hlatest accept).mpr horder, htaken, hforward⟩, ?_⟩
      intro x hx
      exact (hahead x hx).trans fun t ht => ⟨accept.acceptedAt, rfl, horder t ht⟩
  | snapshot =>
    refine ⟨⟨hcounted', hlatest, fun x hx => ?_, ?_⟩, fun x hx => ?_⟩
    · rcases List.mem_append.mp hx with hx | hx
      · exact htaken x hx
      · rw [List.mem_singleton.mp hx]
        exact hlatest
    · refine List.pairwise_append.mpr ⟨hforward, List.pairwise_singleton _ _, fun x hx y hy => ?_⟩
      rw [List.mem_singleton.mp hy]
      exact hahead x hx
    · rcases List.mem_append.mp hx with hx | hx
      · exact hahead x hx
      · rw [List.mem_singleton.mp hx]
        exact .refl _

/-- **Exactly the runs in order** have snapshots that are right throughout. -/
theorem along_inOrder_iff {as : List Action} (hrun : machine.Run {} as) :
    machine.Always Right {} as ↔ machine.Along InOrder {} as := by
  have hstart : Ordered {} :=
    ⟨⟨⟨⟨rfl, rfl⟩, fun _ hx => absurd hx List.not_mem_nil⟩, rfl,
      fun _ hx => absurd hx List.not_mem_nil, .nil⟩, fun _ hx => absurd hx List.not_mem_nil⟩
  constructor
  · refine Machine.along_of_always (J := fun _ => True) (fun _ _ _ _ => trivial) ?_ trivial hrun
    intro s a _ hright ha horder hnext
    refine horder ?_
    cases a with
    | publish index =>
      intro accept haccept
      have hlatest := hnext.latest
      have hstep : machine.next s (.publish index) = Counting.next s (.publish index) := rfl
      rw [hstep, Counting.next, Option.mem_def.mp haccept] at hlatest
      exact (latest_accept_iff hright.latest accept).mp hlatest
    | _ => trivial
  · intro h
    have hordered := Machine.always_of_along (fun _ _ hs _ ha => hs.next ha) hstart hrun h
    exact hordered.mono fun _ hs => hs.right

/-- Two accepts that get the lock in the order in which they read the clock. -/
theorem always_right_of_two_accepts :
    machine.Always Right {} [.readClock 1, .tick 1, .readClock 1, .publish 0, .snapshot, .publish 0,
      .snapshot] := by
  refine (along_inOrder_iff (by decide)).mpr ?_
  simp [Machine.Along, InOrder, machine, next, ServerState.accept]

/-- Two accepts, of which the first to read the clock is the last to get the lock: the second snapshot
is behind the first. -/
theorem not_right_of_overtaken_accept :
    machine.Run {} [.readClock 1, .tick 1, .readClock 1, .publish 1, .snapshot, .publish 0,
        .snapshot] ∧
      (machine.after {} [.readClock 1, .tick 1, .readClock 1, .publish 1, .snapshot, .publish 0,
        .snapshot]).snapshots.map (fun x => x.1.lastAcceptedAt) = [some 1, some 0] ∧
      ¬(machine.after {} [.readClock 1, .tick 1, .readClock 1, .publish 1, .snapshot, .publish 0,
        .snapshot]).Right := by
  refine ⟨by decide, rfl, fun h => ?_⟩
  have := h.forward
  simp [machine, Machine.after, next, ServerState.accept, ServerState.snapshot, NotAfter] at this

end IngestionLab.Receiver
