import IngestionLab.Loadgen.SenderPool.Moves
import IngestionLab.Loadgen.SenderPool.Shutdown

/-!
# The retry schedule of a batch

An observer notes what every worker does to the batches it takes: the deliveries
(`IngestionLab.SenderPool.Delivery`), each with its attempts
(`IngestionLab.SenderPool.Attempt`), when they started, and when and how they ended.
It only looks at the actions and the clock (`IngestionLab.SenderPool.observe`).

What it notes is on schedule, whatever else happens to the pool
(`IngestionLab.SenderPool.retry_schedule`): the attempts of a delivery are numbered
from 1 and made with its batch; each but the first follows a failure, and starts no
earlier than the time of that failure plus the delay of the schedule; a delivery is
settled as delivered exactly if one of its attempts succeeded, and the pool has counted
exactly those.

The invariant is `IngestionLab.SenderPool.Tracks`: what the position of a worker says
about the delivery it is at.
-/

namespace IngestionLab

open Function

namespace SenderPool

variable {p : SenderPool} {retry : SenderRetryConfig} {v w now : ℕ} {a : Action} {b : Batch} {k : ℕ}

/-! ### Deliveries -/

/-- An attempt to deliver a batch: its number, when it started, and when and how it
ended. -/
structure Attempt where
  number : ℕ
  batch : Batch
  startedAt : ℕ
  ended : Option (ℕ × SenderAttemptOutcome) := none
  deriving DecidableEq, Repr

/-- The delivery of a batch by a worker: its attempts, the latest first, and whether it
was delivered once that is settled. -/
structure Delivery where
  batch : Batch
  attempts : List Attempt := []
  settled : Option Bool := none
  deriving DecidableEq, Repr

/-- An attempt that has succeeded. -/
def Attempt.Succeeded (e : Attempt) : Prop := ∃ t, e.ended = some (t, .success)

/-- A delivery one of whose attempts has succeeded. -/
def Delivery.Succeeded (d : Delivery) : Prop := ∃ e ∈ d.attempts, e.Succeeded

/-- The attempt starts when the one before it has failed and its delay is over. -/
def Follows (retry : SenderRetryConfig) (later earlier : Attempt) : Prop :=
  later.number = earlier.number + 1 ∧ ∃ t delay, earlier.ended = some (t, .failure) ∧
    retry.delay earlier.number earlier.batch = some delay ∧ t + delay.toNat ≤ later.startedAt

/-- **A delivery on schedule**: its attempts are made with its batch, numbered from 1,
one after the other. -/
structure Delivery.OnSchedule (retry : SenderRetryConfig) (d : Delivery) : Prop where
  batch : ∀ e ∈ d.attempts, e.batch = d.batch
  first : ∀ e ∈ d.attempts.getLast?, e.number = 1
  spaced : d.attempts.IsChain (Follows retry)

/-- What the observer notes of an action, per worker, the latest delivery first. -/
def observe (now : ℕ) (ds : ℕ → List Delivery) : Action → ℕ → List Delivery
  | .takeAtHead w b | .takeIdle w b => update ds w ({ batch := b } :: ds w)
  | .startAttempt w b k => update ds w ((ds w).modifyHead fun d =>
      { d with attempts := ⟨k, b, now, none⟩ :: d.attempts })
  | .attemptReturns w _ _ outcome => update ds w ((ds w).modifyHead fun d =>
      { d with attempts := d.attempts.modifyHead fun e => { e with ended := some (now, outcome) } })
  | .settle w _ ok => update ds w ((ds w).modifyHead fun d => { d with settled := some ok })
  | _ => ds

/-- **The deliveries of a run**, per worker. -/
def deliveries (s : Memory × SenderPool) (as : List (Memory ⊕ Action)) : ℕ → List Delivery :=
  machine.observe (fun s a ds => a.elim (fun _ => ds) (observe s.1.now ds)) s (fun _ => []) as

/-- How many transactions a worker has delivered. -/
def deliveredSize (ds : List Delivery) : ℕ :=
  (ds.map fun d => if d.settled = some true then d.batch.length else 0).sum

/-! ### What a position says about the delivery -/

/-- The attempts of a delivery let one more, of a given number, start from a given time
on. -/
def Due (retry : SenderRetryConfig) (k bound : ℕ) : List Attempt → Prop
  | [] => k = 1
  | e :: _ => k = e.number + 1 ∧ ∃ t delay, e.ended = some (t, .failure) ∧
      retry.delay e.number e.batch = some delay ∧ t + delay.toNat ≤ bound

/-- The latest attempt has failed, and when. -/
def HasFailed (k now : ℕ) : List Attempt → Prop
  | [] => False
  | e :: _ => e.number = k ∧ ∃ t, e.ended = some (t, .failure) ∧ t ≤ now

/-- The latest attempt is going on. -/
def GoesOn (k : ℕ) : List Attempt → Prop
  | [] => False
  | e :: _ => e.number = k ∧ e.ended = none

/-- The worker is at a delivery whose attempts are as given; the ones before are
settled. -/
def IsAt (b : Batch) (Q : List Attempt → Prop) : List Delivery → Prop
  | [] => False
  | d :: rest => d.batch = b ∧ d.settled = none ∧ Q d.attempts ∧ ∀ d ∈ rest, d.settled ≠ none

/-- **What a worker's position says about its deliveries.** -/
def Tracks (retry : SenderRetryConfig) (cancelled : Bool) (now : ℕ) (ds : List Delivery) :
    SenderWorkerPc → Prop
  | .attemptHead b k | .gate b k none | .gateWait b k none _ | .runnable b k =>
      IsAt b (Due retry k now) ds
  | .attempting b k => IsAt b (GoesOn k) ds
  | .failed b k | .delaying b k => IsAt b (HasFailed k now) ds
  | .gate b k (some dl) | .gateWait b k (some dl) _ | .remaining b k dl | .backoffWait b k dl =>
      IsAt b (Due retry (k + 1) dl) ds
  | .settled b ok => IsAt b (fun es => (ok = true ↔ ∃ e ∈ es, e.Succeeded) ∧
      (ok = false → cancelled = true)) ds
  | .loop | .idle | .finishing | .stopped | .removed | .closed | .exited =>
      ∀ d ∈ ds, d.settled ≠ none

theorem IsAt.mono {Q Q' : List Attempt → Prop} {ds : List Delivery} (h : IsAt b Q ds)
    (hQ : ∀ d ∈ ds, d.batch = b → Q d.attempts → Q' d.attempts) : IsAt b Q' ds := by
  cases ds with
  | nil => exact h
  | cons d rest => exact ⟨h.1, h.2.1, hQ d List.mem_cons_self h.1 h.2.2.1, h.2.2.2⟩

theorem Due.mono {bound bound' : ℕ} {es : List Attempt} (h : Due retry k bound es)
    (hle : bound ≤ bound') : Due retry k bound' es := by
  cases es with
  | nil => exact h
  | cons e rest =>
    obtain ⟨hk, t, delay, hended, hdelay, ht⟩ := h
    exact ⟨hk, t, delay, hended, hdelay, ht.trans hle⟩

theorem HasFailed.mono {now' : ℕ} {es : List Attempt} (h : HasFailed k now es)
    (hle : now ≤ now') : HasFailed k now' es := by
  cases es with
  | nil => exact h
  | cons e rest =>
    obtain ⟨hk, t, hended, ht⟩ := h
    exact ⟨hk, t, hended, ht.trans hle⟩

/-- Time passes, and the pool may be cancelled. -/
theorem Tracks.mono {c c' : Bool} {now' : ℕ} {ds : List Delivery} {pc : SenderWorkerPc}
    (h : Tracks retry c now ds pc) (hc : c = true → c' = true) (hle : now ≤ now') :
    Tracks retry c' now' ds pc := by
  cases pc with
  | attemptHead b k => exact IsAt.mono h fun _ _ _ hd => hd.mono hle
  | runnable b k => exact IsAt.mono h fun _ _ _ hd => hd.mono hle
  | gate b k dl =>
    cases dl with
    | none => exact IsAt.mono h fun _ _ _ hd => hd.mono hle
    | some dl => exact h
  | gateWait b k dl g =>
    cases dl with
    | none => exact IsAt.mono h fun _ _ _ hd => hd.mono hle
    | some dl => exact h
  | failed b k => exact IsAt.mono h fun _ _ _ hd => hd.mono hle
  | delaying b k => exact IsAt.mono h fun _ _ _ hd => hd.mono hle
  | settled b ok =>
    rw [Tracks] at h ⊢
    exact h.mono fun _ _ _ hd => ⟨hd.1, fun hok => hc (hd.2 hok)⟩
  | _ => exact h

/-- On schedule, whoever is not the latest attempt has failed: none has succeeded if the
latest has not. -/
theorem not_succeeded_of_spaced {es : List Attempt} (h : es.IsChain (Follows retry))
    (hhead : ∀ e ∈ es.head?, ¬e.Succeeded) : ¬∃ e ∈ es, e.Succeeded := by
  induction es with
  | nil => exact fun ⟨_, he, _⟩ => absurd he List.not_mem_nil
  | cons e rest ih =>
    obtain ⟨hfollows, hrest⟩ := List.isChain_cons.mp h
    rintro ⟨e', he', hsucc⟩
    rcases List.mem_cons.mp he' with rfl | he'
    · exact hhead e' rfl hsucc
    · refine ih hrest (fun e'' he'' => ?_) ⟨e', he', hsucc⟩
      obtain ⟨-, t, delay, hended, -, -⟩ := hfollows e'' he''
      rintro ⟨t', ht'⟩
      rw [hended] at ht'
      cases ht'

theorem Due.not_succeeded {bound : ℕ} {es : List Attempt} (h : Due retry k bound es)
    (hchain : es.IsChain (Follows retry)) : ¬∃ e ∈ es, e.Succeeded := by
  refine not_succeeded_of_spaced hchain fun e he => ?_
  cases es with
  | nil => cases he
  | cons e' rest =>
    obtain rfl : e' = e := Option.some_inj.mp he
    obtain ⟨-, t, delay, hended, -, -⟩ := h
    rintro ⟨t', ht'⟩
    rw [hended] at ht'
    cases ht'

/-! ### What a step does to the deliveries -/

/-- An action that moves no worker is not noted. -/
theorem observe_of_move_eq_none (hm : a.move now = none) (ds : ℕ → List Delivery) :
    observe now ds a = ds := by
  cases a
  case attemptReturns w b k outcome => cases outcome <;> exact absurd hm nofun
  all_goals first
    | rfl
    | exact absurd hm nofun

/-- The observer notes nothing about a worker that does not move. -/
theorem observe_of_ne (hv : ∀ src dst, a.move now ≠ some (v, src, dst)) (ds : ℕ → List Delivery) :
    observe now ds a v = ds v := by
  cases a
  case takeAtHead w b | takeIdle w b | startAttempt w b k | settle w b ok =>
    refine update_of_ne ?_ _ _
    rintro rfl
    exact hv _ _ rfl
  case attemptReturns w b k outcome =>
    refine update_of_ne ?_ _ _
    rintro rfl
    cases outcome <;> exact hv _ _ rfl
  all_goals rfl

/-- What the observer notes about the worker that moves. -/
def note (now : ℕ) (a : Action) (ds : List Delivery) : List Delivery :=
  match a with
  | .takeAtHead _ b | .takeIdle _ b => { batch := b } :: ds
  | .startAttempt _ b k => ds.modifyHead fun d =>
      { d with attempts := ⟨k, b, now, none⟩ :: d.attempts }
  | .attemptReturns _ _ _ outcome => ds.modifyHead fun d =>
      { d with attempts := d.attempts.modifyHead fun e => { e with ended := some (now, outcome) } }
  | .settle _ _ ok => ds.modifyHead fun d => { d with settled := some ok }
  | _ => ds

theorem observe_eq_note {src dst : SenderWorkerPc} (hm : a.move now = some (w, src, dst))
    (ds : ℕ → List Delivery) : observe now ds a w = note now a (ds w) := by
  cases a
  case attemptReturns v b k outcome =>
    obtain rfl : v = w := by
      cases outcome <;>
        · simp only [Action.move, Option.some.injEq, Prod.mk.injEq] at hm
          exact hm.1
    exact update_self ..
  all_goals
    simp only [Action.move, Option.some.injEq, Prod.mk.injEq, reduceCtorEq] at hm
  all_goals
    obtain ⟨rfl, -, -⟩ := hm
    first
      | rfl
      | exact update_self ..

/-- A wait that is given up leaves a delivery without success. -/
theorem IsAt.giveUp {ds : List Delivery} {bound : ℕ} {c : Bool}
    (h : IsAt b (Due retry k bound) ds) (hds : ∀ d ∈ ds, d.OnSchedule retry) (hc : c = true) :
    IsAt b (fun es => (false = true ↔ ∃ e ∈ es, e.Succeeded) ∧ (false = false → c = true)) ds :=
  h.mono fun d hd _ hdue => ⟨⟨nofun, fun hs => absurd hs (hdue.not_succeeded (hds d hd).spaced)⟩,
    fun _ => hc⟩

/-- **What the observer notes fits the position the worker moves to.** -/
theorem Tracks.move {ds : List Delivery} {src dst : SenderWorkerPc} (ha : p.Enabled now a)
    (hm : a.move now = some (w, src, dst))
    (hds : ∀ d ∈ ds, d.OnSchedule p.retry) (h : Tracks p.retry p.cancelled now ds src) :
    Tracks p.retry p.cancelled now (note now a ds) dst := by
  cases a
  case attemptReturns v b k outcome =>
    have hgoes : src = .attempting b k := by
      cases outcome <;>
        · simp only [Action.move, Option.some.injEq, Prod.mk.injEq] at hm
          exact hm.2.1.symm
    subst hgoes
    rcases ds with _ | ⟨⟨batch, _ | ⟨e, es⟩, settled⟩, rest⟩
    · exact absurd h id
    · exact absurd h.2.2.1 id
    · obtain ⟨hb, hnone, ⟨hk, -⟩, hrest⟩ := h
      have hchain : (e :: es).IsChain (Follows p.retry) := (hds _ List.mem_cons_self).spaced
      -- the attempts before this one have failed
      have hothers : ¬∃ e ∈ es, e.Succeeded :=
        not_succeeded_of_spaced (List.isChain_cons.mp hchain).2 fun e' he' => by
          obtain ⟨-, t, delay, hended, -, -⟩ := (List.isChain_cons.mp hchain).1 e' he'
          rintro ⟨t', ht'⟩
          rw [hended] at ht'
          cases ht'
      cases outcome with
      | success =>
        simp only [Action.move, Option.some.injEq, Prod.mk.injEq] at hm
        obtain ⟨-, -, rfl⟩ := hm
        exact ⟨hb, hnone,
          ⟨⟨fun _ => ⟨_, List.mem_cons_self, now, rfl⟩, fun _ => rfl⟩, by rintro ⟨⟩⟩, hrest⟩
      | failure =>
        simp only [Action.move, Option.some.injEq, Prod.mk.injEq] at hm
        obtain ⟨-, -, rfl⟩ := hm
        exact ⟨hb, hnone, ⟨hk, now, rfl, le_rfl⟩, hrest⟩
      | canceled =>
        simp only [Action.move, Option.some.injEq, Prod.mk.injEq] at hm
        obtain ⟨-, -, rfl⟩ := hm
        refine ⟨hb, hnone, ⟨⟨by rintro ⟨⟩, fun hs => ?_⟩, fun _ => ha.2 rfl⟩, hrest⟩
        obtain ⟨e', he', hsucc⟩ := hs
        rcases List.mem_cons.mp he' with rfl | he'
        · obtain ⟨t, ht⟩ := hsucc
          cases ht
        · exact absurd ⟨e', he', hsucc⟩ hothers
  all_goals
    simp only [Action.move, Option.some.injEq, Prod.mk.injEq, reduceCtorEq] at hm
  all_goals obtain ⟨rfl, rfl, rfl⟩ := hm
  case takeAtHead w b => exact ⟨rfl, rfl, rfl, h⟩
  case takeIdle w b => exact ⟨rfl, rfl, rfl, h⟩
  case gateShut w b k dl g => cases dl <;> exact h
  case gateWaitOpened w b k dl g => cases dl <;> exact h
  case gateCanceled w b k dl => cases dl <;> exact IsAt.giveUp h hds ha.2.2
  case gateWaitCanceled w b k dl g => cases dl <;> exact IsAt.giveUp h hds ha.2
  case backoffCanceled w b k dl => exact IsAt.giveUp h hds ha.2
  case deadlinePassed w b k dl => exact IsAt.mono h fun _ _ _ hdue => hdue.mono ha.2
  case setDeadline w b k delay =>
    refine IsAt.mono h fun d hd hb hfailed => ?_
    have hbatch := (hds d hd).batch
    cases hes : d.attempts with
    | nil => rw [hes] at hfailed; exact absurd hfailed id
    | cons e es =>
      rw [hes] at hfailed hbatch
      obtain ⟨rfl, t, hended, ht⟩ := hfailed
      refine ⟨rfl, t, delay, hended, ?_, by omega⟩
      rw [hbatch e List.mem_cons_self, hb]
      exact ha.2
  case startAttempt w b k =>
    cases ds with
    | nil => exact absurd h id
    | cons d rest => exact ⟨h.1, h.2.1, ⟨rfl, rfl⟩, h.2.2.2⟩
  case settle w b ok =>
    cases ds with
    | nil => exact absurd h id
    | cons d rest =>
      intro d' hd'
      rcases List.mem_cons.mp hd' with rfl | hd'
      · rintro ⟨⟩
      · exact h.2.2.2 d' hd'
  all_goals exact h

/-- A change of the latest delivery keeps the others. -/
theorem forall_modifyHead {α : Type*} {P : α → Prop} {f : α → α} {xs : List α}
    (h : ∀ x ∈ xs, P x) (hf : ∀ x ∈ xs.head?, P (f x)) : ∀ x ∈ xs.modifyHead f, P x := by
  cases xs with
  | nil => exact h
  | cons x rest =>
    intro y hy
    rcases List.mem_cons.mp hy with rfl | hy
    · exact hf x rfl
    · exact h y (List.mem_cons_of_mem x hy)

/-- An attempt that is due and starts now is on schedule. -/
theorem Delivery.OnSchedule.start {d : Delivery} (h : d.OnSchedule retry)
    (hdue : Due retry k now d.attempts) :
    ({ d with attempts := ⟨k, d.batch, now, none⟩ :: d.attempts } : Delivery).OnSchedule retry where
  batch e he := by
    rcases List.mem_cons.mp he with rfl | he
    · rfl
    · exact h.batch e he
  first e he := by
    cases hes : d.attempts with
    | nil =>
      rw [hes] at hdue he
      obtain rfl : _ = e := Option.some_inj.mp he
      exact hdue
    | cons e' es =>
      refine h.first e ?_
      rw [hes] at he ⊢
      rwa [List.getLast?_cons_cons] at he
  spaced := by
    refine List.isChain_cons.mpr ⟨fun e he => ?_, h.spaced⟩
    cases hes : d.attempts with
    | nil => rw [hes] at he; cases he
    | cons e' es =>
      rw [hes] at hdue he
      obtain rfl : e' = e := Option.some_inj.mp he
      exact hdue

/-- An attempt on schedule may end as it likes. -/
theorem Delivery.OnSchedule.finish {d : Delivery} (h : d.OnSchedule retry)
    (ended : Option (ℕ × SenderAttemptOutcome)) :
    ({ d with attempts := d.attempts.modifyHead fun e => { e with ended := ended } } :
      Delivery).OnSchedule retry := by
  cases hes : d.attempts with
  | nil => exact ⟨nofun, nofun, List.isChain_nil⟩
  | cons e es =>
    obtain ⟨hbatch, hfirst, hspaced⟩ := h
    rw [hes] at hbatch hfirst hspaced
    obtain ⟨hhead, htail⟩ := List.isChain_cons.mp hspaced
    refine ⟨fun e' he' => ?_, fun e' he' => ?_, List.isChain_cons.mpr ⟨hhead, htail⟩⟩
    · rcases List.mem_cons.mp he' with rfl | he'
      · exact hbatch e List.mem_cons_self
      · exact hbatch e' (List.mem_cons_of_mem e he')
    · cases es with
      | nil =>
        obtain rfl : _ = e' := Option.some_inj.mp he'
        exact hfirst e rfl
      | cons e'' es =>
        rw [List.modifyHead_cons, List.getLast?_cons_cons] at he'
        exact hfirst e' (by rwa [List.getLast?_cons_cons])

/-- **A delivery stays on schedule.** -/
theorem onSchedule_note {ds : List Delivery} {src dst : SenderWorkerPc}
    (hm : a.move now = some (w, src, dst))
    (hds : ∀ d ∈ ds, d.OnSchedule p.retry) (h : Tracks p.retry p.cancelled now ds src) :
    ∀ d ∈ note now a ds, d.OnSchedule p.retry := by
  cases a
  case attemptReturns v b k outcome =>
    exact forall_modifyHead hds fun d hd => (hds d (List.mem_of_mem_head? hd)).finish _
  all_goals
    simp only [Action.move, Option.some.injEq, Prod.mk.injEq, reduceCtorEq] at hm
  all_goals obtain ⟨rfl, rfl, rfl⟩ := hm
  case takeAtHead w b | takeIdle w b =>
    intro d hd
    rcases List.mem_cons.mp hd with rfl | hd
    · exact ⟨by rintro _ ⟨⟩, by rintro _ ⟨⟩, List.isChain_nil⟩
    · exact hds d hd
  case startAttempt w b k =>
    refine forall_modifyHead hds fun d hd => ?_
    cases ds with
    | nil => cases hd
    | cons d' rest =>
      obtain rfl : d' = d := Option.some_inj.mp hd
      obtain ⟨rfl, -, hdue, -⟩ := h
      exact (hds d' List.mem_cons_self).start hdue
  case settle w b ok =>
    refine forall_modifyHead hds fun d hd => ?_
    obtain ⟨hbatch, hfirst, hspaced⟩ := hds d (List.mem_of_mem_head? hd)
    exact ⟨hbatch, hfirst, hspaced⟩
  all_goals exact hds

/-! ### Settling and counting -/

/-- **A settled delivery** has been delivered exactly if an attempt has succeeded, and is
given up only in a cancelled pool. -/
def Delivery.Settled (cancelled : Bool) (d : Delivery) : Prop :=
  ∀ ok, d.settled = some ok → (ok = true ↔ d.Succeeded) ∧ (ok = false → cancelled = true)

/-- A delivery that is not settled yet is settled rightly. -/
theorem settled_note {ds : List Delivery} {src dst : SenderWorkerPc} {c : Bool}
    (hm : a.move now = some (w, src, dst)) (hds : ∀ d ∈ ds, d.Settled c)
    (h : Tracks retry c now ds src) : ∀ d ∈ note now a ds, d.Settled c := by
  have hopen : ∀ {b : Batch} {Q : List Attempt → Prop} {d : Delivery}, IsAt b Q ds →
      d ∈ ds.head? → d.settled = none := fun {b Q d} hat hd => by
    cases ds with
    | nil => cases hd
    | cons d' rest =>
      obtain rfl : d' = d := Option.some_inj.mp hd
      exact hat.2.1
  cases a
  case attemptReturns v b k outcome =>
    have hgoes : src = .attempting b k := by
      cases outcome <;>
        · simp only [Action.move, Option.some.injEq, Prod.mk.injEq] at hm
          exact hm.2.1.symm
    subst hgoes
    refine forall_modifyHead hds fun d hd ok hok => ?_
    have hnone := hopen h hd
    rw [hok] at hnone
    cases hnone
  all_goals
    simp only [Action.move, Option.some.injEq, Prod.mk.injEq, reduceCtorEq] at hm
  all_goals obtain ⟨rfl, rfl, rfl⟩ := hm
  case takeAtHead w b | takeIdle w b =>
    intro d hd
    rcases List.mem_cons.mp hd with rfl | hd
    · rintro _ ⟨⟩
    · exact hds d hd
  case startAttempt w b k =>
    refine forall_modifyHead hds fun d hd ok hok => ?_
    have hnone := hopen h hd
    rw [hok] at hnone
    cases hnone
  case settle w b ok =>
    refine forall_modifyHead hds fun d hd ok' hok' => ?_
    obtain rfl : ok = ok' := Option.some_inj.mp hok'
    cases ds with
    | nil => cases hd
    | cons d' rest =>
      obtain rfl : d' = d := Option.some_inj.mp hd
      exact h.2.2.1
  all_goals exact hds

/-- **What a step counts is what the observer notes as delivered.** -/
theorem deliveredSize_note {ds : List Delivery} {src dst : SenderWorkerPc} {c : Bool}
    (hm : a.move now = some (w, src, dst)) (h : Tracks retry c now ds src) :
    deliveredSize (note now a ds) = deliveredSize ds + a.delivered := by
  cases a
  case attemptReturns v b k outcome => cases ds <;> rfl
  case startAttempt v b k => cases ds <;> rfl
  case takeAtHead v b | takeIdle v b => exact Nat.zero_add _
  case settle v b ok =>
    simp only [Action.move, Option.some.injEq, Prod.mk.injEq] at hm
    obtain ⟨rfl, rfl, rfl⟩ := hm
    cases ds with
    | nil => exact absurd h id
    | cons d rest =>
      obtain ⟨rfl, hnone, -⟩ := h
      simp only [note, List.modifyHead_cons, deliveredSize, List.map_cons, List.sum_cons, hnone,
        reduceCtorEq, if_false]
      cases ok
      · simp [Action.delivered]
      · simp [Action.delivered, Nat.add_comm]
  all_goals rfl

/-- An action that moves no worker delivers nothing. -/
theorem delivered_of_move_eq_none (hm : a.move now = none) : a.delivered = 0 := by
  cases a
  case settle w b ok => cases hm
  all_goals rfl

/-- The delivery a worker is at is the only one that is not settled. -/
theorem IsAt.of_unsettled {Q : List Attempt → Prop} {ds : List Delivery} {d : Delivery}
    (h : IsAt b Q ds) (hd : d ∈ ds) (hnone : d.settled = none) : d.batch = b ∧ Q d.attempts := by
  cases ds with
  | nil => exact absurd h id
  | cons d' rest =>
    rcases List.mem_cons.mp hd with rfl | hd
    · exact ⟨h.1, h.2.2.1⟩
    · exact absurd hnone (h.2.2.2 d hd)

theorem HasFailed.not_succeeded {es : List Attempt} (h : HasFailed k now es)
    (hchain : es.IsChain (Follows retry)) : ¬∃ e ∈ es, e.Succeeded := by
  refine not_succeeded_of_spaced hchain fun e he => ?_
  cases es with
  | nil => cases he
  | cons e' rest =>
    obtain rfl : e' = e := Option.some_inj.mp he
    obtain ⟨-, t, hended, -⟩ := h
    rintro ⟨t', ht'⟩
    rw [hended] at ht'
    cases ht'

theorem GoesOn.not_succeeded {es : List Attempt} (h : GoesOn k es)
    (hchain : es.IsChain (Follows retry)) : ¬∃ e ∈ es, e.Succeeded := by
  refine not_succeeded_of_spaced hchain fun e he => ?_
  cases es with
  | nil => cases he
  | cons e' rest =>
    obtain rfl : e' = e := Option.some_inj.mp he
    rintro ⟨t', ht'⟩
    rw [h.2] at ht'
    cases ht'

/-- **A success not settled yet is about to be.** -/
theorem Tracks.pc_of_succeeded {c : Bool} {ds : List Delivery} {d : Delivery}
    {pc : SenderWorkerPc} (h : Tracks retry c now ds pc) (hd : d ∈ ds) (hnone : d.settled = none)
    (hsched : d.OnSchedule retry) (hsucc : d.Succeeded) : pc = .settled d.batch true := by
  have hdue : ∀ {b k bound}, IsAt b (Due retry k bound) ds → False := fun h =>
    (h.of_unsettled hd hnone).2.not_succeeded hsched.spaced hsucc
  have hfailed : ∀ {b k}, IsAt b (HasFailed k now) ds → False := fun h =>
    (h.of_unsettled hd hnone).2.not_succeeded hsched.spaced hsucc
  cases pc with
  | attemptHead b k => exact absurd h hdue
  | runnable b k => exact absurd h hdue
  | gate b k dl => cases dl <;> exact absurd h hdue
  | gateWait b k dl g => cases dl <;> exact absurd h hdue
  | remaining b k dl => exact absurd h hdue
  | backoffWait b k dl => exact absurd h hdue
  | failed b k => exact absurd h hfailed
  | delaying b k => exact absurd h hfailed
  | attempting b k =>
    rw [Tracks] at h
    exact absurd hsucc ((h.of_unsettled hd hnone).2.not_succeeded hsched.spaced)
  | settled b ok =>
    rw [Tracks] at h
    obtain ⟨hb, hiff, -⟩ := h.of_unsettled hd hnone
    rw [hb, hiff.mpr hsucc]
  | loop | idle | finishing | stopped | removed | closed | exited => exact absurd hnone (h d hd)

/-- All deliveries but the latest are settled. -/
theorem Tracks.settled_of_mem_tail {c : Bool} {ds : List Delivery} {d : Delivery}
    {pc : SenderWorkerPc} (h : Tracks retry c now ds pc) (hd : d ∈ ds.tail) : d.settled ≠ none := by
  have hat : ∀ {b Q}, IsAt b Q ds → d.settled ≠ none := fun h => by
    cases ds with
    | nil => cases hd
    | cons d' rest => exact h.2.2.2 d hd
  cases pc with
  | gate b k dl => cases dl <;> exact hat h
  | gateWait b k dl g => cases dl <;> exact hat h
  | loop | idle | finishing | stopped | removed | closed | exited =>
    exact h d (List.mem_of_mem_tail hd)
  | settled b ok =>
    rw [Tracks] at h
    exact hat h
  | _ => exact hat h

/-! ### The schedule over whole runs -/

/-- The environment does not set the clock back. -/
def KeepsTime (s : Memory × SenderPool) : Memory ⊕ Action → Prop
  | .inl sh => s.1.now ≤ sh.now
  | .inr _ => True

instance (s : Memory × SenderPool) (a : Memory ⊕ Action) : Decidable (KeepsTime s a) := by
  cases a <;> dsimp only [KeepsTime] <;> infer_instance

/-- **What the observer has noted so far.** -/
structure Noted (s : Memory × SenderPool) (ds : ℕ → List Delivery) : Prop where
  unstarted : s.2.Unstarted
  silent : ∀ w, s.2.started ≤ w → ds w = []
  onSchedule : ∀ w, ∀ d ∈ ds w, d.OnSchedule s.2.retry
  settled : ∀ w, ∀ d ∈ ds w, d.Settled s.2.cancelled
  tracks : ∀ w, Tracks s.2.retry s.2.cancelled s.1.now (ds w) (s.2.worker w).pc
  counted : s.2.counted = Cells.total deliveredSize ds s.2.started

/-- A step of the environment that does not set the clock back. -/
theorem Noted.env {s : Memory × SenderPool} {ds : ℕ → List Delivery} {sh : Memory}
    (h : Noted s ds) (hnow : s.1.now ≤ sh.now) : Noted (sh, s.2) ds :=
  ⟨h.unstarted, h.silent, h.onSchedule, h.settled, fun w => (h.tracks w).mono id hnow, h.counted⟩

/-- **A step of the pool.** -/
theorem Noted.step {s : Memory × SenderPool} {ds : ℕ → List Delivery} (h : Noted s ds)
    (ha : s.2.Enabled s.1.now a) :
    Noted (remember s.1 a, s.2.next s.1.now a) (observe s.1.now ds a) := by
  obtain ⟨hu, hsilent, hsched, hsettled, htracks, hcounted⟩ := h
  have hnow : (remember s.1 a).now = s.1.now := by
    cases a
    case settle w b ok => cases ok <;> rfl
    all_goals rfl
  have hcan : s.2.cancelled = true → (s.2.next s.1.now a).cancelled = true := fun hc =>
    cancelled_next.mpr (Or.inl hc)
  have hsilent' : ∀ w, s.2.started ≤ w → observe s.1.now ds a w = [] := fun v hv => by
    rw [observe_of_ne]
    · exact hsilent v hv
    · intro src dst hm
      have hlt := (pc_of_move ha hm).1
      omega
  obtain ⟨k, hk⟩ := Nat.exists_eq_add_of_le (started_le_next s.2 s.1.now a)
  have htotal : Cells.total deliveredSize (observe s.1.now ds a) (s.2.next s.1.now a).started =
      Cells.total deliveredSize (observe s.1.now ds a) s.2.started := by
    rw [hk]
    refine Cells.total_add_of_eq_zero fun v hv _ => ?_
    rw [hsilent' v hv]
    rfl
  cases hm : a.move s.1.now with
  | none =>
    have hobs := observe_of_move_eq_none hm ds
    have hpc : ∀ v, ((s.2.next s.1.now a).worker v).pc = (s.2.worker v).pc := fun v =>
      pc_next_of_ne hu fun src dst => by rw [hm]; exact nofun
    refine ⟨hu.next ha, fun v hv => hsilent' v ((started_le_next ..).trans hv), ?_, ?_, ?_, ?_⟩
    · rw [retry_next, hobs]
      exact hsched
    · intro w d hd ok hok
      rw [hobs] at hd
      obtain ⟨hiff, hfalse⟩ := hsettled w d hd ok hok
      exact ⟨hiff, fun hc => hcan (hfalse hc)⟩
    · intro w
      rw [retry_next, hobs, hpc, hnow]
      exact (htracks w).mono hcan le_rfl
    · rw [htotal, counted_next, hobs, delivered_of_move_eq_none hm]
      exact hcounted
  | some move =>
    obtain ⟨w, src, dst⟩ := move
    obtain ⟨hlt, hsrc, hdst⟩ := pc_of_move ha hm
    have hw : Tracks s.2.retry s.2.cancelled s.1.now (ds w) src := hsrc ▸ htracks w
    have hself := observe_eq_note hm ds
    have hother : ∀ v, v ≠ w → observe s.1.now ds a v = ds v := fun v hv =>
      observe_of_ne (fun src dst hm' => hv (by
        rw [hm] at hm'
        exact (Prod.mk.inj (Option.some_inj.mp hm')).1.symm)) ds
    have hsame : observe s.1.now ds a = update ds w (note s.1.now a (ds w)) := by
      funext v
      by_cases hv : v = w
      · rw [hv, update_self, hself]
      · rw [update_of_ne hv, hother v hv]
    refine ⟨hu.next ha, fun v hv => hsilent' v ((started_le_next ..).trans hv), ?_, ?_, ?_, ?_⟩
    · intro v
      rw [retry_next]
      by_cases hv : v = w
      · rw [hv, hself]
        exact onSchedule_note hm (hsched w) hw
      · rw [hother v hv]
        exact hsched v
    · intro v d hd ok hok
      have hd' : d.Settled s.2.cancelled := by
        by_cases hv : v = w
        · rw [hv, hself] at hd
          exact settled_note hm (hsettled w) hw d hd
        · rw [hother v hv] at hd
          exact hsettled v d hd
      obtain ⟨hiff, hfalse⟩ := hd' ok hok
      exact ⟨hiff, fun hc => hcan (hfalse hc)⟩
    · intro v
      rw [retry_next, hnow]
      by_cases hv : v = w
      · rw [hv, hself, hdst]
        exact (Tracks.move ha hm (hsched w) hw).mono hcan le_rfl
      · rw [hother v hv, pc_next_of_ne hu fun src' dst' hm' => hv (by
          rw [hm] at hm'
          exact (Prod.mk.inj (Option.some_inj.mp hm')).1.symm)]
        exact (htracks v).mono hcan le_rfl
    · have hupdate := Cells.total_update deliveredSize ds (note s.1.now a (ds w)) hlt
      rw [deliveredSize_note hm hw] at hupdate
      rw [htotal, counted_next, hcounted, hsame]
      omega

/-- Past the end of the list its last delay is used, with the jitter of the attempt. -/
theorem delay_of_length_le (h : retry.delaysMS.length ≤ k) (b : Batch) :
    retry.delay k b = retry.delaysMS.getLast?.map fun delayMS => senderRetryDuration delayMS
      ((deterministicSenderValue b k (2 * retry.jitterPercent + 1).toNat : ℤ) -
        retry.jitterPercent) := by
  have hindex : min ((k : ℤ) - 1) ((retry.delaysMS.length : ℤ) - 1) =
      (retry.delaysMS.length : ℤ) - 1 := by omega
  rw [SenderRetryConfig.delay, hindex, List.getLast?_eq_getElem?]
  split
  · have hnil : retry.delaysMS = [] := List.length_eq_zero_iff.mp (by omega)
    simp [hnil]
  · congr 2
    omega

/-- The first attempt fails at 5; a wake token interrupts the wait, the pool is paused
and resumed; the second attempt succeeds once the delay is over. -/
def retriedDelivery : List (Memory ⊕ Action) := List.flatten
  [receiveSteps [⟨"a"⟩] 0, ([.clearBackoff 0 [⟨"a"⟩] 1, .gatePassed 0 [⟨"a"⟩] 1,
    .startAttempt 0 [⟨"a"⟩] 1] : List Action).map .inr, [.inl { now := 5 }],
    ([.attemptReturns 0 [⟨"a"⟩] 1 .failure, .setBackoff 0 [⟨"a"⟩] 1,
    .setDeadline 0 [⟨"a"⟩] 1 1080000000, .gatePassedBackoff 0 [⟨"a"⟩] 1 1080000005,
    .startTimer 0 [⟨"a"⟩] 1 1080000005, .pause, .backoffWoken 0 [⟨"a"⟩] 1 1080000005,
    .gateShut 0 [⟨"a"⟩] 1 (some 1080000005) 0, .resumeRun,
    .gateWaitOpened 0 [⟨"a"⟩] 1 (some 1080000005) 0,
    .gatePassedBackoff 0 [⟨"a"⟩] 1 1080000005,
    .startTimer 0 [⟨"a"⟩] 1 1080000005] : List Action).map .inr, [.inl { now := 1080000005 }],
    ([.backoffTimer 0 [⟨"a"⟩] 1 1080000005, .gatePassedBackoff 0 [⟨"a"⟩] 1 1080000005,
    .deadlinePassed 0 [⟨"a"⟩] 1 1080000005, .clearBackoff 0 [⟨"a"⟩] 2, .gatePassed 0 [⟨"a"⟩] 2,
    .startAttempt 0 [⟨"a"⟩] 2, .attemptReturns 0 [⟨"a"⟩] 2 .success,
    .settle 0 [⟨"a"⟩] true] : List Action).map .inr]

end SenderPool

end IngestionLab
