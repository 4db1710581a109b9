import IngestionLab.Go.Chan
import IngestionLab.Machine.Run
import Mathlib.Data.List.Nodup
import Mathlib.Logic.Function.Basic

/-!
# Requests with a channel for the reply

Clients send requests to one server over a channel, and each makes a channel of one place
for the reply and waits at it. The server takes one request at a time and replies to it
once, if there is a reply to it at all. As the reply channel belongs to the one request and
holds its one reply, the server never waits for a client, however slow the client is
(`IngestionLab.Go.Mailbox.allows_reply`).

* `IngestionLab.Go.Mailbox.InOrder`: what holds in every state. **Requests are taken and
  answered in the order they were sent, each once**, and a client that waits is in one of
  three places: its request is in the channel, or is being served, or has its reply.
* `IngestionLab.Go.Mailbox.InOrder.next`: every action keeps this.
-/

namespace IngestionLab

namespace Go

open Function

/-- **Where a client stands.** -/
inductive Client (γ ρ : Type*)
  | ready
  | sending (c : γ)
  | waiting (c : γ)
  | finished (c : γ) (r : Option ρ)
  deriving DecidableEq, Repr

/-- **The channel of the requests and those of the replies**, the clients, the request the
server has taken last and how often it will still reply to it.

The last three fields only observe: the requests sent and taken, and the replies given. -/
structure Mailbox (γ ρ : Type*) where
  queue : Chan (ℕ × γ) := {}
  client : ℕ → Client γ ρ := fun _ => .ready
  slot : ℕ → Chan ρ := fun _ => {}
  serving : Option (ℕ × γ) := none
  left : ℕ := 0
  sent : List (ℕ × γ) := []
  taken : List (ℕ × γ) := []
  given : List ((ℕ × γ) × ρ) := []

namespace Mailbox

variable {γ ρ : Type*}

/-- **What may happen next**: a client comes with a request, sends it, or receives its
reply; the server takes a request or replies. -/
inductive Action (γ ρ : Type*)
  | call (k : ℕ) (c : γ)
  | send (k : ℕ) (c : γ)
  | take (x : ℕ × γ)
  | reply (r : ρ)
  | receive (k : ℕ) (c : γ) (r : ρ)

/-- Whether the reply can be sent: where there is a channel for it, it has room. -/
def AllowsReply (wants : γ → Bool) (m : Mailbox γ ρ) (r : ρ) : Prop :=
  ∀ x ∈ m.serving, wants x.2 = true → (m.slot x.1).Allows (.send r)

/-- The reply is sent. -/
def reply (wants : γ → Bool) (m : Mailbox γ ρ) (r : ρ) : Mailbox γ ρ :=
  match m.serving with
  | none => m
  | some x => { m with
      slot := if wants x.2 then update m.slot x.1 ((m.slot x.1).apply (.send r)) else m.slot
      left := m.left - 1
      given := m.given ++ [(x, r)] }

/-- **The machine**: `wants` says of which requests there is a channel for the reply. The
server replies once to these and not at all to the others. -/
def machine (wants : γ → Bool) : Machine (Mailbox γ ρ) (Action γ ρ) where
  Enabled m
    | .call k _ => m.client k = .ready
    | .send k c => m.client k = .sending c ∧ m.queue.Allows (.send (k, c))
    | .take x => m.left = 0 ∧ m.queue.Allows (.receive x)
    | .reply r => 0 < m.left ∧ m.AllowsReply wants r
    | .receive k c r => m.client k = .waiting c ∧ (m.slot k).Allows (.receive r)
  next m
    | .call k c => { m with
        client := update m.client k (.sending c)
        slot := update m.slot k (Chan.make 1) }
    | .send k c => { m with
        queue := m.queue.apply (.send (k, c))
        client := update m.client k (if wants c then .waiting c else .finished c none)
        sent := m.sent ++ [(k, c)] }
    | .take x => { m with
        queue := m.queue.apply (.receive x)
        serving := some x
        left := if wants x.2 then 1 else 0
        taken := m.taken ++ [x] }
    | .reply r => m.reply wants r
    | .receive k c r => { m with
        client := update m.client k (.finished c (some r))
        slot := update m.slot k ((m.slot k).apply (.receive r)) }

section Decidable

variable [DecidableEq γ] [DecidableEq ρ]

instance (wants : γ → Bool) (m : Mailbox γ ρ) (r : ρ) : Decidable (m.AllowsReply wants r) :=
  inferInstanceAs (Decidable (∀ x ∈ m.serving, _ → _))

instance (wants : γ → Bool) (m : Mailbox γ ρ) (a : Action γ ρ) :
    Decidable ((machine wants).Enabled m a) := by
  cases a <;> dsimp only [machine] <;> infer_instance

end Decidable

/-! ### The invariant -/

/-- **Where a request for a reply is**: in the channel, being served, answered with the
reply in its channel, or received. -/
inductive Place (m : Mailbox γ ρ) (k : ℕ) (c : γ) : Prop
  | queued (client : m.client k = .waiting c) (mem : (k, c) ∈ m.queue.buffer)
      (slot : (m.slot k).buffer = [])
  | served (client : m.client k = .waiting c) (serving : m.serving = some (k, c))
      (left : m.left = 1) (slot : (m.slot k).buffer = [])
  | answered (r : ρ) (client : m.client k = .waiting c) (slot : (m.slot k).buffer = [r])
      (mem : ((k, c), r) ∈ m.given)
  | received (r : ρ) (client : m.client k = .finished c (some r)) (slot : (m.slot k).buffer = [])
      (mem : ((k, c), r) ∈ m.given)

/-- What is known of a client from where it stands. -/
def Known (wants : γ → Bool) (m : Mailbox γ ρ) (k : ℕ) : Client γ ρ → Prop
  | .ready | .sending _ => k ∉ m.sent.map Prod.fst ∧ (m.slot k).buffer = []
  | .waiting c => (k, c) ∈ m.sent ∧ wants c = true
  | .finished c r => (k, c) ∈ m.sent ∧ r.isSome = wants c

/-- The request that is still to be answered. -/
def pending (m : Mailbox γ ρ) : List (ℕ × γ) := if m.left = 0 then [] else m.serving.toList

/-- **Everything is in order.** -/
structure InOrder (wants : γ → Bool) (m : Mailbox γ ρ) : Prop where
  /-- The channel of the requests is not closed. -/
  isOpen : m.queue.closes = 0
  /-- Each client has sent one request at most. -/
  once : (m.sent.map Prod.fst).Nodup
  /-- Requests are taken in the order they were sent. -/
  fifo : m.taken ++ m.queue.buffer = m.sent
  /-- They are answered in that order, each once. -/
  turn : m.given.map Prod.fst ++ m.pending = m.taken.filter fun x => wants x.2
  /-- The server replies once to the request it is serving, or is done with it. -/
  left : m.left = 0 ∨ m.left = 1 ∧ m.serving.isSome
  /-- A client that has come has a reply channel of its own. -/
  slot : ∀ k, m.client k ≠ .ready → (m.slot k).capacity = 1 ∧ (m.slot k).closes = 0
  known : ∀ k, m.Known wants k (m.client k)
  place : ∀ k c, (k, c) ∈ m.sent → wants c = true → m.Place k c

variable {wants : γ → Bool} {m : Mailbox γ ρ} {a : Action γ ρ} {k : ℕ} {c : γ} {x : ℕ × γ} {r : ρ}

/-- A client has one request. -/
theorem InOrder.eq_of_mem (h : m.InOrder wants) {c' : γ} (hc : (k, c) ∈ m.sent)
    (hc' : (k, c') ∈ m.sent) : c = c' :=
  congrArg Prod.snd (List.inj_on_of_nodup_map h.once hc hc' rfl)

/-- A request is sent once. -/
theorem InOrder.nodup (h : m.InOrder wants) : m.sent.Nodup := h.once.of_map

/-- **The request being served waits for its reply**, and its reply channel is empty. -/
theorem InOrder.served (h : m.InOrder wants) (hleft : m.left ≠ 0) (hx : m.serving = some x) :
    x ∈ m.taken ∧ wants x.2 = true ∧ m.client x.1 = .waiting x.2 ∧ (m.slot x.1).buffer = [] ∧
      m.left = 1 := by
  have hturn := h.turn
  rw [pending, if_neg hleft, hx, Option.toList_some] at hturn
  have hmem : x ∈ m.taken.filter fun x => wants x.2 := by
    rw [← hturn]
    exact List.mem_append_right _ (List.mem_singleton_self x)
  obtain ⟨htaken, hwants⟩ := List.mem_filter.mp hmem
  have hsent : x ∈ m.sent := by
    rw [← h.fifo]
    exact List.mem_append_left _ htaken
  have hnodup : (m.taken ++ m.queue.buffer).Nodup := h.fifo ▸ h.nodup
  -- it is not in the channel any more, and has not been answered yet
  have hnotGiven : ∀ r, (x, r) ∉ m.given := by
    intro r hr
    have htakenNodup := (List.nodup_append.mp hnodup).1.filter fun x => wants x.2
    rw [← hturn] at htakenNodup
    exact (List.nodup_append.mp htakenNodup).2.2 x (List.mem_map_of_mem hr) x
      (List.mem_singleton_self x) rfl
  refine ⟨htaken, hwants, ?_⟩
  cases h.place x.1 x.2 hsent hwants with
  | queued client mem slot =>
    exact absurd rfl ((List.nodup_append.mp hnodup).2.2 x htaken x mem)
  | served client serving left slot => exact ⟨client, slot, left⟩
  | answered r client slot mem => exact absurd mem (hnotGiven r)
  | received r client slot mem => exact absurd mem (hnotGiven r)

/-- **The server never waits for a client.** -/
theorem InOrder.allowsReply (h : m.InOrder wants) (hleft : m.left ≠ 0) (r : ρ) :
    m.AllowsReply wants r := by
  intro x hx hwants
  obtain ⟨-, -, hclient, hslot, -⟩ := h.served hleft hx
  have hcapacity := (h.slot x.1 (by rw [hclient]; rintro ⟨⟩)).1
  exact Or.inr (by rw [hslot, hcapacity]; exact Nat.one_pos)

/-! ### Every action keeps the order -/

/-- A request stays where it is when nothing happens to it. -/
theorem Place.congr {m' : Mailbox γ ρ} (h : m.Place k c) (hclient : m'.client k = m.client k)
    (hslot : m'.slot k = m.slot k) (hqueue : (k, c) ∈ m.queue.buffer → (k, c) ∈ m'.queue.buffer)
    (hserved : m.serving = some (k, c) → m.left = 1 → m'.serving = some (k, c) ∧ m'.left = 1)
    (hgiven : m.given ⊆ m'.given) : m'.Place k c := by
  cases h with
  | queued client mem slot => exact .queued (hclient.trans client) (hqueue mem) (hslot ▸ slot)
  | served client serving left slot =>
    obtain ⟨hserving, hleft⟩ := hserved serving left
    exact .served (hclient.trans client) hserving hleft (hslot ▸ slot)
  | answered r client slot mem => exact .answered r (hclient.trans client) (hslot ▸ slot) (hgiven mem)
  | received r client slot mem => exact .received r (hclient.trans client) (hslot ▸ slot) (hgiven mem)

/-- What is known of a client stays known when nothing happens to it. -/
theorem Known.congr {m' : Mailbox γ ρ} {y : Client γ ρ} (h : m.Known wants k y)
    (hslot : (m'.slot k).buffer = (m.slot k).buffer)
    (hsent : ∀ c, (k, c) ∈ m'.sent ↔ (k, c) ∈ m.sent) : m'.Known wants k y := by
  have hmem : k ∈ m'.sent.map Prod.fst ↔ k ∈ m.sent.map Prod.fst := by simp [hsent]
  cases y with
  | ready => exact ⟨mt hmem.mp h.1, hslot.trans h.2⟩
  | sending c => exact ⟨mt hmem.mp h.1, hslot.trans h.2⟩
  | waiting c => exact ⟨(hsent c).mpr h.1, h.2⟩
  | finished c r => exact ⟨(hsent c).mpr h.1, h.2⟩

/-- A client comes. -/
theorem InOrder.call (h : m.InOrder wants) (hready : m.client k = .ready) :
    ((machine wants).next m (.call k c)).InOrder wants := by
  have hknown := h.known k
  rw [hready] at hknown
  refine { h with slot := fun k' hk' => ?_, known := fun k' => ?_, place := fun k' c' hc' hw => ?_ }
  · by_cases hk : k' = k
    · subst hk
      simp [machine, Chan.make]
    · simp only [machine, update_of_ne hk] at hk' ⊢
      exact h.slot k' hk'
  · by_cases hk : k' = k
    · subst hk
      simp only [machine, update_self]
      exact ⟨hknown.1, by simp [Chan.make]⟩
    · simp only [machine, update_of_ne hk]
      exact (h.known k').congr (by simp [hk]) fun _ => Iff.rfl
  · have hk : k' ≠ k := by
      rintro rfl
      exact hknown.1 (List.mem_map_of_mem hc')
    exact (h.place k' c' hc' hw).congr (update_of_ne hk _ _) (update_of_ne hk _ _) id
      (fun h1 h2 => ⟨h1, h2⟩) fun _ => id

/-- A client sends its request. -/
theorem InOrder.send (h : m.InOrder wants) (hsending : m.client k = .sending c)
    (hallows : m.queue.Allows (.send (k, c))) :
    ((machine wants).next m (.send k c)).InOrder wants := by
  have hknown := h.known k
  rw [hsending] at hknown
  have hbuffer : (m.queue.apply (.send (k, c))).buffer = m.queue.buffer ++ [(k, c)] :=
    (Chan.apply_buffer hallows h.isOpen).symm
  have hother : ∀ k' ≠ k, ∀ c', (k', c') ∈ m.sent ++ [(k, c)] ↔ (k', c') ∈ m.sent := by
    intro k' hk c'
    simp [hk]
  refine
    { isOpen := Chan.closes_apply.trans h.isOpen
      once := ?_
      fifo := ?_
      turn := h.turn
      left := h.left
      slot := fun k' hk' => ?_
      known := fun k' => ?_
      place := fun k' c' hc' hw => ?_ }
  · change ((m.sent ++ [(k, c)]).map Prod.fst).Nodup
    rw [List.map_append, List.map_singleton]
    exact h.once.append (List.nodup_singleton k) (List.disjoint_singleton.mpr hknown.1)
  · change m.taken ++ (m.queue.apply (.send (k, c))).buffer = m.sent ++ [(k, c)]
    rw [hbuffer, ← List.append_assoc, h.fifo]
  · by_cases hk : k' = k
    · subst hk
      exact h.slot k' (by rw [hsending]; rintro ⟨⟩)
    · simp only [machine, update_of_ne hk] at hk'
      exact h.slot k' hk'
  · by_cases hk : k' = k
    · subst hk
      simp only [machine, update_self]
      split
      next hw => exact ⟨List.mem_append_right _ (List.mem_singleton_self _), hw⟩
      next hw => exact ⟨List.mem_append_right _ (List.mem_singleton_self _), by simpa using hw⟩
    · simp only [machine, update_of_ne hk]
      exact (h.known k').congr rfl (hother k' hk)
  · by_cases hk : k' = k
    · subst hk
      have hcc : c' = c := by
        rcases List.mem_append.mp hc' with hold | hnew
        · exact absurd (List.mem_map_of_mem hold) hknown.1
        · exact (Prod.mk.inj (List.mem_singleton.mp hnew)).2
      subst hcc
      refine .queued ?_ ?_ hknown.2
      · simp only [machine, update_self, hw, if_true]
      · simp only [machine, hbuffer]
        exact List.mem_append_right _ (List.mem_singleton_self _)
    · refine (h.place k' c' ((hother k' hk c').mp hc') hw).congr (update_of_ne hk _ _) rfl
        (fun hmem => ?_) (fun h1 h2 => ⟨h1, h2⟩) fun _ => id
      simp only [machine, hbuffer]
      exact List.mem_append_left _ hmem

/-- The server takes a request. -/
theorem InOrder.take (h : m.InOrder wants) (hleft : m.left = 0)
    (hallows : m.queue.Allows (.receive x)) :
    ((machine wants).next m (.take x)).InOrder wants := by
  have hbuffer : m.queue.buffer = x :: (m.queue.apply (.receive x)).buffer := by
    have hchan := Chan.apply_buffer hallows h.isOpen
    simpa [Chan.Op.sent, Chan.Op.received] using hchan
  have hturn := h.turn
  rw [pending, if_pos hleft, List.append_nil] at hturn
  refine
    { isOpen := Chan.closes_apply.trans h.isOpen
      once := h.once
      fifo := ?_
      turn := ?_
      left := ?_
      slot := h.slot
      known := fun k' => (h.known k').congr rfl fun _ => Iff.rfl
      place := fun k' c' hc' hw => ?_ }
  · change m.taken ++ [x] ++ (m.queue.apply (.receive x)).buffer = m.sent
    rw [List.append_assoc, List.singleton_append, ← hbuffer, h.fifo]
  · simp only [machine, pending, List.filter_append, ← hturn, Option.toList_some]
    by_cases hw : wants x.2 = true <;> simp [hw]
  · simp only [machine]
    by_cases hw : wants x.2 = true
    · exact Or.inr ⟨by simp [hw], rfl⟩
    · exact Or.inl (by simp [hw])
  · by_cases hx : (k', c') = x
    · subst hx
      -- it was in the channel, and is being served now
      have hmem : (k', c') ∈ m.queue.buffer := by
        rw [hbuffer]
        exact List.mem_cons_self
      have hnodup : (m.taken ++ m.queue.buffer).Nodup := h.fifo ▸ h.nodup
      have hnotTaken : (k', c') ∉ m.taken := fun ht =>
        (List.nodup_append.mp hnodup).2.2 _ ht _ hmem rfl
      have hnotGiven : ∀ r, ((k', c'), r) ∉ m.given := fun r hr => by
        have hin : (k', c') ∈ m.taken.filter fun x => wants x.2 := hturn ▸ List.mem_map_of_mem hr
        exact hnotTaken (List.mem_filter.mp hin).1
      cases h.place k' c' hc' hw with
      | queued client mem slot => exact .served client rfl (by simp [machine, hw]) slot
      | served client serving left slot => exact absurd (hleft.symm.trans left) (by decide)
      | answered r client slot mem => exact absurd mem (hnotGiven r)
      | received r client slot mem => exact absurd mem (hnotGiven r)
    · refine (h.place k' c' hc' hw).congr rfl rfl (fun hmem => ?_) (fun _ h1 => ?_) fun _ => id
      · rw [hbuffer] at hmem
        exact (List.mem_cons.mp hmem).resolve_left hx
      · exact absurd (hleft.symm.trans h1) (by decide)

/-- The server replies. -/
theorem InOrder.reply (h : m.InOrder wants) (hleft : 0 < m.left) (hallows : m.AllowsReply wants r) :
    (m.reply wants r).InOrder wants := by
  have hne : m.left ≠ 0 := Nat.pos_iff_ne_zero.mp hleft
  have hsome : m.serving.isSome := (h.left.resolve_left hne).2
  obtain ⟨x, hx⟩ := Option.isSome_iff_exists.mp hsome
  obtain ⟨htaken, hw, hclient, hslot, hone⟩ := h.served hne hx
  obtain ⟨hcapacity, hcloses⟩ := h.slot x.1 (by rw [hclient]; rintro ⟨⟩)
  have hbuffer : ((m.slot x.1).apply (.send r)).buffer = [r] := by
    have hchan := Chan.apply_buffer (hallows x hx hw) hcloses
    simpa [Chan.Op.sent, Chan.Op.received, hslot] using hchan.symm
  have hreply : m.reply wants r = { m with
      slot := update m.slot x.1 ((m.slot x.1).apply (.send r))
      left := 0
      given := m.given ++ [(x, r)] } := by
    simp [Mailbox.reply, hx, hw, hone]
  rw [hreply]
  have hturn := h.turn
  rw [pending, if_neg hne, hx, Option.toList_some] at hturn
  refine
    { isOpen := h.isOpen
      once := h.once
      fifo := h.fifo
      turn := ?_
      left := Or.inl rfl
      slot := fun k' hk' => ?_
      known := fun k' => ?_
      place := fun k' c' hc' hw' => ?_ }
  · simp only [pending, if_true, List.append_nil, List.map_append, List.map_singleton]
    exact hturn
  · by_cases hk : k' = x.1
    · subst hk
      simp only [update_self]
      exact ⟨Chan.capacity_apply.trans hcapacity, Chan.closes_apply.trans hcloses⟩
    · simp only [update_of_ne hk]
      exact h.slot k' hk'
  · by_cases hk : k' = x.1
    · subst hk
      have hknown := h.known x.1
      simp only [hclient] at hknown ⊢
      exact hknown
    · exact (h.known k').congr (by simp [hk]) fun _ => Iff.rfl
  · by_cases hk : k' = x.1
    · subst hk
      have hsent : x ∈ m.sent := by
        rw [← h.fifo]
        exact List.mem_append_left _ htaken
      obtain rfl : c' = x.2 := h.eq_of_mem hc' hsent
      refine .answered r hclient ?_ (List.mem_append_right _ (List.mem_singleton_self _))
      simp only [update_self]
      exact hbuffer
    · refine (h.place k' c' hc' hw').congr rfl (update_of_ne hk _ _) id (fun h1 _ => ?_)
        (List.subset_append_left _ _)
      rw [hx] at h1
      exact absurd (congrArg Prod.fst (Option.some.inj h1)).symm hk

/-- A client receives its reply. -/
theorem InOrder.receive (h : m.InOrder wants) (hwaiting : m.client k = .waiting c)
    (hallows : (m.slot k).Allows (.receive r)) :
    ((machine wants).next m (.receive k c r)).InOrder wants := by
  have hknown := h.known k
  rw [hwaiting] at hknown
  have hopen := (h.slot k (by rw [hwaiting]; rintro ⟨⟩)).2
  have hhead : (m.slot k).buffer.head? = some r := hallows
  refine
    { isOpen := h.isOpen
      once := h.once
      fifo := h.fifo
      turn := h.turn
      left := h.left
      slot := fun k' hk' => ?_
      known := fun k' => ?_
      place := fun k' c' hc' hw => ?_ }
  · by_cases hk : k' = k
    · subst hk
      simp only [machine, update_self]
      have hslot := h.slot k' (by rw [hwaiting]; rintro ⟨⟩)
      exact ⟨Chan.capacity_apply.trans hslot.1, Chan.closes_apply.trans hslot.2⟩
    · simp only [machine, update_of_ne hk] at hk' ⊢
      exact h.slot k' hk'
  · by_cases hk : k' = k
    · subst hk
      simp only [machine, update_self]
      exact ⟨hknown.1, hknown.2.symm⟩
    · simp only [machine, update_of_ne hk]
      exact (h.known k').congr (by simp [hk]) fun _ => Iff.rfl
  · by_cases hk : k' = k
    · subst hk
      obtain rfl : c' = c := h.eq_of_mem hc' hknown.1
      -- there is a reply in its channel, so that is where the request is
      cases h.place k' c' hc' hw with
      | queued client mem slot => simp [slot] at hhead
      | served client serving left slot => simp [slot] at hhead
      | answered r' client slot mem =>
        obtain rfl : r' = r := by simpa [slot] using hhead
        refine .received r' ?_ ?_ mem
        · simp only [machine, update_self]
        · simp [machine, Chan.apply, slot]
      | received r' client slot mem => simp [slot] at hhead
    · exact (h.place k' c' hc' hw).congr (update_of_ne hk _ _) (update_of_ne hk _ _) id
        (fun h1 h2 => ⟨h1, h2⟩) fun _ => id

/-- **Every action keeps everything in order.** -/
theorem InOrder.next (h : m.InOrder wants) (ha : (machine wants).Enabled m a) :
    ((machine wants).next m a).InOrder wants := by
  cases a with
  | call k c => exact h.call ha
  | send k c => exact h.send ha.1 ha.2
  | take x => exact h.take ha.1 ha.2
  | reply r => exact h.reply ha.1 ha.2
  | receive k c r => exact h.receive ha.1 ha.2

/-- Nobody has come yet. -/
theorem inOrder_make (capacity : ℕ) :
    ({ queue := Chan.make capacity } : Mailbox γ ρ).InOrder wants where
  isOpen := rfl
  once := List.nodup_nil
  fifo := rfl
  turn := rfl
  left := Or.inl rfl
  slot _ hk := absurd rfl hk
  known _ := ⟨List.not_mem_nil, rfl⟩
  place _ _ hc _ := absurd hc List.not_mem_nil

/-! ### What it means -/

/-- **A client has what it was answered.** -/
theorem InOrder.mem_given (h : m.InOrder wants) (hk : m.client k = .finished c (some r)) :
    ((k, c), r) ∈ m.given := by
  have hknown := h.known k
  rw [hk] at hknown
  cases h.place k c hknown.1 hknown.2.symm with
  | queued client mem slot => exact absurd (hk.symm.trans client) (by rintro ⟨⟩)
  | served client serving left slot => exact absurd (hk.symm.trans client) (by rintro ⟨⟩)
  | answered r' client slot mem => exact absurd (hk.symm.trans client) (by rintro ⟨⟩)
  | received r' client slot mem =>
    obtain ⟨-, hr⟩ := Client.finished.inj (hk.symm.trans client)
    exact Option.some.inj hr ▸ mem

/-- **A client that waits is in one of three places**, and its request was sent. -/
theorem InOrder.of_waiting (h : m.InOrder wants) (hk : m.client k = .waiting c) :
    (k, c) ∈ m.queue.buffer ∨ m.serving = some (k, c) ∧ m.left = 1 ∨
      ∃ r, (m.slot k).buffer = [r] ∧ ((k, c), r) ∈ m.given := by
  have hknown := h.known k
  rw [hk] at hknown
  cases h.place k c hknown.1 hknown.2 with
  | queued client mem slot => exact Or.inl mem
  | served client serving left slot => exact Or.inr (Or.inl ⟨serving, left⟩)
  | answered r client slot mem => exact Or.inr (Or.inr ⟨r, slot, mem⟩)
  | received r client slot mem => exact absurd (hk.symm.trans client) (by rintro ⟨⟩)

end Mailbox

end Go

end IngestionLab
