import IngestionLab.Frontend.HttpAdapter
import Mathlib.Algebra.BigOperators.Group.Finset.Basic
import Mathlib.Algebra.Order.BigOperators.Group.Finset

/-!
# The chain of commands

A command follows the one dispatched before it, so that what has begun is always a
beginning of the chain (`IngestionLab.Frontend.HttpAdapter.ChainSound`): everything before
it has settled, and everything behind it waits. Whatever becomes of a command, it settles,
and then the next one has its turn (`IngestionLab.Frontend.HttpAdapter.exists_inFlight_or_hasTurn`);
and it goes on three times at most (`IngestionLab.Frontend.HttpAdapter.length_filter_goesOn_le`).
-/

namespace IngestionLab.Frontend

open Function

/-- How often a command can still go on. -/
def CommandStage.rank : CommandStage → ℕ
  | .turn => 3
  | .fetch => 2
  | .error => 1
  | .settled => 0

namespace HttpAdapter

variable {adapter adapter' : HttpAdapter} {m n : ℕ} {task : CommandTask}

/-! ### What has begun -/

/-- A request of the command has been sent, and not settled. -/
def InFlight (adapter : HttpAdapter) (n : ℕ) : Prop :=
  adapter.IsAt n .fetch ∨ adapter.IsAt n .error

/-- The command has been taken on, and has not settled. -/
def Pending (adapter : HttpAdapter) (n : ℕ) : Prop := ∃ t ∈ adapter.commands n, t.stage ≠ .settled

instance (adapter : HttpAdapter) (n : ℕ) : Decidable (adapter.Pending n) :=
  inferInstanceAs (Decidable (∃ t ∈ adapter.commands n, t.stage ≠ .settled))

/-- **The chain of commands is in order.** -/
structure ChainSound (adapter : HttpAdapter) : Prop where
  /-- What has been taken on has been dispatched. -/
  numbered : ∀ n, ∀ t ∈ adapter.commands n, 1 ≤ n ∧ n ≤ adapter.commandSequence
  /-- The end of the chain is the last command taken on. -/
  last : ∀ n, ∀ t ∈ adapter.commands n, ∃ m ∈ adapter.commandChannel, n ≤ m
  taken : ∀ n ∈ adapter.commandChannel, ∃ t, t ∈ adapter.commands n
  /-- A command follows the last one taken on before it. -/
  previous : ∀ n, ∀ t ∈ adapter.commands n, ∀ p ∈ t.previous, p < n ∧ ∃ u, u ∈ adapter.commands p
  follows : ∀ n, ∀ t ∈ adapter.commands n, ∀ m < n, ∀ u ∈ adapter.commands m,
    ∃ p ∈ t.previous, m ≤ p
  /-- When a command begins, everything before it has settled. -/
  order : ∀ n, ∀ t ∈ adapter.commands n, t.stage ≠ .turn →
    ∀ m < n, ∀ u ∈ adapter.commands m, u.stage = .settled
  sent : ∀ n ∈ adapter.sent, ∃ t ∈ adapter.commands n, t.stage ≠ .turn
  increasing : adapter.sent.Pairwise (· < ·)
  /-- There is one receipt for what has been dispatched and is not pending. -/
  receipts : ∀ n, (adapter.receipts.map Prod.fst).count n =
    if (1 ≤ n ∧ n ≤ adapter.commandSequence) ∧ ∀ t ∈ adapter.commands n, t.stage = .settled
    then 1 else 0

/-- What concerns the commands is the same. -/
structure SameChain (adapter adapter' : HttpAdapter) : Prop where
  commands : adapter'.commands = adapter.commands
  commandSequence : adapter'.commandSequence = adapter.commandSequence
  commandChannel : adapter'.commandChannel = adapter.commandChannel
  sent : adapter'.sent = adapter.sent
  receipts : adapter'.receipts = adapter.receipts

theorem ChainSound.congr (h : adapter.ChainSound) (hsame : adapter.SameChain adapter') :
    adapter'.ChainSound := by
  obtain ⟨hcommands, hsequence, hchannel, hsent, hreceipts⟩ := hsame
  constructor
  · rw [hcommands, hsequence]
    exact h.numbered
  · rw [hcommands, hchannel]
    exact h.last
  · rw [hcommands, hchannel]
    exact h.taken
  · rw [hcommands]
    exact h.previous
  · rw [hcommands]
    exact h.follows
  · rw [hcommands]
    exact h.order
  · rw [hcommands, hsent]
    exact h.sent
  · rw [hsent]
    exact h.increasing
  · rw [hcommands, hsequence, hreceipts]
    exact h.receipts

/-! ### A command goes on -/

/-- **A command gets to a stage**: it is sent if it begins and is to be fetched, and there
is a receipt when it settles. -/
structure GoesOn (adapter : HttpAdapter) (n : ℕ) (task : CommandTask) (stage : CommandStage)
    (adapter' : HttpAdapter) : Prop where
  begun : stage ≠ .turn
  commands : adapter'.commands = update adapter.commands n (some { task with stage := stage })
  commandSequence : adapter'.commandSequence = adapter.commandSequence
  commandChannel : adapter'.commandChannel = adapter.commandChannel
  sent : adapter'.sent = adapter.sent ∨ task.stage = .turn ∧ adapter'.sent = adapter.sent ++ [n]
  receipts : adapter'.receipts.map Prod.fst =
    adapter.receipts.map Prod.fst ++ if stage = .settled then [n] else []

/-- What has begun follows what has settled. -/
theorem ChainSound.ready (h : adapter.ChainSound) (htask : task ∈ adapter.commands n)
    (hbegins : task.stage ≠ .turn ∨ adapter.HasTurn n) :
    ∀ m < n, ∀ u ∈ adapter.commands m, u.stage = .settled := by
  rcases hbegins with hbegun | ⟨t, ht, -, hprevious⟩
  · exact h.order n task htask hbegun
  intro m hm u hu
  obtain ⟨p, hp, hmp⟩ := h.follows n t ht m hm u hu
  obtain ⟨v, hv, hsettled⟩ := hprevious p hp
  rcases hmp.lt_or_eq with hlt | rfl
  · exact h.order p v hv (by rw [hsettled]; decide) m hlt u hu
  · obtain rfl := Option.mem_unique hu hv
    exact hsettled

/-- **The chain stays in order** when a command goes on. -/
theorem ChainSound.goesOn {stage : CommandStage} (h : adapter.ChainSound)
    (htask : task ∈ adapter.commands n) (hopen : task.stage ≠ .settled)
    (hready : ∀ m < n, ∀ u ∈ adapter.commands m, u.stage = .settled)
    (hgoes : adapter.GoesOn n task stage adapter') : adapter'.ChainSound := by
  obtain ⟨hstage, hcommands, hsequence, hchannel, hsent, hreceipts⟩ := hgoes
  -- The tasks are the same, but for the stage of this one.
  have hat : ∀ k, ∀ t ∈ adapter'.commands k, ∃ u ∈ adapter.commands k,
      t.previous = u.previous ∧ (k ≠ n → t = u) ∧ (k = n → t.stage = stage) := by
    intro k t ht
    rw [hcommands] at ht
    by_cases hk : k = n
    · subst hk
      rw [update_self] at ht
      obtain rfl := Option.some.inj ht
      exact ⟨task, htask, rfl, fun hne => absurd rfl hne, fun _ => rfl⟩
    · rw [update_of_ne hk] at ht
      exact ⟨t, ht, rfl, fun _ => rfl, fun hk' => absurd hk' hk⟩
  have hkept : ∀ k, ∀ u ∈ adapter.commands k, ∃ t, t ∈ adapter'.commands k := by
    intro k u hu
    rw [hcommands]
    by_cases hk : k = n
    · subst hk
      exact ⟨_, update_self ..⟩
    · rw [update_of_ne hk]
      exact ⟨u, hu⟩
  constructor
  · intro k t ht
    obtain ⟨u, hu, -⟩ := hat k t ht
    rw [hsequence]
    exact h.numbered k u hu
  · intro k t ht
    obtain ⟨u, hu, -⟩ := hat k t ht
    rw [hchannel]
    exact h.last k u hu
  · intro k hk
    rw [hchannel] at hk
    obtain ⟨u, hu⟩ := h.taken k hk
    exact hkept k u hu
  · intro k t ht p hp
    obtain ⟨u, hu, hprevious, -⟩ := hat k t ht
    rw [hprevious] at hp
    obtain ⟨hlt, v, hv⟩ := h.previous k u hu p hp
    exact ⟨hlt, hkept p v hv⟩
  · intro k t ht m hm v hv
    obtain ⟨u, hu, hprevious, -⟩ := hat k t ht
    obtain ⟨w, hw, -⟩ := hat m v hv
    rw [hprevious]
    exact h.follows k u hu m hm w hw
  · intro k t ht hbegun m hm v hv
    obtain ⟨u, hu, -, hsame, -⟩ := hat k t ht
    obtain ⟨w, hw, -, hsame', hthis⟩ := hat m v hv
    have hsettled : w.stage = .settled := by
      by_cases hk : k = n
      · subst hk
        exact hready m hm w hw
      · obtain rfl := hsame hk
        exact h.order k t hu hbegun m hm w hw
    -- This one has not settled, so nothing behind it has begun.
    have hm' : m ≠ n := by
      rintro rfl
      obtain rfl := Option.mem_unique hw htask
      exact hopen hsettled
    rw [hsame' hm']
    exact hsettled
  · intro k hk
    have hbegun : k = n ∨ ∃ t ∈ adapter.commands k, t.stage ≠ .turn := by
      rcases hsent with heq | ⟨-, heq⟩
      · rw [heq] at hk
        exact Or.inr (h.sent k hk)
      · rw [heq, List.mem_append, List.mem_singleton] at hk
        exact hk.symm.imp_right (h.sent k)
    rw [hcommands]
    by_cases hkn : k = n
    · subst hkn
      exact ⟨_, update_self .., hstage⟩
    · rw [update_of_ne hkn]
      exact hbegun.resolve_left hkn
  · rcases hsent with heq | ⟨hturn, heq⟩
    · rw [heq]
      exact h.increasing
    rw [heq, List.pairwise_append]
    refine ⟨h.increasing, List.pairwise_singleton _ _, fun k hk n' hn' => ?_⟩
    obtain rfl := List.mem_singleton.mp hn'
    obtain ⟨t, ht, hbegun⟩ := h.sent k hk
    by_contra hle
    rcases (not_lt.mp hle).lt_or_eq with hlt | rfl
    · exact hopen (h.order k t ht hbegun n' hlt task htask)
    · obtain rfl := Option.mem_unique ht htask
      exact hbegun hturn
  · intro k
    rw [hreceipts, List.count_append, h.receipts k, hsequence, hcommands]
    by_cases hk : k = n
    · subst hk
      have hnone : ¬∀ t ∈ adapter.commands k, t.stage = .settled := fun hall =>
        hopen (hall task htask)
      rw [if_neg fun hc => hnone hc.2, update_self]
      by_cases hdone : stage = .settled
      · have hall : ∀ t ∈ some { task with stage := stage }, t.stage = .settled := fun t ht => by
          obtain rfl := Option.some.inj ht
          exact hdone
        rw [if_pos hdone, if_pos ⟨h.numbered k task htask, hall⟩, List.count_singleton_self]
      · rw [if_neg hdone, if_neg fun hc => hdone (hc.2 _ rfl), List.count_nil]
    · rw [update_of_ne hk]
      have hother : List.count k (if stage = .settled then [n] else []) = 0 := by
        rw [List.count_eq_zero]
        split
        · rwa [List.mem_singleton]
        · exact List.not_mem_nil
      rw [hother, Nat.add_zero]

/-! ### What an action does to the chain -/

/-- A command goes on. -/
def Action.goesOn : Action → Bool
  | .sendCommand _ | .commandFetched .. | .commandDecoded .. => true
  | _ => false

/-- A command is dispatched. -/
def Action.dispatches : Action → Bool
  | .dispatch _ => true
  | _ => false

theorem goesOn_settle (receipt : CommandReceipt) :
    adapter.GoesOn n task .settled (adapter.settle n task receipt) where
  begun := by decide
  commands := rfl
  commandSequence := rfl
  commandChannel := rfl
  sent := Or.inl rfl
  receipts := List.map_append

/-- **An action of a command**: the command goes on, to a later stage. -/
theorem exists_goesOn {a : Action} (ha : machine.Enabled adapter a) (hgoes : a.goesOn = true) :
    ∃ n, ∃ task ∈ adapter.commands n, ∃ stage, adapter.GoesOn n task stage (machine.next adapter a) ∧
      stage.rank < task.stage.rank ∧ (task.stage ≠ .turn ∨ adapter.HasTurn n) := by
  have hon : ∀ n, ∀ task ∈ adapter.commands n, ∀ f, adapter.onCommand n f = f task := by
    intro n task htask f
    obtain htask : adapter.commands n = some task := htask
    rw [onCommand, htask]
  cases a with
  | sendCommand n =>
    have hturn : adapter.HasTurn n := ha.2
    obtain ⟨-, task, htask, hstage, -⟩ := ha
    change ∃ n, ∃ task ∈ adapter.commands n, ∃ stage, adapter.GoesOn n task stage
      (adapter.onCommand _ _) ∧ _
    refine ⟨n, task, htask, ?_⟩
    rw [hon n task htask, sendCommand, hstage]
    split
    · exact ⟨.settled, goesOn_settle _, by decide, Or.inr hturn⟩
    split
    · exact ⟨.settled, goesOn_settle _, by decide, Or.inr hturn⟩
    · refine ⟨.fetch, ?_, by decide, Or.inr hturn⟩
      exact ⟨by decide, rfl, rfl, rfl, Or.inr ⟨hstage, rfl⟩, (List.append_nil _).symm⟩
  | commandFetched n now status =>
    obtain ⟨-, task, htask, hstage⟩ := ha
    have hbegun : task.stage ≠ .turn := by rw [hstage]; decide
    change ∃ n, ∃ task ∈ adapter.commands n, ∃ stage, adapter.GoesOn n task stage
      (adapter.onCommand _ _) ∧ _
    refine ⟨n, task, htask, ?_⟩
    rw [hon n task htask, hstage]
    cases status with
    | none => exact ⟨.settled, goesOn_settle _, by decide, Or.inl (by decide)⟩
    | some status =>
      rw [commandFetched]
      split
      · exact ⟨.settled, goesOn_settle _, by decide, Or.inl (by decide)⟩
      split
      · refine ⟨.error, ?_, by decide, Or.inl (by decide)⟩
        exact ⟨by decide, rfl, rfl, rfl, Or.inl rfl, (List.append_nil _).symm⟩
      · exact ⟨.settled, goesOn_settle _, by decide, Or.inl (by decide)⟩
  | commandDecoded n message =>
    obtain ⟨-, task, htask, hstage⟩ := ha
    change ∃ n, ∃ task ∈ adapter.commands n, ∃ stage, adapter.GoesOn n task stage
      (adapter.onCommand _ _) ∧ _
    refine ⟨n, task, htask, ?_⟩
    rw [hon n task htask, hstage]
    cases message <;> exact ⟨.settled, goesOn_settle _, by decide, Or.inl (by decide)⟩
  | _ => exact absurd hgoes nofun

theorem sameChain_leave (controller : ℕ) : adapter.SameChain (adapter.leave controller) :=
  ⟨rfl, rfl, rfl, rfl, rfl⟩

theorem sameChain_afterPoll (adapter : HttpAdapter) (wire : Option WireSnapshot) :
    adapter.SameChain (adapter.afterPoll wire) := by
  rw [afterPoll]
  split
  · exact ⟨rfl, rfl, rfl, rfl, rfl⟩
  · cases wire <;> exact ⟨rfl, rfl, rfl, rfl, rfl⟩

/-- **The other actions leave the chain alone**, but for a dispatch. -/
theorem sameChain_next (adapter : HttpAdapter) {a : Action} (hgoes : a.goesOn = false)
    (hdispatches : a.dispatches = false) :
    adapter.SameChain (machine.next adapter a) := by
  cases a with
  | tick =>
    change adapter.SameChain adapter.poll
    rw [poll]
    split <;> exact ⟨rfl, rfl, rfl, rfl, rfl⟩
  | pollFetched controller succeeded =>
    change adapter.SameChain (adapter.pollFetched controller succeeded)
    rw [pollFetched]
    split
    · exact sameChain_leave controller
    split
    · exact ⟨rfl, rfl, rfl, rfl, rfl⟩
    · obtain ⟨h1, h2, h3, h4, h5⟩ := sameChain_afterPoll (adapter.leave controller) none
      exact ⟨h1, h2, h3, h4, h5⟩
  | pollDecoded controller wire =>
    change adapter.SameChain (adapter.pollDecoded controller wire)
    rw [pollDecoded]
    split
    · exact sameChain_leave controller
    · obtain ⟨h1, h2, h3, h4, h5⟩ := sameChain_afterPoll (adapter.leave controller) wire
      exact ⟨h1, h2, h3, h4, h5⟩
  | notify throws =>
    change adapter.SameChain (adapter.notify throws)
    rw [notify]
    split <;> exact ⟨rfl, rfl, rfl, rfl, rfl⟩
  | subscribe listener =>
    change adapter.SameChain (adapter.subscribe listener)
    rw [subscribe]
    split <;> exact ⟨rfl, rfl, rfl, rfl, rfl⟩
  | unsubscribe listener => exact ⟨rfl, rfl, rfl, rfl, rfl⟩
  | dispose =>
    change adapter.SameChain adapter.dispose
    rw [dispose]
    split <;> exact ⟨rfl, rfl, rfl, rfl, rfl⟩
  | dispatch command => exact absurd hdispatches nofun
  | sendCommand n => exact absurd hgoes nofun
  | commandFetched n now status => exact absurd hgoes nofun
  | commandDecoded n message => exact absurd hgoes nofun

/-! ### A command is dispatched -/

/-- What `dispatch` does: the command is rejected at once, or taken on as the last one. -/
theorem dispatch_cases (adapter : HttpAdapter) (command : LoadgenCommand) :
    (∃ receipt, adapter.dispatch command =
      { adapter with
        commandSequence := adapter.commandSequence + 1
        receipts := adapter.receipts ++ [(adapter.commandSequence + 1, receipt)] }) ∨
    ∃ supported : SupportedCommand, adapter.disposed = false ∧ adapter.dispatch command =
      { adapter with
        commandSequence := adapter.commandSequence + 1
        commands := update adapter.commands (adapter.commandSequence + 1)
          (some ⟨supported, adapter.commandChannel, .turn⟩)
        commandChannel := some (adapter.commandSequence + 1) } := by
  unfold dispatch
  dsimp only
  split
  next supported =>
    split
    · exact Or.inl ⟨_, rfl⟩
    next hlive =>
      split
      · exact Or.inl ⟨_, rfl⟩
      · exact Or.inr ⟨⟨command, supported⟩, Bool.eq_false_iff.mpr hlive, rfl⟩
  · exact Or.inl ⟨_, rfl⟩

/-- **The chain stays in order** when a command is dispatched. -/
theorem ChainSound.dispatch (h : adapter.ChainSound) (command : LoadgenCommand) :
    (adapter.dispatch command).ChainSound := by
  have hnew : ∀ t, t ∉ adapter.commands (adapter.commandSequence + 1) := fun t ht => by
    have := (h.numbered _ t ht).2
    omega
  rcases dispatch_cases adapter command with ⟨receipt, heq⟩ | ⟨supported, -, heq⟩
  · rw [heq]
    refine { h with numbered := fun n t ht => ?_, receipts := fun n => ?_ }
    · obtain ⟨hpos, hle⟩ := h.numbered n t ht
      exact ⟨hpos, hle.trans (Nat.le_succ _)⟩
    · change ((adapter.receipts ++ [(adapter.commandSequence + 1, receipt)]).map Prod.fst).count n = _
      rw [List.map_append, List.count_append, h.receipts n]
      change _ + [adapter.commandSequence + 1].count n = _
      dsimp only
      by_cases hn : n = adapter.commandSequence + 1
      · subst hn
        rw [if_neg (by omega), if_pos ⟨by omega, fun t ht => absurd ht (hnew t)⟩,
          List.count_singleton_self]
      · rw [List.count_eq_zero.mpr (by rwa [List.mem_singleton]), Nat.add_zero]
        exact if_congr (and_congr_left fun _ => by omega) rfl rfl
  · rw [heq]
    generalize hlast : adapter.commandSequence + 1 = last at hnew
    have hle : ∀ k, ∀ t ∈ adapter.commands k, k < last := fun k t ht => by
      have := (h.numbered k t ht).2
      omega
    -- The tasks are those before and this one, which is the last.
    have hat : ∀ k, ∀ t ∈ update adapter.commands last
        (some ⟨supported, adapter.commandChannel, .turn⟩) k,
        k = last ∧ t = ⟨supported, adapter.commandChannel, .turn⟩ ∨
          k < last ∧ t ∈ adapter.commands k := by
      intro k t ht
      by_cases hk : k = last
      · subst hk
        rw [update_self] at ht
        exact Or.inl ⟨rfl, (Option.some.inj ht).symm⟩
      · rw [update_of_ne hk] at ht
        exact Or.inr ⟨hle k t ht, ht⟩
    have hkept : ∀ k, ∀ t ∈ adapter.commands k, t ∈ update adapter.commands last
        (some ⟨supported, adapter.commandChannel, .turn⟩) k := by
      intro k t ht
      rw [update_of_ne (hle k t ht).ne]
      exact ht
    constructor
    · intro k t ht
      change 1 ≤ k ∧ k ≤ last
      rcases hat k t ht with ⟨rfl, -⟩ | ⟨hlt, hold⟩
      · omega
      · exact ⟨(h.numbered k t hold).1, hlt.le⟩
    · intro k t ht
      refine ⟨last, rfl, ?_⟩
      rcases hat k t ht with ⟨rfl, -⟩ | ⟨hlt, -⟩
      · exact le_rfl
      · exact hlt.le
    · intro k hk
      obtain rfl : last = k := Option.some.inj hk
      exact ⟨_, update_self ..⟩
    · intro k t ht p hp
      rcases hat k t ht with ⟨rfl, rfl⟩ | ⟨-, hold⟩
      · obtain ⟨u, hu⟩ := h.taken p hp
        exact ⟨hle p u hu, u, hkept p u hu⟩
      · obtain ⟨hlt, u, hu⟩ := h.previous k t hold p hp
        exact ⟨hlt, u, hkept p u hu⟩
    · intro k t ht m hm u hu
      rcases hat m u hu with ⟨rfl, -⟩ | ⟨hlt, hold'⟩
      · rcases hat k t ht with ⟨rfl, -⟩ | ⟨hlt, -⟩ <;> omega
      rcases hat k t ht with ⟨rfl, rfl⟩ | ⟨-, hold⟩
      · exact h.last m u hold'
      · exact h.follows k t hold m hm u hold'
    · intro k t ht hbegun m hm u hu
      rcases hat k t ht with ⟨rfl, rfl⟩ | ⟨hlt, hold⟩
      · exact absurd rfl hbegun
      rcases hat m u hu with ⟨rfl, -⟩ | ⟨-, hold'⟩
      · omega
      · exact h.order k t hold hbegun m hm u hold'
    · intro k hk
      obtain ⟨t, ht, hbegun⟩ := h.sent k hk
      exact ⟨t, hkept k t ht, hbegun⟩
    · exact h.increasing
    · intro k
      refine (h.receipts k).trans ?_
      change _ = if (1 ≤ k ∧ k ≤ last) ∧ _ then 1 else 0
      by_cases hk : k = last
      · subst hk
        rw [if_neg (by omega), if_neg fun hc => ?_]
        exact absurd (hc.2 _ (update_self ..)) nofun
      · have hsame : update adapter.commands last
            (some ⟨supported, adapter.commandChannel, .turn⟩) k = adapter.commands k :=
          update_of_ne hk _ _
        refine if_congr (and_congr (by omega) ?_) rfl rfl
        change _ ↔ ∀ t ∈ update adapter.commands last _ k, _
        rw [hsame]

/-! ### Along a run -/

theorem chainSound_create : create.ChainSound where
  numbered := nofun
  last := nofun
  taken := nofun
  previous := nofun
  follows := nofun
  order := nofun
  sent := nofun
  increasing := .nil
  receipts n := by
    refine (if_neg ?_).symm
    rintro ⟨⟨hpos, hle⟩, -⟩
    exact absurd (hpos.trans hle) (by decide)

/-- **The chain stays in order**, whatever happens. -/
theorem ChainSound.next {a : Action} (h : adapter.ChainSound) (ha : machine.Enabled adapter a) :
    (machine.next adapter a).ChainSound := by
  cases hgoes : a.goesOn with
  | true =>
    obtain ⟨n, task, htask, stage, hstep, hrank, hbegins⟩ := exists_goesOn ha hgoes
    have hopen : task.stage ≠ .settled := fun hsettled => by
      rw [hsettled] at hrank
      exact absurd hrank (Nat.not_lt_zero _)
    exact h.goesOn htask hopen (h.ready htask hbegins) hstep
  | false =>
    cases hdispatches : a.dispatches with
    | true =>
      cases a with
      | dispatch command => exact h.dispatch command
      | _ => exact absurd hdispatches nofun
    | false => exact h.congr (sameChain_next adapter hgoes hdispatches)

/-- A dispatch takes the next number. -/
theorem commandSequence_next {a : Action} (ha : machine.Enabled adapter a) :
    (machine.next adapter a).commandSequence = adapter.commandSequence + a.dispatches.toNat := by
  cases hgoes : a.goesOn with
  | true =>
    obtain ⟨n, task, -, stage, hstep, -⟩ := exists_goesOn ha hgoes
    cases a <;> first | exact hstep.commandSequence | cases hgoes
  | false =>
    cases hdispatches : a.dispatches with
    | true =>
      cases a with
      | dispatch command =>
        rcases dispatch_cases adapter command with ⟨receipt, heq⟩ | ⟨supported, -, heq⟩
        all_goals
          change (adapter.dispatch command).commandSequence = _
          rw [heq]
          rfl
      | _ => cases hdispatches
    | false => exact (sameChain_next adapter hgoes hdispatches).commandSequence

/-- **Dispatches are numbered** as they come. -/
theorem commandSequence_after {as : List Action} (hrun : machine.Run adapter as) :
    (machine.after adapter as).commandSequence =
      adapter.commandSequence + as.countP Action.dispatches := by
  induction as generalizing adapter with
  | nil => rfl
  | cons a as ih =>
    rw [Machine.after_cons, ih hrun.2, commandSequence_next hrun.1, List.countP_cons]
    cases a.dispatches <;> simp only [Bool.toNat, cond_true, cond_false, Bool.false_eq_true, if_true,
      if_false] <;> omega

/-- **At most one command request is in flight.** -/
theorem ChainSound.inFlight_unique (h : adapter.ChainSound) (hm : adapter.InFlight m)
    (hn : adapter.InFlight n) : m = n := by
  have hat : ∀ k, adapter.InFlight k → ∃ t ∈ adapter.commands k, t.stage ≠ .turn ∧
      t.stage ≠ .settled := by
    rintro k (⟨t, ht, hstage⟩ | ⟨t, ht, hstage⟩)
    all_goals exact ⟨t, ht, by rw [hstage]; decide, by rw [hstage]; decide⟩
  obtain ⟨t, ht, hbegun, hopen⟩ := hat m hm
  obtain ⟨u, hu, hbegun', hopen'⟩ := hat n hn
  rcases lt_trichotomy m n with hlt | heq | hlt
  · exact absurd (h.order n u hu hbegun' m hlt t ht) hopen
  · exact heq
  · exact absurd (h.order m t ht hbegun n hlt u hu) hopen'

/-- **No command blocks the ones behind it**: as long as one is pending, some command up to
it has a request in flight, or has its turn. -/
theorem ChainSound.exists_inFlight_or_hasTurn (h : adapter.ChainSound) (hn : adapter.Pending n) :
    ∃ m ≤ n, adapter.InFlight m ∨ adapter.HasTurn m := by
  induction n using Nat.strong_induction_on with
  | _ n ih =>
    obtain ⟨t, ht, hopen⟩ := hn
    cases hstage : t.stage with
    | fetch => exact ⟨n, le_rfl, Or.inl (Or.inl ⟨t, ht, hstage⟩)⟩
    | error => exact ⟨n, le_rfl, Or.inl (Or.inr ⟨t, ht, hstage⟩)⟩
    | settled => exact absurd hstage hopen
    | turn =>
      by_cases hturn : ∀ p ∈ t.previous, adapter.IsAt p .settled
      · exact ⟨n, le_rfl, Or.inr ⟨t, ht, hstage, hturn⟩⟩
      push Not at hturn
      obtain ⟨p, hp, hunsettled⟩ := hturn
      obtain ⟨hlt, u, hu⟩ := h.previous n t ht p hp
      obtain ⟨m, hm, hcan⟩ := ih p hlt ⟨u, hu, fun hsettled => hunsettled ⟨u, hu, hsettled⟩⟩
      exact ⟨m, hm.trans hlt.le, hcan⟩

/-- How often commands can still go on. -/
def remaining (adapter : HttpAdapter) : ℕ :=
  ∑ n ∈ Finset.range (adapter.commandSequence + 1),
    (adapter.commands n).elim 0 fun task => task.stage.rank

/-- **A command that goes on** can do so less often. -/
theorem ChainSound.remaining_next {a : Action} (h : adapter.ChainSound)
    (ha : machine.Enabled adapter a) (hdispatches : a.dispatches = false) :
    (machine.next adapter a).remaining + (if a.goesOn then 1 else 0) ≤ adapter.remaining := by
  cases hgoes : a.goesOn with
  | false =>
    have hsame := sameChain_next adapter hgoes hdispatches
    rw [remaining, hsame.commands, hsame.commandSequence]
    exact le_rfl
  | true =>
    obtain ⟨n, task, htask, stage, hstep, hrank, -⟩ := exists_goesOn ha hgoes
    have hmem : n ∈ Finset.range (adapter.commandSequence + 1) :=
      Finset.mem_range.mpr (Nat.lt_succ_of_le (h.numbered n task htask).2)
    rw [remaining, hstep.commandSequence, hstep.commands]
    refine Nat.succ_le_of_lt (Finset.sum_lt_sum (fun k _ => ?_) ⟨n, hmem, ?_⟩)
    · by_cases hk : k = n
      · subst hk
        rw [update_self, show adapter.commands k = some task from htask]
        exact hrank.le
      · rw [update_of_ne hk]
    · rw [update_self, show adapter.commands n = some task from htask]
      exact hrank

/-- **Commands go on a bounded number of times**, as long as none is dispatched. -/
theorem ChainSound.length_filter_goesOn_le {as : List Action} (h : adapter.ChainSound)
    (hdispatches : ∀ a ∈ as, a.dispatches = false) (hrun : machine.Run adapter as) :
    (as.filter Action.goesOn).length + (machine.after adapter as).remaining ≤ adapter.remaining := by
  induction as generalizing adapter with
  | nil => exact (Nat.zero_add _).le
  | cons a as ih =>
    have hstep := h.remaining_next hrun.1 (hdispatches a List.mem_cons_self)
    have hrest := ih (h.next hrun.1) (fun b hb => hdispatches b (List.mem_cons_of_mem a hb)) hrun.2
    rw [Machine.after_cons]
    rw [List.filter_cons]
    split
    next hgoes =>
      rw [if_pos hgoes] at hstep
      rw [List.length_cons]
      omega
    · omega

end HttpAdapter

end IngestionLab.Frontend
