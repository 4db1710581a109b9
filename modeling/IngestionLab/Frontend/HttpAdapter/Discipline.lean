import IngestionLab.Frontend.HttpAdapter.Commands

/-!
# The discipline of requests

What holds of the HTTP adapter in whatever order things settle, and whatever its listeners
do: the flag tells whether a poll is under way, and every way out of a poll resets it
(`IngestionLab.Frontend.HttpAdapter.PollSound`); revisions count the publications
(`IngestionLab.Frontend.HttpAdapter.Numbered`); and an adapter that has been disposed does
nothing that can be seen, but for answering commands
(`IngestionLab.Frontend.HttpAdapter.Silent.next`). Together with the chain of commands this
is `IngestionLab.Frontend.HttpAdapter.request_discipline`.
-/

namespace IngestionLab.Frontend

namespace HttpAdapter

variable {adapter : HttpAdapter}

/-! ### Beside the polls -/

/-- What concerns the polls is the same. -/
structure SamePolls (adapter adapter' : HttpAdapter) : Prop where
  polls : adapter'.polls = adapter.polls
  requestInFlight : adapter'.requestInFlight = adapter.requestInFlight
  activeController : adapter'.activeController = adapter.activeController
  disposed : adapter'.disposed = adapter.disposed
  aborted : adapter'.aborted = adapter.aborted

/-- Nor has anything been published. -/
structure Beside (adapter adapter' : HttpAdapter) : Prop extends SamePolls adapter adapter' where
  snapshot : adapter'.snapshot = adapter.snapshot
  published : adapter'.published = adapter.published

/-- The action is of the commands or of the listeners. -/
def Action.isBeside : Action → Bool
  | .tick | .pollFetched _ _ | .pollDecoded _ _ | .dispose => false
  | _ => true

theorem Beside.refl (adapter : HttpAdapter) : adapter.Beside adapter :=
  ⟨⟨rfl, rfl, rfl, rfl, rfl⟩, rfl, rfl⟩

theorem beside_onCommand {n : ℕ} {f : CommandTask → HttpAdapter}
    (hf : ∀ task, adapter.Beside (f task)) : adapter.Beside (adapter.onCommand n f) := by
  rw [onCommand]
  split
  · exact .refl adapter
  · exact hf _

/-- **Commands and listeners leave the polls alone**, and publish nothing. -/
theorem beside_next {a : Action} (ha : a.isBeside = true) : adapter.Beside (machine.next adapter a) := by
  cases a with
  | tick => exact absurd ha nofun
  | pollFetched controller succeeded => exact absurd ha nofun
  | pollDecoded controller wire => exact absurd ha nofun
  | dispose => exact absurd ha nofun
  | sendCommand n =>
    refine beside_onCommand fun task => ?_
    rw [sendCommand]
    repeat' split
    all_goals exact ⟨⟨rfl, rfl, rfl, rfl, rfl⟩, rfl, rfl⟩
  | commandFetched n now status =>
    refine beside_onCommand fun task => ?_
    rw [commandFetched.eq_def]
    repeat' split
    all_goals exact ⟨⟨rfl, rfl, rfl, rfl, rfl⟩, rfl, rfl⟩
  | commandDecoded n message =>
    refine beside_onCommand fun task => ?_
    cases message <;> exact ⟨⟨rfl, rfl, rfl, rfl, rfl⟩, rfl, rfl⟩
  | notify throws =>
    change adapter.Beside (adapter.notify throws)
    rw [notify]
    split <;> exact ⟨⟨rfl, rfl, rfl, rfl, rfl⟩, rfl, rfl⟩
  | subscribe listener =>
    change adapter.Beside (adapter.subscribe listener)
    rw [subscribe]
    split <;> exact ⟨⟨rfl, rfl, rfl, rfl, rfl⟩, rfl, rfl⟩
  | unsubscribe listener => exact ⟨⟨rfl, rfl, rfl, rfl, rfl⟩, rfl, rfl⟩
  | dispatch command =>
    change adapter.Beside (adapter.dispatch command)
    rcases dispatch_cases adapter command with ⟨receipt, heq⟩ | ⟨supported, -, heq⟩
    all_goals
      rw [heq]
      exact ⟨⟨rfl, rfl, rfl, rfl, rfl⟩, rfl, rfl⟩

/-! ### Polls -/

/-- **The flag is set while a poll is under way**, which then has the active controller; a
disposed adapter has aborted it. -/
structure PollSound (adapter : HttpAdapter) : Prop where
  length : adapter.polls.length = adapter.requestInFlight.toNat
  active : ∀ p ∈ adapter.polls, adapter.activeController = some p.controller
  aborted : adapter.disposed = true → ∀ p ∈ adapter.polls, p.controller ∈ adapter.aborted

theorem PollSound.congr {adapter' : HttpAdapter} (h : adapter.PollSound)
    (hsame : adapter.SamePolls adapter') : adapter'.PollSound := by
  obtain ⟨hpolls, hflag, hactive, hdisposed, haborted⟩ := hsame
  constructor
  · rw [hpolls, hflag]
    exact h.length
  · rw [hpolls, hactive]
    exact h.active
  · rw [hpolls, hdisposed, haborted]
    exact h.aborted

/-- **No poll begins while one is under way.** -/
theorem PollSound.poll (h : adapter.PollSound) : adapter.poll.PollSound := by
  rw [HttpAdapter.poll]
  split
  · exact h
  next hidle =>
    rw [Bool.not_eq_true, Bool.or_eq_false_iff] at hidle
    obtain ⟨hlive, hflag⟩ := hidle
    have hnone : adapter.polls = [] := by
      have hlength := h.length
      rw [hflag] at hlength
      exact List.length_eq_zero_iff.mp hlength
    constructor
    · change (adapter.polls ++ [_]).length = _
      rw [hnone]
      rfl
    · intro p hp
      change p ∈ adapter.polls ++ [_] at hp
      rw [hnone, List.nil_append, List.mem_singleton] at hp
      rw [hp]
    · intro hdisposed
      exact absurd (hlive.symm.trans hdisposed) (by rintro ⟨⟩)

/-- The one poll under way. -/
theorem PollSound.polls_eq (h : adapter.PollSound) {p : Poll} (hp : p ∈ adapter.polls) :
    adapter.polls = [p] := by
  have hle : adapter.polls.length ≤ 1 := h.length.le.trans (Bool.toNat_le _)
  obtain ⟨q, hq⟩ := List.length_eq_one_iff.mp
    (le_antisymm hle (List.length_pos_of_mem hp))
  rw [hq, List.mem_singleton] at hp
  rw [hq, hp]

/-- **Every way out of a poll resets the flag.** -/
theorem PollSound.leave (h : adapter.PollSound) {p : Poll} (hp : p ∈ adapter.polls) :
    (adapter.leave p.controller).PollSound := by
  have hnone : (adapter.leave p.controller).polls = [] := by
    change adapter.polls.filter _ = []
    rw [h.polls_eq hp, List.filter_eq_nil_iff]
    intro q hq
    obtain rfl := List.mem_singleton.mp hq
    simp
  refine ⟨?_, fun q hq => ?_, fun _ q hq => ?_⟩
  · rw [hnone]
    rfl
  · rw [hnone] at hq
    exact absurd hq List.not_mem_nil
  · rw [hnone] at hq
    exact absurd hq List.not_mem_nil

theorem samePolls_afterPoll (wire : Option WireSnapshot) :
    adapter.SamePolls (adapter.afterPoll wire) := by
  rw [afterPoll]
  split
  · exact ⟨rfl, rfl, rfl, rfl, rfl⟩
  · cases wire <;> exact ⟨rfl, rfl, rfl, rfl, rfl⟩

/-- **The polls stay sound**, whatever happens. -/
theorem PollSound.next {a : Action} (h : adapter.PollSound) (ha : machine.Enabled adapter a) :
    (machine.next adapter a).PollSound := by
  cases a with
  | tick => exact h.poll
  | pollFetched controller succeeded =>
    have hmem : (⟨controller, .fetch⟩ : Poll) ∈ adapter.polls := ha.2
    change (adapter.pollFetched controller succeeded).PollSound
    rw [pollFetched]
    split
    · exact h.leave hmem
    split
    · constructor
      · change (adapter.polls.map _).length = _
        rw [List.length_map]
        exact h.length
      · intro p hp
        obtain ⟨q, hq, rfl⟩ := List.mem_map.mp hp
        refine (h.active q hq).trans (congrArg some ?_)
        split <;> rfl
      · intro hdisposed p hp
        obtain ⟨q, hq, rfl⟩ := List.mem_map.mp hp
        have habort := h.aborted hdisposed q hq
        split <;> exact habort
    · exact (h.leave hmem).congr (samePolls_afterPoll none)
  | pollDecoded controller wire =>
    have hmem : (⟨controller, .decode⟩ : Poll) ∈ adapter.polls := ha.2
    change (adapter.pollDecoded controller wire).PollSound
    rw [pollDecoded]
    split
    · exact h.leave hmem
    · exact (h.leave hmem).congr (samePolls_afterPoll wire)
  | dispose =>
    change adapter.dispose.PollSound
    rw [dispose]
    split
    · exact h
    · refine ⟨h.length, h.active, fun _ p hp => ?_⟩
      change p.controller ∈ adapter.aborted ++ adapter.activeController.toList
      rw [h.active p hp]
      exact List.mem_append_right _ (List.mem_singleton_self _)
  | _ => exact h.congr (beside_next rfl).toSamePolls

/-! ### Publications -/

/-- **Revisions count the publications.** -/
structure Numbered (adapter : HttpAdapter) : Prop where
  revision : adapter.snapshot.revision = adapter.published.length
  revisions : adapter.published.map (·.revision) = List.range' 1 adapter.published.length

/-- What an action publishes: nothing, or a snapshot with the next revision. -/
inductive Publishes (adapter adapter' : HttpAdapter) : Prop
  | nothing (snapshot : adapter'.snapshot = adapter.snapshot)
      (published : adapter'.published = adapter.published)
  | next (revision : adapter'.snapshot.revision = adapter.snapshot.revision + 1)
      (published : adapter'.published = adapter.published ++ [adapter'.snapshot])

theorem publishes_afterPoll (adapter : HttpAdapter) (wire : Option WireSnapshot) :
    adapter.Publishes (adapter.afterPoll wire) := by
  rw [afterPoll]
  split
  · exact .nothing rfl rfl
  · cases wire <;> exact .next rfl rfl

/-- **An action publishes one snapshot at most**, and its revision is the next one. -/
theorem publishes_next (adapter : HttpAdapter) (a : Action) : adapter.Publishes (machine.next adapter a) := by
  have hleave : ∀ controller wire, adapter.Publishes ((adapter.leave controller).afterPoll wire) := by
    intro controller wire
    rcases publishes_afterPoll (adapter.leave controller) wire with ⟨h, h'⟩ | ⟨h, h'⟩
    · exact .nothing h h'
    · exact .next h h'
  have hbeside : a.isBeside = true → adapter.Beside (machine.next adapter a) := beside_next
  cases a with
  | tick =>
    change adapter.Publishes adapter.poll
    rw [poll]
    split <;> exact .nothing rfl rfl
  | pollFetched controller succeeded =>
    change adapter.Publishes (adapter.pollFetched controller succeeded)
    rw [pollFetched]
    split
    · exact .nothing rfl rfl
    split
    · exact .nothing rfl rfl
    · exact hleave controller none
  | pollDecoded controller wire =>
    change adapter.Publishes (adapter.pollDecoded controller wire)
    rw [pollDecoded]
    split
    · exact .nothing rfl rfl
    · exact hleave controller wire
  | dispose =>
    change adapter.Publishes adapter.dispose
    rw [dispose]
    split <;> exact .nothing rfl rfl
  | _ => exact .nothing (hbeside rfl).snapshot (hbeside rfl).published

theorem Numbered.next (h : adapter.Numbered) (a : Action) : (machine.next adapter a).Numbered := by
  rcases publishes_next adapter a with ⟨hsnapshot, hpublished⟩ | ⟨hrevision, hpublished⟩
  · constructor
    · rw [hsnapshot, hpublished]
      exact h.revision
    · rw [hpublished]
      exact h.revisions
  · have hlength : (machine.next adapter a).published.length = adapter.published.length + 1 := by
      rw [hpublished, List.length_append, List.length_singleton]
    constructor
    · rw [hrevision, hlength, h.revision]
    · rw [hlength, hpublished, List.map_append, h.revisions, List.range'_1_concat, List.map_singleton,
        hrevision, h.revision, Nat.add_comm]

/-! ### After dispose -/

/-- **A disposed adapter** has neither a timer nor a listener. -/
structure Silent (adapter : HttpAdapter) : Prop where
  disposed : adapter.disposed = true
  timer : adapter.timer = false
  listeners : adapter.listeners = []
  notifying : ∀ rest ∈ adapter.notifying, rest = []

/-- What can be seen of an adapter from outside is the same: the calls of listeners, what
has been published, and the requests that have been sent. -/
structure SameOutside (adapter adapter' : HttpAdapter) : Prop where
  calls : adapter'.calls = adapter.calls
  published : adapter'.published = adapter.published
  controllers : adapter'.controllers = adapter.controllers
  sent : adapter'.sent = adapter.sent

theorem SameOutside.trans {adapter' adapter'' : HttpAdapter} (h : adapter.SameOutside adapter')
    (h' : adapter'.SameOutside adapter'') : adapter.SameOutside adapter'' :=
  ⟨h'.calls.trans h.calls, h'.published.trans h.published, h'.controllers.trans h.controllers,
    h'.sent.trans h.sent⟩

/-- **A disposed adapter stays silent**, whatever still settles. -/
theorem Silent.next {a : Action} (h : adapter.Silent) (ha : machine.Enabled adapter a) :
    (machine.next adapter a).Silent ∧ adapter.SameOutside (machine.next adapter a) := by
  have hsilent : ∀ {adapter' : HttpAdapter}, adapter'.disposed = adapter.disposed →
      adapter'.timer = adapter.timer → adapter'.listeners = adapter.listeners →
      adapter'.notifying = adapter.notifying → adapter'.Silent := by
    intro adapter' hdisposed htimer hlisteners hnotifying
    refine ⟨hdisposed.trans h.disposed, htimer.trans h.timer, hlisteners.trans h.listeners, ?_⟩
    rw [hnotifying]
    exact h.notifying
  have hsame : adapter.SameOutside adapter := ⟨rfl, rfl, rfl, rfl⟩
  cases a with
  | tick => exact absurd (h.timer.symm.trans ha.2) (by rintro ⟨⟩)
  | pollFetched controller succeeded =>
    change (adapter.pollFetched controller succeeded).Silent ∧
      adapter.SameOutside (adapter.pollFetched controller succeeded)
    rw [pollFetched, if_pos h.disposed]
    exact ⟨hsilent rfl rfl rfl rfl, rfl, rfl, rfl, rfl⟩
  | pollDecoded controller wire =>
    change (adapter.pollDecoded controller wire).Silent ∧
      adapter.SameOutside (adapter.pollDecoded controller wire)
    rw [pollDecoded, if_pos h.disposed]
    exact ⟨hsilent rfl rfl rfl rfl, rfl, rfl, rfl, rfl⟩
  | sendCommand n =>
    change (adapter.onCommand n _).Silent ∧ adapter.SameOutside (adapter.onCommand n _)
    rw [onCommand]
    split
    · exact ⟨h, hsame⟩
    next task _ =>
      rw [sendCommand, if_pos h.disposed]
      exact ⟨hsilent rfl rfl rfl rfl, rfl, rfl, rfl, rfl⟩
  | commandFetched n now status =>
    change (adapter.onCommand n _).Silent ∧ adapter.SameOutside (adapter.onCommand n _)
    rw [onCommand]
    split
    · exact ⟨h, hsame⟩
    next task _ =>
      rw [commandFetched.eq_def]
      repeat' split
      all_goals exact ⟨hsilent rfl rfl rfl rfl, rfl, rfl, rfl, rfl⟩
  | commandDecoded n message =>
    change (adapter.onCommand n _).Silent ∧ adapter.SameOutside (adapter.onCommand n _)
    rw [onCommand]
    split
    · exact ⟨h, hsame⟩
    · cases message <;> exact ⟨hsilent rfl rfl rfl rfl, rfl, rfl, rfl, rfl⟩
  | notify throws =>
    change (adapter.notify throws).Silent ∧ adapter.SameOutside (adapter.notify throws)
    rw [notify]
    split
    next listener rest hrest => exact absurd (h.notifying _ hrest) (List.cons_ne_nil _ _)
    · exact ⟨⟨h.disposed, h.timer, h.listeners, by rintro _ ⟨⟩⟩, rfl, rfl, rfl, rfl⟩
  | subscribe listener =>
    change (adapter.subscribe listener).Silent ∧ adapter.SameOutside (adapter.subscribe listener)
    rw [subscribe, if_pos h.disposed]
    exact ⟨h, hsame⟩
  | unsubscribe listener =>
    refine ⟨⟨h.disposed, h.timer, ?_, fun rest hrest => ?_⟩, rfl, rfl, rfl, rfl⟩
    · change adapter.listeners.filter _ = []
      rw [h.listeners]
      rfl
    · obtain ⟨before, hbefore, rfl⟩ := Option.map_eq_some_iff.mp hrest
      rw [h.notifying before hbefore]
      rfl
  | dispatch command =>
    change (adapter.dispatch command).Silent ∧ adapter.SameOutside (adapter.dispatch command)
    rcases dispatch_cases adapter command with ⟨receipt, heq⟩ | ⟨supported, hlive, heq⟩
    · rw [heq]
      exact ⟨hsilent rfl rfl rfl rfl, rfl, rfl, rfl, rfl⟩
    · exact absurd (hlive.symm.trans h.disposed) (by rintro ⟨⟩)
  | dispose =>
    change adapter.dispose.Silent ∧ adapter.SameOutside adapter.dispose
    rw [dispose, if_pos h.disposed]
    exact ⟨h, hsame⟩

theorem sameOutside_after {as : List Action} (h : adapter.Silent) (hrun : machine.Run adapter as) :
    adapter.SameOutside (machine.after adapter as) := by
  induction as generalizing adapter with
  | nil => exact ⟨rfl, rfl, rfl, rfl⟩
  | cons a as ih =>
    obtain ⟨hnext, hsame⟩ := h.next hrun.1
    exact hsame.trans (ih hnext hrun.2)

theorem disposed_afterPoll (wire : Option WireSnapshot) :
    (adapter.afterPoll wire).disposed = adapter.disposed :=
  (samePolls_afterPoll wire).disposed

/-- Nothing but `dispose` disposes an adapter. -/
theorem disposed_next {a : Action} (ha : a ≠ .dispose) :
    (machine.next adapter a).disposed = adapter.disposed := by
  cases a with
  | tick =>
    change adapter.poll.disposed = _
    rw [poll]
    split <;> rfl
  | pollFetched controller succeeded =>
    change (adapter.pollFetched controller succeeded).disposed = _
    rw [pollFetched]
    split
    · rfl
    split
    · rfl
    · exact disposed_afterPoll none
  | pollDecoded controller wire =>
    change (adapter.pollDecoded controller wire).disposed = _
    rw [pollDecoded]
    split
    · rfl
    · exact disposed_afterPoll wire
  | dispose => exact absurd rfl ha
  | _ => exact (beside_next rfl).disposed

/-! ### The result -/

/-- **Everything that holds of the adapter.** -/
structure Sound (adapter : HttpAdapter) : Prop where
  polls : adapter.PollSound
  chain : adapter.ChainSound
  numbered : adapter.Numbered
  silent : adapter.disposed = true → adapter.Silent

theorem sound_create : create.Sound where
  polls := ⟨rfl, fun p hp => by rw [List.mem_singleton.mp hp]; rfl, nofun⟩
  chain := chainSound_create
  numbered := ⟨rfl, rfl⟩
  silent := nofun

theorem Sound.next {a : Action} (h : adapter.Sound) (ha : machine.Enabled adapter a) :
    (machine.next adapter a).Sound := by
  refine ⟨h.polls.next ha, h.chain.next ha, h.numbered.next a, fun hdisposed => ?_⟩
  cases hlive : adapter.disposed with
  | true => exact ((h.silent hlive).next ha).1
  | false =>
    obtain rfl : a = .dispose := by
      by_contra hother
      exact absurd (hlive.symm.trans ((disposed_next hother).symm.trans hdisposed)) nofun
    change adapter.dispose.Silent
    rw [dispose, if_neg (by rw [hlive]; decide)]
    refine ⟨rfl, rfl, rfl, fun rest hrest => ?_⟩
    obtain ⟨before, -, rfl⟩ := Option.map_eq_some_iff.mp hrest
    rfl

theorem sound_of_reachable (h : machine.Reachable create adapter) : adapter.Sound :=
  h.invariant (fun _ _ hs ha => hs.next ha) sound_create

/-- **The discipline of requests.** After every run of an adapter, whatever has fired,
settled, been dispatched or disposed of in it: at most one snapshot request and at most one
command request are in flight; commands are sent in the order in which they have been
dispatched, each after all before it have settled; dispatches are numbered as they come, and
there is one receipt for every one of them that is not pending, and none before; if one is
pending, then up to it some command has a request in flight or has its turn, and as long as
no other is dispatched commands go on a bounded number of times; revisions count the
publications; and once the adapter has been disposed, no listener is called, nothing is
published and no request is sent, whatever follows. -/
theorem request_discipline {past : List Action} (hpast : machine.Run create past) :
    let adapter := machine.after create past
    (adapter.polls.length ≤ 1 ∧ ∀ m n, adapter.InFlight m → adapter.InFlight n → m = n) ∧
    (adapter.sent.Pairwise (· < ·) ∧ ∀ n ∈ adapter.sent, ∀ m < n, ∀ t ∈ adapter.commands m,
      t.stage = .settled) ∧
    (adapter.commandSequence = past.countP Action.dispatches ∧
      (∀ n, (adapter.receipts.map Prod.fst).count n =
        if (1 ≤ n ∧ n ≤ past.countP Action.dispatches) ∧ ¬adapter.Pending n then 1 else 0) ∧
      (∀ n, adapter.Pending n → ∃ m ≤ n, adapter.InFlight m ∨ adapter.HasTurn m) ∧
      ∀ as, machine.Run adapter as → (∀ a ∈ as, a.dispatches = false) →
        (as.filter Action.goesOn).length + (machine.after adapter as).remaining ≤
          adapter.remaining) ∧
    (adapter.snapshot.revision = adapter.published.length ∧
      adapter.published.map (·.revision) = List.range' 1 adapter.published.length) ∧
    (adapter.disposed = true → ∀ as, machine.Run adapter as →
      (machine.after adapter as).calls = adapter.calls ∧
      (machine.after adapter as).published = adapter.published ∧
      (machine.after adapter as).controllers = adapter.controllers ∧
      (machine.after adapter as).sent = adapter.sent) := by
  intro adapter
  have hsequence : adapter.commandSequence = past.countP Action.dispatches :=
    (commandSequence_after hpast).trans (Nat.zero_add _)
  obtain ⟨hpolls, hchain, hnumbered, hsilent⟩ := sound_of_reachable ⟨past, hpast, rfl⟩
  refine ⟨⟨hpolls.length.le.trans (Bool.toNat_le _), fun m n => hchain.inFlight_unique⟩,
    ⟨hchain.increasing, fun n hn m hm t ht => ?_⟩,
    ⟨hsequence, fun n => ?_, fun n => hchain.exists_inFlight_or_hasTurn,
      fun as hrun hdispatches => hchain.length_filter_goesOn_le hdispatches hrun⟩,
    ⟨hnumbered.revision, hnumbered.revisions⟩, fun hdisposed as hrun => ?_⟩
  · obtain ⟨u, hu, hbegun⟩ := hchain.sent n hn
    exact hchain.order n u hu hbegun m hm t ht
  · rw [← hsequence]
    refine (hchain.receipts n).trans (if_congr (and_congr_right fun _ => ?_) rfl rfl)
    simp [Pending, adapter]
  · obtain ⟨hcalls, hpublished, hcontrollers, hsent⟩ := sameOutside_after (hsilent hdisposed) hrun
    exact ⟨hcalls, hpublished, hcontrollers, hsent⟩

/-- A run and a reset are dispatched before the first snapshot has come, and so is what
cannot be set yet; the request of the run and the poll fail, and the adapter is disposed
while the reset is in flight. -/
def failingRun : List Action :=
  [.subscribe 0, .dispatch .run, .dispatch .reset, .dispatch (.setThrottlerInstalled true),
    .sendCommand 1, .commandFetched 1 10 none, .sendCommand 2, .pollFetched 0 false, .notify false,
    .notify false, .dispose]

theorem request_discipline_failingRun :
    let adapter := machine.after create failingRun
    adapter.sent = [1, 2] ∧ adapter.InFlight 2 ∧
      (adapter.receipts.map Prod.fst).count 1 = 1 ∧ (adapter.receipts.map Prod.fst).count 2 = 0 ∧
      (adapter.receipts.map Prod.fst).count 3 = 1 ∧
      adapter.published.map (·.revision) = [1] ∧ adapter.calls.length = 2 ∧
      ∀ as, machine.Run adapter as → (machine.after adapter as).sent = [1, 2] := by
  intro adapter
  have hrun : machine.Run create failingRun := by decide +kernel
  obtain ⟨-, -, ⟨-, hreceipts, -⟩, ⟨-, hrevisions⟩, hsilent⟩ := request_discipline hrun
  have hsent : adapter.sent = [1, 2] := by decide +kernel
  have hflight : adapter.InFlight 2 := Or.inl (by decide +kernel)
  refine ⟨hsent, hflight, (hreceipts 1).trans (by decide +kernel),
    (hreceipts 2).trans (by decide +kernel), (hreceipts 3).trans (by decide +kernel), ?_,
    by decide +kernel, fun as hrun' => ?_⟩
  · exact hrevisions.trans (by decide +kernel)
  · exact (hsilent (by decide +kernel) as hrun').2.2.2.trans hsent

end HttpAdapter

end IngestionLab.Frontend
