import IngestionLab.Loadgen.EventLoop.Progress

/-!
# Teardown is bounded

While the event loop waits for a component it has stopped, the others go on: the file system
answers, attempts return, batches move. None of it gives the component more to do. What it has
left (`IngestionLab.Pipeline.ahead`) is known when the wait begins, every step of the component
lowers it and nothing else raises it, and until the wait is over the component has a step to
take.

* `IngestionLab.Service.teardown_bounded`: **a component that is waited for takes no more steps
  than it has left**, whatever is interleaved, and is never out of steps before its end.
-/

namespace IngestionLab

open Function Go

/-- One of the components of a run. -/
inductive Component
  | reader
  | throttler
  | sender
  deriving DecidableEq

/-- **Which component `stop` waits for**: the intake at its second call, the sender pool, the
reader pool and the throttler at their ends. -/
def Stmt.joins : Stmt → Option Component
  | .callSender .stopLock | .joinSender => some .sender
  | .joinReader => some .reader
  | .joinThrottler => some .throttler
  | _ => none

/-- The pointer to a component. -/
def Runtime.component (r : Runtime) : Component → Option ℕ
  | .reader => r.readerPool
  | .throttler => r.throttler
  | .sender => r.senderPool

namespace Pipeline

/-- The action is a step of a component. -/
def Action.isOf : Component → Action → Bool
  | .reader, .reader a => a.isOwn
  | .reader, .passToThrottler _ _ => true
  | .throttler, .throttler a => a.actor == .goroutine
  | .throttler, .passToThrottler _ _ | .throttler, .passToSender _ _ => true
  | .sender, .sender a => a.isOwn
  | .sender, .passToSender _ _ => true
  | _, _ => false

/-- **What a component has left to do.** -/
def ahead (now : ℕ) (q : Pipeline) : Component → ℕ
  | .reader => q.readerPool.elim 0 ReaderPool.ahead
  | .throttler => q.throttler.elim 0 fun t => t.ahead now q.readerBatches.buffer.length
  | .sender => q.senderPool.elim 0 SenderPool.ahead

/-- The cancellation of the run has reached a component. The sender pool needs none: `stop`
has cancelled its context itself. -/
def Reached (q : Pipeline) : Component → Prop
  | .reader => ∀ p ∈ q.readerPool, p.cancelled = true
  | .throttler => ∀ t ∈ q.throttler, t.cancelled = true
  | .sender => True

/-- **A component has been told to end**, and gets nothing more to do: a throttler no batch
from a reader and no settings. -/
def Told (q : Pipeline) : Component → Prop
  | .reader => ∀ p ∈ q.readerPool, p.cancelled = true
  | .throttler => (∀ t ∈ q.throttler, t.cancelled = true ∧ t.updating = none) ∧ q.ReaderQuiet
  | .sender => ∀ p ∈ q.senderPool, p.cancelled = true

variable {q : Pipeline} {sh : Memory} {root : Bool} {a : Action} {c : Component}

/-- A component that has been told stays told. -/
theorem Told.next (h : q.Told c) (ha : q.Enabled root sh a) : (q.next sh a).Told c := by
  cases c with
  | reader =>
    intro p' hp'
    obtain ⟨p, hp, rfl | ⟨b, -, -, rfl⟩⟩ := exists_reader_next ha hp'
    · exact h p' hp
    · exact ReaderPool.cancelled_next.mpr (Or.inl (h p hp))
  | throttler =>
    refine ⟨fun t' ht' => ?_, h.2.next ha⟩
    obtain ⟨t, ht, rfl | ⟨b, hb, -, rfl⟩⟩ := exists_throttler_next ha ht'
    · exact h.1 t' ht
    · exact ⟨Throttler.cancelled_next (h.1 t ht).1, Throttler.updating_next (h.1 t ht).2 hb⟩
  | sender =>
    intro p' hp'
    obtain ⟨p, hp, rfl | ⟨b, -, -, rfl⟩⟩ := exists_sender_next ha hp'
    · exact h p' hp
    · exact SenderPool.cancelled_next.mpr (Or.inl (h p hp))

/-- What a reader pool that has been told to end has left. -/
theorem ahead_reader_next (h : q.Told .reader) (ha : q.Enabled root sh a) :
    (q.next sh a).ahead sh.now .reader + (a.isOf .reader).toNat ≤ q.ahead sh.now .reader := by
  -- a step of the pool itself
  have hstep : ∀ b : ReaderPool.Action, (∃ p ∈ q.readerPool, p.Enabled sh b) → b.isOwn = true →
      (q.stepReader sh b).ahead sh.now .reader + 1 ≤ q.ahead sh.now .reader := by
    rintro b ⟨p, hp, hen⟩ hown
    have hlt := ReaderPool.ahead_next_lt (h p hp) hen hown
    simp only [ahead, stepReader, Option.mem_def.mp hp, Option.map_some, Option.elim_some]
    exact hlt
  cases a with
  | reader b =>
    cases hown : b.isOwn with
    | true =>
      rw [Action.isOf, hown]
      exact hstep b ha.1 hown
    | false =>
      obtain ⟨p, hp, -⟩ := ha.1
      have heq : (p.next sh b).ahead = p.ahead := ReaderPool.ahead_next_eq (h p hp) hown
      simp only [ahead, Action.isOf, hown, next, stepReader, Option.mem_def.mp hp, Option.map_some,
        Option.elim_some, heq]
      exact Nat.le_refl _
  | passToThrottler b b' =>
    refine hstep b ha.1 ?_
    have hactor := ReaderPool.Action.actor_of_meet ha.2.2.1
    cases b <;> first | rfl | cases hactor
  | throttler b => exact Nat.le_refl _
  | sender b => exact Nat.le_refl _
  | passToSender b b' => exact Nat.le_refl _

/-- What a sender pool that has been told to end has left. -/
theorem ahead_sender_next (hs : q.Sound) (h : q.Told .sender) (ha : q.Enabled root sh a) :
    (q.next sh a).ahead sh.now .sender + (a.isOf .sender).toNat ≤ q.ahead sh.now .sender := by
  have hstep : ∀ b : SenderPool.Action, (∃ p ∈ q.senderPool, p.Enabled sh.now b) → b.isOwn = true →
      (q.stepSender sh b).ahead sh.now .sender + 1 ≤ q.ahead sh.now .sender := by
    rintro b ⟨p, hp, hen⟩ hown
    have hlt := SenderPool.ahead_next_lt (hs.sender p hp).1 (hs.sender p hp).2.1 (h p hp) hen hown
    simp only [ahead, stepSender, Option.mem_def.mp hp, Option.map_some, Option.elim_some]
    exact hlt
  cases a with
  | sender b =>
    cases hown : b.isOwn with
    | true =>
      rw [Action.isOf, hown]
      exact hstep b ha.1 hown
    | false =>
      -- of the others only a cancellation is a step of the pipeline
      obtain ⟨p, hp, -⟩ := ha.1
      obtain rfl : b = .cancel := by
        have hactor := actor_ne_of_mayAct ha.2.1
        cases b <;> first | rfl | exact absurd rfl hactor | cases hown
      simp only [ahead, Action.isOf, hown, next, stepSender, Option.mem_def.mp hp, Option.map_some,
        Option.elim_some]
      exact Nat.le_refl _
  | passToSender b b' =>
    refine hstep b' ha.2.1 ?_
    have hactor := SenderPool.Action.actor_of_meet ha.2.2.1
    cases b' <;> first | rfl | cases hactor
  | reader b => exact Nat.le_refl _
  | throttler b => exact Nat.le_refl _
  | passToThrottler b b' => exact Nat.le_refl _

/-- The readers that have ended neither send nor meet anyone. -/
theorem op_of_readerQuiet {b : ReaderPool.Action} (hs : q.Sound) (h : q.ReaderQuiet)
    (hen : ∃ p ∈ q.readerPool, p.Enabled sh b) : b.op = .nothing := by
  obtain ⟨p, hp, hen⟩ := hen
  have hown : b.isOwn = false := by
    rw [← Bool.not_eq_true]
    exact fun hown => ReaderPool.not_enabled_of_closed (hs.reader p hp) (h p hp) hown hen
  cases b <;> first | rfl | cases hown

/-- What a throttler that has been told to end has left. -/
theorem ahead_throttler_next (hs : q.Sound) (hl : q.Lively) (h : q.Told .throttler)
    (ha : q.Enabled root sh a) :
    (q.next sh a).ahead sh.now .throttler + (a.isOf .throttler).toNat ≤
      q.ahead sh.now .throttler := by
  obtain ⟨htold, hquiet⟩ := h
  have hstep : ∀ b : Throttler.Action, (∃ t ∈ q.throttler, t.Enabled sh.now b) →
      b.actor = .goroutine → q.readerBatches.Allows b.input → ∀ q' : Pipeline,
      q'.throttler = q.throttler.map (·.next sh.now b) →
      q'.readerBatches = q.readerBatches.apply b.input →
      q'.ahead sh.now .throttler + 1 ≤ q.ahead sh.now .throttler := by
    rintro b ⟨t, ht, hen⟩ hactor hin q' hthrottler hbatches
    have hlt := Throttler.ahead_next_lt (hl.throttler t ht) (htold t ht).1 (htold t ht).2 hen hactor hin
    simp only [ahead, hthrottler, hbatches, Option.mem_def.mp ht, Option.map_some, Option.elim_some]
    exact hlt
  cases a with
  | throttler b =>
    by_cases hactor : b.actor = .goroutine
    · simp only [Action.isOf, hactor, beq_self_eq_true]
      exact hstep b ha.1 hactor ha.2.2.1 _ rfl rfl
    · obtain ⟨t, ht, -⟩ := ha.1
      obtain rfl : b = .cancel := by
        have hother := actor_ne_of_mayAct ha.2.1
        cases b <;> first | rfl | exact absurd rfl hother | exact absurd rfl hactor
      simp only [ahead, Action.isOf, next, stepThrottler, Option.mem_def.mp ht, Option.map_some,
        Option.elim_some]
      exact Nat.le_refl _
  | passToThrottler b b' =>
    have hop := op_of_readerQuiet hs hquiet ha.1
    have hmeet := ha.2.2.1
    rw [hop] at hmeet
    exact absurd hmeet id
  | passToSender b b' =>
    obtain ⟨hactor, hin⟩ := Throttler.Action.actor_of_meet_output ha.2.2.1
    have hnothing : b.input = .nothing := by
      have hmeet := ha.2.2.1
      cases b <;> first | rfl | exact absurd hmeet id
    refine hstep b ha.1 hactor (by rw [hnothing]; trivial) _ rfl ?_
    rw [hnothing]
    rfl
  | reader b =>
    have hop := op_of_readerQuiet hs hquiet ha.1
    simp only [ahead, Action.isOf, next, hop]
    exact Nat.le_refl _
  | sender b => exact Nat.le_refl _

/-- **A component that has been told to end uses up what it has left**, a step at a time. -/
theorem ahead_next (hs : q.Sound) (hl : q.Lively) (h : q.Told c) (ha : q.Enabled root sh a) :
    (q.next sh a).ahead sh.now c + (a.isOf c).toNat ≤ q.ahead sh.now c := by
  cases c with
  | reader => exact ahead_reader_next h ha
  | throttler => exact ahead_throttler_next hs hl h ha
  | sender => exact ahead_sender_next hs h ha

/-- Time that passes leaves no component more to do. -/
theorem ahead_mono {now now' : ℕ} (hle : now ≤ now') (q : Pipeline) (c : Component) :
    q.ahead now' c ≤ q.ahead now c := by
  cases c with
  | reader => exact Nat.le_refl _
  | sender => exact Nat.le_refl _
  | throttler =>
    cases ht : q.throttler with
    | none => simp only [ahead, ht, Option.elim_none, le_refl]
    | some t =>
      simp only [ahead, ht, Option.elim_some]
      exact t.ahead_mono hle _

end Pipeline

namespace Service

variable {s t u : Service} {cfg : Config} {net : NetParsers} {now i : ℕ} {c : Component} {st : Stmt}
  {rest : List Stmt}

/-- What a component the runtime points to has left to do. -/
def ahead (s : Service) (c : Component) : ℕ :=
  (s.runtime.component c).elim 0 fun i => (s.pipeline i).ahead s.memory.now c

/-- The action is a step of a component the runtime points to. -/
def isStepOf (s : Service) (c : Component) : Action → Bool
  | .pipeline i a => decide (s.runtime.component c = some i) && a.isOf c
  | _ => false

/-- **What is waited for has been told to end.** -/
theorem told_of_joins (hcfg : cfg.validate net = none)
    (h : machine.Reachable (newService cfg now) s) (htodo : s.todo = st :: rest)
    (hst : st.joins = some c) (hi : i ∈ s.runtime.component c) (hreached : (s.pipeline i).Reached c) :
    (s.pipeline i).Told c := by
  obtain ⟨f, x, y, hf, hx, hy⟩ := exists_waits h htodo
  have hlive := (lively_of_reachable hcfg h i).sender
  cases st
  case callSender a =>
    cases a
    case stopLock =>
      obtain rfl := Option.some.inj hst
      obtain ⟨pc, hcall, -⟩ := Option.map_eq_some_iff.mp hy
      refine fun p hp => (hlive p hp).boundary.canceled ?_
      rw [((hx.sender i hi p hp).stop.of_called hcall).2.1 rfl]
      rintro ⟨⟩
    all_goals cases hst
  case joinSender =>
    obtain rfl := Option.some.inj hst
    refine fun p hp => (hlive p hp).boundary.canceled fun hrunning => ?_
    have hret := hasReturned_of_joinSender hf hx hy hi hp
    rw [hrunning] at hret
    cases hret
  case joinReader =>
    obtain rfl := Option.some.inj hst
    exact hreached
  case joinThrottler =>
    obtain rfl := Option.some.inj hst
    obtain ⟨-, hquiet, hnone⟩ := told_of_joinThrottler hf hx hy hi
    exact ⟨fun t ht => ⟨hreached t ht, hnone t ht⟩, hquiet⟩
  all_goals cases hst

/-- What holds while the event loop waits. -/
structure Waiting (cfg : Config) (now : ℕ) (r : Runtime) (todo : List Stmt) (c : Component)
    (s : Service) : Prop where
  reachable : machine.Reachable (newService cfg now) s
  todo : s.todo = todo
  runtime : s.runtime = r
  told : ∀ i ∈ s.runtime.component c, (s.pipeline i).Told c

/-- **While the event loop waits for a component, what it has left is used up.** -/
theorem Waiting.next {a : Action} {r : Runtime} (hcfg : cfg.validate net = none)
    (h : Waiting cfg now r (st :: rest) c u) (ha : machine.Enabled u a) (hwait : a ≠ .exec) :
    Waiting cfg now r (st :: rest) c (machine.next u a) ∧
      (machine.next u a).ahead c + (u.isStepOf c a).toNat ≤ u.ahead c := by
  obtain ⟨hreach, htodo, hruntime, htold⟩ := h
  cases a with
  | exec => exact absurd rfl hwait
  | event e =>
    have hnil := ha.1
    rw [htodo] at hnil
    cases hnil
  | cancelRoot => exact ⟨⟨hreach.step ha, htodo, hruntime, htold⟩, Nat.le_refl _⟩
  | clock now' =>
    refine ⟨⟨hreach.step ha, htodo, hruntime, htold⟩, ?_⟩
    cases hp : u.runtime.component c with
    | none => simp only [ahead, machine, hp, isStepOf, Option.elim_none, Bool.toNat_false, le_refl]
    | some i =>
      simp only [ahead, machine, hp, isStepOf, Option.elim_some]
      exact Pipeline.ahead_mono ha _ c
  | pipeline run b =>
    have hnow : (machine.next u (.pipeline run b)).memory.now = u.memory.now :=
      now_remember u.memory b
    refine ⟨⟨hreach.step ha, htodo, hruntime, fun i hi => ?_⟩, ?_⟩
    · simp only [machine, update_apply]
      split
      · rename_i heq
        subst heq
        exact (htold i hi).next ha.2
      · exact htold i hi
    · rw [ahead, hnow]
      cases hp : u.runtime.component c with
      | none => simp [ahead, machine, hp, isStepOf]
      | some i =>
        by_cases heq : i = run
        · subst heq
          obtain ⟨f, hf⟩ := exists_holds hreach
          have hlt := Pipeline.ahead_next (hf.inOrder i).sound (lively_of_reachable hcfg hreach i)
            (htold i hp) ha.2
          simpa only [ahead, machine, hp, isStepOf, Option.elim_some, update_self, decide_true,
            Bool.true_and] using hlt
        · have hno : ¬some i = some run := fun h => heq (Option.some.inj h)
          simp only [ahead, machine, hp, isStepOf, Option.elim_some, update_of_ne heq,
            decide_eq_false hno, Bool.false_and]
          exact Nat.le_refl _

/-- **Until the wait is over the component has a step to take.** -/
theorem exists_step_of_joins (hcfg : cfg.validate net = none)
    (h : machine.Reachable (newService cfg now) s) (htodo : s.todo = st :: rest)
    (hst : st.joins = some c) (htold : ∀ i ∈ s.runtime.component c, (s.pipeline i).Told c)
    (hnot : ¬s.Ready st) : ∃ a, machine.Enabled s a ∧ s.isStepOf c a = true := by
  obtain ⟨f, x, y, hf, hx, hy⟩ := exists_waits h htodo
  have hlive := lively_of_reachable hcfg h
  have hstep : ∀ {i : ℕ} {a : Pipeline.Action}, i ∈ s.runtime.component c → a.isOf c = true →
      machine.Enabled s (.pipeline i a) → ∃ a, machine.Enabled s a ∧ s.isStepOf c a = true := by
    intro i a hi hof hen
    refine ⟨.pipeline i a, hen, ?_⟩
    rw [isStepOf, decide_eq_true (Option.mem_def.mp hi), hof, Bool.true_and]
  cases st
  case callSender a =>
    cases a
    case stopLock =>
      obtain rfl := Option.some.inj hst
      obtain ⟨i, hi, p, hp, hen⟩ := exists_mem_of_not hnot
      obtain ⟨pc, hcall, -⟩ := Option.map_eq_some_iff.mp hy
      have hcanceled := ((hx.sender i hi p hp).stop.of_called hcall).2.1 rfl
      obtain ⟨b, hown, hfree⟩ := ((hlive i).sender p hp).exists_step_to_lock hcanceled
        (fun hmu => hen ⟨hcanceled, hmu⟩) s.memory.now
      exact hstep (a := .sender b) hi hown (enabled_sender hf hi hp hfree).1
    all_goals cases hst
  case joinSender =>
    obtain rfl := Option.some.inj hst
    obtain ⟨i, hi, p, hp, hopen⟩ := exists_mem_of_not hnot
    obtain ⟨b, hown, hfree⟩ := ((hlive i).sender p hp).exists_step_to_join
      ((hf.inOrder i).sound.sender p hp).2.2 (hasReturned_of_joinSender hf hx hy hi hp) hopen
      s.memory.now
    exact hstep (a := .sender b) hi hown (enabled_sender hf hi hp hfree).1
  case joinReader =>
    obtain rfl := Option.some.inj hst
    obtain ⟨i, hi, p, hp, hopen⟩ := exists_mem_of_not hnot
    obtain ⟨b, hown, hen, hop⟩ := ReaderPool.exists_step ((hf.inOrder i).sound.reader p hp)
      ((hlive i).reader p hp) (htold i hi p hp) hopen s.memory (s.pipeline i).readerBatches
    have hactor : b.actor = .goroutine := by cases b <;> first | rfl | cases hown
    exact hstep (a := .reader b) hi hown
      (enabled_reader hf hi hp hen (by rw [hactor]; trivial) hop).1
  case joinThrottler =>
    obtain rfl := Option.some.inj hst
    obtain ⟨i, hi, t, ht, hpc⟩ := exists_mem_of_not hnot
    obtain ⟨b, hfree, -, -⟩ :=
      Throttler.exists_step_to_exit ((htold i hi).1 t ht).1 hpc s.memory.now
    have hof : Pipeline.Action.isOf .throttler (.throttler b) = true := by
      rw [Pipeline.Action.isOf, hfree.actor]
      rfl
    exact hstep (a := .throttler b) hi hof (enabled_throttler hf hi ht hfree.enabled
      (by rw [hfree.actor]; trivial) hfree.input hfree.output).1
  all_goals cases hst

/-- **Teardown is bounded.** Where the event loop waits for the intake of the sender pool, or
for the end of the sender pool, of the reader pool or of the throttler, and the cancellation
has reached it: in every run during the wait, whatever is interleaved and however long it is,
the component takes no more steps than it had left when the wait began, and what it then has
left has become less by as many; and as long as the wait is not over, it has a step to take. -/
theorem teardown_bounded (hcfg : cfg.validate net = none)
    (h : machine.Reachable (newService cfg now) s) (htodo : s.todo = st :: rest)
    (hst : st.joins = some c) (hreached : ∀ i ∈ s.runtime.component c, (s.pipeline i).Reached c)
    {as : List Action} (hrun : machine.Run s as) (hwait : ∀ a ∈ as, a ≠ .exec) :
    let t := machine.after s as
    as.countP (s.isStepOf c) + t.ahead c ≤ s.ahead c ∧
      (¬t.Ready st → ∃ a, machine.Enabled t a ∧ s.isStepOf c a = true) := by
  intro t
  have htold : ∀ i ∈ s.runtime.component c, (s.pipeline i).Told c := fun i hi =>
    told_of_joins hcfg h htodo hst hi (hreached i hi)
  have hstart : Waiting cfg now s.runtime (st :: rest) c s := ⟨h, htodo, rfl, htold⟩
  have hsteps : ∀ {u : Service}, u.runtime = s.runtime → u.isStepOf c = s.isStepOf c := by
    intro u hruntime
    funext a
    cases a <;> simp only [isStepOf, hruntime]
  have hranks : machine.Ranks (Waiting cfg now s.runtime (st :: rest) c) (· ≠ .exec) (s.isStepOf c)
      fun u => u.ahead c := by
    refine ⟨fun u a hu ha hne => (hu.next hcfg ha hne).1, fun u a hu ha hne hcounts => ?_,
      fun u a hu ha hne hcounts => ?_⟩
    all_goals
      have hle := (hu.next hcfg ha hne).2
      rw [hsteps hu.runtime, hcounts] at hle
    · exact hle
    · exact hle
  refine ⟨hranks.countP_add_le hstart hrun hwait, fun hnot => ?_⟩
  have hlead : machine.Leads (· ≠ .exec) s t := ⟨as, hrun, rfl, hwait⟩
  have hend : Waiting cfg now s.runtime (st :: rest) c t :=
    hlead.invariant (fun u a hu ha hne => (hu.next hcfg ha hne).1) hstart
  obtain ⟨a, hen, hof⟩ := exists_step_of_joins hcfg hend.reachable hend.todo hst hend.told hnot
  rw [hsteps hend.runtime] at hof
  exact ⟨a, hen, hof⟩

/-- The intake holds its mutex in the select when the run is stopped. -/
def heldIntake : List Action :=
  startedRun ++
    (([.intakeFound, .intakeTest, .intakeEnter, .intakeTestEntered] : List SenderPool.Action).map
      fun a => .pipeline 0 (.sender a)) ++ [.cancelRoot, .event .done, .exec]

/-- It leaves in two steps, and `stop` can go on. -/
theorem teardown_bounded_heldIntake :
    let s := machine.after (newService exampleConfig 0) heldIntake
    let as : List Action :=
      [.pipeline 0 (.sender .intakeCanceled), .clock 1, .pipeline 0 (.sender .intakeLeave)]
    s.todo.head? = some (.callSender .stopLock) ∧ ¬s.Ready (.callSender .stopLock) ∧
      as.countP (s.isStepOf .sender) = 2 ∧
      2 + (machine.after s as).ahead .sender ≤ s.ahead .sender := by
  intro s as
  have hrun : machine.Run (newService exampleConfig 0) heldIntake := by decide +kernel
  have hlast : machine.Run s as := by decide +kernel
  have hend : s.todo = .callSender .stopLock :: s.todo.tail ∧ ¬s.Ready (.callSender .stopLock) ∧
      as.countP (s.isStepOf .sender) = 2 := by decide +kernel
  have hvalid : exampleConfig.validate exampleParsers = none := by decide +kernel
  have hwait : ∀ a ∈ as, a ≠ .exec := by
    rintro a ha rfl
    simp [as] at ha
  have hbound := (teardown_bounded (c := .sender) hvalid ⟨_, hrun, rfl⟩ hend.1 rfl
    (fun _ _ => trivial) hlast hwait).1
  rw [hend.2.2] at hbound
  exact ⟨by rw [hend.1]; rfl, hend.2.1, hend.2.2, hbound⟩

end Service

end IngestionLab
