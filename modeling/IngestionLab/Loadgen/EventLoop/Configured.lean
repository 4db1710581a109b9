import IngestionLab.Loadgen.Config.Valid
import IngestionLab.Loadgen.EventLoop.Applied

/-!
# Configured, applied, rejected

What a client can rely on between two events. The controls are always within the bounds
of the configuration (`IngestionLab.ControlsAllowed`); a command that is rejected does
nothing but answer (`IngestionLab.Service.of_rejected`); and the controls, the pipeline
and the run state agree: `IngestionLab.Service.applied_equals_configured`.
-/

namespace IngestionLab

open Go Function

/-! ### The controls are allowed -/

/-- **Every control is within the bounds of its configuration.** -/
structure ControlsAllowed (cfg : Config) (c : ConfiguredControls) : Prop where
  readBatchSize : cfg.reader.readBatchSize.contains c.readBatchSize = true
  readerWorkers : cfg.reader.workers.contains c.readerWorkers = true
  readerChannelCapacity : cfg.readerChannel.capacity.contains c.readerChannelCapacity = true
  senderChannelCapacity : cfg.senderChannel.capacity.contains c.senderChannelCapacity = true
  requestedTPS : cfg.throttler.requestedTPS.contains c.requestedTPS = true
  installed : cfg.throttler.installed.contains c.installed = true
  senderWorkers : cfg.sender.workers.contains c.senderWorkers = true

/-- A statement stores only what is allowed. -/
def Stmt.Allowed (cfg : Config) : Stmt → Prop
  | .setReadBatchSize value => cfg.reader.readBatchSize.contains value = true
  | .setReaderWorkers value => cfg.reader.workers.contains value = true
  | .setCapacity .reader value => cfg.readerChannel.capacity.contains value = true
  | .setCapacity .sender value => cfg.senderChannel.capacity.contains value = true
  | .setRequestedTPS value => cfg.throttler.requestedTPS.contains value = true
  | .setInstalled installed => cfg.throttler.installed.contains installed = true
  | .setSenderWorkers value => cfg.sender.workers.contains value = true
  | _ => True

/-- The controls a valid configuration starts with are allowed. -/
theorem Config.Valid.controlsAllowed {cfg : Config} (h : cfg.Valid) :
    ControlsAllowed cfg (newControlState cfg).controls where
  readBatchSize := h.readBatchSize.contains
  readerWorkers := by simp [newControlState, h.readerWorkers, RangeConfig.contains]
  readerChannelCapacity := h.readerChannel.contains
  senderChannelCapacity := h.senderChannel.contains
  requestedTPS := h.requestedTPS.contains
  installed := h.installed.contains
  senderWorkers := by simp [newControlState, h.senderWorkers, RangeConfig.contains]

/-- Allowed controls are not negative, and there is at least one worker of each kind. -/
theorem ControlsAllowed.nonneg {cfg : Config} {c : ConfiguredControls} (h : ControlsAllowed cfg c)
    (hcfg : cfg.Valid) : 0 < c.readBatchSize ∧ 1 ≤ c.readerWorkers ∧ 0 ≤ c.readerChannelCapacity ∧
      0 ≤ c.senderChannelCapacity ∧ 0 ≤ c.requestedTPS ∧ 1 ≤ c.senderWorkers := by
  have hreader := h.readerWorkers
  have hsender := h.senderWorkers
  rw [hcfg.readerWorkers] at hreader
  rw [hcfg.senderWorkers] at hsender
  exact ⟨hcfg.readBatchSizeMin.trans_le (RangeConfig.bounds_of_contains h.readBatchSize).1,
    (RangeConfig.bounds_of_contains hreader).1,
    hcfg.readerChannel.nonneg _ (AllowedConfig.mem_of_contains h.readerChannelCapacity),
    hcfg.senderChannel.nonneg _ (AllowedConfig.mem_of_contains h.senderChannelCapacity),
    hcfg.requestedTPSMin.trans (RangeConfig.bounds_of_contains h.requestedTPS).1,
    (RangeConfig.bounds_of_contains hsender).1⟩

namespace Service

variable {s t : Service} {cfg : Config} {now : ℕ}

/-- The configuration is kept, the controls are allowed, and so is what is still to be
stored. -/
structure InBounds (cfg : Config) (s : Service) : Prop where
  config : s.control.config = cfg
  controls : ControlsAllowed cfg s.control.controls
  todo : ∀ st ∈ s.todo, st.Allowed cfg

/-- The program of an event stores only what is allowed. -/
theorem allowed_program (s : Service) (e : Event) : ∀ st ∈ s.program e, st.Allowed s.control.config := by
  have hprogram := program_cases s e
  generalize s.control.run.state = state at hprogram
  generalize s.program e = p at hprogram ⊢
  cases hprogram
  all_goals
    simp_all [Stmt.Allowed, snapshots, prepareRun, resumeRun, pauseRun, stop, resetProgress,
      resetFaultedMeasurements]

/-- A statement that stores what is allowed keeps the controls allowed. -/
theorem ControlsAllowed.exec {st : Stmt} (h : ControlsAllowed cfg s.control.controls)
    (hst : st.Allowed cfg) : ControlsAllowed cfg (s.exec st).control.controls := by
  cases st
  case setReadBatchSize value => exact { h with readBatchSize := hst }
  case setReaderWorkers value => exact { h with readerWorkers := hst }
  case setCapacity c value =>
    cases c
    · exact { h with readerChannelCapacity := hst }
    · exact { h with senderChannelCapacity := hst }
  case setRequestedTPS value => exact { h with requestedTPS := hst }
  case setInstalled installed => exact { h with installed := hst }
  case setSenderWorkers value => exact { h with senderWorkers := hst }
  case startChannel c =>
    rw [Service.exec]
    split <;> exact h
  case seeChannel c => cases c <;> exact h
  all_goals simpa [Service.exec, onRun, onChannel] using h

/-- No statement touches the configuration. -/
theorem config_exec (s : Service) (st : Stmt) : (s.exec st).control.config = s.control.config := by
  cases st
  case setCapacity c value => cases c <;> rfl
  case startChannel c =>
    rw [exec]
    split <;> rfl
  case seeChannel c => cases c <;> rfl
  all_goals simp [exec, onRun, onControls, onChannel]

/-- **The controls stay within their bounds.** -/
theorem InBounds.next {a : Action} (h : s.InBounds cfg) (ha : machine.Enabled s a) :
    (machine.next s a).InBounds cfg := by
  cases a with
  | clock now => exact { h with }
  | cancelRoot => exact { h with }
  | pipeline run a => exact { h with }
  | event e =>
    have hcontrol : (machine.next s (.event e)).control = s.control := by
      cases e <;> simp [machine, take]
    refine ⟨by rw [hcontrol]; exact h.config, by rw [hcontrol]; exact h.controls, fun st hst => ?_⟩
    rw [← h.config]
    exact allowed_program s e st hst
  | exec =>
    obtain ⟨st, hst, -⟩ := ha
    obtain ⟨rest, htodo⟩ := List.head?_eq_some_iff.mp hst
    have hall := h.todo
    rw [htodo] at hall
    simp only [machine, htodo]
    exact
      { config := (config_exec s st).trans h.config
        controls := ControlsAllowed.exec h.controls (hall st List.mem_cons_self)
        todo := fun st' hst' => hall st' (List.mem_cons_of_mem st hst') }

/-- In every state of the service the controls are within their bounds. -/
theorem inBounds_of_reachable (hcfg : cfg.Valid) (h : machine.Reachable (newService cfg now) s) :
    s.InBounds cfg :=
  h.invariant (I := InBounds cfg) (fun _ _ hs ha => hs.next ha)
    ⟨rfl, hcfg.controlsAllowed, fun _ hst => absurd hst List.not_mem_nil⟩

/-! ### Rejected commands -/

/-- The action is none of the event loop. -/
def Action.isEnv : Action → Bool
  | .clock _ | .cancelRoot | .pipeline _ _ => true
  | .event _ | .exec => false

/-- A program that rejects does nothing else. -/
theorem program_eq_of_rejected {c : Command} (h : .respond .rejected ∈ s.program (.command c)) :
    s.program (.command c) = [.respond .rejected] := by
  have hprogram := program_cases s (.command c)
  generalize s.control.run.state = state at hprogram
  generalize s.program (.command c) = p at h hprogram ⊢
  cases hprogram
  case reject => rfl
  all_goals
    simp [snapshots, prepareRun, resumeRun, pauseRun, stop, resetProgress,
      resetFaultedMeasurements] at h

/-- What is beside the event loop goes on alike, whatever is to be executed and has been
answered. -/
theorem next_env {a : Action} (ha : a.isEnv = true) (todo : List Stmt) (responses : List Response) :
    machine.next { s with todo := todo, responses := responses } a =
      { machine.next s a with todo := todo, responses := responses } ∧
    (machine.Enabled { s with todo := todo, responses := responses } a ↔ machine.Enabled s a) ∧
    (machine.next s a).todo = s.todo ∧ (machine.next s a).responses = s.responses := by
  cases a with
  | clock now => exact ⟨rfl, Iff.rfl, rfl, rfl⟩
  | cancelRoot => exact ⟨rfl, Iff.rfl, rfl, rfl⟩
  | pipeline run a => exact ⟨rfl, Iff.rfl, rfl, rfl⟩
  | event e => exact absurd ha nofun
  | exec => exact absurd ha nofun

/-- What is beside the event loop while a rejection is answered: it goes on as it would
have without the command. -/
theorem run_rejected {as : List Action} {todo : List Stmt} {responses : List Response}
    (htodo : todo = [] ∨ todo = [.respond .rejected]) (hs : s.todo = [])
    (hevents : ∀ a ∈ as, ∀ e, a ≠ .event e)
    (hrun : machine.Run { s with todo := todo, responses := responses } as)
    (hdone : (machine.after { s with todo := todo, responses := responses } as).todo = []) :
    machine.Run s (as.filter Action.isEnv) ∧
      machine.after { s with todo := todo, responses := responses } as =
        { machine.after s (as.filter Action.isEnv) with
          responses := responses ++ todo.map fun _ => .rejected } := by
  induction as generalizing s todo responses with
  | nil =>
    have hnone : todo = [] := hdone
    refine ⟨trivial, ?_⟩
    rw [hnone, List.map_nil, List.append_nil, ← hs]
    rfl
  | cons a as ih =>
    have hrest : ∀ b ∈ as, ∀ e, b ≠ .event e := fun b hb => hevents b (List.mem_cons_of_mem a hb)
    by_cases ha : a.isEnv = true
    · obtain ⟨hnext, hen, hkeep, -⟩ := next_env (s := s) ha todo responses
      rw [Machine.run_cons, hnext, hen] at hrun
      rw [Machine.after_cons, hnext] at hdone ⊢
      obtain ⟨hrun', hafter⟩ := ih htodo (hkeep.trans hs) hrest hrun.2 hdone
      rw [List.filter_cons_of_pos ha]
      exact ⟨⟨hrun.1, hrun'⟩, hafter⟩
    · obtain rfl : a = .exec := by
        cases a with
        | exec => rfl
        | event e => exact absurd rfl (hevents _ List.mem_cons_self e)
        | clock now => exact absurd rfl ha
        | cancelRoot => exact absurd rfl ha
        | pipeline run a => exact absurd rfl ha
      rcases htodo with rfl | rfl
      · obtain ⟨i, hi, -⟩ := hrun.1
        exact absurd hi (Option.not_mem_none i)
      · obtain ⟨hrun', hafter⟩ := ih (Or.inl rfl) hs hrest hrun.2 hdone
        rw [List.filter_cons_of_neg ha]
        refine ⟨hrun', hafter.trans ?_⟩
        simp only [List.map_nil, List.append_nil, List.map_cons, exec]

/-- What is executed answers no rejection that is not in the program. -/
theorem count_rejected_exec {st : Stmt} (hst : st ≠ .respond .rejected) :
    (s.exec st).responses.count .rejected = s.responses.count .rejected := by
  rw [responses_exec, List.count_append]
  cases st
  case respond response =>
    have hne : response ≠ .rejected := fun h => hst (by rw [h])
    simp [answer, hne]
  all_goals simp [answer]

/-- A program without a rejection answers none. -/
theorem count_rejected_run {as : List Action} (htodo : .respond .rejected ∉ s.todo)
    (hevents : ∀ a ∈ as, ∀ e, a ≠ .event e) (hrun : machine.Run s as) :
    (machine.after s as).responses.count .rejected = s.responses.count .rejected := by
  induction as generalizing s with
  | nil => rfl
  | cons a as ih =>
    have hrest : ∀ b ∈ as, ∀ e, b ≠ .event e := fun b hb => hevents b (List.mem_cons_of_mem a hb)
    rw [Machine.after_cons]
    cases a with
    | event e => exact absurd rfl (hevents _ List.mem_cons_self e)
    | exec =>
      obtain ⟨⟨st, hst, -⟩, hrun⟩ := hrun
      obtain ⟨rest, heq⟩ := List.head?_eq_some_iff.mp hst
      rw [heq, List.mem_cons, not_or] at htodo
      simp only [machine, heq] at hrun ⊢
      exact (ih htodo.2 hrest hrun).trans (count_rejected_exec (Ne.symm htodo.1))
    | clock now => exact ih htodo hrest hrun.2
    | cancelRoot => exact ih htodo hrest hrun.2
    | pipeline run a => exact ih htodo hrest hrun.2

/-- **A rejected command changes nothing.** When a command has been answered as
rejected, everything is as it would be without it, but for the answer. -/
theorem of_rejected {c : Command} {as : List Action} (hevents : ∀ a ∈ as, ∀ e, a ≠ .event e)
    (hrun : machine.Run s (.event (.command c) :: as))
    (hdone : (machine.after s (.event (.command c) :: as)).todo = [])
    (hanswer : (machine.after s (.event (.command c) :: as)).responses =
      s.responses ++ [.rejected]) :
    machine.Run s (as.filter Action.isEnv) ∧
      machine.after s (.event (.command c) :: as) =
        { machine.after s (as.filter Action.isEnv) with
          responses := s.responses ++ [.rejected] } := by
  obtain ⟨⟨htodo, -, -⟩, hrun⟩ := hrun
  rw [Machine.after_cons] at hdone hanswer ⊢
  have hnext : machine.next s (.event (.command c)) =
      { s with todo := s.program (.command c), responses := s.responses } := rfl
  by_cases hmem : .respond .rejected ∈ s.program (.command c)
  · rw [hnext, program_eq_of_rejected hmem] at hrun hdone ⊢
    exact run_rejected (Or.inr rfl) htodo hevents hrun hdone
  · have hcount := count_rejected_run (s := machine.next s (.event (.command c))) hmem hevents hrun
    rw [hanswer, hnext, List.count_append] at hcount
    simp at hcount

/-! ### The result -/

/-- **The run is the one configured**: the runtime points to every component of the last
run, both channels are open and have the capacities of the controls, the reader pool has
the batch size and is asked for the workers of the controls – unless it is cancelled and
has an error to take –, the throttler has taken the settings of the controls, and the
sender pool is asked for the workers of the controls. -/
structure Configured (s : Service) (i : ℕ) : Prop where
  last : i + 1 = s.runs
  runtime : s.runtime =
    { readerBatches := some i
      senderBatches := some i
      senderPool := some i
      cancelRun := some i
      throttler := some i
      readerPool := some i }
  closes : (s.pipeline i).readerBatches.closes = 0 ∧ (s.pipeline i).senderBatches.closes = 0
  readerChannel : ((s.pipeline i).readerBatches.capacity : ℤ) = s.control.controls.readerChannelCapacity
  senderChannel : ((s.pipeline i).senderBatches.capacity : ℤ) = s.control.controls.senderChannelCapacity
  reader : ∃ p ∈ (s.pipeline i).readerPool, (p.batchSize : ℤ) = s.control.controls.readBatchSize ∧
    ((p.desired : ℤ) = s.control.controls.readerWorkers ∨
      p.cancelled = true ∧ p.sourceErrors.isSome = true)
  throttler : ∃ t ∈ (s.pipeline i).throttler, t.Taken s.control.throttlerSettings
  sender : ∃ p ∈ (s.pipeline i).senderPool, (p.desired : ℤ) = s.control.controls.senderWorkers

/-- An active run is the one configured. -/
theorem configured_of_active (hcfg : cfg.Valid) (h : machine.Reachable (newService cfg now) s)
    (hroot : s.rootCancelled = false) (htodo : s.todo = []) (hexited : s.exited = false)
    (hactive : s.control.run.state.isActive = true) : ∃ i, s.Configured i := by
  obtain ⟨hf, -⟩ := holds_rest h htodo hexited
  have hx := fit_rest h htodo hexited
  obtain ⟨hbatch, hreader, hreaderCh, hsenderCh, -, hsender⟩ :=
    (inBounds_of_reachable hcfg h).controls.nonneg hcfg
  have hp := hf.pointers
  have hset : ∀ {o : Option ℕ}, o.isSome = s.control.run.state.isActive →
      (∀ j ∈ o, s.runtime.PointsTo j) → o = some (s.runs - 1) := by
    intro o ho hptr
    obtain ⟨j, rfl⟩ := Option.isSome_iff_exists.mp (ho.trans hactive)
    have := hp.last j (hptr j rfl)
    rw [show j = s.runs - 1 by omega]
  have hrb := hset hp.readerBatches fun j hj => by simp only [Runtime.PointsTo]; tauto
  have hlast := hp.last (s.runs - 1) (Or.inl hrb)
  have hd := hf.describes _ hlast
  have hx := hx.describes hroot hactive _ hlast
  have hsome : ∀ {γ : Type} {o : Option γ}, (s.control.run.state.isActive = true →
      o.isSome = true) → ∃ c, c ∈ o := fun ho => Option.isSome_iff_exists.mp (ho hactive)
  obtain ⟨p, hpool⟩ := hsome hd.readerPool
  obtain ⟨t, hthrottler⟩ := hsome hd.throttler
  obtain ⟨p', hpool'⟩ := hsome hd.senderPool
  refine ⟨s.runs - 1, ?_⟩
  refine
    { last := hlast
      runtime := ?_
      closes := ⟨hx.live.readerBatches.1, hd.senderCloses.trans (by
        rw [show (Held.rest s.control.run.state).senderBatches = true from hactive]
        rfl)⟩
      readerChannel := by
        rw [hx.live.readerBatches.2]
        exact Int.toNat_of_nonneg hreaderCh
      senderChannel := by
        rw [hx.live.senderBatches]
        exact Int.toNat_of_nonneg hsenderCh
      reader := ⟨p, hpool, ?_, ?_⟩
      throttler := ⟨t, hthrottler, hx.taken hactive t hthrottler⟩
      sender := ⟨p', hpool', ?_⟩ }
  · have hsb := hset hp.senderBatches fun j hj => by simp only [Runtime.PointsTo]; tauto
    have hsp := hset hp.senderPool fun j hj => by simp only [Runtime.PointsTo]; tauto
    have hcr := hset hp.cancelRun fun j hj => by simp only [Runtime.PointsTo]; tauto
    have hth := hset hp.throttler fun j hj => by simp only [Runtime.PointsTo]; tauto
    have hrp := hset hp.readerPool fun j hj => by simp only [Runtime.PointsTo]; tauto
    calc s.runtime = ⟨s.runtime.readerBatches, s.runtime.senderBatches, s.runtime.senderPool,
          s.runtime.cancelRun, s.runtime.throttler, s.runtime.readerPool⟩ := rfl
      _ = _ := by rw [hrb, hsb, hsp, hcr, hth, hrp]
  · rw [(hx.live.reader p hpool).2]
    exact Int.toNat_of_nonneg hbatch.le
  · rcases hx.reader hactive p hpool with hc | hdesired
    · exact Or.inr ⟨hc, (hx.live.reader p hpool).1.cancelled hc⟩
    · rw [hdesired]
      exact Or.inl (Int.toNat_of_nonneg (by omega))
  · rw [hx.sender hactive p' hpool']
    exact Int.toNat_of_nonneg (by omega)

/-- When no run is active, the runtime points to nothing. -/
theorem runtime_of_not_active (h : machine.Reachable (newService cfg now) s) (htodo : s.todo = [])
    (hexited : s.exited = false) (hactive : s.control.run.state.isActive = false) :
    s.runtime = {} := by
  have hp := (holds_rest h htodo hexited).1.pointers
  have hnone : ∀ {o : Option ℕ}, o.isSome = s.control.run.state.isActive → o = none := by
    rintro (_ | j) ho
    · rfl
    · exact absurd (ho.trans hactive) nofun
  calc s.runtime = ⟨s.runtime.readerBatches, s.runtime.senderBatches, s.runtime.senderPool,
        s.runtime.cancelRun, s.runtime.throttler, s.runtime.readerPool⟩ := rfl
    _ = {} := by
      rw [hnone hp.readerBatches, hnone hp.senderBatches, hnone hp.senderPool, hnone hp.cancelRun,
        hnone hp.throttler, hnone hp.readerPool]

/-- **Applied equals configured, and rejected commands change nothing.** In every state
between two events, for a valid configuration and while nobody has cancelled the root
context: the run state is running or paused exactly when the runtime holds a run, which
is then the one configured, and it holds nothing otherwise; a source error is recorded
exactly when the state is faulted; no status ever answered shows a reset half done; and a
command that has been answered as rejected has changed nothing but the answers, the
goroutines of the pipeline going on as they would have without it. -/
theorem applied_equals_configured {net : NetParsers} (hcfg : cfg.validate net = none)
    (h : machine.Reachable (newService cfg now) s) (hroot : s.rootCancelled = false)
    (htodo : s.todo = []) (hexited : s.exited = false) :
    (s.control.run.state = .running ∨ s.control.run.state = .paused ↔ ∃ i, s.Configured i) ∧
    (¬(s.control.run.state = .running ∨ s.control.run.state = .paused) → s.runtime = {}) ∧
    (s.control.run.sourceError.isSome = true ↔ s.control.run.state = .faulted) ∧
    (∀ status, .status status ∈ s.responses → status.run.state ≠ .resetting) ∧
    (∀ c as, (∀ a ∈ as, ∀ e, a ≠ Action.event e) →
      machine.Run s (.event (.command c) :: as) →
      (machine.after s (.event (.command c) :: as)).todo = [] →
      (machine.after s (.event (.command c) :: as)).responses = s.responses ++ [.rejected] →
      machine.Run s (as.filter Action.isEnv) ∧
        machine.after s (.event (.command c) :: as) =
          { machine.after s (as.filter Action.isEnv) with
            responses := s.responses ++ [.rejected] }) := by
  have hx := fit_rest h htodo hexited
  have hiff : s.control.run.state = .running ∨ s.control.run.state = .paused ↔
      s.control.run.state.isActive = true := by
    cases s.control.run.state <;> simp [RunState.isActive]
  have hempty : s.control.run.state.isActive ≠ true → s.runtime = {} := fun hnot =>
    runtime_of_not_active h htodo hexited (by simpa using hnot)
  refine ⟨⟨fun hact => ?_, fun ⟨i, hi⟩ => ?_⟩, fun hnot => hempty (hiff.not.mp hnot), ?_, hx.responses,
    fun c as hevents hrun hdone hanswer => of_rejected hevents hrun hdone hanswer⟩
  · exact configured_of_active (Config.valid_of_validate hcfg) h hroot htodo hexited (hiff.mp hact)
  · rw [hiff]
    by_contra hnot
    have hruntime := hi.runtime
    rw [hempty hnot] at hruntime
    cases hruntime
  · rw [hx.failed]
    exact beq_iff_eq

/-- Once started, the run of the example is the one configured. -/
theorem configured_startedRun :
    ∃ i, (machine.after (newService exampleConfig 0) startedRun).Configured i := by
  have hcfg : exampleConfig.validate exampleParsers = none := by decide +kernel
  have hrun : machine.Run (newService exampleConfig 0) startedRun := by decide +kernel
  have hend : (machine.after (newService exampleConfig 0) startedRun).rootCancelled = false ∧
      (machine.after (newService exampleConfig 0) startedRun).todo = [] ∧
      (machine.after (newService exampleConfig 0) startedRun).exited = false ∧
      (machine.after (newService exampleConfig 0) startedRun).control.run.state = .running := by
    decide +kernel
  generalize hs : machine.after (newService exampleConfig 0) startedRun = s at hend ⊢
  exact (applied_equals_configured hcfg ⟨_, hrun, hs⟩ hend.1 hend.2.1 hend.2.2.1).1.mp
    (Or.inl hend.2.2.2)

end Service

end IngestionLab
