import IngestionLab.Loadgen.EventLoop.Measured
import IngestionLab.Loadgen.EventLoop.Teardown

/-!
# What a status shows

A status is put together from what has been read before, so that it matters what can have
changed since: the readings of a pool are those of no pool where no run is on, and the
readings of a channel are those of a channel the telemetry is attached to where one is.
`IngestionLab.Shown` is a record of these facts, and `IngestionLab.Shown.after` what a
statement makes of them; a status may be answered, or kept for a pause, where they
justify it only.

* `IngestionLab.Service.shows_of_respondStatus`: what is known where a status is answered.
* `IngestionLab.Service.shows_of_enterPaused`: what is known where one is kept.
-/

namespace IngestionLab

open Function

/-- **What is known of the readings at a point of a program**: which telemetry is attached
to a channel, whether a status is kept, which pool was seen to be none, and which channel
was seen with a capacity that is allowed. -/
structure Shown where
  readerAttached : Bool := false
  senderAttached : Bool := false
  kept : Bool := false
  noReader : Bool := false
  noSender : Bool := false
  readerCapacity : Bool := false
  senderCapacity : Bool := false
  deriving DecidableEq

namespace Shown

open Service

/-- The telemetry is attached to a channel of a run. -/
def Attached (s : Service) (c : ChannelName) : Prop := ∃ i ∈ (s.memory.channel c).batches, i < s.runs

/-- The capacity is that of a channel of a run. -/
def IsCapacity (s : Service) (c : ChannelName) (capacity : ℤ) : Prop :=
  ∃ i < s.runs, capacity = ((s.pipeline i).channel c).capacity

/-- **What the facts mean.** -/
structure Holds (x : Shown) (s : Service) : Prop where
  readerAttached : x.readerAttached = true → Attached s .reader
  senderAttached : x.senderAttached = true → Attached s .sender
  kept : x.kept = true → s.control.run.pausedStatus.isSome = true
  noReader : x.noReader = true → s.seen.readerPool = {}
  noSender : x.noSender = true → s.seen.senderPool = {}
  readerCapacity : x.readerCapacity = true → IsCapacity s .reader s.seen.readerChannel.capacity
  senderCapacity : x.senderCapacity = true → IsCapacity s .sender s.seen.senderChannel.capacity

/-- What justifies a status in a run state. -/
def justifies (x : Shown) : RunState → Bool
  | .idle | .faulted => x.noReader && x.noSender
  | .running => x.readerCapacity && x.senderCapacity
  | .paused => x.kept
  | .resetting => false

/-- **What a statement makes of the facts**, `none` where they do not justify it. -/
def after (f : Held) (x : Shown) : Stmt → Option Shown
  | .startChannel .reader => some { x with readerAttached := f.readerBatches }
  | .startChannel .sender => some { x with senderAttached := f.senderBatches }
  | .detach .reader => some { x with readerAttached := false }
  | .detach .sender => some { x with senderAttached := false }
  | .seeReaderPool => some { x with noReader := !f.readerPool }
  | .seeSenderPool => some { x with noSender := !f.senderPool }
  | .seeChannel .reader => some { x with readerCapacity := x.readerAttached }
  | .seeChannel .sender => some { x with senderCapacity := x.senderAttached }
  | .enterPaused =>
    if f.state = .running ∧ x.justifies .running = true then some { x with kept := true } else none
  | .clearPausedStatus | .zeroProgress => some { x with kept := false }
  | .respond (.status _) => none
  | .respondStatus => if x.justifies f.state = true then some x else none
  | _ => some x

variable {x y : Shown} {f : Held} {s t : Service} {i : Stmt}

/-- What changes no channel of a run leaves the telemetry attached and the capacities
those of the channels. -/
theorem Attached.congr {c : ChannelName} (h : Attached s c)
    (hbatches : (t.memory.channel c).batches = (s.memory.channel c).batches)
    (hruns : s.runs ≤ t.runs) : Attached t c := by
  obtain ⟨i, hi, hlt⟩ := h
  exact ⟨i, hbatches ▸ hi, hlt.trans_le hruns⟩

theorem IsCapacity.congr {c : ChannelName} {capacity : ℤ} (h : IsCapacity s c capacity)
    (hruns : s.runs ≤ t.runs)
    (hcapacity : ∀ i < s.runs, ((t.pipeline i).channel c).capacity = ((s.pipeline i).channel c).capacity) :
    IsCapacity t c capacity := by
  obtain ⟨i, hi, rfl⟩ := h
  exact ⟨i, hi.trans_le hruns, congrArg _ (hcapacity i hi).symm⟩

/-- The facts are about the channels the telemetry is attached to, the status kept, what
has been seen, and the channels of the runs. -/
theorem Holds.congr (h : x.Holds s)
    (hbatches : ∀ c, (t.memory.channel c).batches = (s.memory.channel c).batches)
    (hkept : t.control.run.pausedStatus = s.control.run.pausedStatus) (hseen : t.seen = s.seen)
    (hruns : s.runs ≤ t.runs) (hcapacity : ∀ i < s.runs, ∀ c,
      ((t.pipeline i).channel c).capacity = ((s.pipeline i).channel c).capacity) : x.Holds t where
  readerAttached hx := (h.readerAttached hx).congr (hbatches _) hruns
  senderAttached hx := (h.senderAttached hx).congr (hbatches _) hruns
  kept hx := hkept ▸ h.kept hx
  noReader hx := hseen ▸ h.noReader hx
  noSender hx := hseen ▸ h.noSender hx
  readerCapacity hx := hseen ▸ (h.readerCapacity hx).congr hruns fun i hi => hcapacity i hi _
  senderCapacity hx := hseen ▸ (h.senderCapacity hx).congr hruns fun i hi => hcapacity i hi _

/-- **The facts survive what happens beside the event loop.** -/
theorem Holds.interferes (h : x.Holds s) (hst : s.Interferes t) : x.Holds t := by
  cases hst with
  | clock now => exact { h with }
  | cancelRoot => exact { h with }
  | todo todo => exact { h with }
  | pipeline run a hrun ha =>
    -- whatever either telemetry is attached to, it stays attached to it
    have hkept : (Pipeline.remember s.memory a).Channels
        (·.batches = s.memory.readerChannel.batches) (·.batches = s.memory.senderChannel.batches) :=
      Memory.channels_pipeline (ChannelTelemetry.kept_batches _) (ChannelTelemetry.kept_batches _)
        ⟨rfl, rfl⟩ a
    refine h.congr (fun c => ?_) rfl rfl le_rfl fun i hi c => ?_
    · cases c
      · exact hkept.1
      · exact hkept.2
    · by_cases hir : i = run
      · subst hir
        obtain ⟨-, hreader, hsender⟩ := Pipeline.frame_next ha
        simp only [update_self]
        cases c
        · exact hreader
        · exact hsender
      · simp only [update_of_ne hir]

/-- A pointer that is known not to be set leads nowhere. -/
theorem eq_none_of_isSome {o : Option ℕ} {known : Bool} (h : o.isSome = known)
    (hknown : (!known) = true) : o = none := by
  rw [Bool.not_eq_true', ← h] at hknown
  exact Option.isNone_iff_eq_none.mp (Option.isSome_eq_false_iff.mp hknown)

/-- The capacity seen of a channel the telemetry is attached to is the one it has. -/
theorem isCapacity_channelSnapshot {c : ChannelName} (h : Attached s c) :
    IsCapacity s c (s.channelSnapshot c).capacity := by
  obtain ⟨i, hi, hlt⟩ := h
  rw [Option.mem_def] at hi
  refine ⟨i, hlt, ?_⟩
  simp only [Service.channelSnapshot, ChannelTelemetry.snapshot, hi, Option.map_some,
    Option.getD_some]

/-- A statement that starts the telemetry of a channel attaches it to the last run. -/
theorem attached_startChannel (hf : f.Holds s) {c : ChannelName}
    (h : (s.runtime.channel c).isSome = true) : Attached (s.exec (.startChannel c)) c := by
  obtain ⟨i, hi⟩ := Option.isSome_iff_exists.mp h
  have hlast : i < s.runs := by
    have hpoints : s.runtime.PointsTo i := by
      cases c
      · exact Or.inl hi
      · exact Or.inr (Or.inl hi)
    have := hf.pointers.last i hpoints
    omega
  simp only [Attached, Service.exec, hi]
  exact ⟨i, by cases c <;> rfl, hlast⟩

/-- A statement that reads nothing, attaches and detaches no telemetry, and keeps no
status and forgets none leaves the facts. -/
theorem Holds.frame (h : x.Holds s)
    (hbatches : ∀ c, ((s.exec i).memory.channel c).batches = (s.memory.channel c).batches)
    (hkept : (s.exec i).control.run.pausedStatus = s.control.run.pausedStatus)
    (hseen : (s.exec i).seen = s.seen) : x.Holds (s.exec i) := by
  refine h.congr hbatches hkept hseen (runs_le_exec s i) fun run hrun c => ?_
  obtain ⟨hreader, hsender⟩ := capacity_exec s i hrun
  cases c
  · exact hreader
  · exact hsender

/-- **A statement establishes the facts it is said to.** -/
theorem Holds.exec (h : x.Holds s) (hf : f.Holds s) (hy : x.after f i = some y) :
    y.Holds (s.exec i) := by
  cases i
  case startChannel c =>
    cases c
    · obtain rfl := Option.some.inj hy
      have hothers : Holds { x with readerAttached := false } (s.exec (.startChannel .reader)) := by
        rw [Service.exec]
        split <;> exact { h with readerAttached := fun hx => absurd hx Bool.false_ne_true }
      exact { hothers with readerAttached := fun hx =>
        attached_startChannel hf (hf.pointers.readerBatches.trans hx) }
    · obtain rfl := Option.some.inj hy
      have hothers : Holds { x with senderAttached := false } (s.exec (.startChannel .sender)) := by
        rw [Service.exec]
        split <;> exact { h with senderAttached := fun hx => absurd hx Bool.false_ne_true }
      exact { hothers with senderAttached := fun hx =>
        attached_startChannel hf (hf.pointers.senderBatches.trans hx) }
  case detach c =>
    cases c
    · obtain rfl := Option.some.inj hy
      exact { h with readerAttached := fun hx => absurd hx Bool.false_ne_true }
    · obtain rfl := Option.some.inj hy
      exact { h with senderAttached := fun hx => absurd hx Bool.false_ne_true }
  case seeReaderPool =>
    obtain rfl := Option.some.inj hy
    refine { h with noReader := fun hx => ?_ }
    simp only [Service.exec, eq_none_of_isSome hf.pointers.readerPool hx, Option.bind_none,
      Option.map_none, Option.getD_none]
  case seeSenderPool =>
    obtain rfl := Option.some.inj hy
    refine { h with noSender := fun hx => ?_ }
    simp only [Service.exec, eq_none_of_isSome hf.pointers.senderPool hx, Option.bind_none,
      Option.map_none, Option.getD_none]
  case seeChannel c =>
    cases c
    · obtain rfl := Option.some.inj hy
      exact { h with readerCapacity := fun hx => isCapacity_channelSnapshot (h.readerAttached hx) }
    · obtain rfl := Option.some.inj hy
      exact { h with senderCapacity := fun hx => isCapacity_channelSnapshot (h.senderAttached hx) }
  case enterPaused =>
    simp only [after, Option.ite_none_right_eq_some, Option.some.injEq] at hy
    obtain ⟨-, rfl⟩ := hy
    exact { h with kept := fun _ => rfl }
  case clearPausedStatus | zeroProgress =>
    obtain rfl := Option.some.inj hy
    exact { h with kept := fun hx => absurd hx Bool.false_ne_true }
  case respondStatus =>
    simp only [after, Option.ite_none_right_eq_some, Option.some.injEq] at hy
    obtain ⟨-, rfl⟩ := hy
    exact { h with }
  case respond response =>
    cases response
    case status status => cases hy
    all_goals
      obtain rfl := Option.some.inj hy
      exact { h with }
  case enterFaulted error =>
    obtain rfl := Option.some.inj hy
    refine h.frame (fun _ => rfl) ?_ rfl
    change (ControlState.pauseElapsed s.control.run s.memory.now).pausedStatus = _
    rw [ControlState.pauseElapsed]
    split <;> rfl
  case setCapacity c value =>
    obtain rfl := Option.some.inj hy
    cases c <;> exact { h with }
  case clearMeasurements c | startInterval c | sampleChannel c =>
    obtain rfl := Option.some.inj hy
    refine h.frame (fun c' => ?_) rfl rfl
    cases c <;> cases c' <;> rfl
  case readClock | seeReader =>
    obtain rfl := Option.some.inj hy
    exact { h with }
  all_goals
    obtain rfl := Option.some.inj hy
    exact h.frame (fun c => by simp [Service.exec, onRun, onControls, Memory.channel])
      (by simp [Service.exec, onRun, onControls]) (by simp [Service.exec, onRun, onControls])

/-- The event loop as a thread that keeps track of what its readings show. -/
def thread : Thread Service Stmt (Held × Shown) where
  Ready := Service.Ready
  exec := Service.exec
  Holds z s := z.1.Holds s ∧ z.2.Holds s
  after z i := (z.1.after i).bind fun g => (z.2.after z.1 i).map (Prod.mk g)

/-- **The facts are sound** beside the pipelines. -/
theorem sound : thread.Sound Interferes where
  env _ _ _ h hst := ⟨h.1.interferes hst, h.2.interferes hst⟩
  exec z z' s i h hi hz := by
    obtain ⟨g, hg, hy⟩ := Option.bind_eq_some_iff.mp hz
    obtain ⟨y, hxy, rfl⟩ := Option.map_eq_some_iff.mp hy
    exact ⟨h.1.exec hi hg, h.2.exec h.1 hxy⟩

/-! ### The programs -/

/-- What has been seen is forgotten. -/
def forget (x : Shown) : Shown :=
  { readerAttached := x.readerAttached, senderAttached := x.senderAttached, kept := x.kept }

theorem Holds.forget (h : x.Holds s) : x.forget.Holds s where
  readerAttached := h.readerAttached
  senderAttached := h.senderAttached
  kept := h.kept
  noReader hx := absurd hx Bool.false_ne_true
  noSender hx := absurd hx Bool.false_ne_true
  readerCapacity hx := absurd hx Bool.false_ne_true
  senderCapacity hx := absurd hx Bool.false_ne_true

/-- **What is known between two events**: in an active run the telemetry is attached, and
in a pause a status is kept. -/
def rest (state : RunState) : Shown where
  readerAttached := state.isActive
  senderAttached := state.isActive
  kept := state == .paused

/-- The facts a program may end with. -/
def Final (z : Held × Shown) : Prop :=
  z.1.exited = true ∨ z.1 = Held.rest z.1.state ∧ z.2.forget = rest z.1.state ∧
    z.1.state ≠ .resetting

/-- **Every status is justified** that a program answers or keeps. -/
theorem exists_check (s : Service) (e : Event) (hs : s.control.run.state ≠ .resetting) :
    ∃ z, thread.check (Held.rest s.control.run.state, rest s.control.run.state) (s.program e) =
      some z ∧ Final z := by
  have hprogram := program_cases s e
  generalize s.control.run.state = state at hs hprogram ⊢
  generalize s.program e = p at hprogram ⊢
  cases state
  case resetting => exact absurd rfl hs
  all_goals
    cases hprogram with
    | exit => exact ⟨_, rfl, Or.inl rfl⟩
    | _ => exact ⟨_, rfl, Or.inr ⟨rfl, rfl, by rintro ⟨⟩⟩⟩

/-- Taking an event leaves what is known. -/
theorem Holds.take (h : x.Holds s) (e : Event) : x.Holds (s.take e) := by
  cases e with
  | sourceError error =>
    refine h.congr (fun c => by simp [Service.take, Memory.channel]) (by simp [Service.take])
      (by simp [Service.take]) (by simp [Service.take]) fun i hi c => ?_
    obtain ⟨hreader, hsender⟩ := capacity_onPipeline s s.runtime.readerPool
      (F := (·.stepReader s.memory (.receiveError error))) (fun q => ⟨rfl, rfl⟩) i
    cases c
    · exact hreader
    · exact hsender
  | done => exact { h with }
  | requestsClosed => exact { h with }
  | command c => exact { h with }
  | tick now => exact { h with }

end Shown

namespace Service

variable {s : Service} {cfg : Config} {now : ℕ} {todo : List Stmt}

/-- In every state of the service it is known what the readings show. -/
theorem shown_covered (h : machine.Reachable (newService cfg now) s) :
    Shown.thread.Covered Shown.Final s s.todo := by
  have hstart : (Shown.rest .idle).Holds (newService cfg now) := by
    constructor <;> exact fun hx => absurd hx Bool.false_ne_true
  refine covered_of_sound rfl rfl Shown.sound
    ⟨(Held.rest .idle, Shown.rest .idle), (Held.rest .idle, Shown.rest .idle),
      ⟨holds_newService cfg now, hstart⟩, rfl, Or.inr ⟨rfl, rfl, by rintro ⟨⟩⟩⟩
    (fun s e hexited he hs => ?_) h
  obtain ⟨z, ⟨hf, hx⟩, hfinal⟩ := hs.final
  rcases hfinal with hleft | ⟨hrest, hforget, hstate⟩
  · exact absurd (hleft.symm.trans (hf.exited.symm.trans hexited)) (by decide)
  · obtain ⟨g, hg, hgfinal⟩ := Shown.exists_check s e (by rw [hf.state]; exact hstate)
    rw [hf.state] at hg
    have hx := hx.forget
    rw [hrest] at hf
    rw [hforget] at hx
    exact ⟨(Held.rest z.1.state, Shown.rest z.1.state), g, ⟨hf.take he, hx.take e⟩, hg, hgfinal⟩

/-- **What justifies a status** in a state of the service: while running the capacities
seen are those of channels, while paused a status is kept, and otherwise no pool was
seen. -/
def Shows (s : Service) : Prop :=
  match s.control.run.state with
  | .idle | .faulted => s.seen.readerPool = {} ∧ s.seen.senderPool = {}
  | .running => Shown.IsCapacity s .reader s.seen.readerChannel.capacity ∧
      Shown.IsCapacity s .sender s.seen.senderChannel.capacity
  | .paused => s.control.run.pausedStatus.isSome = true
  | .resetting => False

theorem Shows.state (h : s.Shows) : s.control.run.state ≠ .resetting := by
  intro hstate
  simp only [Shows, hstate] at h

theorem Shows.atRest (h : s.Shows)
    (hstate : s.control.run.state = .idle ∨ s.control.run.state = .faulted) :
    s.seen.readerPool = {} ∧ s.seen.senderPool = {} := by
  rcases hstate with hstate | hstate <;> simpa only [Shows, hstate] using h

theorem Shows.running (h : s.Shows) (hstate : s.control.run.state = .running) :
    Shown.IsCapacity s .reader s.seen.readerChannel.capacity ∧
      Shown.IsCapacity s .sender s.seen.senderChannel.capacity := by
  simpa only [Shows, hstate] using h

theorem Shows.paused (h : s.Shows) (hstate : s.control.run.state = .paused) :
    s.control.run.pausedStatus.isSome = true := by
  simpa only [Shows, hstate] using h

theorem shows_of_justifies {x : Shown} {state : RunState} (hstate : s.control.run.state = state)
    (hx : x.Holds s) (hj : x.justifies state = true) : s.Shows := by
  cases state <;> simp only [Shows, hstate]
  case idle | faulted =>
    obtain ⟨hreader, hsender⟩ := Bool.and_eq_true_iff.mp hj
    exact ⟨hx.noReader hreader, hx.noSender hsender⟩
  case running =>
    obtain ⟨hreader, hsender⟩ := Bool.and_eq_true_iff.mp hj
    exact ⟨hx.readerCapacity hreader, hx.senderCapacity hsender⟩
  case paused => exact hx.kept hj
  case resetting => exact absurd hj Bool.false_ne_true

/-- **A status that is answered is justified.** -/
theorem shows_of_respondStatus (h : machine.Reachable (newService cfg now) s)
    (htodo : s.todo = .respondStatus :: todo) : s.Shows := by
  have hcovered := shown_covered h
  rw [htodo] at hcovered
  obtain ⟨z, z', ⟨hf, hx⟩, hz⟩ := hcovered.exists_after
  obtain ⟨g, -, hy⟩ := Option.bind_eq_some_iff.mp hz
  obtain ⟨y, hxy, rfl⟩ := Option.map_eq_some_iff.mp hy
  simp only [Shown.after, Option.ite_none_right_eq_some] at hxy
  exact shows_of_justifies hf.state hx hxy.1

/-- **A status that is kept is justified**, in a run. -/
theorem shows_of_enterPaused (h : machine.Reachable (newService cfg now) s)
    (htodo : s.todo = .enterPaused :: todo) : s.control.run.state = .running ∧ s.Shows := by
  have hcovered := shown_covered h
  rw [htodo] at hcovered
  obtain ⟨z, z', ⟨hf, hx⟩, hz⟩ := hcovered.exists_after
  obtain ⟨g, -, hy⟩ := Option.bind_eq_some_iff.mp hz
  obtain ⟨y, hxy, rfl⟩ := Option.map_eq_some_iff.mp hy
  simp only [Shown.after, Option.ite_none_right_eq_some] at hxy
  have hstate := hf.state.trans hxy.1.1
  exact ⟨hstate, shows_of_justifies hstate hx hxy.1.2⟩

/-- No program answers a status of its own. -/
theorem not_respond_status (h : machine.Reachable (newService cfg now) s) {status : RuntimeStatus}
    (htodo : s.todo = .respond (.status status) :: todo) : False := by
  have hcovered := shown_covered h
  rw [htodo] at hcovered
  obtain ⟨z, z', -, hz⟩ := hcovered.exists_after
  obtain ⟨g, -, hy⟩ := Option.bind_eq_some_iff.mp hz
  obtain ⟨y, hxy, -⟩ := Option.map_eq_some_iff.mp hy
  cases hxy

end Service

end IngestionLab
