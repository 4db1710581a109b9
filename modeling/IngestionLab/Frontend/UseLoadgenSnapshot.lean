import IngestionLab.Frontend.ChannelFlowState
import IngestionLab.Frontend.HttpSnapshot

/-!
# The presentation of a paused run

The model of `hooks/useLoadgenSnapshot.ts` and of the reader's part of
`components/inspectorViewModel.ts`. While a run is neither running nor idle, what is
displayed is merged: measured values as they were last seen running, the rest live.

* `IngestionLab.Frontend.retained`: which snapshot the measured values come from, read
  off the snapshots so far; `IngestionLab.Frontend.Follows` says that the deriver's hidden
  state amounts to that.
* `IngestionLab.Frontend.Presents`: what is to be presented, value by value
  (`IngestionLab.Frontend.Measured`), whatever the merge does. It leaves nothing open
  (`IngestionLab.Frontend.Presents.unique`).
* `IngestionLab.Frontend.frozen_presentation_iff`: exactly when the presentation is
  faithful. The merge leaves the source error with the measured values.
-/

namespace IngestionLab.Frontend

open JS

/-! ### The merge -/

/-- **`freezeObservedTelemetry`.** -/
def freezeObservedTelemetry (observed live : LoadgenTelemetrySnapshot) :
    LoadgenTelemetrySnapshot :=
  { observed with
    revision := live.revision
    adapterKind := live.adapterKind
    connectionState := live.connectionState
    runState := live.runState
    config := live.config
    reader := { observed.reader with
      workers := live.reader.workers
      readBatchSize := live.reader.readBatchSize
      state := live.reader.state }
    throttler := { observed.throttler with
      requestedTps := live.throttler.requestedTps
      installed := live.throttler.installed
      state := live.throttler.state }
    readerChannel := { observed.readerChannel with capacity := live.readerChannel.capacity }
    senderChannel := { observed.senderChannel with capacity := live.senderChannel.capacity }
    sender := { observed.sender with
      workers := live.sender.workers
      timeoutMs := live.sender.timeoutMs
      state := live.sender.state }
    http := { observed.http with connectionState := live.http.connectionState }
    target := { observed.target with connectionState := live.target.connectionState } }

/-- `PauseFrozenObservedDeriver`, with the number of objects it has made. -/
structure PauseFrozenObservedDeriver where
  lastRunning : Option LoadgenTelemetrySnapshot := none
  frozen : Option LoadgenTelemetrySnapshot := none
  sourceSnapshot : Option Address := none
  presentation : Option (Object LoadgenTelemetrySnapshot) := none
  made : ℕ := 0

/-- What `derive` returns. -/
structure Derived where
  snapshot : Object LoadgenTelemetrySnapshot
  frozenObserved : Bool

/-- What `derive` does to its fields on a snapshot it has not seen last, and the
presentation it makes. -/
def PauseFrozenObservedDeriver.present (deriver : PauseFrozenObservedDeriver)
    (snapshot : Object LoadgenTelemetrySnapshot) :
    PauseFrozenObservedDeriver × Object LoadgenTelemetrySnapshot :=
  match snapshot.value.runState with
  | .running =>
    ({ deriver with
      frozen := none
      lastRunning :=
        if snapshot.value.connectionState = .connected then some snapshot.value else none }, snapshot)
  | .idle => ({ deriver with lastRunning := none, frozen := none }, snapshot)
  | .paused | .faulted =>
    match deriver.frozen.or deriver.lastRunning with
    | none => (deriver, snapshot)
    | some observed =>
      ({ deriver with frozen := some observed, made := deriver.made + 1 },
        ⟨.made deriver.made, freezeObservedTelemetry observed snapshot.value⟩)

/-- **`PauseFrozenObservedDeriver.derive`.** -/
def PauseFrozenObservedDeriver.derive (deriver : PauseFrozenObservedDeriver)
    (snapshot : Object LoadgenTelemetrySnapshot) : PauseFrozenObservedDeriver × Derived :=
  match decide (deriver.sourceSnapshot = some snapshot.address), deriver.presentation with
  | true, some presentation => (deriver, ⟨presentation, deriver.frozen.isSome⟩)
  | _, _ =>
    let (deriver, presentation) := deriver.present snapshot
    ({ deriver with
      presentation := some presentation
      sourceSnapshot := some snapshot.address }, ⟨presentation, deriver.frozen.isSome⟩)

/-! ### The hook -/

/-- `LoadgenSnapshotPresentation`. -/
structure LoadgenSnapshotPresentation where
  snapshot : LoadgenSnapshot
  liveSnapshot : LoadgenTelemetrySnapshot
  frozenObserved : Bool

/-- What `useLoadgenSnapshot` keeps. -/
structure Derivation where
  channelDeriver : ChannelFlowStateDeriver := {}
  pauseDeriver : PauseFrozenObservedDeriver := {}
  sourceSnapshot : Option Address := none
  presentation : Option LoadgenSnapshotPresentation := none

/-- **`getSnapshot` of the hook**, at the time `performance.now()`. Its `snapshot` is what
`LabShell` hands to the inspector. -/
def Derivation.getSnapshot (derivation : Derivation)
    (liveSnapshot : Object LoadgenTelemetrySnapshot) (now : Number) :
    Derivation × LoadgenSnapshotPresentation :=
  match decide (derivation.sourceSnapshot = some liveSnapshot.address),
    derivation.presentation with
  | true, some presentation => (derivation, presentation)
  | _, _ =>
    let (pauseDeriver, paused) := derivation.pauseDeriver.derive liveSnapshot
    let (channelDeriver, snapshot) := derivation.channelDeriver.derive paused.snapshot now
    let presentation : LoadgenSnapshotPresentation :=
      { snapshot
        liveSnapshot := liveSnapshot.value
        frozenObserved := paused.frozenObserved }
    ({ channelDeriver
       pauseDeriver
       sourceSnapshot := some liveSnapshot.address
       presentation := some presentation }, presentation)

/-! ### The inspector -/

/-- What a slash run of a path is replaced by: a single slash. -/
def squeezeSlashes : List Char → List Char
  | '/' :: '/' :: path => squeezeSlashes ('/' :: path)
  | c :: path => c :: squeezeSlashes path
  | [] => []

/-- `.replace(/\/$/, '')`. -/
def dropTrailingSlash (path : List Char) : List Char :=
  if path.getLast? = some '/' then path.dropLast else path

/-- **The row of the reader's inspector that shows a source error**
(`getInspectorViewModel`), its value. -/
def sourceErrorRow (snapshot : LoadgenSnapshot) : Option String :=
  snapshot.reader.sourceError.map fun sourceError =>
    let sourcePath := String.ofList (dropTrailingSlash (squeezeSlashes
      ((snapshot.reader.sourceDirectory.getD "").toList ++ '/' :: sourceError.relativePath.toList)))
    sourcePath ++ ": " ++ sourceError.message

/-! ### What the presentation should be -/

/-- A running or an idle snapshot is presented as it is. -/
def LoadgenTelemetrySnapshot.isFresh (snapshot : LoadgenTelemetrySnapshot) : Bool :=
  snapshot.runState = .running ∨ snapshot.runState = .idle

/-- **The snapshot whose measured values are retained**, after some snapshots: the last
fresh one, if it is of a connected run. -/
def retained (history : List LoadgenTelemetrySnapshot) : Option LoadgenTelemetrySnapshot :=
  (history.filter LoadgenTelemetrySnapshot.isFresh).getLast?.filter fun snapshot =>
    snapshot.runState = .running ∧ snapshot.connectionState = .connected

/-- **Where the measured values come from.** -/
def observedOf (history : List LoadgenTelemetrySnapshot) (live : LoadgenTelemetrySnapshot) :
    LoadgenTelemetrySnapshot :=
  if live.isFresh then live else (retained history).getD live

/-- The control values of a snapshot. -/
structure Controls where
  readerWorkers : NumericControlSnapshot
  readBatchSize : NumericControlSnapshot
  requestedTps : NumericControlSnapshot
  installed : InstalledControlSnapshot
  readerChannelCapacity : NumericControlSnapshot
  senderChannelCapacity : NumericControlSnapshot
  senderWorkers : NumericControlSnapshot
  timeoutMs : NumericControlSnapshot

/-- The control values of a snapshot. -/
def LoadgenTelemetrySnapshot.controls (snapshot : LoadgenTelemetrySnapshot) : Controls where
  readerWorkers := snapshot.reader.workers
  readBatchSize := snapshot.reader.readBatchSize
  requestedTps := snapshot.throttler.requestedTps
  installed := snapshot.throttler.installed
  readerChannelCapacity := snapshot.readerChannel.capacity
  senderChannelCapacity := snapshot.senderChannel.capacity
  senderWorkers := snapshot.sender.workers
  timeoutMs := snapshot.sender.timeoutMs

/-- What is measured of the reader, and where it reads. -/
structure MeasuredReader where
  liveWorkers : Number
  idleWorkers : Number
  readingWorkers : Number
  blockedWorkers : Number
  drainingWorkers : Number
  drainingIdleWorkers : Number
  drainingReadingWorkers : Number
  drainingBlockedWorkers : Number
  readTps : Option Number
  configuredCapacityTps : Option Number
  limitationReason : Option ReaderLimitationReason
  rowsRead : Option Number
  sourceDirectory : Option String

def ReaderSnapshot.measured (reader : ReaderSnapshot) : MeasuredReader where
  liveWorkers := reader.liveWorkers
  idleWorkers := reader.idleWorkers
  readingWorkers := reader.readingWorkers
  blockedWorkers := reader.blockedWorkers
  drainingWorkers := reader.drainingWorkers
  drainingIdleWorkers := reader.drainingIdleWorkers
  drainingReadingWorkers := reader.drainingReadingWorkers
  drainingBlockedWorkers := reader.drainingBlockedWorkers
  readTps := reader.readTps
  configuredCapacityTps := reader.configuredCapacityTps
  limitationReason := reader.limitationReason
  rowsRead := reader.rowsRead
  sourceDirectory := reader.sourceDirectory

/-- What is measured of the throttler. -/
structure MeasuredThrottler where
  admittedTps : Option Number
  limitedMs : Option Number

def ThrottlerSnapshot.measured (throttler : ThrottlerSnapshot) : MeasuredThrottler where
  admittedTps := throttler.admittedTps
  limitedMs := throttler.limitedMs

/-- What is measured of a channel, and which one it is. -/
structure MeasuredChannel where
  id : ChannelId
  sentBatchesTotal : Number
  sentTransactionsTotal : Number
  receivedBatchesTotal : Number
  receivedTransactionsTotal : Number
  depthBatches : Option Number
  bufferedTransactions : Option Number
  handoffBatches : Number
  handoffBatchesTotal : Number
  blockedSenders : Number
  oldestBlockedSenderMs : Number
  inputBatchesPerSecond : Number
  outputBatchesPerSecond : Number
  inputTransactionsPerSecond : Number
  outputTransactionsPerSecond : Number
  inputTps : Option Number
  outputTps : Option Number
  throughputTps : Option Number
  blockedMs : Option Number
  trend : ChannelTrend

def ChannelTelemetrySnapshot.measured (channel : ChannelTelemetrySnapshot) : MeasuredChannel where
  id := channel.id
  sentBatchesTotal := channel.sentBatchesTotal
  sentTransactionsTotal := channel.sentTransactionsTotal
  receivedBatchesTotal := channel.receivedBatchesTotal
  receivedTransactionsTotal := channel.receivedTransactionsTotal
  depthBatches := channel.depthBatches
  bufferedTransactions := channel.bufferedTransactions
  handoffBatches := channel.handoffBatches
  handoffBatchesTotal := channel.handoffBatchesTotal
  blockedSenders := channel.blockedSenders
  oldestBlockedSenderMs := channel.oldestBlockedSenderMs
  inputBatchesPerSecond := channel.inputBatchesPerSecond
  outputBatchesPerSecond := channel.outputBatchesPerSecond
  inputTransactionsPerSecond := channel.inputTransactionsPerSecond
  outputTransactionsPerSecond := channel.outputTransactionsPerSecond
  inputTps := channel.inputTps
  outputTps := channel.outputTps
  throughputTps := channel.throughputTps
  blockedMs := channel.blockedMs
  trend := channel.trend

/-- What is measured of the sender, and how it retries. -/
structure MeasuredSender where
  liveWorkers : Number
  idleWorkers : Number
  inFlightWorkers : Number
  backoffWorkers : Number
  drainingWorkers : Number
  drainingIdleWorkers : Number
  drainingInFlightWorkers : Number
  drainingBackoffWorkers : Number
  retryPolicy : Option RetryPolicySnapshot
  attemptedTps : Option Number
  retryAttemptedTps : Option Number
  terminalFailedTps : Option Number
  inFlightRequests : Option Number
  attemptsStartedTotal : Number
  retryAttemptsStartedTotal : Number
  successfulResponses : Option Number
  failedResponses : Option Number
  retries : Option Number
  timeoutsTotal : Number
  terminalFailedBatchesTotal : Number
  terminalFailedTransactionsTotal : Number
  ambiguousTimeoutTransactionsTotal : Number
  duplicateRiskTransactionsTotal : Number
  ambiguousTerminalTransactionsTotal : Number

def SenderSnapshot.measured (sender : SenderSnapshot) : MeasuredSender where
  liveWorkers := sender.liveWorkers
  idleWorkers := sender.idleWorkers
  inFlightWorkers := sender.inFlightWorkers
  backoffWorkers := sender.backoffWorkers
  drainingWorkers := sender.drainingWorkers
  drainingIdleWorkers := sender.drainingIdleWorkers
  drainingInFlightWorkers := sender.drainingInFlightWorkers
  drainingBackoffWorkers := sender.drainingBackoffWorkers
  retryPolicy := sender.retryPolicy
  attemptedTps := sender.attemptedTps
  retryAttemptedTps := sender.retryAttemptedTps
  terminalFailedTps := sender.terminalFailedTps
  inFlightRequests := sender.inFlightRequests
  attemptsStartedTotal := sender.attemptsStartedTotal
  retryAttemptsStartedTotal := sender.retryAttemptsStartedTotal
  successfulResponses := sender.successfulResponses
  failedResponses := sender.failedResponses
  retries := sender.retries
  timeoutsTotal := sender.timeoutsTotal
  terminalFailedBatchesTotal := sender.terminalFailedBatchesTotal
  terminalFailedTransactionsTotal := sender.terminalFailedTransactionsTotal
  ambiguousTimeoutTransactionsTotal := sender.ambiguousTimeoutTransactionsTotal
  duplicateRiskTransactionsTotal := sender.duplicateRiskTransactionsTotal
  ambiguousTerminalTransactionsTotal := sender.ambiguousTerminalTransactionsTotal

/-- What is measured of the requests. -/
structure MeasuredHttp where
  statusCode : Option Number
  lastOutcome : Option HttpOutcomeKind
  throughputTps : Option Number
  inFlightRequests : Option Number
  requestsStartedTotal : Number
  requestsCompletedTotal : Number
  requestsSucceededTotal : Number
  requestsFailedTotal : Number
  requestsTimedOutTotal : Number
  networkErrorsTotal : Number
  latencyP95Ms : Option Number

def HttpSnapshot.measured (http : HttpSnapshot) : MeasuredHttp where
  statusCode := http.statusCode
  lastOutcome := http.lastOutcome
  throughputTps := http.throughputTps
  inFlightRequests := http.inFlightRequests
  requestsStartedTotal := http.requestsStartedTotal
  requestsCompletedTotal := http.requestsCompletedTotal
  requestsSucceededTotal := http.requestsSucceededTotal
  requestsFailedTotal := http.requestsFailedTotal
  requestsTimedOutTotal := http.requestsTimedOutTotal
  networkErrorsTotal := http.networkErrorsTotal
  latencyP95Ms := http.latencyP95Ms

/-- What is measured of the target, and where it is. -/
structure MeasuredTarget where
  endpoint : Option String
  acceptedTps : Option Number
  rejectedTps : Option Number
  latencyP95Ms : Option Number
  http200Responses : Option Number
  http503Responses : Option Number

def TargetSnapshot.measured (target : TargetSnapshot) : MeasuredTarget where
  endpoint := target.endpoint
  acceptedTps := target.acceptedTps
  rejectedTps := target.rejectedTps
  latencyP95Ms := target.latencyP95Ms
  http200Responses := target.http200Responses
  http503Responses := target.http503Responses

/-- **The measured values of a snapshot**, part by part: whatever is neither a state nor
configured nor a control nor an error. -/
structure Measured where
  elapsedMs : Number
  totalTransactions : Number
  reader : MeasuredReader
  throttler : MeasuredThrottler
  readerChannel : MeasuredChannel
  senderChannel : MeasuredChannel
  sender : MeasuredSender
  http : MeasuredHttp
  target : MeasuredTarget

def LoadgenTelemetrySnapshot.measured (snapshot : LoadgenTelemetrySnapshot) : Measured where
  elapsedMs := snapshot.elapsedMs
  totalTransactions := snapshot.totalTransactions
  reader := snapshot.reader.measured
  throttler := snapshot.throttler.measured
  readerChannel := snapshot.readerChannel.measured
  senderChannel := snapshot.senderChannel.measured
  sender := snapshot.sender.measured
  http := snapshot.http.measured
  target := snapshot.target.measured

/-- **A faithful presentation** of a live snapshot: everything but the measured values is
live, in the parts as in the whole, and these are those observed. -/
structure Presents (observed live shown : LoadgenTelemetrySnapshot) : Prop where
  revision : shown.revision = live.revision
  adapterKind : shown.adapterKind = live.adapterKind
  runState : shown.runState = live.runState
  connectionState : shown.connectionState = live.connectionState
  config : shown.config = live.config
  controls : shown.controls = live.controls
  sourceError : shown.reader.sourceError = live.reader.sourceError
  readerState : shown.reader.state = live.reader.state
  throttlerState : shown.throttler.state = live.throttler.state
  senderState : shown.sender.state = live.sender.state
  httpState : shown.http.connectionState = live.http.connectionState
  targetState : shown.target.connectionState = live.target.connectionState
  measured : shown.measured = observed.measured

section Unique

theorem ReaderSnapshot.eq_of_measured {r r' : ReaderSnapshot} (h : r.measured = r'.measured)
    (hworkers : r.workers = r'.workers) (hsize : r.readBatchSize = r'.readBatchSize)
    (herror : r.sourceError = r'.sourceError) (hstate : r.state = r'.state) : r = r' := by
  cases r
  cases r'
  simp_all [measured]

theorem ThrottlerSnapshot.eq_of_measured {t t' : ThrottlerSnapshot} (h : t.measured = t'.measured)
    (htps : t.requestedTps = t'.requestedTps) (hinstalled : t.installed = t'.installed)
    (hstate : t.state = t'.state) : t = t' := by
  cases t
  cases t'
  simp_all [measured]

theorem ChannelTelemetrySnapshot.eq_of_measured {c c' : ChannelTelemetrySnapshot}
    (h : c.measured = c'.measured) (hcapacity : c.capacity = c'.capacity) : c = c' := by
  cases c
  cases c'
  simp_all [measured]

theorem SenderSnapshot.eq_of_measured {s s' : SenderSnapshot} (h : s.measured = s'.measured)
    (hworkers : s.workers = s'.workers) (htimeout : s.timeoutMs = s'.timeoutMs)
    (hstate : s.state = s'.state) : s = s' := by
  cases s
  cases s'
  simp_all [measured]

theorem HttpSnapshot.eq_of_measured {http http' : HttpSnapshot} (h : http.measured = http'.measured)
    (hstate : http.connectionState = http'.connectionState) : http = http' := by
  cases http
  cases http'
  simp_all [measured]

theorem TargetSnapshot.eq_of_measured {t t' : TargetSnapshot} (h : t.measured = t'.measured)
    (hstate : t.connectionState = t'.connectionState) : t = t' := by
  cases t
  cases t'
  simp_all [measured]

/-- **Nothing is left open**: of a live snapshot and one observed there is one faithful
presentation. -/
theorem Presents.unique {observed live shown shown' : LoadgenTelemetrySnapshot}
    (h : Presents observed live shown) (h' : Presents observed live shown') : shown = shown' := by
  have hmeasured := h.measured.trans h'.measured.symm
  have hcontrols := h.controls.trans h'.controls.symm
  simp only [LoadgenTelemetrySnapshot.measured, Measured.mk.injEq] at hmeasured
  simp only [LoadgenTelemetrySnapshot.controls, Controls.mk.injEq] at hcontrols
  obtain ⟨helapsed, htotal, hreader, hthrottler, hreaderChannel, hsenderChannel, hsender, hhttp,
    htarget⟩ := hmeasured
  obtain ⟨hworkers, hsize, htps, hinstalled, hreaderCapacity, hsenderCapacity, hsenders,
    htimeout⟩ := hcontrols
  have hreader' := ReaderSnapshot.eq_of_measured hreader hworkers hsize
    (h.sourceError.trans h'.sourceError.symm) (h.readerState.trans h'.readerState.symm)
  have hthrottler' := ThrottlerSnapshot.eq_of_measured hthrottler htps hinstalled
    (h.throttlerState.trans h'.throttlerState.symm)
  have hsender' := SenderSnapshot.eq_of_measured hsender hsenders htimeout
    (h.senderState.trans h'.senderState.symm)
  have hhttp' := HttpSnapshot.eq_of_measured hhttp (h.httpState.trans h'.httpState.symm)
  have htarget' := TargetSnapshot.eq_of_measured htarget (h.targetState.trans h'.targetState.symm)
  have hreaderChannel' := ChannelTelemetrySnapshot.eq_of_measured hreaderChannel hreaderCapacity
  have hsenderChannel' := ChannelTelemetrySnapshot.eq_of_measured hsenderChannel hsenderCapacity
  have hrevision := h.revision.trans h'.revision.symm
  have hkind := h.adapterKind.trans h'.adapterKind.symm
  have hrun := h.runState.trans h'.runState.symm
  have hconnection := h.connectionState.trans h'.connectionState.symm
  have hconfig := h.config.trans h'.config.symm
  cases shown
  cases shown'
  simp only [SnapshotOver.mk.injEq]
  exact ⟨hrevision, hkind, hconnection, hrun, helapsed, htotal, hconfig, hreader', hthrottler',
    hreaderChannel', hsenderChannel', hsender', hhttp', htarget'⟩

end Unique

/-! ### The deriver follows the snapshots -/

section Follows

variable {heap : ℕ → LoadgenTelemetrySnapshot} {history : List LoadgenTelemetrySnapshot}
  {observed live : LoadgenTelemetrySnapshot} {deriver : PauseFrozenObservedDeriver}
  {derivation : Derivation} {a : ℕ} {now : Number}

theorem retained_append (history : List LoadgenTelemetrySnapshot)
    (live : LoadgenTelemetrySnapshot) :
    retained (history ++ [live]) = if live.isFresh then
      if live.runState = .running ∧ live.connectionState = .connected then some live else none
      else retained history := by
  rw [retained, List.filter_append]
  by_cases hfresh : live.isFresh = true
  · rw [List.filter_cons_of_pos hfresh, List.filter_nil, List.getLast?_concat, if_pos hfresh,
      Option.filter_some]
    split <;> simp_all
  · rw [List.filter_cons_of_neg hfresh, List.filter_nil, List.append_nil, if_neg hfresh, retained]

/-- A snapshot seen twice retains what it retains once. -/
theorem retained_append_self (history : List LoadgenTelemetrySnapshot)
    (live : LoadgenTelemetrySnapshot) :
    retained (history ++ [live] ++ [live]) = retained (history ++ [live]) := by
  rw [retained_append, retained_append]
  split <;> rfl

/-- **What the deriver shows** after some snapshots. -/
def shownOf (history : List LoadgenTelemetrySnapshot) (live : LoadgenTelemetrySnapshot) :
    LoadgenTelemetrySnapshot :=
  if live.isFresh then live
  else (retained history).elim live (freezeObservedTelemetry · live)

theorem shownOf_append_self (history : List LoadgenTelemetrySnapshot)
    (live : LoadgenTelemetrySnapshot) : shownOf (history ++ [live]) live = shownOf history live := by
  rw [shownOf, shownOf, retained_append]
  split <;> rfl

/-- **The deriver follows the snapshots it has been given**: it holds what they retain, and
for the last one what it shows of it. -/
structure Follows (heap : ℕ → LoadgenTelemetrySnapshot) (history : List LoadgenTelemetrySnapshot)
    (deriver : PauseFrozenObservedDeriver) : Prop where
  retained : deriver.frozen.or deriver.lastRunning = retained history
  source : ∀ address, deriver.sourceSnapshot = some address → ∃ a before shown,
    address = .given a ∧ history = before ++ [heap a] ∧ deriver.presentation = some shown ∧
      shown.value = shownOf before (heap a)

/-- What `present` makes of a snapshot. -/
theorem Follows.present (h : Follows heap history deriver) (snapshot : Object LoadgenTelemetrySnapshot) :
    (deriver.present snapshot).2.value = shownOf history snapshot.value ∧
      (deriver.present snapshot).1.frozen.or (deriver.present snapshot).1.lastRunning =
        Frontend.retained (history ++ [snapshot.value]) ∧
      ((deriver.present snapshot).2 = snapshot ∧
          (deriver.present snapshot).1.made = deriver.made ∨
        (deriver.present snapshot).2.address = .made deriver.made ∧
          (deriver.present snapshot).1.made = deriver.made + 1) := by
  have hretained := h.retained
  rw [retained_append, PauseFrozenObservedDeriver.present, shownOf]
  cases hstate : snapshot.value.runState with
  | running =>
    have hfresh : snapshot.value.isFresh = true := by
      simp [LoadgenTelemetrySnapshot.isFresh, hstate]
    rw [if_pos hfresh, if_pos hfresh]
    refine ⟨rfl, ?_, Or.inl ⟨rfl, rfl⟩⟩
    simp only [Option.none_or, true_and]
  | idle =>
    have hfresh : snapshot.value.isFresh = true := by
      simp [LoadgenTelemetrySnapshot.isFresh, hstate]
    rw [if_pos hfresh, if_pos hfresh]
    exact ⟨rfl, by simp, Or.inl ⟨rfl, rfl⟩⟩
  | paused | faulted =>
    have hfresh : ¬snapshot.value.isFresh = true := by
      simp [LoadgenTelemetrySnapshot.isFresh, hstate]
    rw [if_neg hfresh, if_neg hfresh, ← hretained]
    cases hobserved : deriver.frozen.or deriver.lastRunning with
    | none => exact ⟨rfl, hobserved, Or.inl ⟨rfl, rfl⟩⟩
    | some observed => exact ⟨rfl, rfl, Or.inr ⟨rfl, rfl⟩⟩

/-- **One snapshot more.** -/
theorem Follows.derive (h : Follows heap history deriver) (a : ℕ) :
    (deriver.derive ⟨.given a, heap a⟩).2.snapshot.value = shownOf history (heap a) ∧
      Follows heap (history ++ [heap a]) (deriver.derive ⟨.given a, heap a⟩).1 := by
  obtain ⟨hvalue, hretained, -⟩ := h.present ⟨.given a, heap a⟩
  rw [PauseFrozenObservedDeriver.derive]
  split
  · next shown hsource hshown =>
    obtain ⟨b, before, shown', hb, rfl, hpresentation, hvalue'⟩ :=
      h.source _ (of_decide_eq_true hsource)
    obtain rfl : a = b := Address.given.inj hb
    obtain rfl : shown' = shown := Option.some.inj (hpresentation.symm.trans hshown)
    refine ⟨hvalue'.trans (shownOf_append_self _ _).symm, ?_, fun address haddress => ?_⟩
    · rw [retained_append_self]
      exact h.retained
    · rw [of_decide_eq_true hsource] at haddress
      exact ⟨a, before ++ [heap a], shown', (Option.some.inj haddress).symm, rfl, hshown,
        hvalue'.trans (shownOf_append_self _ _).symm⟩
  · refine ⟨hvalue, hretained, fun address haddress => ?_⟩
    exact ⟨a, history, _, (Option.some.inj haddress).symm, rfl, rfl, hvalue⟩

/-! ### The hook hands it on -/

/-- A snapshot but for its channels. -/
def SnapshotOver.withoutChannels {Channel : Type} (snapshot : SnapshotOver Channel) :
    SnapshotOver Unit :=
  { snapshot with readerChannel := (), senderChannel := () }

/-- **The hook follows the snapshots**: what it has handed on is what its deriver shows,
but for the channels. -/
structure Derivation.Follows (heap : ℕ → LoadgenTelemetrySnapshot)
    (history : List LoadgenTelemetrySnapshot) (derivation : Derivation) : Prop where
  pause : Frontend.Follows heap history derivation.pauseDeriver
  source : derivation.sourceSnapshot = derivation.pauseDeriver.sourceSnapshot
  presentation : ∀ address, derivation.sourceSnapshot = some address → ∃ a before handed,
    address = .given a ∧ history = before ++ [heap a] ∧ derivation.presentation = some handed ∧
      handed.snapshot.withoutChannels = (shownOf before (heap a)).withoutChannels
  channels : ∀ address, derivation.channelDeriver.sourceSnapshot = some address →
    (∃ a derived, address = .given a ∧ derivation.channelDeriver.derivedSnapshot = some derived ∧
      derived.withoutChannels = (heap a).withoutChannels) ∨
    ∃ n < derivation.pauseDeriver.made, address = .made n

/-- A snapshot that was not the last one is presented anew. -/
theorem derive_of_new {snapshot : Object LoadgenTelemetrySnapshot}
    (h : ¬deriver.sourceSnapshot = some snapshot.address) :
    deriver.derive snapshot =
      ({ (deriver.present snapshot).1 with
          presentation := some (deriver.present snapshot).2
          sourceSnapshot := some snapshot.address },
        ⟨(deriver.present snapshot).2, (deriver.present snapshot).1.frozen.isSome⟩) := by
  rw [PauseFrozenObservedDeriver.derive, decide_eq_false h]

/-- The deriver of the channels changes the channels only. -/
theorem withoutChannels_derive (deriver : ChannelFlowStateDeriver)
    (snapshot : Object LoadgenTelemetrySnapshot) (now : Number)
    (h : ∀ derived, deriver.sourceSnapshot = some snapshot.address →
      deriver.derivedSnapshot = some derived →
      derived.withoutChannels = snapshot.value.withoutChannels) :
    (deriver.derive snapshot now).2.withoutChannels = snapshot.value.withoutChannels ∧
      (deriver.derive snapshot now).1.sourceSnapshot = some snapshot.address ∧
      (deriver.derive snapshot now).1.derivedSnapshot = some (deriver.derive snapshot now).2 := by
  rw [ChannelFlowStateDeriver.derive]
  split
  · next derived hsource hderived =>
    exact ⟨h derived (of_decide_eq_true hsource) hderived, of_decide_eq_true hsource, hderived⟩
  · exact ⟨rfl, rfl, rfl⟩

/-- **One call of the hook more.** -/
theorem Derivation.Follows.getSnapshot (h : derivation.Follows heap history) (a : ℕ)
    (now : Number) :
    (derivation.getSnapshot ⟨.given a, heap a⟩ now).2.snapshot.withoutChannels =
        (shownOf history (heap a)).withoutChannels ∧
      (derivation.getSnapshot ⟨.given a, heap a⟩ now).1.Follows heap (history ++ [heap a]) := by
  rw [Derivation.getSnapshot]
  split
  · next handed hsource hhanded =>
    obtain ⟨b, before, handed', hb, rfl, hpresentation, hvalue⟩ :=
      h.presentation _ (of_decide_eq_true hsource)
    obtain rfl : a = b := Address.given.inj hb
    obtain rfl : handed' = handed := Option.some.inj (hpresentation.symm.trans hhanded)
    have hderive := (h.pause.derive a).2
    have hsame : (derivation.pauseDeriver.derive ⟨.given a, heap a⟩).1 = derivation.pauseDeriver := by
      obtain ⟨_, _, shown, -, -, hshown, -⟩ :=
        h.pause.source _ (h.source ▸ of_decide_eq_true hsource)
      rw [PauseFrozenObservedDeriver.derive, ← h.source, hsource, hshown]
    rw [hsame] at hderive
    refine ⟨hvalue.trans (by rw [shownOf_append_self]), hderive, h.source, ?_, h.channels⟩
    intro address haddress
    rw [of_decide_eq_true hsource] at haddress
    exact ⟨a, before ++ [heap a], handed', (Option.some.inj haddress).symm, rfl, hhanded,
      hvalue.trans (by rw [shownOf_append_self])⟩
  · next hsource =>
    have hnew : ¬derivation.pauseDeriver.sourceSnapshot = some (.given a) := by
      intro hc
      rw [← h.source] at hc
      obtain ⟨b, before, handed, hb, -, hpresentation, -⟩ := h.presentation _ hc
      exact hsource handed (decide_eq_true hc) hpresentation
    have hfollows := (h.pause.derive a).2
    obtain ⟨hvalue, -, hmade⟩ := h.pause.present ⟨.given a, heap a⟩
    rw [derive_of_new hnew] at hfollows ⊢
    obtain ⟨hhanded, hlast, hderived⟩ := withoutChannels_derive derivation.channelDeriver
      (derivation.pauseDeriver.present ⟨.given a, heap a⟩).2 now
      (fun derived hlast hderived => by
        rcases h.channels _ hlast with ⟨b, derived', hb, hderived', hvalue'⟩ | ⟨n, hn, hb⟩
        · rcases hmade with ⟨hsame, -⟩ | ⟨hmade, -⟩
          · rw [hsame] at hb ⊢
            obtain rfl : a = b := Address.given.inj hb
            obtain rfl : derived' = derived := Option.some.inj (hderived'.symm.trans hderived)
            exact hvalue'
          · exact absurd (hmade.symm.trans hb) nofun
        · rcases hmade with ⟨hsame, -⟩ | ⟨hmade, -⟩
          · rw [hsame] at hb
            exact absurd hb nofun
          · exact absurd (Address.made.inj (hmade.symm.trans hb)) hn.ne')
    refine ⟨hhanded.trans (congrArg _ hvalue), hfollows, rfl, fun address haddress => ?_,
      fun address haddress => ?_⟩
    · exact ⟨a, history, _, (Option.some.inj haddress).symm, rfl, rfl,
        hhanded.trans (congrArg _ hvalue)⟩
    · obtain rfl := Option.some.inj (hlast.symm.trans haddress)
      rcases hmade with ⟨hsame, -⟩ | ⟨hmade, hcount⟩
      · refine Or.inl ⟨a, _, congrArg Object.address hsame, hderived, hhanded.trans ?_⟩
        rw [hsame]
      · exact Or.inr ⟨_, Nat.lt_of_lt_of_eq (Nat.lt_succ_self _) hcount.symm, hmade⟩

end Follows

/-! ### The result -/

/-- The deriver after some snapshots. -/
def PauseFrozenObservedDeriver.after (heap : ℕ → LoadgenTelemetrySnapshot) (as : List ℕ) :
    PauseFrozenObservedDeriver :=
  as.foldl (fun deriver a => (deriver.derive ⟨.given a, heap a⟩).1) {}

/-- The hook after some calls. -/
def Derivation.after (heap : ℕ → LoadgenTelemetrySnapshot) (calls : List (ℕ × Number)) :
    Derivation :=
  calls.foldl (fun derivation call =>
    (derivation.getSnapshot ⟨.given call.1, heap call.1⟩ call.2).1) {}

theorem follows_after (heap : ℕ → LoadgenTelemetrySnapshot) (as : List ℕ) :
    Follows heap (as.map heap) (PauseFrozenObservedDeriver.after heap as) := by
  induction as using List.reverseRecOn with
  | nil => exact ⟨rfl, nofun⟩
  | append_singleton as a ih =>
    rw [PauseFrozenObservedDeriver.after, List.foldl_concat, List.map_append]
    exact (ih.derive a).2

theorem Derivation.follows_after (heap : ℕ → LoadgenTelemetrySnapshot)
    (calls : List (ℕ × Number)) :
    (Derivation.after heap calls).Follows heap (calls.map fun call => heap call.1) := by
  induction calls using List.reverseRecOn with
  | nil => exact ⟨⟨rfl, nofun⟩, rfl, nofun, nofun⟩
  | append_singleton calls call ih =>
    rw [Derivation.after, List.foldl_concat, List.map_append]
    exact (ih.getSnapshot call.1 call.2).2

/-- **Nothing hides a fault**: a snapshot that is presented with retained values has the
source error that was retained with them. -/
def FaultKept (history : List LoadgenTelemetrySnapshot) (live : LoadgenTelemetrySnapshot) :
    Prop :=
  live.isFresh = false → ∀ observed ∈ retained history,
    observed.reader.sourceError = live.reader.sourceError

/-- The source error shown. -/
theorem sourceError_shownOf (history : List LoadgenTelemetrySnapshot)
    (live : LoadgenTelemetrySnapshot) :
    (shownOf history live).reader.sourceError = live.reader.sourceError ↔
      FaultKept history live := by
  rw [shownOf, FaultKept]
  by_cases hfresh : live.isFresh = true
  · rw [if_pos hfresh]
    exact ⟨fun _ hc => absurd (hfresh.symm.trans hc) nofun, fun _ => rfl⟩
  · rw [if_neg hfresh]
    cases retained history with
    | none => exact ⟨fun _ _ observed hc => absurd hc nofun, fun _ => rfl⟩
    | some observed =>
      constructor
      · intro h _ observed' hobserved
        obtain rfl := Option.mem_some.mp hobserved
        exact h
      · exact fun h => h (Bool.eq_false_iff.mpr hfresh) observed rfl

/-- Only the source error may be shown wrong. -/
theorem presents_shownOf (history : List LoadgenTelemetrySnapshot)
    (live : LoadgenTelemetrySnapshot) :
    Presents (observedOf history live) live (shownOf history live) ↔ FaultKept history live := by
  rw [← sourceError_shownOf]
  refine ⟨Presents.sourceError, fun h => ?_⟩
  rw [shownOf, observedOf] at *
  split at h
  · next hfresh =>
    rw [if_pos hfresh, if_pos hfresh]
    exact ⟨rfl, rfl, rfl, rfl, rfl, rfl, rfl, rfl, rfl, rfl, rfl, rfl, rfl⟩
  · next hfresh =>
    rw [if_neg hfresh, if_neg hfresh]
    cases hobserved : retained history with
    | none => exact ⟨rfl, rfl, rfl, rfl, rfl, rfl, rfl, rfl, rfl, rfl, rfl, rfl, rfl⟩
    | some observed =>
      rw [hobserved] at h
      exact ⟨rfl, rfl, rfl, rfl, rfl, rfl, h, rfl, rfl, rfl, rfl, rfl, rfl⟩

/-- **The presentation is faithful exactly where no fault is hidden.** After any
snapshots, what the deriver shows of the next one has its run state, its connection
state, its config, its control values and its source error, and the measured values of
the snapshot retained, if and only if that has the same source error; and so has what
the hook hands to the inspector the live source error. -/
theorem frozen_presentation_iff (heap : ℕ → LoadgenTelemetrySnapshot)
    (calls : List (ℕ × Number)) (a : ℕ) (now : Number) :
    let history := calls.map fun call => heap call.1
    let live := heap a
    let shown := ((PauseFrozenObservedDeriver.after heap (calls.map Prod.fst)).derive
      ⟨.given a, live⟩).2.snapshot.value
    let handed := ((Derivation.after heap calls).getSnapshot ⟨.given a, live⟩ now).2.snapshot
    (Presents (observedOf history live) live shown ↔ FaultKept history live) ∧
      handed.withoutChannels = shown.withoutChannels ∧
      (handed.reader.sourceError = live.reader.sourceError ↔ FaultKept history live) := by
  intro history live shown handed
  have hfollows := follows_after heap (calls.map Prod.fst)
  rw [List.map_map] at hfollows
  have hshown : shown = shownOf history live := (hfollows.derive a).1
  have hhanded : handed.withoutChannels = (shownOf history live).withoutChannels :=
    ((Derivation.follows_after heap calls).getSnapshot a now).1
  refine ⟨?_, ?_, ?_⟩
  · rw [hshown]
    exact presents_shownOf history live
  · rw [hshown]
    exact hhanded
  · have hreader : handed.reader = (shownOf history live).reader :=
      congrArg SnapshotOver.reader hhanded
    rw [hreader]
    exact sourceError_shownOf history live

/-! ### A hidden fault -/

/-- A range of one value and more, in steps of one. -/
def exampleRange (initial min max : ℕ) (unit mutability : String) :
    RangeControlConfigSnapshot where
  initial := initial
  min := min
  max := max
  step := (1 : ℕ)
  unit := unit
  mutability := mutability

/-- An idle channel. -/
def exampleChannel : WireChannelSnapshot where
  capacity := (0 : ℕ)
  depthBatches := (0 : ℕ)
  bufferedTransactions := (0 : ℕ)
  blockedSenders := (0 : ℕ)
  oldestBlockedSenderMs := (0 : ℕ)
  blockedMs := (0 : ℕ)
  sentBatchesTotal := (0 : ℕ)
  sentTransactionsTotal := (0 : ℕ)
  receivedBatchesTotal := (0 : ℕ)
  receivedTransactionsTotal := (0 : ℕ)
  inputBatchesPerSecond := (0 : ℕ)
  inputTransactionsPerSecond := (0 : ℕ)
  outputBatchesPerSecond := (0 : ℕ)
  outputTransactionsPerSecond := (0 : ℕ)

/-- What a load generator sends in some run state, with some reader workers alive. -/
def exampleWire (state : RunState) (live : ℕ) (sourceError : Option ReaderSourceErrorSnapshot) :
    WireSnapshot where
  run := { state, totalTransactions := (0 : ℕ), elapsedMs := (1000 : ℕ) }
  reader :=
    { workers := (1 : ℕ)
      liveWorkers := live
      idleWorkers := live
      readingWorkers := (0 : ℕ)
      blockedWorkers := (0 : ℕ)
      drainingWorkers := (0 : ℕ)
      drainingIdleWorkers := (0 : ℕ)
      drainingReadingWorkers := (0 : ℕ)
      drainingBlockedWorkers := (0 : ℕ)
      readBatchSize := (1 : ℕ)
      readTps := (0 : ℕ)
      rowsRead := (0 : ℕ)
      sourceDirectory := "/data"
      sourceError }
  throttler := { requestedTps := (200 : ℕ), admittedTps := (0 : ℕ), installed := true }
  sender :=
    { workers := (32 : ℕ)
      liveWorkers := (0 : ℕ)
      idleWorkers := (0 : ℕ)
      inFlightWorkers := (0 : ℕ)
      backoffWorkers := (0 : ℕ)
      drainingWorkers := (0 : ℕ)
      drainingIdleWorkers := (0 : ℕ)
      drainingInFlightWorkers := (0 : ℕ)
      drainingBackoffWorkers := (0 : ℕ) }
  readerChannel := exampleChannel
  senderChannel := exampleChannel
  config :=
    { readerReadBatchSize := exampleRange 1 1 10 "transactions" "idle-only"
      readerWorkers := some (exampleRange 1 1 7 "workers" "immediate")
      readerChannelCapacity :=
        { initial := (0 : ℕ), allowed := [(0 : ℕ)], unit := "batches", mutability := "idle-only" }
      senderChannelCapacity :=
        { initial := (0 : ℕ), allowed := [(0 : ℕ)], unit := "batches", mutability := "idle-only" }
      metricsWindowMs := exampleRange 1000 100 10000 "milliseconds" "startup-only"
      throttlerRequestedTps := exampleRange 200 0 1000 "transactions/s" "immediate"
      throttlerInstalled :=
        { initial := true, allowed := [true, false], mutability := "immediate" }
      senderWorkers := exampleRange 32 1 32 "workers" "immediate"
      logging := some { level := "info", mutability := "startup-only" } }

/-- A running snapshot, and after it one of a run that failed. -/
def faultingSnapshots : ℕ → LoadgenTelemetrySnapshot
  | 0 => createSnapshot 1 .connected (some (exampleWire .running 1 none))
  | _ => createSnapshot 2 .connected (some (exampleWire .faulted 0
      (some ⟨"read", "broken.parquet", "corrupt parquet"⟩)))

/-- **A fault is hidden**: of the faulted snapshot that follows a running one, the
presentation has no source error, and the inspector shows none. -/
theorem faultingSnapshots_hide_fault :
    let live := faultingSnapshots 1
    let shown := ((PauseFrozenObservedDeriver.after faultingSnapshots [0]).derive
      ⟨.given 1, live⟩).2.snapshot.value
    let handed := ((Derivation.after faultingSnapshots [(0, .finite 0)]).getSnapshot
      ⟨.given 1, live⟩ (.finite 1000)).2.snapshot
    live.runState = .faulted ∧ live.reader.sourceError.isSome = true ∧
      ¬Presents (observedOf [faultingSnapshots 0] live) live shown ∧
      handed.reader.sourceError = none ∧ sourceErrorRow handed = none := by
  intro live shown handed
  have hshown : shown.reader.sourceError = none := rfl
  have hhanded : handed.reader.sourceError = none := rfl
  refine ⟨rfl, rfl, fun h => ?_, hhanded, ?_⟩
  · exact absurd (hshown.symm.trans h.sourceError) nofun
  · rw [sourceErrorRow, hhanded]
    rfl

end IngestionLab.Frontend
