import IngestionLab.Frontend.Loadgen
import Mathlib.Algebra.Order.Field.Rat
import Mathlib.Algebra.Order.Group.Abs
import Mathlib.Data.Sign.Defs

/-!
# The flow state of a channel

The model of `model/channelFlowState.ts`: what is displayed of a channel depends on the
pressure shown before, which moves toward the measured one at a bounded rate. Arithmetic
is that of the rationals.
-/

namespace IngestionLab.Frontend

open JS

/-- `PRESSURE_UNITS_PER_SECOND`. -/
def pressureUnitsPerSecond : ℚ := 2

/-- `PRESSURE_MIDPOINT`. -/
def pressureMidpoint : ℚ := 1 / 2

/-- `BLOCKING_NOISE_MAX_MS`. -/
def blockingNoiseMaxMs : ℚ := 100

/-- `BLOCKING_SATURATION_MS`. -/
def blockingSaturationMs : ℚ := 500

/-- `clampPressure`. -/
def clampPressure (value : ℚ) : ℚ := min 1 (max 0 value)

/-- `occupancyPressure`. -/
def occupancyPressure (depthBatches appliedCapacity : Option Number) : ℚ :=
  match depthBatches, appliedCapacity with
  | some (.finite depth), some (.finite capacity) =>
    if capacity ≤ 0 then 0 else clampPressure (depth / capacity)
  | _, _ => 0

/-- `blockingPressure`. -/
def blockingPressure (blockedSenders oldestBlockedSenderMs : Number) : ℚ :=
  if blockedSenders.le (.finite 0) then 0
  else match oldestBlockedSenderMs with
    | .finite oldest =>
      if oldest ≤ blockingNoiseMaxMs then 0
      else clampPressure
        ((oldest - blockingNoiseMaxMs) / (blockingSaturationMs - blockingNoiseMaxMs))
    | _ => 0

/-- `hasRendezvousWaiter`. -/
def hasRendezvousWaiter (channel : ChannelTelemetrySnapshot) : Bool :=
  channel.capacity.applied = some (.finite 0) && Number.lt (.finite 0) channel.blockedSenders

/-- `effectiveChannelPressure`. -/
def effectiveChannelPressure (channel : ChannelTelemetrySnapshot) : ℚ :=
  if hasRendezvousWaiter channel then 1
  else max (occupancyPressure channel.depthBatches channel.capacity.applied)
    (blockingPressure channel.blockedSenders channel.oldestBlockedSenderMs)

/-- `moveDisplayedPressure`, for a finite time. -/
def moveDisplayedPressure (current target elapsedMs : ℚ) : ℚ :=
  if elapsedMs ≤ 0 then current
  else
    let difference := target - current
    let maxChange := pressureUnitsPerSecond * elapsedMs / 1000
    if |difference| ≤ maxChange then target
    else mathRound ((current + SignType.sign difference * maxChange) * 1000000) / 1000000

/-- `channelMode`: the channel is stopped, or says nothing. -/
def channelMode (channel : ChannelTelemetrySnapshot) (runState : RunState)
    (connectionState : ConnectionState) : Option ChannelFlowState :=
  let missingTelemetry := channel.depthBatches.isNone || channel.capacity.applied.isNone ||
    !channel.blockedSenders.isFinite || !channel.oldestBlockedSenderMs.isFinite
  if connectionState ≠ .connected || missingTelemetry then some .connectionError
  else if runState ≠ .running then some .stopped
  else none

/-- `pressureFlowState`. -/
def pressureFlowState (displayedPressure : ℚ) : ChannelFlowState :=
  if displayedPressure = 1 then .backpressure
  else if pressureMidpoint ≤ displayedPressure then .nearLimit
  else .normal

/-- `ChannelDerivationState`. -/
structure ChannelDerivationState where
  displayedPressure : ℚ := 0
  observedAtMs : Option ℚ := none
  pressureActive : Bool := false
  deriving DecidableEq, Repr

/-- `deriveChannel`, of the state kept for the channel. Where the time of the observation
is not finite, no time has passed and none is kept. -/
def deriveChannel (state : ChannelDerivationState) (channel : ChannelTelemetrySnapshot)
    (runState : RunState) (connectionState : ConnectionState) (observedAtMs : Number) :
    ChannelDerivationState × ChannelSnapshot :=
  let observed := match observedAtMs with
    | .finite q => some q
    | _ => none
  let mode := channelMode channel runState connectionState
  let state := match mode with
    | none =>
      let elapsedMs := match state.pressureActive, state.observedAtMs with
        | true, some last => observed.map (· - last)
        | _, _ => some 0
      { state with
        displayedPressure :=
          if hasRendezvousWaiter channel then 1
          else elapsedMs.elim state.displayedPressure
            (moveDisplayedPressure state.displayedPressure (effectiveChannelPressure channel))
        pressureActive := observed.isSome && elapsedMs.any (0 ≤ ·) }
    | some _ => { state with pressureActive := false }
  let state := { state with observedAtMs := observed }
  (state, { channel with
    displayedPressure := state.displayedPressure
    flowState := mode.getD (pressureFlowState state.displayedPressure) })

/-! ### Objects -/

/-- Where an object is: one that is given, or one that has been made here. -/
inductive Address
  | given (n : ℕ)
  | made (n : ℕ)
  deriving DecidableEq, Repr

/-- **An object**, which `===` compares by where it is. Nothing changes one. -/
structure Object (α : Type) where
  address : Address
  value : α

/-- `ChannelFlowStateDeriver`. -/
structure ChannelFlowStateDeriver where
  channelStates : ChannelId → ChannelDerivationState := fun _ => {}
  sourceSnapshot : Option Address := none
  derivedSnapshot : Option LoadgenSnapshot := none

/-- `ChannelFlowStateDeriver.derive`. -/
def ChannelFlowStateDeriver.derive (deriver : ChannelFlowStateDeriver)
    (snapshot : Object LoadgenTelemetrySnapshot) (observedAtMs : Number) :
    ChannelFlowStateDeriver × LoadgenSnapshot :=
  match decide (deriver.sourceSnapshot = some snapshot.address), deriver.derivedSnapshot with
  | true, some derived => (deriver, derived)
  | _, _ =>
    let live := snapshot.value
    let states := deriver.channelStates
    let (state, readerChannel) := deriveChannel (states live.readerChannel.id) live.readerChannel
      live.runState live.connectionState observedAtMs
    let states := Function.update states live.readerChannel.id state
    let (state, senderChannel) := deriveChannel (states live.senderChannel.id) live.senderChannel
      live.runState live.connectionState observedAtMs
    let states := Function.update states live.senderChannel.id state
    let derived : LoadgenSnapshot := { live with readerChannel, senderChannel }
    ({ channelStates := states
       sourceSnapshot := some snapshot.address
       derivedSnapshot := some derived }, derived)

end IngestionLab.Frontend
