import IngestionLab.Frontend.Simulation.Order

/-!
# A smaller capacity of a simulated channel

A capacity below the depth of a channel is to take effect by draining: while it is
pending the channel takes nothing more, and it is applied as soon as what is buffered fits
(`IngestionLab.Frontend.FixedStepSimulation.Drains`).

The second half holds of every run. The first does not: `send` looks at the applied
capacity only, so a channel that is not full up to it takes another batch whatever is
pending. `IngestionLab.Frontend.FixedStepSimulation.drains_iff_refused` says that this is
all that goes wrong.
-/

namespace IngestionLab.Frontend

namespace StatefulChannel

variable {channel channel' : StatefulChannel SimulationBatch} {batch : SimulationBatch}

/-- What is pending is smaller than what is buffered. -/
def Waits (channel : StatefulChannel SimulationBatch) : Prop :=
  ∀ capacity ∈ channel.pendingCapacity, capacity < channel.depthBatches

/-- What is buffered and what the capacities are is the same. -/
def Alike (channel channel' : StatefulChannel SimulationBatch) : Prop :=
  channel'.items = channel.items ∧ channel'.appliedCapacity = channel.appliedCapacity ∧
    channel'.pendingCapacity = channel.pendingCapacity

theorem Alike.rfl : Alike channel channel := ⟨Eq.refl _, Eq.refl _, Eq.refl _⟩

/-- **What may become of a channel**: it takes a batch, gives one away, is asked for another
capacity, starts over, or stays as it is. -/
inductive Becomes (channel : StatefulChannel SimulationBatch) (offered requested : Prop) :
    StatefulChannel SimulationBatch → Prop
  | same {channel' : StatefulChannel SimulationBatch} (h : channel.Alike channel')
      (hfull : offered → channel.admits = false) : Becomes channel offered requested channel'
  | sent (batch : SimulationBatch) (hoffered : offered) (hadmits : channel.admits = true) :
      Becomes channel offered requested (channel.send SimulationBatch.transactions batch)
  | received (batch : SimulationBatch) (items : List SimulationBatch)
      (hitems : channel.items = batch :: items) (hoffered : ¬offered) :
      Becomes channel offered requested (channel.receive SimulationBatch.transactions).1
  | resized (capacity : ℕ) (hrequested : requested) (hoffered : ¬offered) :
      Becomes channel offered requested (channel.requestCapacity capacity).1
  | reset (hoffered : ¬offered) : Becomes channel offered requested channel.resetRuntime

/-- **While a capacity is pending** a channel that becomes another one is no fuller, and
applies the capacity if what is buffered fits. -/
structure Falls (capacity : ℕ) (channel channel' : StatefulChannel SimulationBatch) : Prop where
  depth : channel'.depthBatches ≤ channel.depthBatches
  applied : channel'.pendingCapacity = some capacity ∧ capacity < channel'.depthBatches ∨
    channel'.pendingCapacity = none ∧ channel'.appliedCapacity = capacity ∧
      channel'.depthBatches ≤ capacity

/-- A capacity that is applied where it fits waits where it does not. -/
theorem applyPendingCapacity_cases (channel : StatefulChannel SimulationBatch) :
    channel.applyPendingCapacity.Waits ∧ ∀ capacity ∈ channel.pendingCapacity,
      Falls capacity channel channel.applyPendingCapacity := by
  rw [applyPendingCapacity]
  cases hpending : channel.pendingCapacity with
  | none =>
    exact ⟨fun _ hcapacity => absurd (hpending ▸ hcapacity) (Option.not_mem_none _), by rintro _ ⟨⟩⟩
  | some capacity =>
    dsimp only
    by_cases hfits : channel.depthBatches ≤ capacity
    · rw [if_pos hfits]
      refine ⟨fun _ hcapacity => absurd hcapacity (Option.not_mem_none _), fun c hc => ?_⟩
      obtain rfl := Option.some.inj hc
      exact ⟨le_rfl, Or.inr ⟨rfl, rfl, hfits⟩⟩
    · rw [if_neg hfits]
      refine ⟨fun c hc => ?_, fun c hc => ?_⟩
      · obtain rfl : capacity = c := Option.some.inj (hpending.symm.trans hc)
        exact not_le.mp hfits
      · obtain rfl := Option.some.inj hc
        exact ⟨le_rfl, Or.inl ⟨hpending, not_le.mp hfits⟩⟩

theorem waits_requestCapacity (h : channel.Waits) (capacity : ℕ) :
    (channel.requestCapacity capacity).1.Waits := by
  rw [requestCapacity]
  split
  · exact h
  split
  · exact fun _ hcapacity => absurd hcapacity (Option.not_mem_none _)
  · next hlarge =>
    intro c hc
    obtain rfl := Option.some.inj hc
    exact not_le.mp hlarge

theorem Waits.becomes {offered requested : Prop} (h : channel.Waits)
    (hbecomes : channel.Becomes offered requested channel') : channel'.Waits := by
  cases hbecomes with
  | same hsame hfull =>
    obtain ⟨hitems, -, hpending⟩ := hsame
    intro capacity hcapacity
    rw [hpending] at hcapacity
    rw [depthBatches, hitems]
    exact h capacity hcapacity
  | sent batch hoffered hadmits =>
    intro capacity hcapacity
    show capacity < (channel.items ++ [batch]).length
    rw [List.length_append]
    exact Nat.lt_add_right _ (h capacity hcapacity)
  | received batch items hitems hoffered =>
    rw [receive, hitems]
    exact (applyPendingCapacity_cases _).1
  | resized capacity hrequested hoffered => exact waits_requestCapacity h capacity
  | reset hoffered => exact fun _ hcapacity => absurd hcapacity (Option.not_mem_none _)

/-- **A channel that takes nothing and is not asked for another capacity drains.** -/
theorem Becomes.falls {offered requested : Prop} {capacity : ℕ}
    (h : channel.Becomes offered requested channel') (hwaits : channel.Waits)
    (hcapacity : channel.pendingCapacity = some capacity)
    (hrefused : offered → channel.admits = false) (hrequested : ¬requested) :
    Falls capacity channel channel' := by
  have hwaiting := hwaits capacity hcapacity
  cases h with
  | same hsame hfull =>
    obtain ⟨hitems, happlied, hpending⟩ := hsame
    have hdepth : channel'.depthBatches = channel.depthBatches := by
      rw [depthBatches, hitems]
      rfl
    exact ⟨hdepth.le, Or.inl ⟨hpending.trans hcapacity, hdepth ▸ hwaiting⟩⟩
  | sent batch hoffered hadmits => exact absurd hadmits (by rw [hrefused hoffered]; rintro ⟨⟩)
  | received batch items hitems hoffered =>
    rw [receive, hitems]
    obtain ⟨hdepth, happlied⟩ := (applyPendingCapacity_cases
      (recordOutput SimulationBatch.transactions { channel with items := items } batch)).2
        capacity hcapacity
    refine ⟨hdepth.trans ?_, happlied⟩
    show items.length ≤ channel.items.length
    rw [hitems]
    exact Nat.le_succ _
  | resized _ hrequested' hoffered => exact absurd hrequested' hrequested
  | reset hoffered =>
    refine ⟨Nat.zero_le _, Or.inr ⟨rfl, ?_, Nat.zero_le _⟩⟩
    show channel.pendingCapacity.getD channel.appliedCapacity = capacity
    rw [hcapacity]
    rfl

/-- **A channel that takes a batch while a capacity is pending** is fuller than before. -/
theorem Becomes.not_falls {offered requested : Prop} {capacity : ℕ}
    (h : channel.Becomes offered requested channel') (hoffered : offered)
    (hadmits : channel.admits = true) : ¬Falls capacity channel channel' := by
  cases h with
  | same hsame hfull => exact absurd hadmits (by rw [hfull hoffered]; exact nofun)
  | sent batch _ _ =>
    intro hfalls
    have hdepth := hfalls.depth
    change (channel.items ++ [batch]).length ≤ channel.items.length at hdepth
    rw [List.length_append] at hdepth
    exact absurd hdepth (Nat.not_succ_le_self _)
  | received _ _ _ hnot => exact absurd hoffered hnot
  | resized _ _ hnot => exact absurd hoffered hnot
  | reset hnot => exact absurd hoffered hnot

end StatefulChannel

namespace FixedStepSimulation

open StatefulChannel

variable {source : Option SimulationAttemptOutcomeSource} {sim : FixedStepSimulation}
  {id : ChannelId} {m : Move}

/-- One of the two channels. -/
def channel (sim : FixedStepSimulation) : ChannelId → StatefulChannel SimulationBatch
  | .readerToThrottler => sim.readerChannel
  | .throttlerToSender => sim.senderChannel

/-- The move calls `send` on the channel. -/
def Move.Offers (id : ChannelId) : Move → Prop
  | .offerReader => id = .readerToThrottler
  | .offerSender _ => id = .throttlerToSender
  | _ => False

/-- The move asks for a capacity of the channel. -/
def Move.Requests (id : ChannelId) (m : Move) : Prop :=
  ∃ capacity, m = .operate (.requestChannelCapacity id capacity)

/-- **What a smaller capacity asks of a move**: no send is admitted that leaves the channel
fuller than it, the channel does not become fuller, and the capacity is applied as soon as
what is buffered fits. -/
def Drains (source : Option SimulationAttemptOutcomeSource) (id : ChannelId)
    (sim : FixedStepSimulation) (m : Move) : Prop :=
  ∀ capacity ∈ (sim.channel id).pendingCapacity,
    (m.Offers id → (sim.channel id).admits = true →
      ((m.apply source sim).channel id).depthBatches ≤ capacity) ∧
    Falls capacity (sim.channel id) ((m.apply source sim).channel id)

/-- **A batch offered to the channel while a capacity is pending** finds it full up to the
capacity that is still applied. -/
def Refused (id : ChannelId) (sim : FixedStepSimulation) (m : Move) : Prop :=
  m.Offers id → (sim.channel id).pendingCapacity ≠ none →
    (sim.channel id).appliedCapacity ≤ (sim.channel id).depthBatches

/-! ### What a move makes of a channel -/

theorem OnlyWorkers.channel {s : FixedStepSimulation} (h : OnlyWorkers sim s) :
    s.channel = sim.channel := by
  obtain ⟨_, _, _, _, _, _, _, rfl⟩ := h
  exact Eq.refl _

theorem channel_updateConfig (sim : FixedStepSimulation) (values : PartialConfig) :
    (sim.updateConfig values).channel = sim.channel := by
  rw [updateConfig]
  cases values.senderWorkers with
  | none => rfl
  | some requested =>
    exact (onlyWorkers_requestSenderWorkerCount
      { sim with config := assignConfig sim.config values } requested).channel

/-- Nothing becomes of the channel. -/
theorem becomes_of_eq {channel channel' : StatefulChannel SimulationBatch} {offered requested : Prop}
    (hnot : ¬offered) (h : channel.Alike channel') : channel.Becomes offered requested channel' :=
  .same h fun hoffered => absurd hoffered hnot

theorem alike_observeBlocked (channel : StatefulChannel SimulationBatch) (blocked progressed : Bool) :
    channel.Alike (channel.observeBlocked blocked progressed) := by
  obtain ⟨_, _, _, heq⟩ := exists_observeBlocked_eq channel blocked progressed
  rw [heq]
  exact .rfl

/-- **What an operation makes of a channel.** -/
theorem becomes_perform (id : ChannelId) {operation : Operation} (hone : operation ≠ .advanceStep) :
    (sim.channel id).Becomes False (Move.Requests id (.operate operation))
      ((sim.perform source operation).channel id) := by
  cases operation with
  | advanceStep => exact absurd rfl hone
  | updateConfig values =>
    refine becomes_of_eq nofun ?_
    rw [perform, channel_updateConfig]
    exact .rfl
  | requestChannelCapacity other capacity =>
    cases other <;> cases id
    · exact .resized capacity ⟨capacity, rfl⟩ id
    · exact becomes_of_eq nofun .rfl
    · exact becomes_of_eq nofun .rfl
    · exact .resized capacity ⟨capacity, rfl⟩ id
  | clearInstantaneousTelemetry => exact becomes_of_eq nofun (by cases id <;> exact .rfl)
  | telemetry running => exact becomes_of_eq nofun .rfl
  | reset => cases id <;> exact .reset id

/-- What a move makes of a channel it leaves as it is. -/
theorem becomes_of_channel_eq (hnot : ¬m.Offers id)
    (h : (m.apply source sim).channel = sim.channel) :
    (sim.channel id).Becomes (m.Offers id) (m.Requests id) ((m.apply source sim).channel id) :=
  becomes_of_eq hnot (by rw [h]; exact .rfl)

theorem admits_eq_false {channel : StatefulChannel SimulationBatch} (h : ¬channel.admits = true) :
    channel.admits = false := Bool.not_eq_true _ ▸ h

/-- **What a move makes of a channel.** -/
theorem becomes_apply (id : ChannelId) (hm : m.Enabled sim) :
    (sim.channel id).Becomes (m.Offers id) (m.Requests id)
      ((m.apply source sim).channel id) := by
  cases m with
  | startStep => exact becomes_of_channel_eq (by rintro ⟨⟩) rfl
  | complete index =>
    exact becomes_of_channel_eq (by rintro ⟨⟩) (onlyWorkers_completeDue sim index).channel
  | retry index =>
    exact becomes_of_channel_eq (by rintro ⟨⟩) (onlyWorkers_startDue source sim index).channel
  | finalize =>
    exact becomes_of_channel_eq (by rintro ⟨⟩) (onlyWorkers_finalizeSenderScaleDown sim).channel
  | refill =>
    refine becomes_of_channel_eq (by rintro ⟨⟩) ?_
    show sim.refillThrottlerTokens.channel = sim.channel
    rw [refillThrottlerTokens]
    split <;> rfl
  | earn => exact becomes_of_channel_eq (by rintro ⟨⟩) rfl
  | strand batch => exact becomes_of_channel_eq (by rintro ⟨⟩) rfl
  | operate operation => exact becomes_perform id hm
  | deliver next index batch =>
    obtain ⟨items, hitems⟩ := List.head?_eq_some_iff.mp hm.2
    rw [Move.apply, (onlyWorkers_startAttempt ..).channel]
    cases id with
    | readerToThrottler => exact becomes_of_eq (by rintro ⟨⟩) .rfl
    | throttlerToSender => exact .received batch items hitems (by rintro ⟨⟩)
  | handoffSender next index batch =>
    have hchannel : ((Move.handoffSender next index batch).apply source sim).channel =
        (onSenderChannel { sim with nextWorkerIndex := some next }
          (sim.senderChannel.handoff SimulationBatch.transactions batch) (·.handoff batch)).channel :=
      (onlyWorkers_startAttempt source (onSenderChannel { sim with nextWorkerIndex := some next }
        (sim.senderChannel.handoff SimulationBatch.transactions batch) (·.handoff batch))
        index batch 1 false).channel
    rw [hchannel]
    cases id <;> exact becomes_of_eq (by rintro ⟨⟩) .rfl
  | offerSender batch =>
    cases id with
    | readerToThrottler =>
      refine becomes_of_eq (by rintro ⟨⟩) ?_
      rw [Move.apply]
      split <;> exact .rfl
    | throttlerToSender =>
      rw [Move.apply]
      split
      · next hadmits => exact .sent batch rfl hadmits
      · next hfull => exact .same .rfl fun _ => admits_eq_false hfull
  | receiveReader batch =>
    obtain ⟨-, hhead, -⟩ := hm
    obtain ⟨items, hitems⟩ := List.head?_eq_some_iff.mp hhead
    cases id with
    | readerToThrottler => exact .received batch items hitems (by rintro ⟨⟩)
    | throttlerToSender => exact becomes_of_eq (by rintro ⟨⟩) .rfl
  | handoffReader => cases id <;> exact becomes_of_eq (by rintro ⟨⟩) .rfl
  | offerReader =>
    rw [Move.apply]
    cases id with
    | readerToThrottler =>
      split
      · next hfull => exact .same .rfl fun _ => decide_eq_false fun h => not_lt.mpr hfull h.2
      · next hroom => exact .sent _ rfl (decide_eq_true ⟨hm.2, not_le.mp hroom⟩)
    | throttlerToSender =>
      refine becomes_of_eq (by rintro ⟨⟩) ?_
      split <;> exact .rfl
  | endStep _ _ _ => cases id <;> exact becomes_of_eq (by rintro ⟨⟩) (alike_observeBlocked ..)

/-! ### The main result -/

/-- In neither channel more than what is buffered is pending. -/
theorem waits_apply (h : ∀ id, (sim.channel id).Waits) (hm : m.Enabled sim) (id : ChannelId) :
    ((m.apply source sim).channel id).Waits :=
  (h id).becomes (becomes_apply id hm)

/-- A channel that is not full admits a send. -/
theorem admits_of_lt {channel : StatefulChannel SimulationBatch}
    (hroom : channel.depthBatches < channel.appliedCapacity) : channel.admits = true :=
  decide_eq_true ⟨Nat.ne_zero_of_lt hroom, hroom⟩

/-- **A move drains the channel if and only if nothing is offered that is not refused.** -/
theorem drains_iff_refused_of_waits (hwaits : (sim.channel id).Waits) (hm : m.Enabled sim)
    (hrequests : ¬m.Requests id) : Drains source id sim m ↔ Refused id sim m := by
  have hbecomes : (sim.channel id).Becomes (m.Offers id) (m.Requests id)
      ((m.apply source sim).channel id) := becomes_apply id hm
  constructor
  · intro hdrains hoffers hpending
    by_contra hroom
    obtain ⟨capacity, hcapacity⟩ := Option.ne_none_iff_exists'.mp hpending
    exact hbecomes.not_falls hoffers (admits_of_lt (not_le.mp hroom))
      (hdrains capacity hcapacity).2
  · intro hrefused capacity hcapacity
    have hfull (hoffers : m.Offers id) : (sim.channel id).admits = false := by
      refine decide_eq_false fun h => ?_
      have hle := hrefused hoffers (by rw [hcapacity]; exact Option.some_ne_none _)
      exact not_lt.mpr hle h.2
    exact ⟨fun hoffers hadmits => absurd hadmits (by rw [hfull hoffers]; exact nofun),
      hbecomes.falls hwaits hcapacity hfull hrequests⟩

/-- The same along a run. -/
theorem along_drains_iff (hwaits : ∀ id, (sim.channel id).Waits) {ms : List Move}
    (hrun : (moves source).Run sim ms) (hrequests : ∀ m ∈ ms, ¬m.Requests id) :
    (moves source).Along (Drains source id) sim ms ↔ (moves source).Along (Refused id) sim ms := by
  induction ms generalizing sim with
  | nil => exact Iff.rfl
  | cons m ms ih =>
    obtain ⟨hm, hrest⟩ := hrun
    exact and_congr (drains_iff_refused_of_waits (hwaits id) hm (hrequests m List.mem_cons_self))
      (ih (waits_apply hwaits hm) hrest fun m' hm' => hrequests m' (List.mem_cons_of_mem m hm'))

theorem waits_createSimulation (config : SimulationConfig) (readerCapacity senderCapacity : ℕ)
    (id : ChannelId) :
    ((createSimulation config readerCapacity senderCapacity).channel id).Waits := by
  cases id <;> exact fun _ hcapacity => absurd hcapacity (Option.not_mem_none _)

/-- **A smaller capacity takes effect by draining exactly as long as the channel refuses
what it is offered meanwhile.** Whatever operations have led to a state, further operations
without a request for the channel are a run of moves without one. Along every such run, a
capacity is pending only while more than it is buffered; and every move drains the channel
if and only if each batch that is offered while a capacity is pending finds it full up to
the capacity that is still applied. -/
theorem drains_iff_refused (source : Option SimulationAttemptOutcomeSource)
    (config : SimulationConfig) (readerCapacity senderCapacity : ℕ) (id : ChannelId)
    (hreach : (machine source fun _ => True).Reachable
      (createSimulation config readerCapacity senderCapacity) sim) :
    (∀ operations, (∀ capacity, .requestChannelCapacity id capacity ∉ operations) →
      (moves source).Leads (fun m => ¬m.Requests id) sim
        ((machine source fun _ => True).after sim operations)) ∧
    ∀ ms, (moves source).Run sim ms → (∀ m ∈ ms, ¬m.Requests id) →
      (moves source).Always (fun s => (s.channel id).Waits) sim ms ∧
      ((moves source).Along (Drains source id) sim ms ↔
        (moves source).Along (Refused id) sim ms) := by
  have hkeep (s : FixedStepSimulation) (m : Move) (hs : ∀ id, (s.channel id).Waits)
      (hm : m.Enabled s) : ∀ id, ((m.apply source s).channel id).Waits := waits_apply hs hm
  have hwaits : ∀ id, (sim.channel id).Waits := by
    obtain ⟨operations, -, rfl⟩ := hreach
    exact (leads_after source (fun _ => True) _ operations).reachable.invariant hkeep
      (waits_createSimulation config readerCapacity senderCapacity)
  refine ⟨fun operations hnot => ?_, fun ms hrun hrequests =>
    ⟨(Machine.always_of_run hkeep hwaits hrun).mono fun _ hs => hs id,
      along_drains_iff hwaits hrun hrequests⟩⟩
  refine (leads_after source (fun _ => True) sim operations).mono fun m hm hrequest => ?_
  obtain ⟨capacity, rfl⟩ := hrequest
  exact hnot capacity (hm _ rfl)

/-- A reader that makes a batch in each step, which the throttler never takes. -/
def fillingConfig : SimulationConfig where
  readerWorkers := 1
  senderWorkers := 1
  requestedTps := 0
  throttlerInstalled := true
  readBatchSize := 100
  httpTimeoutMs := 1000
  targetDelayMs := 5
  targetErrorRatePercent := 0

/-- Three steps, and a request for a capacity of one. -/
def shrinkingCapacity : List Operation :=
  [.advanceStep, .advanceStep, .advanceStep, .requestChannelCapacity .readerToThrottler 1]

/-- A channel of three places that are taken refuses what it is offered. -/
theorem drains_iff_refused_shrinkingCapacity :
    let sim := (machine none fun _ => True).after (createSimulation fillingConfig 3 1)
      shrinkingCapacity
    sim.readerChannel.pendingCapacity = some 1 ∧
      (moves none).Leads (fun m => ¬m.Requests .readerToThrottler) sim
        ((machine none fun _ => True).after sim [.advanceStep]) ∧
      (moves none).Along (Drains none .readerToThrottler) sim [.earn, .offerReader] := by
  obtain ⟨hoperations, hmoves⟩ := drains_iff_refused none fillingConfig 3 1 .readerToThrottler
    ⟨shrinkingCapacity, Machine.run_of_forall (fun _ _ => trivial) _ _, rfl⟩
  have henabled : Move.offerReader.Enabled ((moves none).next
      ((machine none fun _ => True).after (createSimulation fillingConfig 3 1) shrinkingCapacity)
      .earn) := ⟨by decide +kernel, by decide +kernel⟩
  have hrefused : Refused .readerToThrottler ((moves none).next
      ((machine none fun _ => True).after (createSimulation fillingConfig 3 1) shrinkingCapacity)
      .earn) .offerReader := by
    intro _ _
    decide +kernel
  have hrequests : ∀ m ∈ [Move.earn, .offerReader], ¬m.Requests .readerToThrottler := by
    intro m hm
    rcases List.mem_pair.mp hm with rfl | rfl
    · exact nofun
    · exact nofun
  refine ⟨by decide +kernel, hoperations [.advanceStep] fun _ hmem => ?_, ?_⟩
  · exact absurd (List.mem_singleton.mp hmem) nofun
  · exact (hmoves [.earn, .offerReader] ⟨trivial, henabled, trivial⟩ hrequests).2.mpr
      ⟨nofun, hrefused, trivial⟩

/-- **The channel becomes fuller while a smaller capacity is pending**: of ten places three
are taken when a capacity of one is requested, and four after the next step. -/
theorem depth_grows_shrinkingCapacity :
    let sim := (machine none fun _ => True).after (createSimulation fillingConfig 10 1)
      shrinkingCapacity
    let next := (machine none fun _ => True).after sim [.advanceStep]
    sim.readerChannel.pendingCapacity = some 1 ∧ sim.readerChannel.depthBatches = 3 ∧
      next.readerChannel.pendingCapacity = some 1 ∧ next.readerChannel.depthBatches = 4 ∧
      ¬next.readerChannel.depthBatches ≤ sim.readerChannel.depthBatches := by
  decide +kernel

end FixedStepSimulation

end IngestionLab.Frontend
