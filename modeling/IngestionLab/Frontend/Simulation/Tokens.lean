import IngestionLab.Frontend.Simulation.Moves
import IngestionLab.Machine.Potential
import Mathlib.Tactic.Linarith

/-!
# The token bucket of the simulation

The throttler takes a batch for as many tokens as it has transactions; a step brings as
many tokens as the requested rate makes in it, up to what lets the next batch through.
All that matters is in one purse (`IngestionLab.Frontend.Purse`), and all that happens to
it in a step is in one relation (`IngestionLab.Frontend.Purse.Spends`).

What has been taken and the tokens that are left are together what came in, so in every
window the throttler takes no more than what comes in and what it had at the beginning
(`IngestionLab.Frontend.FixedStepSimulation.token_bucket_bounds`).
-/

namespace IngestionLab.Frontend

/-- **What the throttler and the reader pay with**: the tokens, the credit, the transactions
that have been taken and the batches that wait to be taken. -/
structure Purse where
  config : SimulationConfig
  tokens : ℚ
  credit : ℚ
  taken : ℕ
  waiting : List SimulationBatch

namespace Purse

variable {p q : Purse}

/-- The tokens a step brings. -/
def refill (p : Purse) : ℚ := p.config.requestedTps * fixedStepMs / 1000

/-- The largest credit there is. -/
def creditLimit (p : Purse) : ℚ := (p.config.readerWorkers * p.config.readBatchSize : ℕ)

/-- The transactions of the batch that is taken next. -/
def headTransactions (p : Purse) : ℕ := (p.waiting.head?.map (·.transactions)).getD 0

/-- There are tokens for a number of transactions, if tokens are asked for. -/
def Affords (p : Purse) (transactions : ℕ) : Prop :=
  p.config.throttlerInstalled = true → (transactions : ℚ) ≤ p.tokens

/-- The tokens that are left after a number of transactions. -/
def tokensAfter (p : Purse) (transactions : ℕ) : ℚ :=
  if p.config.throttlerInstalled then p.tokens - transactions else p.tokens

/-- **What happens to the purse in a step**, once the tokens have come in. -/
inductive Spends (p : Purse) : Purse → Prop
  | nothing : Spends p p
  | take (batch : SimulationBatch) (rest : List SimulationBatch)
      (hwaiting : p.waiting = batch :: rest) (haffords : p.Affords batch.transactions) :
      Spends p { p with
        tokens := p.tokensAfter batch.transactions
        taken := p.taken + batch.transactions
        waiting := rest }
  | earn (income : ℚ) (hincome : 0 ≤ income) :
      Spends p { p with credit := min p.creditLimit (p.credit + income) }
  | handoff (hcredit : (p.config.readBatchSize : ℚ) ≤ p.credit)
      (haffords : p.Affords p.config.readBatchSize) :
      Spends p { p with
        tokens := p.tokensAfter p.config.readBatchSize
        credit := p.credit - p.config.readBatchSize
        taken := p.taken + p.config.readBatchSize }
  | send (hcredit : (p.config.readBatchSize : ℚ) ≤ p.credit) (batch : SimulationBatch) :
      Spends p { p with
        credit := p.credit - p.config.readBatchSize
        waiting := p.waiting ++ [batch] }

/-- **Nothing is overdrawn.** -/
structure Funded (p : Purse) : Prop where
  rate : 0 ≤ p.config.requestedTps
  tokens : 0 ≤ p.tokens
  credit : 0 ≤ p.credit
  limit : p.credit ≤ p.creditLimit

/-- **The tokens let the next batch through**, or one of the size that is made, and are no
more than that and what a step brings. Without a throttler there are none. -/
structure Capped (batchSize : ℕ) (refill : ℚ) (p : Purse) : Prop where
  nonneg : 0 ≤ refill
  uninstalled : p.config.throttlerInstalled = false → p.tokens = 0
  cap : p.tokens ≤ (max p.headTransactions batchSize : ℕ) + refill

theorem Funded.tokensAfter_nonneg (h : p.Funded) {transactions : ℕ}
    (haffords : p.Affords transactions) : 0 ≤ p.tokensAfter transactions := by
  rw [tokensAfter]
  split
  · next hinstalled => exact sub_nonneg.mpr (haffords hinstalled)
  · exact h.tokens

theorem tokensAfter_le (p : Purse) (transactions : ℕ) : p.tokensAfter transactions ≤ p.tokens := by
  rw [tokensAfter]
  split
  · exact sub_le_self _ (Nat.cast_nonneg _)
  · exact le_refl _

theorem Funded.spends (h : p.Funded) (hspends : p.Spends q) : q.Funded := by
  obtain ⟨hrate, htokens, hcredit, hlimit⟩ := h
  cases hspends with
  | nothing => exact ⟨hrate, htokens, hcredit, hlimit⟩
  | take batch rest hwaiting haffords =>
    exact ⟨hrate, Funded.tokensAfter_nonneg ⟨hrate, htokens, hcredit, hlimit⟩ haffords, hcredit,
      hlimit⟩
  | earn income hincome =>
    exact ⟨hrate, htokens, le_min (Nat.cast_nonneg _) (add_nonneg hcredit hincome),
      min_le_left _ _⟩
  | handoff hbatch haffords =>
    exact ⟨hrate, Funded.tokensAfter_nonneg ⟨hrate, htokens, hcredit, hlimit⟩ haffords,
      sub_nonneg.mpr hbatch, (sub_le_self _ (Nat.cast_nonneg _)).trans hlimit⟩
  | send hbatch batch =>
    exact ⟨hrate, htokens, sub_nonneg.mpr hbatch,
      (sub_le_self _ (Nat.cast_nonneg _)).trans hlimit⟩

/-- **What is taken is paid for.** -/
theorem Spends.taken_add_tokens (h : p.Spends q) (hinstalled : p.config.throttlerInstalled = true) :
    (q.taken : ℚ) + q.tokens = p.taken + p.tokens := by
  cases h with
  | nothing => rfl
  | take batch rest hwaiting haffords =>
    rw [tokensAfter, if_pos hinstalled, Nat.cast_add]
    ring
  | earn income hincome => rfl
  | handoff hbatch haffords =>
    rw [tokensAfter, if_pos hinstalled, Nat.cast_add]
    ring
  | send hbatch batch => rfl

theorem Spends.config (h : p.Spends q) : q.config = p.config := by
  cases h <;> rfl

theorem Spends.grows (h : p.Spends q) : p.taken ≤ q.taken := by
  cases h with
  | nothing => exact le_refl _
  | take batch rest hwaiting haffords => exact Nat.le_add_right _ _
  | earn income hincome => exact le_refl _
  | handoff hbatch haffords => exact Nat.le_add_right _ _
  | send hbatch batch => exact le_refl _

/-- **After a batch has been taken the tokens let no more than one of the size that is made
through.** -/
theorem Capped.take {batchSize : ℕ} {refill : ℚ} {batch : SimulationBatch}
    {rest : List SimulationBatch} (h : p.Capped batchSize refill)
    (hwaiting : p.waiting = batch :: rest) :
    p.tokensAfter batch.transactions ≤ batchSize + refill := by
  have hcap := h.cap
  have hrefill := h.nonneg
  have hsize : (0 : ℚ) ≤ batchSize := Nat.cast_nonneg _
  have hhead : p.headTransactions = batch.transactions := by
    rw [headTransactions, hwaiting]
    rfl
  have htransactions : (0 : ℚ) ≤ batch.transactions := Nat.cast_nonneg _
  cases hinstalled : p.config.throttlerInstalled with
  | false =>
    rw [tokensAfter, hinstalled, h.uninstalled hinstalled]
    exact add_nonneg hsize hrefill
  | true =>
    rw [tokensAfter, hinstalled, if_pos rfl]
    rw [hhead, Nat.cast_max] at hcap
    rcases le_total (batch.transactions : ℚ) batchSize with hle | hle
    · rw [max_eq_right hle] at hcap
      linarith
    · rw [max_eq_left hle] at hcap
      linarith

theorem Capped.spends {refill : ℚ} (h : p.Capped p.config.readBatchSize refill)
    (hspends : p.Spends q) : q.Capped q.config.readBatchSize refill := by
  have hlower (transactions : ℕ) (hinstalled : p.config.throttlerInstalled = false) :
      p.tokensAfter transactions = 0 := by
    rw [tokensAfter, hinstalled]
    exact h.uninstalled hinstalled
  cases hspends with
  | nothing => exact h
  | take batch rest hwaiting haffords =>
    refine ⟨h.nonneg, hlower _, (h.take hwaiting).trans ?_⟩
    gcongr
    exact le_max_right _ _
  | earn income hincome => exact ⟨h.nonneg, h.uninstalled, h.cap⟩
  | handoff hbatch haffords =>
    exact ⟨h.nonneg, hlower _, (p.tokensAfter_le _).trans h.cap⟩
  | send hbatch batch =>
    refine ⟨h.nonneg, h.uninstalled, h.cap.trans ?_⟩
    gcongr
    cases hwaiting : p.waiting with
    | nil =>
      rw [headTransactions, hwaiting]
      exact Nat.zero_le _
    | cons first rest =>
      rw [headTransactions, headTransactions, hwaiting]
      exact le_refl _

/-- **What happens to the purse between the steps**: the tokens are kept or taken away, and
the credit is cut to what it may be. -/
structure Rests (p q : Purse) : Prop where
  tokens : q.tokens = 0 ∨ q.tokens = p.tokens ∧ q.waiting = p.waiting ∧
    q.config.throttlerInstalled = p.config.throttlerInstalled
  credit : q.credit = 0 ∨ q.credit = min p.credit q.creditLimit

theorem Rests.tokens_le (h : p.Rests q) (hfunded : p.Funded) : q.tokens ≤ p.tokens := by
  rcases h.tokens with hnone | ⟨hsame, -⟩
  · rw [hnone]
    exact hfunded.tokens
  · exact le_of_eq hsame

theorem Funded.rests (hfunded : p.Funded) (h : p.Rests q) (hrate : 0 ≤ q.config.requestedTps) :
    q.Funded := by
  have hlimit : 0 ≤ q.creditLimit := Nat.cast_nonneg _
  constructor
  · exact hrate
  · rcases h.tokens with hnone | ⟨hsame, -⟩
    · exact le_of_eq hnone.symm
    · exact hsame ▸ hfunded.tokens
  · rcases h.credit with hnone | hcut
    · exact le_of_eq hnone.symm
    · exact hcut ▸ le_min hfunded.credit hlimit
  · rcases h.credit with hnone | hcut
    · exact hnone ▸ hlimit
    · exact hcut ▸ min_le_right _ _

theorem Capped.rests {batchSize : ℕ} {refill : ℚ} (hcapped : p.Capped batchSize refill)
    (h : p.Rests q) : q.Capped batchSize refill := by
  refine ⟨hcapped.nonneg, ?_, ?_⟩
  · intro huninstalled
    rcases h.tokens with hnone | ⟨hsame, -, hinstalled⟩
    · exact hnone
    · exact hsame.trans (hcapped.uninstalled (hinstalled ▸ huninstalled))
  · rcases h.tokens with hnone | ⟨hsame, hwaiting, -⟩
    · rw [hnone]
      exact add_nonneg (Nat.cast_nonneg _) hcapped.nonneg
    · rw [hsame, headTransactions, hwaiting]
      exact hcapped.cap

end Purse

namespace FixedStepSimulation

variable {source : Option SimulationAttemptOutcomeSource} {sim : FixedStepSimulation} {m : Move}

/-- The purse of a simulation. -/
def purse (sim : FixedStepSimulation) : Purse where
  config := sim.config
  tokens := sim.throttlerTokens
  credit := sim.readerTransactionCredit
  taken := sim.readerChannel.receivedTransactionsTotal
  waiting := sim.readerChannel.items

theorem OnlyWorkers.purse {s : FixedStepSimulation} (h : OnlyWorkers sim s) :
    s.purse = sim.purse := by
  obtain ⟨_, _, _, _, _, _, _, rfl⟩ := h
  exact Eq.refl _

/-- Nothing happens to the purse. -/
theorem spends_of_eq {p q : Purse} (h : q = p) : p.Spends q := h ▸ .nothing

/-- **What a move does to the purse** once the tokens have come in. -/
theorem spends_apply (hm : m.Enabled sim) (hpasses : m.Passes) :
    sim.purse.Spends (m.apply source sim).purse := by
  cases m with
  | startStep => exact hpasses.elim
  | complete index => exact spends_of_eq (onlyWorkers_completeDue sim index).purse
  | retry index => exact spends_of_eq (onlyWorkers_startDue source sim index).purse
  | finalize => exact spends_of_eq (onlyWorkers_finalizeSenderScaleDown sim).purse
  | refill => exact hpasses.elim
  | deliver next index batch => exact spends_of_eq (onlyWorkers_startAttempt ..).purse
  | handoffSender next index batch =>
    exact spends_of_eq (onlyWorkers_startAttempt source
      (onSenderChannel { sim with nextWorkerIndex := some next }
        (sim.senderChannel.handoff SimulationBatch.transactions batch) (·.handoff batch))
      index batch 1 false).purse
  | offerSender batch =>
    rw [Move.apply]
    split
    · exact .nothing
    · exact .nothing
  | receiveReader batch =>
    obtain ⟨-, hhead, haffords⟩ := hm
    obtain ⟨items, hitems⟩ := List.head?_eq_some_iff.mp hhead
    obtain ⟨_, _, _, heq, -⟩ := StatefulChannel.exists_receive_eq hitems
    have htake := Purse.Spends.take (p := sim.purse) batch items hitems haffords
    rw [Move.apply, heq]
    exact htake
  | earn =>
    refine .earn (sim.readerCapacityTps * fixedStepMs / 1000) ?_
    positivity
  | handoffReader => exact .handoff hm.1 hm.2.2.2
  | offerReader =>
    rw [Move.apply]
    split
    · exact .nothing
    · exact .send hm.1 _
  | endStep readerChannelBlocked senderChannelBlocked limited =>
    refine spends_of_eq ?_
    obtain ⟨_, _, _, heq⟩ := exists_observeBlocked_eq sim.readerChannel readerChannelBlocked
      (0 < sim.activity.readerChannel.inputBatches || 0 < sim.activity.readerChannel.handoffBatches)
    simp only [Move.apply, purse, heq]
  | strand batch => exact .nothing
  | operate operation => exact hpasses.elim

/-! ### Tokens come in -/

/-- The tokens after a step's have come in. -/
theorem purse_refillThrottlerTokens (sim : FixedStepSimulation) :
    sim.refillThrottlerTokens.purse = { sim.purse with
      tokens := if sim.config.throttlerInstalled then
        min ((max sim.purse.headTransactions sim.config.readBatchSize : ℕ) + sim.purse.refill)
          (sim.throttlerTokens + sim.purse.refill)
      else 0 } := by
  cases hinstalled : sim.config.throttlerInstalled with
  | false =>
    rw [refillThrottlerTokens, if_pos hinstalled]
    rfl
  | true =>
    have hhead : max ((sim.readerChannel.items.head?.map (·.transactions)).getD
        sim.config.readBatchSize) sim.config.readBatchSize =
          max sim.purse.headTransactions sim.config.readBatchSize := by
      rw [Purse.headTransactions, purse]
      cases sim.readerChannel.items.head? with
      | none => simp
      | some batch => rfl
    rw [refillThrottlerTokens, if_neg (by rw [hinstalled]; rintro ⟨⟩), ← hhead]
    rfl

theorem refill_nonneg (h : sim.purse.Funded) : 0 ≤ sim.purse.refill := by
  have hrate : (0 : ℚ) ≤ sim.purse.config.requestedTps := h.rate
  rw [Purse.refill]
  positivity

theorem funded_refillThrottlerTokens (h : sim.purse.Funded) :
    sim.refillThrottlerTokens.purse.Funded := by
  have hrefill := refill_nonneg h
  have htokens : 0 ≤ sim.throttlerTokens := h.tokens
  rw [purse_refillThrottlerTokens]
  refine ⟨h.rate, ?_, h.credit, h.limit⟩
  dsimp only
  split
  · exact le_min (add_nonneg (Nat.cast_nonneg _) hrefill) (add_nonneg htokens hrefill)
  · exact le_refl 0

theorem capped_refillThrottlerTokens (h : sim.purse.Funded) :
    sim.refillThrottlerTokens.purse.Capped sim.config.readBatchSize sim.purse.refill := by
  have hrefill := refill_nonneg h
  rw [purse_refillThrottlerTokens]
  refine ⟨hrefill, ?_, ?_⟩
  · intro (huninstalled : sim.config.throttlerInstalled = false)
    show (if sim.config.throttlerInstalled then _ else (0 : ℚ)) = 0
    rw [huninstalled]
    rfl
  · show (if sim.config.throttlerInstalled then _ else (0 : ℚ)) ≤ _
    split
    · exact min_le_left _ _
    · exact add_nonneg (Nat.cast_nonneg _) hrefill

/-! ### A step, and the other operations -/

/-- What is due is settled without the purse. -/
theorem purse_settled (source : Option SimulationAttemptOutcomeSource) (sim : FixedStepSimulation) :
    (sim.settled source).purse = sim.purse := by
  refine (leads_settled source sim).invariant (I := fun s => s.purse = sim.purse)
    (fun s m hs _ hm => Eq.trans ?_ hs) rfl
  cases m with
  | startStep => rfl
  | complete index => exact (onlyWorkers_completeDue s index).purse
  | retry index => exact (onlyWorkers_startDue source s index).purse
  | finalize => exact (onlyWorkers_finalizeSenderScaleDown s).purse
  | _ => exact hm.elim

/-- **What a step makes of the purse.** Nothing is overdrawn, the tokens are within the limit
its refill has set, and with a throttler what is taken is paid for. -/
structure StepsPurse (p q : Purse) : Prop where
  config : q.config = p.config
  funded : q.Funded
  capped : q.Capped p.config.readBatchSize p.refill
  grows : p.taken ≤ q.taken
  paid : p.config.throttlerInstalled = true →
    (q.taken : ℚ) - p.taken + q.tokens ≤ p.tokens + p.refill

theorem stepsPurse_refillThrottlerTokens (h : sim.purse.Funded) :
    StepsPurse sim.purse sim.refillThrottlerTokens.purse := by
  refine ⟨?_, funded_refillThrottlerTokens h, capped_refillThrottlerTokens h, ?_, ?_⟩
  · rw [purse_refillThrottlerTokens]
  · rw [purse_refillThrottlerTokens]
  · intro (hinstalled : sim.config.throttlerInstalled = true)
    rw [purse_refillThrottlerTokens, if_pos hinstalled, sub_self, zero_add]
    exact min_le_right _ _

/-- What is spent afterwards is paid from the same tokens. -/
theorem StepsPurse.spends {p q r : Purse} (h : StepsPurse p q) (hspends : q.Spends r) :
    StepsPurse p r := by
  have hconfig : r.config = p.config := hspends.config.trans h.config
  refine ⟨hconfig, h.funded.spends hspends, ?_, h.grows.trans hspends.grows, ?_⟩
  · have hcapped := h.capped
    rw [← h.config] at hcapped
    rw [← hconfig]
    exact hcapped.spends hspends
  · intro hinstalled
    have hpaid := h.paid hinstalled
    have hkept := hspends.taken_add_tokens (h.config ▸ hinstalled)
    linarith only [hpaid, hkept]

/-- Without tokens and without a rate nothing is taken. -/
theorem StepsPurse.of_rate_zero {p q : Purse} (h : StepsPurse p q)
    (hrate : p.config.requestedTps = 0) (htokens : p.tokens = 0) :
    q.tokens = 0 ∧ (p.config.throttlerInstalled = true → q.taken = p.taken) := by
  have hrefill : p.refill = 0 := by
    rw [Purse.refill, hrate, zero_mul, zero_div]
  have hnonneg := h.funded.tokens
  cases hinstalled : p.config.throttlerInstalled with
  | false => exact ⟨h.capped.uninstalled (h.config.symm ▸ hinstalled), nofun⟩
  | true =>
    have hpaid := h.paid hinstalled
    have hgrows : (p.taken : ℚ) ≤ q.taken := Nat.cast_le.mpr h.grows
    rw [htokens, hrefill, add_zero] at hpaid
    refine ⟨?_, fun _ => le_antisymm ?_ h.grows⟩
    · linarith only [hpaid, hgrows, hnonneg]
    · have hcast : (q.taken : ℚ) ≤ p.taken := by
        linarith only [hpaid, hnonneg]
      exact Nat.cast_le.mp hcast

/-- **A step.** -/
theorem purse_advanceStep (source : Option SimulationAttemptOutcomeSource)
    (h : sim.purse.Funded) : StepsPurse sim.purse (sim.perform source .advanceStep).purse := by
  have hsettled := purse_settled source sim
  refine (leads_advanceStep source sim).invariant (I := fun s => StepsPurse sim.purse s.purse)
    (fun s m hs hm hpasses => hs.spends (spends_apply hm hpasses)) ?_
  rw [← hsettled] at h ⊢
  exact stepsPurse_refillThrottlerTokens h

/-- The operation is a step. -/
def Operation.isStep : Operation → Bool
  | .advanceStep => true
  | _ => false

/-- **A rate that is asked for is not negative.** -/
def Operation.Rated : Operation → Prop
  | .updateConfig values => ∀ tps ∈ values.requestedTps, 0 ≤ tps
  | _ => True

theorem Operation.eq_advanceStep {operation : Operation} (h : operation.isStep = true) :
    operation = .advanceStep := by
  cases operation with
  | advanceStep => rfl
  | _ => exact absurd h Bool.false_ne_true

theorem purse_requestCapacity (sim : FixedStepSimulation) (capacity : ℕ) :
    purse { sim with readerChannel := (sim.readerChannel.requestCapacity capacity).1 } =
      sim.purse := by
  rw [StatefulChannel.requestCapacity]
  split
  · rfl
  split
  · rfl
  · rfl

/-- What a change of the configuration makes of the purse. -/
theorem purse_updateConfig (sim : FixedStepSimulation) (values : PartialConfig) :
    (sim.updateConfig values).purse = { sim.purse with
      config := assignConfig sim.config values
      tokens := if values.requestedTps = some 0 ∨ values.throttlerInstalled.isSome then 0
        else sim.throttlerTokens
      credit := min sim.readerTransactionCredit
        (({ sim.purse with config := assignConfig sim.config values } : Purse).creditLimit) } := by
  rw [updateConfig]
  have hworkers : OnlyWorkers { sim with config := assignConfig sim.config values }
      (values.senderWorkers.elim { sim with config := assignConfig sim.config values }
        (requestSenderWorkerCount { sim with config := assignConfig sim.config values })) := by
    cases values.senderWorkers with
    | none => exact .rfl
    | some requested => exact onlyWorkers_requestSenderWorkerCount _ requested
  obtain ⟨_, _, _, _, _, _, _, heq⟩ := hworkers
  dsimp only
  rw [heq]
  rfl

/-- **The operations that are no step.** -/
theorem rests_perform (h : sim.purse.Funded) {operation : Operation}
    (hop : operation.isStep = false) :
    sim.purse.Rests (sim.perform source operation).purse := by
  have hsame : sim.purse.Rests sim.purse :=
    ⟨.inr ⟨rfl, rfl, rfl⟩, .inr (min_eq_left h.limit).symm⟩
  cases operation with
  | advanceStep => exact absurd hop Bool.true_eq_false.mp
  | updateConfig values =>
    show sim.purse.Rests (sim.updateConfig values).purse
    rw [purse_updateConfig]
    refine ⟨?_, .inr rfl⟩
    dsimp only
    split
    · exact .inl rfl
    · next hkept =>
      have huntouched : values.throttlerInstalled = none :=
        Option.not_isSome_iff_eq_none.mp (not_or.mp hkept).2
      refine .inr ⟨rfl, rfl, ?_⟩
      rw [assignConfig, huntouched]
      rfl
  | requestChannelCapacity channel capacity =>
    cases channel with
    | readerToThrottler => exact (purse_requestCapacity sim capacity).symm ▸ hsame
    | throttlerToSender => exact hsame
  | clearInstantaneousTelemetry => exact hsame
  | telemetry running => exact hsame
  | reset => exact ⟨.inl rfl, .inl rfl⟩

/-- The rate stays as the operations leave it. -/
theorem rate_perform {operation : Operation} (hrate : 0 ≤ sim.config.requestedTps)
    (hop : operation.isStep = false) (hrated : operation.Rated) :
    0 ≤ (sim.perform source operation).purse.config.requestedTps := by
  cases operation with
  | advanceStep => exact absurd hop Bool.true_eq_false.mp
  | updateConfig values =>
    show 0 ≤ (sim.updateConfig values).purse.config.requestedTps
    rw [purse_updateConfig]
    show 0 ≤ values.requestedTps.getD sim.config.requestedTps
    cases hasked : values.requestedTps with
    | none => exact hrate
    | some tps => exact hrated tps hasked
  | requestChannelCapacity channel capacity => cases channel <;> exact hrate
  | clearInstantaneousTelemetry => exact hrate
  | telemetry running => exact hrate
  | reset => exact hrate

theorem funded_perform (h : sim.purse.Funded) {operation : Operation} (hrated : operation.Rated) :
    (sim.perform source operation).purse.Funded := by
  cases hstep : operation.isStep with
  | true => exact operation.eq_advanceStep hstep ▸ (purse_advanceStep source h).funded
  | false => exact h.rests (rests_perform h hstep) (rate_perform h.rate hstep hrated)

/-! ### Runs -/

variable {operations : List Operation}

theorem funded_createSimulation {config : SimulationConfig} (hrate : 0 ≤ config.requestedTps)
    (readerCapacity senderCapacity : ℕ) :
    (createSimulation config readerCapacity senderCapacity).purse.Funded :=
  ⟨hrate, le_refl 0, le_refl 0, Nat.cast_nonneg _⟩

theorem funded_of_run (h : sim.purse.Funded)
    (hrun : (machine source Operation.Rated).Run sim operations) :
    ((machine source Operation.Rated).after sim operations).purse.Funded :=
  Machine.invariant_of_run (I := fun s => s.purse.Funded)
    (fun _ _ hs hrated => funded_perform hs hrated) h hrun

/-- Between the steps the limit stays. -/
theorem capped_of_run {batchSize : ℕ} {refill : ℚ} (h : sim.purse.Funded)
    (hcapped : sim.purse.Capped batchSize refill)
    (hrun : (machine source Operation.Rated).Run sim operations)
    (hrests : ∀ operation ∈ operations, operation.isStep = false) :
    ((machine source Operation.Rated).after sim operations).purse.Capped batchSize refill := by
  have hleads : (machine source Operation.Rated).Leads (fun operation => operation.isStep = false)
      sim ((machine source Operation.Rated).after sim operations) := ⟨operations, hrun, rfl, hrests⟩
  exact (hleads.invariant (I := fun s => s.purse.Funded ∧ s.purse.Capped batchSize refill)
    (fun s operation hs hrated hstep =>
      ⟨funded_perform hs.1 hrated, hs.2.rests (rests_perform hs.1 hstep)⟩) ⟨h, hcapped⟩).2

/-- Before the first step there are no tokens. -/
theorem tokens_of_run (h : sim.purse.Funded) (hnone : sim.throttlerTokens = 0)
    (hrun : (machine source Operation.Rated).Run sim operations)
    (hrests : ∀ operation ∈ operations, operation.isStep = false) :
    ((machine source Operation.Rated).after sim operations).throttlerTokens = 0 := by
  have hleads : (machine source Operation.Rated).Leads (fun operation => operation.isStep = false)
      sim ((machine source Operation.Rated).after sim operations) := ⟨operations, hrun, rfl, hrests⟩
  refine (hleads.invariant (I := fun s => s.purse.Funded ∧ s.throttlerTokens = 0) ?_
    ⟨h, hnone⟩).2
  intro s operation ⟨hs, hzero⟩ hrated hstep
  have hfunded : (s.perform source operation).purse.Funded := funded_perform hs hrated
  refine ⟨hfunded, le_antisymm ?_ hfunded.tokens⟩
  exact ((rests_perform hs hstep).tokens_le hs).trans (le_of_eq hzero)

variable (source) in
/-- **What the throttler takes** in an operation, from the reader channel or by hand-off. -/
def throttled (sim : FixedStepSimulation) : Operation → ℚ
  | .advanceStep =>
    (sim.perform source .advanceStep).readerChannel.receivedTransactionsTotal -
      sim.readerChannel.receivedTransactionsTotal
  | _ => 0

/-- The step is made with a throttler at this rate. -/
def ThrottledAt (rate : ℚ) (sim : FixedStepSimulation) (operation : Operation) : Prop :=
  operation.isStep = true → sim.config.throttlerInstalled = true ∧ sim.config.requestedTps = rate

/-- What the steps of a run bring. -/
theorem sum_refills (refill : ℚ) (operations : List Operation) :
    (operations.map fun operation => if operation.isStep then refill else 0).sum =
      operations.countP Operation.isStep * refill := by
  induction operations with
  | nil => simp
  | cons operation operations ih =>
    rw [List.map_cons, List.sum_cons, ih, List.countP_cons, Nat.cast_add]
    cases operation.isStep with
    | true => simp only [if_true, Nat.cast_one]; ring
    | false => simp

/-- **The bucket bounds what is taken**, with its tokens as the potential. -/
theorem gained_throttled_le {rate : ℚ} (h : sim.purse.Funded)
    (hrun : (machine source Operation.Rated).Run sim operations)
    (hthrottled : (machine source Operation.Rated).Along (ThrottledAt rate) sim operations) :
    (machine source Operation.Rated).gained (throttled source) sim operations ≤
      operations.countP Operation.isStep * (rate * fixedStepMs / 1000) + sim.throttlerTokens := by
  have hbound : (machine source Operation.Rated).gained (throttled source) sim operations +
      ((machine source Operation.Rated).after sim operations).throttlerTokens ≤
        sim.throttlerTokens + (operations.map fun operation =>
          if operation.isStep then rate * fixedStepMs / 1000 else 0).sum := by
    refine Machine.gained_add_potential_le (I := fun s => s.purse.Funded) (C := ThrottledAt rate)
      (fun s operation hs hrated _ => funded_perform hs hrated) ?_ h hrun hthrottled
    intro s operation hs hrated hat
    cases hstep : operation.isStep with
    | true =>
      obtain ⟨hinstalled, hrate⟩ := hat hstep
      obtain rfl := operation.eq_advanceStep hstep
      have hpaid := (purse_advanceStep source hs).paid hinstalled
      have hrefill : s.purse.refill = rate * fixedStepMs / 1000 := by
        rw [← hrate]
        rfl
      rw [if_pos rfl, ← hrefill]
      exact hpaid
    | false =>
      have hnothing : throttled source s operation = 0 := by
        cases operation with
        | advanceStep => exact absurd hstep Bool.true_eq_false.mp
        | _ => rfl
      rw [hnothing, zero_add, if_neg Bool.false_ne_true, add_zero]
      exact (rests_perform hs hstep).tokens_le hs
  have hleft : 0 ≤ ((machine source Operation.Rated).after sim operations).throttlerTokens :=
    (funded_of_run h hrun).tokens
  rw [sum_refills] at hbound
  linarith only [hbound, hleft]

/-- **A rate of zero that has been asked for** leaves no tokens, and brings none. -/
theorem tokens_of_rate_zero {values : PartialConfig} (h : sim.purse.Funded)
    (hzero : values.requestedTps = some 0)
    (hrun : (machine source Operation.Rated).Run (sim.updateConfig values) operations)
    (hrate : (machine source Operation.Rated).Always (fun s => s.config.requestedTps = 0)
      (sim.updateConfig values) operations) :
    ((machine source Operation.Rated).after (sim.updateConfig values) operations).purse.Funded ∧
      ((machine source Operation.Rated).after (sim.updateConfig values)
        operations).throttlerTokens = 0 := by
  have hfirst : (sim.updateConfig values).purse.Funded := by
    show (sim.perform source (.updateConfig values)).purse.Funded
    refine funded_perform h ?_
    intro tps htps
    rw [hzero, Option.mem_some_iff] at htps
    exact le_of_eq htps
  have hnone : (sim.updateConfig values).throttlerTokens = 0 := if_pos (.inl hzero)
  generalize sim.updateConfig values = s at hrun hrate hfirst hnone
  induction operations generalizing s with
  | nil => exact ⟨hfirst, hnone⟩
  | cons operation operations ih =>
    have hfunded : (s.perform source operation).purse.Funded := funded_perform hfirst hrun.1
    refine ih _ hrun.2 hrate.2 hfunded (le_antisymm ?_ hfunded.tokens)
    cases hstep : operation.isStep with
    | false => exact ((rests_perform hfirst hstep).tokens_le hfirst).trans (le_of_eq hnone)
    | true =>
      obtain rfl := operation.eq_advanceStep hstep
      exact le_of_eq ((purse_advanceStep source hfirst).of_rate_zero hrate.head hnone).1

/-- **The token bucket bounds the rate.** After any operations that ask for no negative rate
nothing is overdrawn; the tokens let the next batch through, or one of the size the last
step made, and are no more than that and its refill; in every window whose steps are made
with a throttler at one rate, it takes no more than the refills of the steps and the
tokens at the beginning; and after a rate of zero has been asked for, it takes nothing as
long as the rate is zero. -/
theorem token_bucket_bounds (source : Option SimulationAttemptOutcomeSource)
    (config : SimulationConfig) (readerCapacity senderCapacity : ℕ)
    (hrate : 0 ≤ config.requestedTps) (operations : List Operation)
    (hrun : (machine source Operation.Rated).Run
      (createSimulation config readerCapacity senderCapacity) operations) :
    let start := createSimulation config readerCapacity senderCapacity
    let sim := (machine source Operation.Rated).after start operations
    (0 ≤ sim.throttlerTokens ∧ 0 ≤ sim.readerTransactionCredit ∧
      sim.readerTransactionCredit ≤ (sim.config.readerWorkers * sim.config.readBatchSize : ℕ)) ∧
    ((∀ operation ∈ operations, operation.isStep = false) → sim.throttlerTokens = 0) ∧
    (∀ earlier later, operations = earlier ++ .advanceStep :: later →
      (∀ operation ∈ later, operation.isStep = false) →
        let before := (machine source Operation.Rated).after start earlier
        sim.throttlerTokens ≤
          (max ((sim.readerChannel.items.head?.map (·.transactions)).getD 0)
            before.config.readBatchSize : ℕ) + before.config.requestedTps * fixedStepMs / 1000) ∧
    (∀ rate window, (machine source Operation.Rated).Run sim window →
      (machine source Operation.Rated).Along (ThrottledAt rate) sim window →
        (machine source Operation.Rated).gained (throttled source) sim window ≤
          window.countP Operation.isStep * (rate * fixedStepMs / 1000) + sim.throttlerTokens) ∧
    (∀ values window, values.requestedTps = some 0 →
      (machine source Operation.Rated).Run (sim.updateConfig values) window →
      (machine source Operation.Rated).Always (fun s => s.config.requestedTps = 0)
        (sim.updateConfig values) window →
        let stopped := (machine source Operation.Rated).after (sim.updateConfig values) window
        stopped.config.throttlerInstalled = true → throttled source stopped .advanceStep = 0) := by
  dsimp only
  have hstart := funded_createSimulation hrate readerCapacity senderCapacity
  have hfunded := funded_of_run hstart hrun
  refine ⟨⟨hfunded.tokens, hfunded.credit, hfunded.limit⟩, ?_, ?_, ?_, ?_⟩
  · exact tokens_of_run hstart rfl hrun
  · intro earlier later heq hlater
    rw [heq, Machine.run_append] at hrun
    rw [heq, Machine.after_append]
    have hbefore := funded_of_run hstart hrun.1
    generalize (machine source Operation.Rated).after _ earlier = before at hbefore hrun ⊢
    have hstep := purse_advanceStep source hbefore
    exact (capped_of_run hstep.funded hstep.capped hrun.2.2 hlater).cap
  · intro rate window hwindow hthrottled
    exact gained_throttled_le hfunded hwindow hthrottled
  · intro values window hzero hwindow halways hinstalled
    obtain ⟨hstopped, hnone⟩ := tokens_of_rate_zero hfunded hzero hwindow halways
    have hsame := ((purse_advanceStep source hstopped).of_rate_zero halways.last hnone).2 hinstalled
    exact sub_eq_zero.mpr (congrArg Nat.cast hsame)

/-- Tokens for three hundred transactions in a step, and batches of five hundred. -/
def meteredConfig : SimulationConfig where
  readerWorkers := 1
  senderWorkers := 8
  requestedTps := 30000
  throttlerInstalled := true
  readBatchSize := 500
  httpTimeoutMs := 1000
  targetDelayMs := 5
  targetErrorRatePercent := 0

/-- After three steps there are four hundred tokens, and two more steps take two batches,
which is all that came in. -/
theorem token_bucket_bounds_meteredConfig :
    let start := createSimulation meteredConfig 4 4
    let sim := (machine none Operation.Rated).after start (List.replicate 3 .advanceStep)
    let window := List.replicate 2 Operation.advanceStep
    sim.throttlerTokens = 400 ∧
      (machine none Operation.Rated).gained (throttled none) sim window = 1000 ∧
      (machine none Operation.Rated).gained (throttled none) sim window ≤
        window.countP Operation.isStep * (30000 * fixedStepMs / 1000) + sim.throttlerTokens ∧
      throttled none (sim.updateConfig { requestedTps := some 0 }) .advanceStep = 0 := by
  obtain ⟨-, -, -, hwindow, hstopped⟩ := token_bucket_bounds none meteredConfig 4 4
    (by decide +kernel) (List.replicate 3 .advanceStep) ⟨trivial, trivial, trivial, trivial⟩
  refine ⟨by decide +kernel, by decide +kernel, ?_, ?_⟩
  · refine hwindow 30000 _ ⟨trivial, trivial, trivial⟩ ⟨fun _ => ?_, fun _ => ?_, trivial⟩
    · decide +kernel
    · decide +kernel
  · have hrate : (((machine none Operation.Rated).after (createSimulation meteredConfig 4 4)
        (List.replicate 3 .advanceStep)).updateConfig { requestedTps := some 0 }).config.requestedTps =
          0 := by
      decide +kernel
    exact hstopped { requestedTps := some 0 } [] rfl trivial hrate (by decide +kernel)

end FixedStepSimulation

end IngestionLab.Frontend
