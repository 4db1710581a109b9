import IngestionLab.Loadgen.EventLoop.Teardown
import IngestionLab.Loadgen.EventLoop.Waits
import IngestionLab.Loadgen.ReaderPool.Ahead
import IngestionLab.Loadgen.SenderPool.Ahead
import IngestionLab.Loadgen.Throttler.Ahead
import IngestionLab.Loadgen.Throttler.Responsive
import IngestionLab.Loadgen.Timing

/-!
# The event loop is never stuck

The event loop handles one event at a time and waits in the middle of it for goroutines that
wait for others in turn. Here it is shown that none of these waits is for good.

* `IngestionLab.Service.lively_of_reachable`: in no pipeline does a goroutine wait for
  something that cannot come.
* `IngestionLab.Service.exists_step_to_ready`: **where the event loop waits, some step of the
  pipeline it waits for brings the end of the wait closer**, as counted by
  `IngestionLab.Service.toReady`.
* `IngestionLab.Service.event_loop_returns`: **from every state of the service the event loop
  can return to its select** by its own statements and steps of the pipelines alone: without
  a further event, without the clock moving, and whoever has been cancelled or paused before.
-/

namespace IngestionLab

open Function Go

/-! ### Nobody waits for good -/

namespace Pipeline

variable {q : Pipeline} {sh : Memory} {root : Bool} {a : Action} {c : Change}

/-- **No goroutine waits for something that cannot come.** -/
structure Lively (q : Pipeline) : Prop where
  reader : ∀ p ∈ q.readerPool, p.Unblocked
  throttler : ∀ t ∈ q.throttler, t.Timed
  sender : ∀ p ∈ q.senderPool, p.Live

/-- A sender pool is started with a worker and a retry schedule. -/
def Change.Staffed : Change → Prop
  | .startSender retry workers => 1 ≤ workers ∧ retry.delaysMS ≠ []
  | _ => True

/-- What a reader pool may become by a step of its pipeline. -/
theorem exists_reader_next (ha : q.Enabled root sh a) {p' : ReaderPool}
    (hp' : p' ∈ (q.next sh a).readerPool) :
    ∃ p ∈ q.readerPool, p' = p ∨ ∃ b : ReaderPool.Action, b.actor ≠ .eventLoop ∧
      p.Enabled sh b ∧ p' = p.next sh b := by
  cases a with
  | reader b =>
    obtain ⟨p, hp, rfl⟩ := mem_stepReader hp'
    exact ⟨p, hp, Or.inr ⟨b, actor_ne_of_mayAct ha.2.1, enabled_of_mem ha.1 hp, rfl⟩⟩
  | throttler b => exact ⟨p', hp', Or.inl rfl⟩
  | sender b => exact ⟨p', hp', Or.inl rfl⟩
  | passToThrottler b b' =>
    obtain ⟨p, hp, rfl⟩ := mem_stepReader hp'
    have hactor := ReaderPool.Action.actor_of_meet ha.2.2.1
    exact ⟨p, hp, Or.inr ⟨b, by rw [hactor]; rintro ⟨⟩, enabled_of_mem ha.1 hp, rfl⟩⟩
  | passToSender b b' => exact ⟨p', hp', Or.inl rfl⟩

/-- A pipeline of which nothing has been started. -/
theorem lively_of_none (hr : q.readerPool = none) (ht : q.throttler = none)
    (hs : q.senderPool = none) : q.Lively := by
  refine ⟨?_, ?_, ?_⟩
  · rw [hr]
    rintro p ⟨⟩
  · rw [ht]
    rintro t ⟨⟩
  · rw [hs]
    rintro p ⟨⟩

/-- A pipeline stays lively, whatever its goroutines do. -/
theorem Lively.next (h : q.Lively) (ha : q.Enabled root sh a) : (q.next sh a).Lively where
  reader p' hp' := by
    obtain ⟨p, hp, rfl | ⟨b, -, hen, rfl⟩⟩ := exists_reader_next ha hp'
    · exact h.reader p' hp
    · exact (h.reader p hp).next hen
  throttler t' ht' := by
    obtain ⟨t, ht, rfl | ⟨b, -, hen, rfl⟩⟩ := exists_throttler_next ha ht'
    · exact h.throttler t' ht
    · exact (h.throttler t ht).next hen
  sender p' hp' := by
    obtain ⟨p, hp, rfl | ⟨b, -, hen, rfl⟩⟩ := exists_sender_next ha hp'
    · exact h.sender p' hp
    · exact (h.sender p hp).next hen

/-- **A pipeline stays lively**, whatever happens to it. -/
theorem Lively.change (h : q.Lively) (hc : c.Allowed root sh q) (hs : c.Staffed) :
    (q.change sh c).Lively := by
  cases c with
  | make readerCapacity senderCapacity => exact lively_of_none rfl rfl rfl
  | goroutine a => exact h.next hc
  | startReaderPool dataPath batchSize workers files =>
    refine ⟨fun p hp => ?_, h.throttler, h.sender⟩
    obtain rfl := Option.some.inj hp
    exact ReaderPool.unblocked_start ..
  | startThrottler settings =>
    refine ⟨h.reader, fun t ht => ?_, h.sender⟩
    obtain rfl := Option.some.inj ht
    exact Throttler.timed_of_ne (by rintro _ _ _ ⟨⟩)
  | startSender retry workers =>
    refine ⟨h.reader, h.throttler, fun p hp => ?_⟩
    obtain rfl := Option.some.inj hp
    exact SenderPool.live_startSenderPool hs.1 hs.2
  | callReader a =>
    refine ⟨fun p' hp' => ?_, h.throttler, h.sender⟩
    obtain ⟨p, hp, rfl⟩ := mem_stepReader hp'
    exact (h.reader p hp).next (hc.2 p hp)
  | callThrottler a =>
    refine ⟨h.reader, fun t' ht' => ?_, h.sender⟩
    obtain ⟨t, ht, rfl⟩ := mem_stepThrottler ht'
    rcases hc.2 t ht with hen | hsame
    · exact (h.throttler t ht).next hen
    · rw [hsame]
      exact h.throttler t ht
  | callSender a =>
    refine ⟨h.reader, h.throttler, fun p' hp' => ?_⟩
    obtain ⟨p, hp, rfl⟩ := mem_stepSender hp'
    exact (h.sender p hp).next (hc.2 p hp)
  | awaitReconciled =>
    refine ⟨h.reader, h.throttler, fun p' hp' => ?_⟩
    obtain ⟨p, hp, rfl⟩ := Option.mem_map.mp hp'
    obtain ⟨hw, hb, hnumbered, hstaffed, hawake, hoccupied, hwaiting, hscheduled⟩ := h.sender p hp
    exact ⟨{ hw with }, { hb with }, hnumbered, hstaffed, hawake, hoccupied, hwaiting, hscheduled⟩
  | cancelRun => exact ⟨h.reader, h.throttler, h.sender⟩
  | closeAndDrain name => cases name <;> exact ⟨h.reader, h.throttler, h.sender⟩

end Pipeline

namespace Service

open Pipeline (Change)

variable {s t : Service} {cfg : Config} {net : NetParsers} {now i : ℕ} {c : Change}

/-- The event loop starts a sender pool with a worker and a retry schedule. -/
theorem staffed_of_changeAt {a : Action} (hcfg : cfg.validate net = none)
    (h : machine.Reachable (newService cfg now) s) (hc : s.changeAt a = some (i, c)) : c.Staffed := by
  have hvalid := Config.valid_of_validate hcfg
  have hbounds : s.InBounds cfg := inBounds_of_reachable hvalid h
  have hconfigured := configured_of_changeAt hvalid hbounds hc
  cases c
  case startSender retry workers =>
    obtain rfl : retry = cfg.sender.retry := hconfigured
    refine ⟨?_, (Config.retry_of_validate hcfg).nonempty⟩
    cases a
    case exec =>
      obtain ⟨st, -, hst⟩ := Option.bind_eq_some_iff.mp hc
      cases st
      case startSender =>
        obtain ⟨j, -, heq⟩ := Option.map_eq_some_iff.mp hst
        have hworkers : s.control.controls.senderWorkers.toNat = workers := by
          simp only [Prod.mk.injEq, Change.startSender.injEq] at heq
          exact heq.2.2
        have := (hbounds.controls.nonneg hvalid).2.2.2.2.2
        omega
      all_goals simp [changeOf] at hst
    case event e => cases e <;> simp [changeAt] at hc
    all_goals simp [changeAt] at hc
  all_goals trivial

/-- **In every state of the service every pipeline is lively.** -/
theorem lively_of_reachable (hcfg : cfg.validate net = none)
    (h : machine.Reachable (newService cfg now) s) (i : ℕ) : (s.pipeline i).Lively := by
  suffices hall : machine.Reachable (newService cfg now) s ∧ ∀ i, (s.pipeline i).Lively from hall.2 i
  refine h.invariant (I := fun s => machine.Reachable (newService cfg now) s ∧
    ∀ i, (s.pipeline i).Lively) (fun s a hs ha => ⟨hs.1.step ha, fun i => ?_⟩) ⟨.refl _, fun i => ?_⟩
  · rw [pipeline_next]
    cases hc : s.changeAt a with
    | none => exact hs.2 i
    | some x =>
      obtain ⟨j, c⟩ := x
      simp only [withChange, update_apply]
      split
      · rename_i heq
        subst heq
        exact (hs.2 i).change (allowed_of_changeAt hs.1 ha hc) (staffed_of_changeAt hcfg hs.1 hc)
      · exact hs.2 i
  · exact Pipeline.lively_of_none rfl rfl rfl

/-! ### What is waited for -/

/-- The sender pool the runtime points to. -/
def heldSender (s : Service) : Option SenderPool :=
  s.runtime.senderPool.bind fun i => (s.pipeline i).senderPool

/-- The throttler the runtime points to. -/
def heldThrottler (s : Service) : Option Throttler :=
  s.runtime.throttler.bind fun i => (s.pipeline i).throttler

/-- The reader pool the runtime points to. -/
def heldReader (s : Service) : Option ReaderPool :=
  s.runtime.readerPool.bind fun i => (s.pipeline i).readerPool

/-- How far a throttler is from having taken what is offered to it. -/
def toTaken (t : Throttler) : ℕ := t.updating.elim 0 fun _ => t.pc.toUpdate + 1

/-- How far a throttler is from its end, with the cancellation that has yet to reach it. -/
def toLeft (t : Throttler) : ℕ := t.pc.toExit + (!t.cancelled).toNat

/-- How far a reader pool is from its end, with the cancellation that has yet to reach it. -/
def toClosed (p : ReaderPool) : ℕ := p.ahead + (!p.cancelled).toNat

/-- **How far a statement is from being ready.** -/
def toReady (s : Service) : Stmt → ℕ
  | .reconcileSender | .callSender _ | .joinSender => s.heldSender.elim 0 SenderPool.ahead
  | .awaitReconciled => s.heldSender.elim 0 SenderPool.toDone
  | .awaitUpdate => s.heldThrottler.elim 0 toTaken
  | .joinReader => s.heldReader.elim 0 toClosed
  | .joinThrottler => s.heldThrottler.elim 0 toLeft
  | _ => 0

variable {f : Held}

/-- **A step of the sender pool the runtime points to.** -/
theorem enabled_sender (hf : f.Holds s) (hi : i ∈ s.runtime.senderPool) {p : SenderPool}
    (hp : p ∈ (s.pipeline i).senderPool) {a : SenderPool.Action}
    (ha : SenderPool.Free s.memory.now p a) :
    machine.Enabled s (.pipeline i (.sender a)) ∧ s.heldSender = some p ∧
      (machine.next s (.pipeline i (.sender a))).heldSender = some (p.next s.memory.now a) := by
  have hlast : i + 1 = s.runs := hf.pointers.last i (by simp only [Runtime.PointsTo]; tauto)
  refine ⟨⟨by omega, ⟨p, hp, ha.enabled⟩, ?_, ?_⟩, ?_, ?_⟩
  · rw [ha.actor]
    trivial
  · rw [ha.op]
    trivial
  · rw [heldSender, Option.mem_def.mp hi, Option.bind_some, Option.mem_def.mp hp]
  · simp only [heldSender, machine, Option.mem_def.mp hi, Option.bind_some, update_self,
      Pipeline.next, Pipeline.stepSender, Option.mem_def.mp hp, Option.map_some]

/-- **A step of the throttler the runtime points to.** -/
theorem enabled_throttler (hf : f.Holds s) (hi : i ∈ s.runtime.throttler) {t : Throttler}
    (ht : t ∈ (s.pipeline i).throttler) {a : Throttler.Action}
    (hen : t.Enabled s.memory.now a) (hact : Pipeline.MayAct ((s.pipeline i).runCancelled ||
      s.rootCancelled) a.actor) (hin : a.input = .nothing) (hout : a.output = .nothing) :
    machine.Enabled s (.pipeline i (.throttler a)) ∧ s.heldThrottler = some t ∧
      (machine.next s (.pipeline i (.throttler a))).heldThrottler =
        some (t.next s.memory.now a) := by
  have hlast : i + 1 = s.runs := hf.pointers.last i (by simp only [Runtime.PointsTo]; tauto)
  refine ⟨⟨by omega, ⟨t, ht, hen⟩, hact, ?_, ?_⟩, ?_, ?_⟩
  · rw [hin]
    trivial
  · rw [hout]
    trivial
  · rw [heldThrottler, Option.mem_def.mp hi, Option.bind_some, Option.mem_def.mp ht]
  · simp only [heldThrottler, machine, Option.mem_def.mp hi, Option.bind_some, update_self,
      Pipeline.next, Pipeline.stepThrottler, Option.mem_def.mp ht, Option.map_some]

/-- **A step of the reader pool the runtime points to.** -/
theorem enabled_reader (hf : f.Holds s) (hi : i ∈ s.runtime.readerPool) {p : ReaderPool}
    (hp : p ∈ (s.pipeline i).readerPool) {a : ReaderPool.Action} (hen : p.Enabled s.memory a)
    (hact : Pipeline.MayAct ((s.pipeline i).runCancelled || s.rootCancelled) a.actor)
    (hop : (s.pipeline i).readerBatches.Allows a.op) :
    machine.Enabled s (.pipeline i (.reader a)) ∧ s.heldReader = some p ∧
      (machine.next s (.pipeline i (.reader a))).heldReader = some (p.next s.memory a) := by
  have hlast : i + 1 = s.runs := hf.pointers.last i (by simp only [Runtime.PointsTo]; tauto)
  refine ⟨⟨by omega, ⟨p, hp, hen⟩, hact, hop⟩, ?_, ?_⟩
  · rw [heldReader, Option.mem_def.mp hi, Option.bind_some, Option.mem_def.mp hp]
  · simp only [heldReader, machine, Option.mem_def.mp hi, Option.bind_some, update_self,
      Pipeline.next, Pipeline.stepReader, Option.mem_def.mp hp, Option.map_some]

/-- What is not ready waits for something. -/
theorem exists_mem_of_not {γ : Type*} {r : Option ℕ} {part : ℕ → Option γ} {P : γ → Prop}
    (h : ¬∀ i ∈ r, ∀ c ∈ part i, P c) : ∃ i ∈ r, ∃ c ∈ part i, ¬P c := by
  simpa only [not_forall, exists_prop] using h

/-! ### Every wait comes closer to its end -/

/-- A free step of the sender pool that lowers what is left of it. -/
theorem exists_sender_step {st : Stmt} {p : SenderPool} {a : SenderPool.Action} {rank : SenderPool → ℕ}
    (hf : f.Holds s) (hi : i ∈ s.runtime.senderPool) (hp : p ∈ (s.pipeline i).senderPool)
    (hst : ∀ s : Service, s.toReady st = s.heldSender.elim 0 rank)
    (ha : SenderPool.Free s.memory.now p a) (hlt : rank (p.next s.memory.now a) < rank p) :
    ∃ i a, machine.Enabled s (.pipeline i a) ∧
      (machine.next s (.pipeline i a)).toReady st < s.toReady st := by
  obtain ⟨hen, hheld, hnext⟩ := enabled_sender hf hi hp ha
  refine ⟨i, .sender a, hen, ?_⟩
  rw [hst, hst, hheld, hnext]
  exact hlt

/-- **A call that only `p.mu` holds up.** -/
theorem exists_step_of_muHeld {st : Stmt} {p : SenderPool} (hf : f.Holds s)
    (hi : i ∈ s.runtime.senderPool) (hp : p ∈ (s.pipeline i).senderPool)
    (hst : ∀ s : Service, s.toReady st = s.heldSender.elim 0 SenderPool.ahead)
    (hmu : ¬p.muHeld = false) :
    ∃ i a, machine.Enabled s (.pipeline i a) ∧
      (machine.next s (.pipeline i a)).toReady st < s.toReady st := by
  have hw := ((hf.inOrder i).sound.sender p hp).1
  obtain ⟨b, w, hfree⟩ := hw.exists_send (by simpa using hmu) s.memory.now
  exact exists_sender_step hf hi hp hst hfree (SenderPool.ahead_intakeSend_lt hw hfree.enabled)

/-- **A call of `stop` comes closer.** Only the second one waits for more than `p.mu`. -/
theorem exists_step_to_call {a : SenderPool.Action} {x : Waits} {pc : StopPc} (hf : f.Holds s)
    (hx : x.Holds s) (hcall : x.stop.called a = some pc) (hlive : ∀ i, (s.pipeline i).Lively)
    (hnot : ¬s.Ready (.callSender a)) :
    ∃ i b, machine.Enabled s (.pipeline i b) ∧
      (machine.next s (.pipeline i b)).toReady (.callSender a) < s.toReady (.callSender a) := by
  obtain ⟨i, hi, p, hp, hen⟩ := exists_mem_of_not hnot
  have hknown := (hx.sender i hi p hp).stop
  have hst : ∀ s : Service, s.toReady (.callSender a) = s.heldSender.elim 0 SenderPool.ahead :=
    fun _ => rfl
  obtain ⟨hcancel, hlock, hmark, hreturn⟩ := hknown.of_called hcall
  cases a
  case pause => exact exists_step_of_muHeld hf hi hp hst hen
  case resumeRun => exact exists_step_of_muHeld hf hi hp hst hen
  case stopCancel => exact absurd (hcancel rfl) hen
  case stopReturn => exact absurd (hreturn rfl) hen
  case stopMark => exact exists_step_of_muHeld hf hi hp hst fun hmu => hen ⟨hmark rfl, hmu⟩
  case stopLock =>
    have hlive := (hlive i).sender p hp
    obtain ⟨b, hown, hfree⟩ :=
      hlive.exists_step_to_lock (hlock rfl) (fun hmu => hen ⟨hlock rfl, hmu⟩) s.memory.now
    refine exists_sender_step hf hi hp hst hfree (SenderPool.ahead_next_lt hlive.wellFormed
      hlive.boundary (hlive.boundary.canceled ?_) hfree.enabled hown)
    rw [hlock rfl]
    rintro ⟨⟩
  all_goals
    exfalso
    cases hstop : x.stop <;> rw [hstop] at hcall <;> cases hcall

/-- A sender pool is joined when `stop` has returned. -/
theorem hasReturned_of_joinSender {x y : Waits} (hf : f.Holds s) (hx : x.Holds s)
    (hy : Waits.after f x .joinSender = some y) (hi : i ∈ s.runtime.senderPool) {p : SenderPool}
    (hp : p ∈ (s.pipeline i).senderPool) : p.stop.hasReturned = true := by
  have hheld : f.senderPool = true :=
    hf.pointers.senderPool.symm.trans (Option.isSome_iff_exists.mpr ⟨i, hi⟩)
  have hreturned : x.stop = .returned := by
    by_contra hne
    simp [Waits.after, hheld, hne] at hy
  exact (hx.sender i hi p hp).stop.returned (by rw [hreturned]; rfl)

/-- A throttler is joined when its context has been cancelled and the readers have ended, with
nothing on offer. -/
theorem told_of_joinThrottler {x y : Waits} (hf : f.Holds s) (hx : x.Holds s)
    (hy : Waits.after f x .joinThrottler = some y) (hi : i ∈ s.runtime.throttler) :
    (s.pipeline i).runCancelled = true ∧ (s.pipeline i).ReaderQuiet ∧
      ∀ t ∈ (s.pipeline i).throttler, t.updating = none := by
  have hheld : f.throttler = true :=
    hf.pointers.throttler.symm.trans (Option.isSome_iff_exists.mpr ⟨i, hi⟩)
  have htold : x.cancelled = true ∧ f.readerQuiet = true ∧ x.offering = false := by
    rw [Waits.after, hheld, Bool.true_and] at hy
    split at hy
    case isTrue => cases hy
    case isFalse htold =>
      simpa only [Bool.not_eq_true', Bool.not_eq_false, Bool.and_eq_true, and_assoc] using htold
  have hlast : i + 1 = s.runs := hf.pointers.last i (by simp only [Runtime.PointsTo]; tauto)
  exact ⟨hx.cancelled htold.1 i (Or.inr hi), (hf.describes i hlast).readerQuiet htold.2.1,
    hx.throttler htold.2.2 i hi⟩

/-- **The end of the sender pool comes closer.** -/
theorem exists_step_to_join {x y : Waits} (hf : f.Holds s) (hx : x.Holds s)
    (hy : Waits.after f x .joinSender = some y) (hlive : ∀ i, (s.pipeline i).Lively)
    (hnot : ¬s.Ready .joinSender) :
    ∃ i b, machine.Enabled s (.pipeline i b) ∧
      (machine.next s (.pipeline i b)).toReady .joinSender < s.toReady .joinSender := by
  obtain ⟨i, hi, p, hp, hopen⟩ := exists_mem_of_not hnot
  have hret := hasReturned_of_joinSender hf hx hy hi hp
  have hlive := (hlive i).sender p hp
  obtain ⟨b, hown, hfree⟩ := hlive.exists_step_to_join ((hf.inOrder i).sound.sender p hp).2.2 hret
    hopen s.memory.now
  refine exists_sender_step hf hi hp (fun _ => rfl) hfree (SenderPool.ahead_next_lt hlive.wellFormed
    hlive.boundary (hlive.boundary.canceled ?_) hfree.enabled hown)
  intro hrunning
  rw [hrunning] at hret
  cases hret

/-- **The end of the reader pool comes closer**, once its context is cancelled. -/
theorem exists_step_to_closed {x y : Waits} (hf : f.Holds s) (hx : x.Holds s)
    (hy : Waits.after f x .joinReader = some y) (hlive : ∀ i, (s.pipeline i).Lively)
    (hnot : ¬s.Ready .joinReader) :
    ∃ i b, machine.Enabled s (.pipeline i b) ∧
      (machine.next s (.pipeline i b)).toReady .joinReader < s.toReady .joinReader := by
  obtain ⟨i, hi, p, hp, hopen⟩ := exists_mem_of_not hnot
  have hheld : f.readerPool = true :=
    hf.pointers.readerPool.symm.trans (Option.isSome_iff_exists.mpr ⟨i, hi⟩)
  have hcancelled : (s.pipeline i).runCancelled = true := by
    refine hx.cancelled ?_ i (Or.inl hi)
    by_contra hne
    simp [Waits.after, hheld, hne] at hy
  have hst : ∀ s : Service, s.toReady .joinReader = s.heldReader.elim 0 toClosed := fun _ => rfl
  by_cases hc : p.cancelled = true
  · obtain ⟨b, hown, hen, hop⟩ := ReaderPool.exists_step ((hf.inOrder i).sound.reader p hp)
      ((hlive i).reader p hp) hc hopen s.memory (s.pipeline i).readerBatches
    have hactor : b.actor = .goroutine := by cases b <;> first | rfl | cases hown
    obtain ⟨hen', hheld', hnext⟩ :=
      enabled_reader hf hi hp hen (by rw [hactor]; trivial) hop
    refine ⟨i, .reader b, hen', ?_⟩
    rw [hst, hst, hheld', hnext]
    have hlt := ReaderPool.ahead_next_lt hc hen hown
    have hc' : (p.next s.memory b).cancelled = true := ReaderPool.cancelled_next.mpr (Or.inl hc)
    simp only [Option.elim_some, toClosed, hc, hc']
    omega
  · -- the cancellation has yet to reach it
    obtain ⟨hen', hheld', hnext⟩ := enabled_reader (a := .cancel) hf hi hp trivial
      (by rw [hcancelled]; rfl) trivial
    refine ⟨i, .reader .cancel, hen', ?_⟩
    rw [hst, hst, hheld', hnext]
    have hc : p.cancelled = false := by simpa using hc
    have hsame : (p.next s.memory .cancel).ahead = p.ahead := rfl
    have hc' : (p.next s.memory .cancel).cancelled = true := rfl
    simp only [Option.elim_some, toClosed, hsame, hc, hc']
    exact Nat.lt_succ_self _

/-- **The end of the throttler comes closer**, once its context is cancelled. -/
theorem exists_step_to_left {x y : Waits} (hf : f.Holds s) (hx : x.Holds s)
    (hy : Waits.after f x .joinThrottler = some y) (hnot : ¬s.Ready .joinThrottler) :
    ∃ i b, machine.Enabled s (.pipeline i b) ∧
      (machine.next s (.pipeline i b)).toReady .joinThrottler < s.toReady .joinThrottler := by
  obtain ⟨i, hi, t, ht, hpc⟩ := exists_mem_of_not hnot
  obtain ⟨hcancelled, -, -⟩ := told_of_joinThrottler hf hx hy hi
  have hst : ∀ s : Service, s.toReady .joinThrottler = s.heldThrottler.elim 0 toLeft := fun _ => rfl
  by_cases hc : t.cancelled = true
  · obtain ⟨b, hfree, hc', hlt⟩ := Throttler.exists_step_to_exit hc hpc s.memory.now
    obtain ⟨hen, hheld', hnext⟩ := enabled_throttler hf hi ht hfree.enabled
      (by rw [hfree.actor]; trivial) hfree.input hfree.output
    refine ⟨i, .throttler b, hen, ?_⟩
    rw [hst, hst, hheld', hnext]
    simp only [Option.elim_some, toLeft, hc, hc']
    omega
  · obtain ⟨hen, hheld', hnext⟩ := enabled_throttler (a := .cancel) hf hi ht trivial
      (by rw [hcancelled]; rfl) rfl rfl
    refine ⟨i, .throttler .cancel, hen, ?_⟩
    rw [hst, hst, hheld', hnext]
    have hc : t.cancelled = false := by simpa using hc
    have hsame : (t.next s.memory.now .cancel).pc = t.pc := rfl
    have hc' : (t.next s.memory.now .cancel).cancelled = true := rfl
    simp only [Option.elim_some, toLeft, hsame, hc, hc']
    exact Nat.lt_succ_self _

/-- **The settings offered come closer to being taken.** -/
theorem exists_step_to_taken (hf : f.Holds s) (hnot : ¬s.Ready .awaitUpdate) :
    ∃ i b, machine.Enabled s (.pipeline i b) ∧
      (machine.next s (.pipeline i b)).toReady .awaitUpdate < s.toReady .awaitUpdate := by
  obtain ⟨i, hi, t, ht, hwait⟩ := exists_mem_of_not hnot
  obtain ⟨hsome, hpc⟩ := not_or.mp hwait
  obtain ⟨settings, hsettings⟩ := Option.ne_none_iff_exists'.mp hsome
  obtain ⟨b, hfree, hcloser⟩ := Throttler.exists_step_to_update hsettings hpc s.memory.now
  obtain ⟨hen, hheld', hnext⟩ := enabled_throttler hf hi ht hfree.enabled
    (by rw [hfree.actor]; trivial) hfree.input hfree.output
  have hst : ∀ s : Service, s.toReady .awaitUpdate = s.heldThrottler.elim 0 toTaken := fun _ => rfl
  refine ⟨i, .throttler b, hen, ?_⟩
  rw [hst, hst, hheld', hnext]
  rcases hcloser with hnone | ⟨hsame, hlt⟩
  · simp only [Option.elim_some, toTaken, hsettings, hnone, Option.elim_none]
    exact Nat.succ_pos _
  · simp only [Option.elim_some, toTaken, hsettings, hsame]
    omega

/-- **Where the event loop waits, some step brings the end of the wait closer.** -/
theorem exists_step_to_ready {st : Stmt} {rest : List Stmt} (hcfg : cfg.validate net = none)
    (h : machine.Reachable (newService cfg now) s) (htodo : s.todo = st :: rest)
    (hnot : ¬s.Ready st) :
    ∃ i a, machine.Enabled s (.pipeline i a) ∧
      (machine.next s (.pipeline i a)).toReady st < s.toReady st := by
  have hvalid := Config.valid_of_validate hcfg
  have hnonneg := (inBounds_of_reachable hvalid h).controls.nonneg hvalid
  have hlive := lively_of_reachable hcfg h
  obtain ⟨f, x, y, hf, hx, hy⟩ := exists_waits h htodo
  cases st
  case reconcileReader =>
    -- a reader pool can always be asked for a worker or more
    obtain ⟨i, -, p, -, hen⟩ := exists_mem_of_not hnot
    have hworkers : 1 ≤ s.control.controls.readerWorkers.toNat := by omega
    exact absurd hworkers hen
  case reconcileSender =>
    obtain ⟨i, hi, p, hp, hen⟩ := exists_mem_of_not hnot
    have hworkers : 1 ≤ s.control.controls.senderWorkers.toNat := by omega
    exact exists_step_of_muHeld hf hi hp (fun _ => rfl) fun hmu => hen ⟨hworkers, hmu⟩
  case callSender a =>
    obtain ⟨pc, hcall, -⟩ := Option.map_eq_some_iff.mp hy
    exact exists_step_to_call hf hx hcall hlive hnot
  case awaitReconciled =>
    obtain ⟨i, hi, p, hp, hwait⟩ := exists_mem_of_not hnot
    have hwait : ∃ w ∈ p.joining, (p.worker w).done = false := by
      simpa only [not_forall, exists_prop, Bool.not_eq_true] using hwait
    obtain ⟨a, hfree, hlt⟩ := (hx.sender i hi p hp).joins.exists_step_to_done
      ((hlive i).sender p hp).wellFormed hwait s.memory.now
    exact exists_sender_step hf hi hp (fun _ => rfl) hfree hlt
  case offerSettings =>
    -- nothing is on offer any more
    obtain ⟨i, hi, t, ht, hsome⟩ := exists_mem_of_not hnot
    refine absurd (hx.throttler ?_ i hi t ht) hsome
    by_contra hne
    simp [Waits.after, hne] at hy
  case awaitUpdate => exact exists_step_to_taken hf hnot
  case joinSender => exact exists_step_to_join hf hx hy hlive hnot
  case joinReader => exact exists_step_to_closed hf hx hy hlive hnot
  case joinThrottler => exact exists_step_to_left hf hx hy hnot
  all_goals exact absurd trivial hnot

/-! ### The event loop returns -/

/-- A statement of the event loop or a step of a pipeline: what may happen without anyone
asking for it. -/
def Action.IsInner : Action → Prop
  | .exec | .pipeline _ _ => True
  | _ => False

/-- **The wait at the head of what is to be executed ends**, by steps of the pipelines. -/
theorem exists_leads_to_ready {st : Stmt} {rest : List Stmt} (hcfg : cfg.validate net = none)
    (h : machine.Reachable (newService cfg now) s) (htodo : s.todo = st :: rest) :
    ∃ t, machine.Leads Action.IsInner s t ∧
      (machine.Reachable (newService cfg now) t ∧ t.todo = st :: rest) ∧ t.Ready st := by
  refine Machine.exists_leads_of_rank (fun s => s.toReady st) (fun u hu hnot => ?_) ⟨h, htodo⟩
  obtain ⟨i, a, hen, hlt⟩ := exists_step_to_ready hcfg hu.1 hu.2 hnot
  exact ⟨.pipeline i a, hen, trivial, ⟨hu.1.step hen, hu.2⟩, hlt⟩

/-- **What is to be executed is executed.** The induction is on what is left of the program. -/
theorem exists_leads_to_nil (hcfg : cfg.validate net = none)
    (h : machine.Reachable (newService cfg now) s) :
    ∃ t, machine.Leads Action.IsInner s t ∧ t.todo = [] := by
  generalize htodo : s.todo = todo
  induction todo generalizing s with
  | nil => exact ⟨s, .refl s, htodo⟩
  | cons st rest ih =>
    obtain ⟨u, hlead, ⟨hu, hutodo⟩, hready⟩ := exists_leads_to_ready hcfg h htodo
    have hen : machine.Enabled u .exec := ⟨st, by rw [hutodo]; rfl, hready⟩
    have hnext : (machine.next u .exec).todo = rest := by
      simp only [machine, hutodo]
    obtain ⟨t, hlead', ht⟩ := ih (hu.step hen) hnext
    exact ⟨t, hlead.trans ((Machine.Leads.single hen trivial).trans hlead'), ht⟩

/-- A statement leaves the root context alone, and ends the event loop only where it is to. -/
theorem rootCancelled_exec (s : Service) (st : Stmt) :
    (s.exec st).rootCancelled = s.rootCancelled ∧
      (s.exec st).exited = (s.exited || decide (st = .exit)) := by
  cases st
  case startChannel c =>
    rw [exec]
    split <;> exact ⟨rfl, (Bool.or_false _).symm⟩
  case seeChannel c => cases c <;> exact ⟨rfl, (Bool.or_false _).symm⟩
  case setCapacity c value => cases c <;> exact ⟨rfl, (Bool.or_false _).symm⟩
  case exit => exact ⟨rfl, (Bool.or_true _).symm⟩
  all_goals simp [exec, onRun, onControls, onChannel]

/-- What happens without being asked for leaves the clock and the root context alone. -/
theorem frame_of_isInner (h : machine.Leads Action.IsInner s t) :
    t.memory.now = s.memory.now ∧ t.rootCancelled = s.rootCancelled := by
  refine h.invariant (I := fun t => t.memory.now = s.memory.now ∧ t.rootCancelled = s.rootCancelled)
    (fun u a hu ha hinner => ?_) ⟨rfl, rfl⟩
  cases a with
  | clock now => exact hinner.elim
  | cancelRoot => exact hinner.elim
  | event e => exact hinner.elim
  | pipeline run a => exact ⟨(now_remember u.memory a).trans hu.1, hu.2⟩
  | exec =>
    obtain ⟨st, hst, -⟩ := ha
    obtain ⟨rest, htodo⟩ := List.head?_eq_some_iff.mp hst
    simp only [machine, htodo]
    exact ⟨(now_exec u st).trans hu.1, (rootCancelled_exec u st).1.trans hu.2⟩

/-- **What is to end the event loop ends it.** -/
theorem exited_of_isInner (h : machine.Leads Action.IsInner s t) (htodo : t.todo = [])
    (hexit : .exit ∈ s.todo ∨ s.exited = true) : t.exited = true := by
  have hall : .exit ∈ t.todo ∨ t.exited = true := by
    refine h.invariant (I := fun t => .exit ∈ t.todo ∨ t.exited = true)
      (fun u a hu ha hinner => ?_) hexit
    cases a with
    | clock now => exact hinner.elim
    | cancelRoot => exact hinner.elim
    | event e => exact hinner.elim
    | pipeline run a => exact hu
    | exec =>
      obtain ⟨st, hst, -⟩ := ha
      obtain ⟨rest, htodo⟩ := List.head?_eq_some_iff.mp hst
      simp only [machine, htodo, (rootCancelled_exec u st).2, Bool.or_eq_true, decide_eq_true_eq]
      rw [htodo, List.mem_cons] at hu
      tauto
  exact hall.resolve_left (by rw [htodo]; exact List.not_mem_nil)

/-- **When the event loop has ended, every run is over**, and stays so. -/
theorem over_of_exited (h : machine.Reachable (newService cfg now) s) (htodo : s.todo = [])
    (hexited : s.exited = true) (hi : i < s.runs) : s.Over i := by
  have hcovered := waits_covered h
  rw [htodo] at hcovered
  obtain ⟨⟨f, x⟩, ⟨hf, -⟩, ⟨-, hempty⟩ | ⟨hrest, -⟩, -⟩ := hcovered.final
  · refine over_of_not_pointsTo hf hi fun hpoints => ?_
    simp only [Held.isEmpty, Bool.not_eq_true', Bool.or_eq_false_iff] at hempty
    obtain ⟨⟨⟨⟨⟨hr, hs⟩, hsp⟩, hc⟩, ht⟩, hrp⟩ := hempty
    have hnone : ∀ {o : Option ℕ} {b : Bool}, o.isSome = b → b = false → i ∉ o := by
      rintro (_ | j) b ho rfl hmem
      · cases hmem
      · cases ho
    rcases hpoints with hp | hp | hp | hp | hp | hp
    · exact hnone hf.pointers.readerBatches hr hp
    · exact hnone hf.pointers.senderBatches hs hp
    · exact hnone hf.pointers.senderPool hsp hp
    · exact hnone hf.pointers.cancelRun hc hp
    · exact hnone hf.pointers.throttler ht hp
    · exact hnone hf.pointers.readerPool hrp hp
  · dsimp only at hrest
    have hno : f.exited = false := by
      rw [hrest]
      rfl
    exact absurd (hf.exited.trans hno) (by rw [hexited]; rintro ⟨⟩)

/-- **The event loop is never stuck.** In every state of the service, whatever has been
paused, cancelled, filled up or drained, and wherever the goroutines stand:

* the event being handled can be finished by the statements of the event loop and steps of
  the pipelines alone, while the clock stands still: nothing it waits for needs a timer, a
  command or a cancellation besides those of the event loop itself;
* and if the root context is cancelled, the event loop can go on to end, with every run over:
  every goroutine exited and both channels of each closed once. -/
theorem event_loop_returns (hcfg : cfg.validate net = none)
    (h : machine.Reachable (newService cfg now) s) :
    (∃ t, machine.Leads Action.IsInner s t ∧ t.todo = [] ∧ t.memory.now = s.memory.now) ∧
    (s.rootCancelled = true → ∃ t, machine.Leads (fun a => a.IsInner ∨ a = .event .done) s t ∧
      t.todo = [] ∧ t.exited = true ∧ t.memory.now = s.memory.now ∧ ∀ i < t.runs, t.Over i) := by
  obtain ⟨t, hlead, htodo⟩ := exists_leads_to_nil hcfg h
  obtain ⟨hnow, hroot⟩ := frame_of_isInner hlead
  refine ⟨⟨t, hlead, htodo, hnow⟩, fun hcancelled => ?_⟩
  have ht := h.trans hlead.reachable
  have hlead' : machine.Leads (fun a => a.IsInner ∨ a = .event .done) s t :=
    hlead.mono fun a ha => Or.inl ha
  cases hexited : t.exited with
  | true => exact ⟨t, hlead', htodo, hexited, hnow, fun i hi => over_of_exited ht htodo hexited hi⟩
  | false =>
    -- the context is done, and `stop` is executed a last time
    have hen : machine.Enabled t (.event .done) := ⟨htodo, hexited, hroot.trans hcancelled⟩
    obtain ⟨u, hlast, hutodo⟩ := exists_leads_to_nil hcfg (ht.step hen)
    have hexit : u.exited = true := exited_of_isInner hlast hutodo (Or.inl (by
      simp [machine, take, program]))
    have hu := (ht.step hen).trans hlast.reachable
    exact ⟨u, hlead'.trans ((Machine.Leads.single hen (Or.inr rfl)).trans
      (hlast.mono fun a ha => Or.inl ha)), hutodo, hexit, (frame_of_isInner hlast).1.trans hnow,
      fun i hi => over_of_exited hu hutodo hexit hi⟩

/-- A run that is stopped when the process is interrupted: the event loop is about to wait for
the intake, which holds nothing and can hand back its mutex. -/
theorem event_loop_returns_startedRun :
    let s := machine.after (newService exampleConfig 0)
      (startedRun ++ [.cancelRoot, .event .done, .exec])
    s.todo.head? = some (.callSender .stopLock) ∧ s.rootCancelled = true ∧
      ∃ t, machine.Leads (fun a => a.IsInner ∨ a = .event .done) s t ∧ t.todo = [] ∧
        t.exited = true ∧ t.memory.now = s.memory.now ∧ ∀ i < t.runs, t.Over i := by
  have hrun : machine.Run (newService exampleConfig 0)
      (startedRun ++ [.cancelRoot, .event .done, .exec]) := by decide +kernel
  have hend : (machine.after (newService exampleConfig 0)
        (startedRun ++ [.cancelRoot, .event .done, .exec])).todo.head? =
          some (.callSender .stopLock) ∧
      (machine.after (newService exampleConfig 0)
        (startedRun ++ [.cancelRoot, .event .done, .exec])).rootCancelled = true := by
    decide +kernel
  have hvalid : exampleConfig.validate exampleParsers = none := by decide +kernel
  intro s
  exact ⟨hend.1, hend.2, (event_loop_returns hvalid ⟨_, hrun, rfl⟩).2 hend.2⟩

end Service

end IngestionLab
