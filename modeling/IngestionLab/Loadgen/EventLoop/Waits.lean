import IngestionLab.Loadgen.EventLoop.Lifeline
import IngestionLab.Loadgen.SenderPool.Leaving

/-!
# What the event loop waits for

The event loop waits in the middle of its programs: for the intake of a pool it stops, for
the workers a reconciliation drains, for the throttler to take new settings, for the ends of
the components it has stopped. Whether such a wait can be over depends on what has been done
before it: the sender pool is joined only after `stop` has returned, the reader pool and the
throttler only after the context of the run has been cancelled.

What of this has been done is in the facts `IngestionLab.Waits`, which the programs of the
event loop pass the check of (`IngestionLab.Waits.exists_check`).

* `IngestionLab.Service.waits_covered`: **in every state of the service it is known what has
  been done for what is waited for.**
-/

namespace IngestionLab

open Function

/-! ### The calls of `stop` -/

namespace StopPc

/-- **Where `stop` stands after a call of the event loop**, `none` where the call is out of
turn. -/
def called : StopPc → SenderPool.Action → Option StopPc
  | running, .stopCancel => some canceled
  | canceled, .stopLock => some locked
  | locked, .stopMark => some marked
  | marked, .stopReturn => some returned
  | pc, .pause | pc, .resumeRun => some pc
  | _, _ => none

/-- **`stop` has been called as far as known**: it stands there, or its goroutine is past its
return. -/
structure Known (known pc : StopPc) : Prop where
  calling : known.hasReturned = false → pc = known
  returned : known.hasReturned = true → pc.hasReturned = true

theorem Known.refl (pc : StopPc) : Known pc pc := ⟨fun _ => rfl, id⟩

/-- **Where `stop` stands when it is called in turn.** -/
theorem Known.of_called {known pc pc' : StopPc} {a : SenderPool.Action} (h : Known known pc)
    (hk : known.called a = some pc') :
    (a = .stopCancel → pc = .running) ∧ (a = .stopLock → pc = .canceled) ∧
      (a = .stopMark → pc = .locked) ∧ (a = .stopReturn → pc = .marked) := by
  refine ⟨?_, ?_, ?_, ?_⟩
  all_goals
    rintro rfl
    cases known <;> cases hk
    exact h.calling rfl

end StopPc

namespace SenderPool

variable {p : SenderPool} {a : Action} {now : ℕ} {known : StopPc}

/-- Until `stop` returns, only the event loop moves it. -/
theorem stop_next_of_calling (h : p.stop.hasReturned = false) (hb : a.actor ≠ .eventLoop)
    (ha : p.Enabled now a) : (p.next now a).stop = p.stop := by
  cases a
  case reconcile | reconcileJoined | pause | resumeRun | stopCancel | stopLock | stopMark | stopReturn =>
    exact absurd rfl hb
  case stopIntakeDone =>
    rw [ha.1] at h
    cases h
  case stopJoined =>
    rw [ha.1] at h
    cases h
  case workerExited w =>
    obtain ⟨_, _, _, _, _, heq⟩ := workerExited_frame p w
    simp only [SenderPool.next, goto, setWorker, heq]
  all_goals rfl

/-- What is known of `stop` survives the steps of the pool. -/
theorem known_next (h : StopPc.Known known p.stop) (hb : a.actor ≠ .eventLoop)
    (ha : p.Enabled now a) : StopPc.Known known (p.next now a).stop where
  calling hk := by
    have hstop := h.calling hk
    rw [stop_next_of_calling (by rw [hstop]; exact hk) hb ha]
    exact hstop
  returned hk := hasReturned_next (h.returned hk) ha

/-- **A call in turn leaves `stop` where it is known to be.** -/
theorem known_called {pc : StopPc} (h : StopPc.Known known p.stop) (hk : known.called a = some pc) :
    StopPc.Known pc (p.next now a).stop := by
  cases a
  case pause =>
    have hsame : (p.next now .pause).stop = p.stop := by
      obtain ⟨_, _, _, heq⟩ := pause_frame p
      rw [SenderPool.next, heq]
    obtain rfl : known = pc := by cases known <;> exact Option.some.inj hk
    rw [hsame]
    exact h
  case resumeRun =>
    have hsame : (p.next now .resumeRun).stop = p.stop := by
      obtain ⟨_, _, heq⟩ := resumeRun_frame p
      rw [SenderPool.next, heq]
    obtain rfl : known = pc := by cases known <;> exact Option.some.inj hk
    rw [hsame]
    exact h
  case stopCancel | stopLock | stopMark | stopReturn =>
    cases known <;> cases hk
    exact StopPc.Known.refl _
  all_goals cases known <;> cases hk

/-- Only a call of the event loop is one of the calls of `stop`. -/
theorem ne_reconcile_of_called {pc : StopPc} (hk : known.called a = some pc) :
    (∀ d, a ≠ .reconcile d) ∧ ∀ w, a ≠ .reconcileJoined w := by
  refine ⟨?_, ?_⟩
  all_goals
    rintro x rfl
    cases known <;> cases hk

/-- A step of the pool's own makes nobody wait for a worker. -/
theorem ne_reconcile_of_actor (hb : a.actor ≠ .eventLoop) :
    (∀ d, a ≠ .reconcile d) ∧ ∀ w, a ≠ .reconcileJoined w :=
  ⟨fun _ h => hb (by rw [h]; rfl), fun _ h => hb (by rw [h]; rfl)⟩

end SenderPool

/-- Only the event loop offers settings. -/
theorem Throttler.updating_next {t : Throttler} {a : Throttler.Action} {now : ℕ}
    (h : t.updating = none) (hb : a.actor ≠ .eventLoop) : (t.next now a).updating = none := by
  cases a
  case offer | offerDropped => exact absurd rfl hb
  case finishBlocked batch outcome => cases outcome <;> exact h
  case idleUpdate | selectUpdate | blockedUpdate => rfl
  all_goals exact h

namespace Pipeline

variable {q : Pipeline} {sh : Memory} {root : Bool} {a : Action}

/-- The event loop takes no step of a pipeline. -/
theorem actor_ne_of_mayAct {cancelled : Bool} {who : Actor} (h : MayAct cancelled who) :
    who ≠ .eventLoop := by
  rintro rfl
  exact h

/-- What a sender pool may become by a step of its pipeline. -/
theorem exists_sender_next (ha : q.Enabled root sh a) {p' : SenderPool}
    (hp' : p' ∈ (q.next sh a).senderPool) :
    ∃ p ∈ q.senderPool, p' = p ∨ ∃ b : SenderPool.Action, b.actor ≠ .eventLoop ∧
      p.Enabled sh.now b ∧ p' = p.next sh.now b := by
  cases a with
  | reader b => exact ⟨p', hp', Or.inl rfl⟩
  | throttler b => exact ⟨p', hp', Or.inl rfl⟩
  | sender b =>
    obtain ⟨p, hp, rfl⟩ := mem_stepSender hp'
    exact ⟨p, hp, Or.inr ⟨b, actor_ne_of_mayAct ha.2.1, enabled_of_mem ha.1 hp, rfl⟩⟩
  | passToThrottler b b' => exact ⟨p', hp', Or.inl rfl⟩
  | passToSender b b' =>
    obtain ⟨p, hp, rfl⟩ := mem_stepSender hp'
    have hactor := SenderPool.Action.actor_of_meet ha.2.2.1
    exact ⟨p, hp, Or.inr ⟨b', by rw [hactor]; rintro ⟨⟩, enabled_of_mem ha.2.1 hp, rfl⟩⟩

/-- What a throttler may become by a step of its pipeline. -/
theorem exists_throttler_next (ha : q.Enabled root sh a) {t' : Throttler}
    (ht' : t' ∈ (q.next sh a).throttler) :
    ∃ t ∈ q.throttler, t' = t ∨ ∃ b : Throttler.Action, b.actor ≠ .eventLoop ∧
      t.Enabled sh.now b ∧ t' = t.next sh.now b := by
  cases a with
  | reader b => exact ⟨t', ht', Or.inl rfl⟩
  | throttler b =>
    obtain ⟨t, ht, rfl⟩ := mem_stepThrottler ht'
    exact ⟨t, ht, Or.inr ⟨b, actor_ne_of_mayAct ha.2.1, enabled_of_mem ha.1 ht, rfl⟩⟩
  | sender b => exact ⟨t', ht', Or.inl rfl⟩
  | passToThrottler b b' =>
    obtain ⟨t, ht, rfl⟩ := mem_stepThrottler ht'
    obtain ⟨hactor, -⟩ := Throttler.Action.actor_of_meet_input ha.2.2.1
    exact ⟨t, ht, Or.inr ⟨b', by rw [hactor]; rintro ⟨⟩, enabled_of_mem ha.2.1 ht, rfl⟩⟩
  | passToSender b b' =>
    obtain ⟨t, ht, rfl⟩ := mem_stepThrottler ht'
    obtain ⟨hactor, -⟩ := Throttler.Action.actor_of_meet_output ha.2.2.1
    exact ⟨t, ht, Or.inr ⟨b, by rw [hactor]; rintro ⟨⟩, enabled_of_mem ha.1 ht, rfl⟩⟩

end Pipeline

/-! ### The facts -/

/-- **What has been done for what is waited for**, of the components the runtime points to:
how far `stop` of the sender pool has been called, whether workers are still waited for,
whether settings are still offered to the throttler, and whether the context of the reader
pool and of the throttler has been cancelled. -/
structure Waits where
  stop : StopPc := .running
  joining : Bool := false
  offering : Bool := false
  cancelled : Bool := false
  deriving DecidableEq

namespace Waits

open Service

/-- What is known of a sender pool. -/
structure Sender (x : Waits) (p : SenderPool) : Prop where
  stop : StopPc.Known x.stop p.stop
  joins : p.Joins
  joining : x.joining = false → p.joining = []

/-- **What the facts mean.** -/
structure Holds (x : Waits) (s : Service) : Prop where
  sender : ∀ i ∈ s.runtime.senderPool, ∀ p ∈ (s.pipeline i).senderPool, x.Sender p
  throttler : x.offering = false → ∀ i ∈ s.runtime.throttler, ∀ t ∈ (s.pipeline i).throttler,
    t.updating = none
  cancelled : x.cancelled = true → ∀ i, i ∈ s.runtime.readerPool ∨ i ∈ s.runtime.throttler →
    (s.pipeline i).runCancelled = true

/-- What a statement makes of the facts, beside what the runtime holds: `none` where a
component would be waited for that has not been told. -/
def after (f : Held) (x : Waits) : Stmt → Option Waits
  | .makeRun | .startReaderPool _ | .forgetRun | .clearActive => some { x with cancelled := false }
  | .startThrottler => some { x with offering := false, cancelled := false }
  | .startSender => some { x with stop := .running, joining := false }
  | .reconcileSender => if x.joining then none else some { x with joining := true }
  | .awaitReconciled => some { x with joining := false }
  | .callSender a => (x.stop.called a).map fun stop => { x with stop := stop }
  | .joinSender =>
    if f.senderPool && x.stop != .returned then none
    else some { x with stop := .running, joining := false }
  | .offerSettings => if x.offering then none else some { x with offering := true }
  | .awaitUpdate => some { x with offering := false }
  | .cancelRun => some { x with cancelled := f.cancelRun }
  | .joinReader => if f.readerPool && !x.cancelled then none else some x
  | .joinThrottler =>
    if f.throttler && !(x.cancelled && f.readerQuiet && !x.offering) then none else some x
  | _ => some x

variable {x y : Waits} {f g : Held} {s t : Service} {q : Pipeline} {sh : Memory} {root : Bool}

/-! ### Beside the pipelines -/

/-- What is known of a sender pool survives the steps of its pipeline. -/
theorem Sender.next {a : Pipeline.Action} (h : ∀ p ∈ q.senderPool, x.Sender p) (hq : q.InOrder)
    (ha : q.Enabled root sh a) : ∀ p ∈ (q.next sh a).senderPool, x.Sender p := by
  intro p' hp'
  obtain ⟨p, hp, rfl | ⟨b, hb, hen, rfl⟩⟩ := Pipeline.exists_sender_next ha hp'
  · exact h p' hp
  · obtain ⟨hstop, hjoins, hjoining⟩ := h p hp
    obtain ⟨hr, hj⟩ := SenderPool.ne_reconcile_of_actor hb
    exact ⟨SenderPool.known_next hstop hb hen,
      hjoins.next (hq.sound.sender p hp).1 hen hr hj,
      fun hx => (SenderPool.joining_next hr hj).trans (hjoining hx)⟩

/-- **The facts survive what happens beside the event loop.** -/
theorem Holds.interferes (h : x.Holds s) (hf : f.Holds s) (hst : s.Interferes t) : x.Holds t := by
  cases hst with
  | clock now => exact { h with }
  | cancelRoot => exact { h with }
  | todo todo => exact { h with }
  | pipeline run a hrun ha =>
    refine ⟨fun i hi => ?_, fun hx i hi => ?_, fun hx i hi => ?_⟩
    all_goals
      simp only [update_apply]
      split
    · rename_i heq
      subst heq
      exact Sender.next (h.sender i hi) (hf.inOrder i) ha
    · exact h.sender i hi
    · rename_i heq
      subst heq
      intro t' ht'
      obtain ⟨t, ht, rfl | ⟨b, hb, -, rfl⟩⟩ := Pipeline.exists_throttler_next ha ht'
      · exact h.throttler hx i hi t' ht
      · exact Throttler.updating_next (h.throttler hx i hi t ht) hb
    · exact h.throttler hx i hi
    · rename_i heq
      subst heq
      exact (Pipeline.frame_next ha).1.trans (h.cancelled hx i hi)
    · exact h.cancelled hx i hi

/-! ### The statements -/

/-- **The facts are about a few parts of the pipelines**, and about fewer of them when a
pointer is dropped. -/
theorem Holds.frame (h : x.Holds s)
    (hpipeline : ∀ i, (t.pipeline i).senderPool = (s.pipeline i).senderPool ∧
      (t.pipeline i).throttler = (s.pipeline i).throttler ∧
      (t.pipeline i).runCancelled = (s.pipeline i).runCancelled)
    (hsender : t.runtime.senderPool = none ∨ t.runtime.senderPool = s.runtime.senderPool)
    (hthrottler : t.runtime.throttler = none ∨ t.runtime.throttler = s.runtime.throttler)
    (hreader : t.runtime.readerPool = none ∨ t.runtime.readerPool = s.runtime.readerPool) :
    x.Holds t := by
  have hsub : ∀ {r r' : Option ℕ} {i : ℕ}, r = none ∨ r = r' → i ∈ r → i ∈ r' := by
    rintro r r' i (rfl | rfl) hi
    · cases hi
    · exact hi
  refine ⟨fun i hi => ?_, fun hx i hi => ?_, fun hx i hi => ?_⟩
  · rw [(hpipeline i).1]
    exact h.sender i (hsub hsender hi)
  · rw [(hpipeline i).2.1]
    exact h.throttler hx i (hsub hthrottler hi)
  · rw [(hpipeline i).2.2]
    exact h.cancelled hx i (hi.imp (hsub hreader) (hsub hthrottler))

/-- A part of the pipelines that a call leaves. -/
theorem part_onPipeline {γ : Type*} {r : Option ℕ} {F : Pipeline → Pipeline} (part : Pipeline → γ)
    (hF : ∀ q, part (F q) = part q) (i : ℕ) :
    part ((s.onPipeline r F).pipeline i) = part (s.pipeline i) := by
  by_cases hi : i ∈ r
  · rw [onPipeline_of_mem hi, hF]
  · rw [onPipeline_of_notMem hi]

/-- A call that leaves these parts leaves the facts. -/
theorem Holds.call {r : Option ℕ} {F : Pipeline → Pipeline} (h : x.Holds s)
    (hpipeline : t.pipeline = (s.onPipeline r F).pipeline)
    (hF : ∀ q, (F q).senderPool = q.senderPool ∧ (F q).throttler = q.throttler ∧
      (F q).runCancelled = q.runCancelled)
    (hruntime : t.runtime.senderPool = s.runtime.senderPool ∧
      t.runtime.throttler = s.runtime.throttler ∧ t.runtime.readerPool = s.runtime.readerPool) :
    x.Holds t := by
  refine h.frame (fun i => ?_) (Or.inr hruntime.1) (Or.inr hruntime.2.1) (Or.inr hruntime.2.2)
  rw [hpipeline]
  exact ⟨part_onPipeline Pipeline.senderPool (fun q => (hF q).1) i,
    part_onPipeline Pipeline.throttler (fun q => (hF q).2.1) i,
    part_onPipeline Pipeline.runCancelled (fun q => (hF q).2.2) i⟩

/-- **The rule for a call of the sender pool.** -/
theorem Holds.callSender {F : Pipeline → Pipeline} (h : x.Holds s)
    (hoffering : y.offering = x.offering) (hcancelled : y.cancelled = x.cancelled)
    (hkeep : ∀ q, (F q).throttler = q.throttler ∧ (F q).runCancelled = q.runCancelled)
    (hF : ∀ i ∈ s.runtime.senderPool, ∀ p ∈ (F (s.pipeline i)).senderPool, y.Sender p) :
    y.Holds (s.onPipeline s.runtime.senderPool F) := by
  refine ⟨fun i hi => ?_, fun hy i hi => ?_, fun hy i hi => ?_⟩
  all_goals rw [onPipeline_runtime] at hi
  · rw [onPipeline_of_mem hi]
    exact hF i hi
  · rw [part_onPipeline Pipeline.throttler (fun q => (hkeep q).1) i]
    exact h.throttler (hoffering ▸ hy) i hi
  · rw [part_onPipeline Pipeline.runCancelled (fun q => (hkeep q).2) i]
    exact h.cancelled (hcancelled ▸ hy) i hi

/-- **The rule for a call of the throttler.** -/
theorem Holds.callThrottler {F : Pipeline → Pipeline} (h : x.Holds s) (hstop : y.stop = x.stop)
    (hjoining : y.joining = x.joining) (hcancelled : y.cancelled = x.cancelled)
    (hkeep : ∀ q, (F q).senderPool = q.senderPool ∧ (F q).runCancelled = q.runCancelled)
    (hF : y.offering = false → ∀ q, ∀ t ∈ (F q).throttler, t.updating = none) :
    y.Holds (s.onPipeline s.runtime.throttler F) := by
  refine ⟨fun i hi p hp => ?_, fun hy i hi => ?_, fun hy i hi => ?_⟩
  all_goals rw [onPipeline_runtime] at hi
  · rw [part_onPipeline Pipeline.senderPool (fun q => (hkeep q).1) i] at hp
    obtain ⟨hknown, hjoins, hnone⟩ := h.sender i hi p hp
    exact ⟨hstop ▸ hknown, hjoins, fun hy => hnone (hjoining ▸ hy)⟩
  · rw [onPipeline_of_mem hi]
    exact hF hy _
  · rw [part_onPipeline Pipeline.runCancelled (fun q => (hkeep q).2) i]
    exact h.cancelled (hcancelled ▸ hy) i hi

/-- A reconciliation leaves workers to be waited for. -/
theorem Holds.reconcileSender (h : x.Holds s) (hf : f.Holds s)
    (hx : x.joining = false) : Holds { x with joining := true } (s.exec .reconcileSender) := by
  refine Holds.callSender (y := { x with joining := true }) h rfl rfl
    (F := (·.stepSender s.memory (.reconcile s.control.controls.senderWorkers.toNat)))
    (fun _ => ⟨rfl, rfl⟩) fun i hmem p' hp' => ?_
  obtain ⟨p, hp, rfl⟩ := Pipeline.mem_stepSender hp'
  obtain ⟨hstop, -, hnone⟩ := h.sender i hmem p hp
  refine ⟨?_, SenderPool.joins_reconcile ((hf.inOrder i).sound.sender p hp).1 (hnone hx) _,
    by rintro ⟨⟩⟩
  rw [SenderPool.next]
  obtain ⟨_, _, _, _, _, _, _, heq⟩ := SenderPool.reconcile_frame p
    s.control.controls.senderWorkers.toNat
  rw [heq]
  exact hstop

/-- A call of the sender pool, in turn. -/
theorem Holds.callStop {a : SenderPool.Action} {pc : StopPc} (h : x.Holds s) (hf : f.Holds s)
    (hi : s.Ready (.callSender a)) (hpc : x.stop.called a = some pc) :
    Holds { x with stop := pc } (s.exec (.callSender a)) := by
  refine Holds.callSender (y := { x with stop := pc }) (F := (·.stepSender s.memory a)) h rfl rfl
    (fun _ => ⟨rfl, rfl⟩) fun i hmem p' hp' => ?_
  obtain ⟨p, hp, rfl⟩ := Pipeline.mem_stepSender hp'
  obtain ⟨hstop, hjoins, hnone⟩ := h.sender i hmem p hp
  obtain ⟨hr, hj⟩ := SenderPool.ne_reconcile_of_called hpc
  exact ⟨SenderPool.known_called hstop hpc,
    hjoins.next ((hf.inOrder i).sound.sender p hp).1 (hi i hmem p hp) hr hj,
    fun hx => (SenderPool.joining_next hr hj).trans (hnone hx)⟩

/-- The end of the wait for the workers. -/
theorem Holds.awaitReconciled (h : x.Holds s) :
    Holds { x with joining := false } (s.exec .awaitReconciled) := by
  refine Holds.callSender (y := { x with joining := false }) (F := Pipeline.awaitReconciled) h rfl rfl
    (fun _ => ⟨rfl, rfl⟩) fun i hmem p' hp' => ?_
  obtain ⟨p, hp, rfl⟩ := Option.mem_map.mp hp'
  exact ⟨(h.sender i hmem p hp).stop, fun w hw => absurd hw List.not_mem_nil, fun _ => rfl⟩

/-- Settings are offered. -/
theorem Holds.offerSettings (h : x.Holds s) :
    Holds { x with offering := true } (s.exec .offerSettings) :=
  Holds.callThrottler (y := { x with offering := true }) h rfl rfl rfl (fun _ => ⟨rfl, rfl⟩)
    (F := (·.stepThrottler s.memory (.offer s.control.throttlerSettings)))
    fun hy => absurd hy (by rintro ⟨⟩)

/-- The settings have been taken, or nobody takes them any more. -/
theorem Holds.awaitUpdate (h : x.Holds s) :
    Holds { x with offering := false } (s.exec .awaitUpdate) := by
  refine Holds.callThrottler (y := { x with offering := false }) h rfl rfl rfl
    (F := (·.stepThrottler s.memory .offerDropped)) (fun _ => ⟨rfl, rfl⟩) fun _ q t ht => ?_
  obtain ⟨t', -, rfl⟩ := Pipeline.mem_stepThrottler ht
  rfl

/-- The context of the run is cancelled. -/
theorem Holds.cancelRun (h : x.Holds s) (hf : f.Holds s) :
    Holds { x with cancelled := f.cancelRun } (s.exec .cancelRun) := by
  have hpart : ∀ {γ : Type} (part : Pipeline → γ)
      (_ : ∀ q, part ({ q with runCancelled := true } : Pipeline) = part q) (i : ℕ),
      part ((s.exec .cancelRun).pipeline i) = part (s.pipeline i) := fun part hF i =>
    part_onPipeline part hF i
  have hruntime : (s.exec .cancelRun).runtime = s.runtime := onPipeline_runtime ..
  refine ⟨fun i hi => ?_, fun hy i hi => ?_, fun hy i hi => ?_⟩
  all_goals rw [hruntime] at hi
  · rw [hpart Pipeline.senderPool (fun _ => rfl) i]
    exact fun p hp => ⟨(h.sender i hi p hp).stop, (h.sender i hi p hp).joins,
      (h.sender i hi p hp).joining⟩
  · rw [hpart Pipeline.throttler (fun _ => rfl) i]
    exact h.throttler hy i hi
  · -- what the runtime points to belongs to the run that is cancelled
    have hlast : i + 1 = s.runs := hf.pointers.last i (by
      simp only [Runtime.PointsTo]
      tauto)
    have hmem : i ∈ s.runtime.cancelRun := hf.mem_of_last
      (fun j hj => by
        simp only [Runtime.PointsTo]
        tauto)
      (hf.pointers.cancelRun.trans hy) hlast
    rw [Service.exec, onPipeline_of_mem hmem]

/-- A run is made: the runtime points to none of its components yet. -/
theorem Holds.makeRun (h : x.Holds s) (hf : f.Holds s) :
    Holds { x with cancelled := false } (s.exec .makeRun) := by
  have hold : ∀ i, s.runtime.PointsTo i → (s.exec .makeRun).pipeline i = s.pipeline i := by
    intro i hi
    have := hf.pointers.last i hi
    exact update_of_ne (by omega) _ _
  refine ⟨fun i hi => ?_, fun hx i hi => ?_, by rintro ⟨⟩⟩
  · have hi : i ∈ s.runtime.senderPool := hi
    rw [hold i (by simp only [Runtime.PointsTo]; tauto)]
    exact fun p hp => ⟨(h.sender i hi p hp).stop, (h.sender i hi p hp).joins,
      (h.sender i hi p hp).joining⟩
  · have hi : i ∈ s.runtime.throttler := hi
    rw [hold i (by simp only [Runtime.PointsTo]; tauto)]
    exact h.throttler hx i hi

/-- The reader pool is started: whether its context is cancelled is not known any more. -/
theorem Holds.startReaderPool {files : List Go.Path} (h : x.Holds s) :
    Holds { x with cancelled := false } (s.exec (.startReaderPool files)) := by
  have hpart : ∀ {γ : Type} (part : Pipeline → γ)
      (_ : ∀ q pool, part ({ q with readerPool := some pool } : Pipeline) = part q) (i : ℕ),
      part ((s.exec (.startReaderPool files)).pipeline i) = part (s.pipeline i) := fun part hF i =>
    part_onPipeline part (fun q => hF q _) i
  have hsender := hpart Pipeline.senderPool fun _ _ => rfl
  have hthrottler := hpart Pipeline.throttler fun _ _ => rfl
  refine ⟨fun i hi p hp => ?_, fun hx i hi => ?_, by rintro ⟨⟩⟩
  all_goals simp only [Service.exec] at hi
  · rw [hsender] at hp
    exact ⟨(h.sender i hi p hp).stop, (h.sender i hi p hp).joins, (h.sender i hi p hp).joining⟩
  · rw [hthrottler]
    exact h.throttler hx i hi

/-- The throttler is started, with nothing offered to it. -/
theorem Holds.startThrottler (h : x.Holds s) :
    Holds { x with offering := false, cancelled := false } (s.exec .startThrottler) := by
  have hpart : ∀ i, ((s.exec .startThrottler).pipeline i).senderPool = (s.pipeline i).senderPool :=
    fun i => part_onPipeline
      (F := fun q => { q with throttler := some (Throttler.start s.control.throttlerSettings) })
      Pipeline.senderPool (fun _ => rfl) i
  refine ⟨fun i hi p hp => ?_, fun _ i hi t ht => ?_, by rintro ⟨⟩⟩
  · simp only [Service.exec] at hi
    rw [hpart] at hp
    exact ⟨(h.sender i hi p hp).stop, (h.sender i hi p hp).joins, (h.sender i hi p hp).joining⟩
  · simp only [Service.exec] at hi ht
    rw [onPipeline_of_mem hi] at ht
    obtain rfl := Option.some.inj ht
    rfl

/-- The sender pool is started, and nobody is waited for. -/
theorem Holds.startSender (h : x.Holds s) :
    Holds { x with stop := .running, joining := false } (s.exec .startSender) := by
  have hpart : ∀ {γ : Type} (part : Pipeline → γ)
      (_ : ∀ q pool, part ({ q with senderPool := some pool } : Pipeline) = part q) (i : ℕ),
      part ((s.exec .startSender).pipeline i) = part (s.pipeline i) := fun part hF i =>
    part_onPipeline part (fun q => hF q _) i
  have hthrottler := hpart Pipeline.throttler fun _ _ => rfl
  have hcancelled := hpart Pipeline.runCancelled fun _ _ => rfl
  refine ⟨fun i hi p hp => ?_, fun hx i hi => ?_, fun hx i hi => ?_⟩
  all_goals simp only [Service.exec] at hi
  · simp only [Service.exec] at hp
    rw [onPipeline_of_mem hi] at hp
    obtain rfl := Option.some.inj hp
    have hnone := SenderPool.joining_startSenderPool s.control.config.sender.retry
      s.control.controls.senderWorkers.toNat
    refine ⟨?_, fun w hw => ?_, fun _ => hnone⟩
    · rw [(SenderPool.settings_startSenderPool _ _).1]
      exact StopPc.Known.refl _
    · rw [hnone] at hw
      cases hw
  · rw [hthrottler]
    exact h.throttler hx i hi
  · rw [hcancelled]
    exact h.cancelled hx i hi

/-- Less is known of what is cancelled. -/
theorem Holds.forget (h : x.Holds s) : Holds { x with cancelled := false } s where
  sender i hi p hp :=
    ⟨(h.sender i hi p hp).stop, (h.sender i hi p hp).joins, (h.sender i hi p hp).joining⟩
  throttler := h.throttler
  cancelled := by rintro ⟨⟩

/-- **A statement that is not refused establishes the facts it is said to.** -/
theorem Holds.exec {i : Stmt} (h : x.Holds s) (hf : f.Holds s) (hi : s.Ready i)
    (hy : after f x i = some y) : y.Holds (s.exec i) := by
  cases i with
  | makeRun =>
    obtain rfl := Option.some.inj hy
    exact h.makeRun hf
  | startReaderPool files =>
    obtain rfl := Option.some.inj hy
    exact h.startReaderPool
  | startThrottler =>
    obtain rfl := Option.some.inj hy
    exact h.startThrottler
  | startSender =>
    obtain rfl := Option.some.inj hy
    exact h.startSender
  | reconcileSender =>
    rw [after] at hy
    split at hy
    case isTrue => cases hy
    case isFalse hx =>
      obtain rfl := Option.some.inj hy
      exact h.reconcileSender hf (Bool.not_eq_true _ ▸ hx)
  | awaitReconciled =>
    obtain rfl := Option.some.inj hy
    exact h.awaitReconciled
  | callSender a =>
    obtain ⟨pc, hpc, rfl⟩ := Option.map_eq_some_iff.mp hy
    exact h.callStop hf hi hpc
  | joinSender =>
    rw [after] at hy
    split at hy
    case isTrue => cases hy
    case isFalse =>
      obtain rfl := Option.some.inj hy
      exact ⟨fun i hi => absurd hi (by rintro ⟨⟩), h.throttler, h.cancelled⟩
  | offerSettings =>
    rw [after] at hy
    split at hy
    case isTrue => cases hy
    case isFalse =>
      obtain rfl := Option.some.inj hy
      exact h.offerSettings
  | awaitUpdate =>
    obtain rfl := Option.some.inj hy
    exact h.awaitUpdate
  | cancelRun =>
    obtain rfl := Option.some.inj hy
    exact h.cancelRun hf
  | joinReader =>
    rw [after] at hy
    split at hy
    case isTrue => cases hy
    case isFalse =>
      obtain rfl := Option.some.inj hy
      exact h
  | joinThrottler =>
    rw [after] at hy
    split at hy
    case isTrue => cases hy
    case isFalse =>
      obtain rfl := Option.some.inj hy
      exact h
  | forgetRun =>
    obtain rfl := Option.some.inj hy
    exact h.forget.frame (fun _ => ⟨rfl, rfl, rfl⟩) (Or.inr rfl) (Or.inr rfl) (Or.inr rfl)
  | clearActive =>
    obtain rfl := Option.some.inj hy
    exact h.forget.frame (fun _ => ⟨rfl, rfl, rfl⟩) (Or.inr rfl) (Or.inl rfl) (Or.inl rfl)
  | reconcileReader =>
    obtain rfl := Option.some.inj hy
    have hsame : (s.exec .reconcileReader).runtime = s.runtime := onPipeline_runtime ..
    exact h.call rfl (fun _ => ⟨rfl, rfl, rfl⟩) (by rw [hsame]; exact ⟨rfl, rfl, rfl⟩)
  | closeAndDrain c =>
    obtain rfl := Option.some.inj hy
    cases c <;> exact h.call rfl (fun _ => ⟨rfl, rfl, rfl⟩) ⟨rfl, rfl, rfl⟩
  | setCapacity c value =>
    obtain rfl := Option.some.inj hy
    cases c <;> exact h.frame (fun _ => ⟨rfl, rfl, rfl⟩) (Or.inr rfl) (Or.inr rfl) (Or.inr rfl)
  | seeChannel c =>
    obtain rfl := Option.some.inj hy
    cases c <;> exact h.frame (fun _ => ⟨rfl, rfl, rfl⟩) (Or.inr rfl) (Or.inr rfl) (Or.inr rfl)
  | startChannel c =>
    obtain rfl := Option.some.inj hy
    rw [Service.exec]
    split <;> exact h.frame (fun _ => ⟨rfl, rfl, rfl⟩) (Or.inr rfl) (Or.inr rfl) (Or.inr rfl)
  | _ =>
    obtain rfl := Option.some.inj hy
    exact h.frame (fun _ => ⟨rfl, rfl, rfl⟩) (Or.inr rfl) (Or.inr rfl) (Or.inr rfl)

/-- The event loop as a thread that keeps track of what it may wait for. -/
def thread : Thread Service Stmt (Held × Waits) where
  Ready := Service.Ready
  exec := Service.exec
  Holds z s := z.1.Holds s ∧ z.2.Holds s
  after z i := (z.1.after i).bind fun g => (after z.1 z.2 i).map (Prod.mk g)

/-- **The facts are sound** beside the pipelines. -/
theorem sound : thread.Sound Interferes where
  env _ _ _ h hst := ⟨h.1.interferes hst, h.2.interferes h.1 hst⟩
  exec z z' s i h hi hz := by
    obtain ⟨g, hg, hy⟩ := Option.bind_eq_some_iff.mp hz
    obtain ⟨y, hxy, rfl⟩ := Option.map_eq_some_iff.mp hy
    exact ⟨h.1.exec hi hg, h.2.exec h.1 hi hxy⟩

/-! ### The programs -/

/-- The facts a program ends with: nothing is left to be waited for, and nothing is held when
the event loop has ended. -/
structure Final (z : Held × Waits) : Prop where
  held : z.1.exited = true ∧ z.1.isEmpty = true ∨ z.1 = Held.rest z.1.state ∧ z.1.state ≠ .resetting
  nothing : z.2 = {}

/-- **Every program waits only for what it has told to end**, and for everything it has begun. -/
theorem exists_check (s : Service) (e : Event) (hs : s.control.run.state ≠ .resetting) :
    ∃ z, thread.check (Held.rest s.control.run.state, {}) (s.program e) = some z ∧ Final z := by
  have hprogram := program_cases s e
  generalize s.control.run.state = state at hs hprogram ⊢
  generalize s.program e = p at hprogram ⊢
  cases state
  case resetting => exact absurd rfl hs
  all_goals
    cases hprogram with
    | exit => exact ⟨_, rfl, Or.inl ⟨rfl, rfl⟩, rfl⟩
    | _ => exact ⟨_, rfl, Or.inr ⟨rfl, by rintro ⟨⟩⟩, rfl⟩

/-- Taking an event leaves what is known. -/
theorem Holds.take (h : x.Holds s) (e : Event) : x.Holds (s.take e) := by
  cases e with
  | sourceError error =>
    have hsame : (s.take (.sourceError error)).runtime = s.runtime := onPipeline_runtime ..
    exact h.call rfl (fun _ => ⟨rfl, rfl, rfl⟩) (by rw [hsame]; exact ⟨rfl, rfl, rfl⟩)
  | _ => exact h.frame (fun _ => ⟨rfl, rfl, rfl⟩) (Or.inr rfl) (Or.inr rfl) (Or.inr rfl)

end Waits

namespace Service

variable {s : Service} {cfg : Config} {now : ℕ}

/-- **In every state of the service it is known what has been done for what is waited for.** -/
theorem waits_covered (h : machine.Reachable (newService cfg now) s) :
    Waits.thread.Covered Waits.Final s s.todo := by
  have hstart : Waits.Holds {} (newService cfg now) :=
    ⟨fun _ hi => absurd hi (by rintro ⟨⟩), fun _ _ hi => absurd hi (by rintro ⟨⟩), by rintro ⟨⟩⟩
  refine covered_of_sound rfl rfl Waits.sound
    ⟨(Held.rest .idle, {}), (Held.rest .idle, {}), ⟨holds_newService cfg now, hstart⟩, rfl,
      Or.inr ⟨rfl, by rintro ⟨⟩⟩, rfl⟩ (fun s e hexited he hs => ?_) h
  obtain ⟨⟨f, x⟩, ⟨hf, hx⟩, hfinal, hnothing⟩ := hs.final
  rcases hfinal with hleft | ⟨hrest, hstate⟩
  · exact absurd (hf.exited.symm.trans hexited) (by rw [hleft.1]; rintro ⟨⟩)
  · obtain ⟨z, hz, hzfinal⟩ := Waits.exists_check s e (by rw [hf.state]; exact hstate)
    rw [hf.state, ← hrest] at hz
    obtain rfl : x = {} := hnothing
    exact ⟨(f, {}), z, ⟨hf.take he, hx.take e⟩, hz, hzfinal⟩

/-- What may be relied on where a statement is about to be executed. -/
theorem exists_waits {st : Stmt} {rest : List Stmt} (h : machine.Reachable (newService cfg now) s)
    (htodo : s.todo = st :: rest) :
    ∃ (f : Held) (x y : Waits), f.Holds s ∧ x.Holds s ∧ Waits.after f x st = some y := by
  have hcovered := waits_covered h
  rw [htodo] at hcovered
  obtain ⟨⟨f, x⟩, z, ⟨hf, hx⟩, hz⟩ := hcovered.exists_after
  obtain ⟨g, -, hy⟩ := Option.bind_eq_some_iff.mp hz
  obtain ⟨y, hy, -⟩ := Option.map_eq_some_iff.mp hy
  exact ⟨f, x, y, hf, hx, hy⟩

end Service

end IngestionLab
