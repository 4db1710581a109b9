import IngestionLab.Loadgen.Pipeline.Rows
import IngestionLab.Loadgen.Timing

/-!
# The rate of the whole process

The pace of one throttler (`IngestionLab.Throttler.OnPace`) is the pace of the process: no
two runs are ever under way at a time, so that what has entered the sender channels, one run
after the other, is one sequence of admissions, each of which precedes the acceptance of the
next batch (`IngestionLab.Service.Limited`). The bound on the batch size that the pace of a
throttler has to assume is here what the configuration guarantees.

* `IngestionLab.Service.rate_limited`: **the whole process keeps to its rate**, over any
  stretch of time in which throttling is installed, across changes of the rate, pauses,
  resets and new runs.
-/

namespace IngestionLab

open Go Function

/-! ### One throttler -/

namespace Throttler

variable {t : Throttler} {now m : ℕ} {a : Action} {cfg : Config}

/-- **Every rate of the throttler is allowed**: the one in force, those that are offered or
about to be in force, and those batches were admitted at. -/
structure Within (cfg : Config) (t : Throttler) : Prop where
  settings : t.settings.Allowed cfg
  updating : ∀ u ∈ t.updating, u.Allowed cfg
  pending : ∀ u ∈ pending t.pc, u.Allowed cfg
  log : ∀ e ∈ t.log, e.settings.Allowed cfg

/-- A move that takes no settings. -/
theorem Within.move (h : t.Within cfg) {pc : ThrottlerPc} (hpc : Throttler.pending pc = none) :
    ({ t with pc := pc } : Throttler).Within cfg where
  settings := h.settings
  updating := h.updating
  pending := by
    rw [hpc]
    rintro u ⟨⟩
  log := h.log

/-- A batch is admitted at the rate in force. -/
theorem Within.forward (h : t.Within cfg) (b : Batch) {pc : ThrottlerPc}
    (hpc : Throttler.pending pc = none) : ({ t.forward b now with pc := pc } : Throttler).Within cfg where
  settings := h.settings
  updating := h.updating
  pending := by
    rw [hpc]
    rintro u ⟨⟩
  log e he := by
    rcases List.mem_append.mp he with hold | hnew
    · exact h.log e hold
    · rw [List.mem_singleton.mp hnew]
      exact h.settings

/-- Settings that are taken have been offered. -/
theorem Within.take (h : t.Within cfg) {settings : ThrottlerSettings} {pc : ThrottlerPc}
    (hoffered : t.updating = some settings) (hpc : Throttler.pending pc = none) :
    ({ t.take settings now with settings := settings, pc := pc } : Throttler).Within cfg where
  settings := h.updating settings hoffered
  updating := by rintro u ⟨⟩
  pending := by
    rw [hpc]
    rintro u ⟨⟩
  log := h.log

/-- **Every action keeps to the rates allowed**, if only such are offered. -/
theorem Within.next (h : t.Within cfg) (ha : t.Enabled now a)
    (hoffer : ∀ settings, a = .offer settings → settings.Allowed cfg) :
    (t.next now a).Within cfg := by
  cases a with
  | offer settings =>
    refine { h with updating := fun u hu => ?_ }
    obtain rfl := Option.some.inj hu
    exact hoffer settings rfl
  | offerDropped => exact { h with updating := by rintro u ⟨⟩ }
  | cancel => exact { h with }
  | idleUpdate settings =>
    have hpc : t.pc = .idle := ha.1
    exact h.take ha.2 (by rw [Throttler.take, hpc]; rfl)
  | idleReceive b =>
    have hmove : ({ t with pc := .received b } : Throttler).Within cfg := h.move rfl
    exact { hmove with }
  | selectUpdate b settings => exact h.take ha.2 rfl
  | trySend b since => exact h.forward b rfl
  | blockedUpdate b settings =>
    refine ⟨h.settings, by rintro u ⟨⟩, fun u hu => ?_, h.log⟩
    obtain rfl := Option.some.inj hu
    exact h.updating settings ha.2
  | blockedSend b => exact h.forward b rfl
  | finishBlocked b outcome =>
    cases outcome with
    | canceled => exact h.move rfl
    | sent => exact h.move rfl
    | updated settings =>
      have hpc : t.pc = .unblock b (.updated settings) := ha
      refine ⟨h.pending settings ?_, h.updating, by rintro u ⟨⟩, h.log⟩
      rw [hpc]
      rfl
  | _ => exact h.move rfl

/-- **The batch in hand, and every batch admitted, was accepted after an instant.** -/
structure Since (m : ℕ) (t : Throttler) : Prop where
  hand : t.pc.hand.isSome = true → m ≤ t.heldSince
  log : ∀ e ∈ t.log, m ≤ e.heldSince

/-- A move that takes no batch into the hand. -/
theorem Since.move (h : t.Since m) {pc : ThrottlerPc}
    (hh : pc.hand.isSome = true → t.pc.hand.isSome = true) :
    ({ t with pc := pc } : Throttler).Since m :=
  ⟨fun hpc => h.hand (hh hpc), h.log⟩

/-- A batch in hand is admitted. -/
theorem Since.forward (h : t.Since m) (b : Batch) (hhand : t.pc.hand.isSome = true) {pc : ThrottlerPc}
    (hpc : pc.hand = none) : ({ t.forward b now with pc := pc } : Throttler).Since m where
  hand hsome := by
    rw [hpc] at hsome
    cases hsome
  log e he := by
    rcases List.mem_append.mp he with hold | hnew
    · exact h.log e hold
    · rw [List.mem_singleton.mp hnew]
      exact h.hand hhand

/-- **Every action after the instant** keeps to it. -/
theorem Since.next (h : t.Since m) (hm : m ≤ now) (ha : t.Enabled now a) : (t.next now a).Since m := by
  cases a with
  | offer settings => exact ⟨h.hand, h.log⟩
  | offerDropped => exact ⟨h.hand, h.log⟩
  | cancel => exact ⟨h.hand, h.log⟩
  | idleCanceled => exact h.move (by rintro ⟨⟩)
  | idleUpdate settings => exact ⟨fun _ => hm, h.log⟩
  | idleClosed => exact h.move (by rintro ⟨⟩)
  | idleReceive b => exact ⟨fun _ => hm, h.log⟩
  | recordReceive b => exact h.move fun _ => by rw [show t.pc = .received b from ha]; rfl
  | readClock b => exact h.move fun _ => by rw [show t.pc = .restart b from ha]; rfl
  | checkZero b since => exact h.move fun _ => by rw [ha.1]; rfl
  | checkPace b since => exact h.move fun _ => by rw [ha.1]; rfl
  | checkTry b since => exact h.move fun _ => by rw [ha.1]; rfl
  | selectCanceled b => exact h.move (by rintro ⟨⟩)
  | selectUpdate b settings => exact ⟨fun _ => hm, h.log⟩
  | timer b since due => exact h.move fun _ => by rw [ha.1]; rfl
  | trySend b since => exact h.forward b (by rw [show t.pc = .trying b since from ha]; rfl) rfl
  | tryDefault b since => exact h.move fun _ => by rw [ha.1]; rfl
  | startBlocked b => exact h.move fun _ => by rw [show t.pc = .block b from ha]; rfl
  | blockedCanceled b => exact h.move fun _ => by rw [ha.1]; rfl
  | blockedUpdate b settings => exact ⟨fun _ => hm, h.log⟩
  | blockedSend b => exact h.forward b (by rw [show t.pc = .blocked b from ha]; rfl) rfl
  | finishBlocked b outcome =>
    have hpc : t.pc = .unblock b outcome := ha
    cases outcome with
    | canceled => exact h.move (by rintro ⟨⟩)
    | sent => exact h.move (by rintro ⟨⟩)
    | updated settings => exact ⟨fun _ => h.hand (by rw [hpc]; rfl), h.log⟩
  | recordSend b => exact h.move (by rintro ⟨⟩)
  | leave => exact h.move (by rintro ⟨⟩)

/-- A throttler that has exited admits nothing. -/
theorem log_next_of_exited (h : t.pc = .exited) (ha : t.Enabled now a) : (t.next now a).log = t.log := by
  by_cases hactor : a.actor = .goroutine
  · exact absurd ha (not_enabled_of_exited h hactor)
  · cases a <;> first | rfl | exact absurd rfl hactor

/-- A throttler that has just been started. -/
theorem onPace_start (settings : ThrottlerSettings) (now : ℕ) : OnPace now (start settings) where
  clock := Nat.zero_le now
  waited := by rintro since ⟨⟩
  ready := by rintro b ⟨⟩
  inForce := rfl
  admitted e he := absurd he List.not_mem_nil
  ordered := List.Pairwise.nil
  passed e he := absurd he List.not_mem_nil

theorem within_start {settings : ThrottlerSettings} (h : settings.Allowed cfg) :
    (start settings).Within cfg where
  settings := h
  updating := by rintro u ⟨⟩
  pending := by rintro u ⟨⟩
  log e he := absurd he List.not_mem_nil

theorem since_start (settings : ThrottlerSettings) (m : ℕ) : (start settings).Since m :=
  ⟨by rintro ⟨⟩, fun e he => absurd he List.not_mem_nil⟩

end Throttler

/-! ### One pipeline -/

namespace Pipeline

variable {q : Pipeline} {sh : Memory} {root : Bool} {c : Change}

/-- The batches that have entered the sender channel. -/
def admissions (q : Pipeline) : List Admission := q.throttler.elim [] Throttler.log

/-- **What a change makes of the throttler**: it takes a step, is started, or stays. -/
theorem forall_throttler_change {P : Throttler → Prop} (hc : c.Allowed root sh q)
    (h : ∀ t ∈ q.throttler, P t)
    (hnext : ∀ t ∈ q.throttler, ∀ b, t.Enabled sh.now b →
      (∀ settings, b = .offer settings → c = .callThrottler b) → P (t.next sh.now b))
    (hstart : ∀ settings, c = .startThrottler settings → q.throttler = none →
      P (Throttler.start settings)) : ∀ t ∈ (q.change sh c).throttler, P t := by
  have hgoroutine : ∀ {b : Throttler.Action} {q' : Pipeline}, q'.throttler = q.throttler →
      (∃ t ∈ q.throttler, t.Enabled sh.now b) → (∀ settings, b ≠ .offer settings) →
      ∀ t ∈ (q'.stepThrottler sh b).throttler, P t := by
    intro b q' hsame hen hoffer t ht
    obtain ⟨t', ht', rfl⟩ := mem_stepThrottler ht
    rw [hsame] at ht'
    exact hnext t' ht' b (enabled_of_mem hen ht') fun settings hb => absurd hb (hoffer settings)
  cases c with
  | make readerCapacity senderCapacity => exact fun t ht => absurd ht (Option.not_mem_none t)
  | startThrottler settings =>
    intro t ht
    obtain rfl := Option.some.inj ht
    exact hstart settings rfl hc.1
  | callThrottler b =>
    intro t ht
    obtain ⟨t', ht', rfl⟩ := mem_stepThrottler ht
    rcases hc.2 t' ht' with hen | hsame
    · exact hnext t' ht' b hen fun _ _ => rfl
    · rw [hsame]
      exact h t' ht'
  | goroutine a =>
    cases a with
    | reader b => exact h
    | throttler b =>
      refine hgoroutine rfl hc.1 ?_
      rintro settings rfl
      exact hc.2.1
    | sender b => exact h
    | passToThrottler b b' =>
      refine hgoroutine rfl hc.2.1 ?_
      rintro settings rfl
      cases (Throttler.Action.actor_of_meet_input hc.2.2.1).1
    | passToSender b b' =>
      refine hgoroutine rfl hc.1 ?_
      rintro settings rfl
      cases (Throttler.Action.actor_of_meet_output hc.2.2.1).1
  | closeAndDrain name => cases name <;> exact h
  | _ => exact h

/-- **A throttler within the rates stays there**, and on pace. -/
theorem pace_change {cfg : Config} (hc : c.Allowed root sh q) (hconf : c.Configured cfg)
    (h : ∀ t ∈ q.throttler, t.OnPace sh.now ∧ t.Within cfg) :
    ∀ t ∈ (q.change sh c).throttler, t.OnPace sh.now ∧ t.Within cfg := by
  refine forall_throttler_change hc h (fun t ht b hen hoffer => ?_) fun settings hstart _ => ?_
  · refine ⟨(h t ht).1.next hen, (h t ht).2.next hen fun settings hb => ?_⟩
    rw [hoffer settings hb, hb] at hconf
    exact hconf
  · subst hstart
    exact ⟨Throttler.onPace_start settings sh.now, Throttler.within_start hconf⟩

/-- What was accepted after an instant was so before and after a change. -/
theorem since_change {m : ℕ} (hm : m ≤ sh.now) (hc : c.Allowed root sh q)
    (h : ∀ t ∈ q.throttler, t.Since m) : ∀ t ∈ (q.change sh c).throttler, t.Since m :=
  forall_throttler_change hc h (fun t ht _ hen _ => (h t ht).next hm hen)
    fun settings _ _ => Throttler.since_start settings m

/-- **A pipeline whose throttler has ended admits nothing more.** -/
theorem admissions_change_of_quiet {P : Admission → Prop} (hc : c.Allowed root sh q)
    (hquiet : q.ThrottlerQuiet) (h : ∀ e ∈ q.admissions, P e) : ∀ e ∈ (q.change sh c).admissions, P e := by
  have hlog : ∀ t ∈ q.throttler, ∀ e ∈ t.log, P e := by
    intro t ht e he
    refine h e ?_
    rw [admissions, show q.throttler = some t from ht]
    exact he
  have hall := forall_throttler_change (P := fun t => ∀ e ∈ t.log, P e) hc hlog
    (fun t ht b hen _ e he => hlog t ht e (Throttler.log_next_of_exited (hquiet t ht) hen ▸ he))
    fun settings _ _ e he => absurd he List.not_mem_nil
  intro e he
  rw [admissions] at he
  cases hthrottler : (q.change sh c).throttler with
  | none =>
    rw [hthrottler] at he
    cases he
  | some t =>
    rw [hthrottler] at he
    exact hall t hthrottler e he

end Pipeline

/-! ### All runs -/

namespace Service

open Throttler (IsZero)

variable {s : Service} {cfg : Config} {now : ℕ} {as : List Action} {a : Action}

/-- **The batches that have entered the sender channels** since the process was started,
one run after the other. -/
def admissions (s : Service) : List Admission :=
  (List.range s.runs).flatMap fun i => (s.pipeline i).admissions

/-- **Every throttler is on pace and within the rates, and the runs take turns**: no batch
of a run was accepted before the last admission of an earlier one. -/
structure Limited (cfg : Config) (s : Service) : Prop where
  pace : ∀ i, ∀ t ∈ (s.pipeline i).throttler, t.OnPace s.memory.now ∧ t.Within cfg
  inTurn : ∀ j < s.runs, ∃ m ≤ s.memory.now, (∀ t ∈ (s.pipeline j).throttler, t.Since m) ∧
    ∀ i < j, ∀ e ∈ (s.pipeline i).admissions, e.admittedAt ≤ m

/-- Whatever has been admitted has been admitted by now. -/
theorem Limited.admittedAt_le (h : s.Limited cfg) {i : ℕ} {e : Admission}
    (he : e ∈ (s.pipeline i).admissions) : e.admittedAt ≤ s.memory.now := by
  cases hthrottler : (s.pipeline i).throttler with
  | none => simp [Pipeline.admissions, hthrottler] at he
  | some t =>
    rw [Pipeline.admissions, hthrottler] at he
    exact ((h.pace i t hthrottler).1.passed e he).1

/-- Where nothing happens to a pipeline, time passes. -/
theorem Limited.mono {t : Service} (h : s.Limited cfg) (hnow : s.memory.now ≤ t.memory.now)
    (hpipeline : t.pipeline = s.pipeline) (hruns : t.runs = s.runs) : t.Limited cfg where
  pace i u hu := by
    rw [hpipeline] at hu
    exact ⟨(h.pace i u hu).1.mono hnow, (h.pace i u hu).2⟩
  inTurn j hj := by
    rw [hruns] at hj
    rw [hpipeline]
    obtain ⟨m, hm, hsince, hearlier⟩ := h.inTurn j hj
    exact ⟨m, hm.trans hnow, hsince, hearlier⟩

/-- A run is made by one statement, as a change of the next pipeline. -/
theorem runs_next (s : Service) (a : Action) :
    (machine.next s a).runs = s.runs ∨ (machine.next s a).runs = s.runs + 1 ∧
      ∃ r r', s.changeAt a = some (s.runs, .make r r') := by
  cases a with
  | clock now => exact Or.inl rfl
  | cancelRoot => exact Or.inl rfl
  | pipeline run a => exact Or.inl rfl
  | event e =>
    refine Or.inl ?_
    cases e with
    | sourceError error => exact onPipeline_runs ..
    | _ => rfl
  | exec =>
    cases htodo : s.todo with
    | nil =>
      left
      simp only [machine, htodo]
    | cons st rest =>
      by_cases hst : st = .makeRun
      · subst hst
        right
        simp only [machine, htodo, changeAt, List.head?_cons, Option.bind_some]
        exact ⟨rfl, _, _, rfl⟩
      · left
        simp only [machine, htodo]
        exact runs_exec s hst

/-- **Every step keeps to the limit.** -/
theorem Limited.next (h : s.Limited cfg) (hcfg : cfg.Valid)
    (hreach : machine.Reachable (newService cfg now) s) (ha : machine.Enabled s a) :
    (machine.next s a).Limited cfg := by
  have hnow := now_le_next ha
  have hpipeline := pipeline_next s a
  cases hc : s.changeAt a with
  | none =>
    rw [hc] at hpipeline
    refine h.mono hnow hpipeline ((runs_next s a).resolve_right ?_)
    rintro ⟨-, r, r', hmake⟩
    rw [hc] at hmake
    cases hmake
  | some x =>
    obtain ⟨k, c⟩ := x
    have hallowed := allowed_of_changeAt hreach ha hc
    have hconf := configured_of_changeAt hcfg (inBounds_of_reachable hcfg hreach) hc
    rw [hc] at hpipeline
    have hself : (machine.next s a).pipeline k = (s.pipeline k).change s.memory c := by
      rw [hpipeline]
      exact update_self _ _ _
    have hother : ∀ i ≠ k, (machine.next s a).pipeline i = s.pipeline i := fun i hi => by
      rw [hpipeline]
      exact update_of_ne hi _ _
    refine ⟨fun i t ht => ?_, fun j hj => ?_⟩
    · have hold : t.OnPace s.memory.now ∧ t.Within cfg := by
        by_cases hi : i = k
        · subst hi
          rw [hself] at ht
          exact Pipeline.pace_change hallowed hconf (h.pace i) t ht
        · rw [hother i hi] at ht
          exact h.pace i t ht
      exact ⟨hold.1.mono hnow, hold.2⟩
    -- a run that is not the last one has ended, and admits nothing more
    · have hpast : ∀ i < j, j < s.runs → ∀ {P : Admission → Prop},
          (∀ e ∈ (s.pipeline i).admissions, P e) →
          ∀ e ∈ ((machine.next s a).pipeline i).admissions, P e := by
        intro i hij hj P hP
        by_cases hi : i = k
        · subst hi
          obtain ⟨f, -, hf, -⟩ := covered_of_reachable hreach
          rw [hself]
          exact Pipeline.admissions_change_of_quiet hallowed
            (hf.past i (by omega)).quiet.throttler hP
        · rw [hother i hi]
          exact hP
      rcases runs_next s a with hruns | ⟨hruns, r, r', hmake⟩
      · rw [hruns] at hj
        obtain ⟨m, hm, hsince, hearlier⟩ := h.inTurn j hj
        refine ⟨m, hm.trans hnow, ?_, fun i hij => hpast i hij hj (hearlier i hij)⟩
        by_cases hi : j = k
        · subst hi
          rw [hself]
          exact Pipeline.since_change hm hallowed hsince
        · rw [hother j hi]
          exact hsince
      · obtain ⟨rfl, rfl⟩ := Prod.mk.inj (Option.some.inj (hc.symm.trans hmake))
        by_cases hlast : j = s.runs
        · subst hlast
          refine ⟨s.memory.now, hnow, ?_, fun i hij e he => ?_⟩
          · rw [hself]
            exact fun t ht => absurd ht (Option.not_mem_none t)
          · rw [hother i hij.ne] at he
            exact h.admittedAt_le he
        · have hj : j < s.runs := by omega
          obtain ⟨m, hm, hsince, hearlier⟩ := h.inTurn j hj
          refine ⟨m, hm.trans hnow, ?_, fun i hij => hpast i hij hj (hearlier i hij)⟩
          rw [hother j hlast]
          exact hsince

/-- **Every state of the service keeps to the limit.** -/
theorem limited_of_run (hcfg : cfg.Valid) (hrun : machine.Run (newService cfg now) as) :
    (machine.after (newService cfg now) as).Limited cfg := by
  have hnew : (newService cfg now).Limited cfg :=
    ⟨fun i t ht => absurd ht (Option.not_mem_none t), fun j hj => absurd hj (Nat.not_lt_zero j)⟩
  refine (Machine.invariant_of_run (m := machine)
    (I := fun s => machine.Reachable (newService cfg now) s ∧ s.Limited cfg)
    (fun s a h ha => ⟨h.1.step ha, h.2.next hcfg h.1 ha⟩) ⟨.refl _, hnew⟩ hrun).2

/-! ### The limit -/

/-- **The admissions are one sequence**, across the runs: each precedes the acceptance of
the next batch. -/
theorem Limited.ordered (h : s.Limited cfg) :
    s.admissions.Pairwise fun e e' => e.admittedAt ≤ e'.heldSince := by
  refine List.pairwise_flatMap.mpr ⟨fun i _ => ?_, ?_⟩
  · cases hthrottler : (s.pipeline i).throttler with
    | none =>
      rw [Pipeline.admissions, hthrottler]
      exact List.Pairwise.nil
    | some t =>
      rw [Pipeline.admissions, hthrottler]
      exact (h.pace i t hthrottler).1.ordered
  · refine List.pairwise_lt_range.imp_of_mem fun {i j} _ hj hij e he e' he' => ?_
    obtain ⟨m, -, hsince, hearlier⟩ := h.inTurn j (List.mem_range.mp hj)
    refine (hearlier i hij e he).trans ?_
    cases hthrottler : (s.pipeline j).throttler with
    | none => simp [Pipeline.admissions, hthrottler] at he'
    | some t =>
      rw [Pipeline.admissions, hthrottler] at he'
      exact (hsince t hthrottler).log e' he'

/-- Every admission was ready, at a rate that is allowed. -/
theorem Limited.admitted (h : s.Limited cfg) {e : Admission} (he : e ∈ s.admissions) :
    Throttler.Ready e.settings e.batch e.heldSince e.admittedAt ∧ e.settings.Allowed cfg := by
  obtain ⟨i, -, he⟩ := List.mem_flatMap.mp he
  cases hthrottler : (s.pipeline i).throttler with
  | none => simp [Pipeline.admissions, hthrottler] at he
  | some t =>
    rw [Pipeline.admissions, hthrottler] at he
    obtain ⟨hpace, hwithin⟩ := h.pace i t hthrottler
    exact ⟨hpace.admitted e he, hwithin.log e he⟩

/-- A batch of a size that is allowed is short enough for its interval not to overflow. -/
theorem fits_of_length_le {b : Batch} (hmax : cfg.reader.readBatchSize.max ≤ maxInt64.tdiv second)
    (hb : (b.length : ℤ) ≤ cfg.reader.readBatchSize.max) : Throttler.Fits b := by
  have hlimit : maxInt64.tdiv second = 9223372036 := by decide
  rw [hlimit] at hmax
  unfold Throttler.Fits second maxInt64
  omega

/-- What was admitted was put in by the readers. -/
theorem mem_put_of_mem_admissions (hrun : machine.Run (newService cfg now) as) {i : ℕ} {e : Admission}
    (he : e ∈ ((machine.after (newService cfg now) as).pipeline i).admissions) :
    e.batch ∈ put i as := by
  have hflow := inFlow_of_run hrun i
  generalize (machine.after (newService cfg now) as).pipeline i = q at he hflow
  cases hthrottler : q.throttler with
  | none => simp [Pipeline.admissions, hthrottler] at he
  | some t =>
    rw [Pipeline.admissions, hthrottler] at he
    have hgiven : e.batch ∈ q.given := by
      rw [Pipeline.given, hthrottler]
      exact List.mem_map_of_mem he
    exact (hflow.isPrefix_given.trans hflow.readerPrefix).subset hgiven

/-- One admission paces the next, at a rate that is never exceeded. -/
theorem paced_of_ready {rate : ℤ} {e e' : Admission} (horder : e.admittedAt ≤ e'.heldSince)
    (hinstalled : e'.settings.installed = true) (hpos : 0 ≤ e'.settings.requestedTPS)
    (hrate : e'.settings.requestedTPS ≤ rate) (hfits : Throttler.Fits e'.batch)
    (h : Throttler.Ready e'.settings e'.batch e'.heldSince e'.admittedAt) :
    Pacing.Paced (fun e => e.batch.length) Admission.admittedAt rate.toNat 1000000000 e e' := by
  have hne : e'.settings.requestedTPS ≠ 0 := fun hzero => h.1 ⟨hinstalled, hzero⟩
  calc e.admittedAt + e'.batch.length * 1000000000 / rate.toNat
      ≤ e'.heldSince + e'.batch.length * 1000000000 / e'.settings.requestedTPS.toNat :=
        Nat.add_le_add horder (Nat.div_le_div_left (by omega) (by omega))
    _ ≤ e'.admittedAt := h.2 hinstalled (by omega) hfits

/-- **The whole process keeps to its rate.** For a configuration that is valid, in every
state of the service, whatever commands it was given:

* the batches that have entered the sender channels are one sequence, across the runs: a
  batch is not accepted by a throttler before the last one has been admitted;
* each is not empty and of a size that is allowed, and entered at a rate that is allowed
  and, while throttling was installed, not zero; its whole interval, `n * 10 ^ 9 / r`
  nanoseconds for `n` transactions at a rate of `r`, had passed since it was accepted and
  since settings were last taken;
* and over any stretch of admissions with throttling installed at rates of at most `r`,
  the transactions that entered are fewer than `r` times the time it took and a
  nanosecond a batch. -/
theorem rate_limited {net : NetParsers} (hcfg : cfg.validate net = none)
    (hrun : machine.Run (newService cfg now) as) :
    let s := machine.after (newService cfg now) as
    s.admissions.Pairwise (fun e e' => e.admittedAt ≤ e'.heldSince) ∧
    (∀ e ∈ s.admissions, e.batch ≠ [] ∧ (e.batch.length : ℤ) ≤ cfg.reader.readBatchSize.max ∧
      cfg.throttler.requestedTPS.contains e.settings.requestedTPS = true ∧ ¬IsZero e.settings ∧
      (e.settings.installed = true →
        e.heldSince + e.batch.length * 1000000000 / e.settings.requestedTPS.toNat ≤ e.admittedAt)) ∧
    (∀ before first between last after,
      s.admissions = before ++ first :: (between ++ [last]) ++ after → ∀ rate : ℤ,
        (∀ e ∈ between ++ [last], e.settings.installed = true ∧ e.settings.requestedTPS ≤ rate) →
        ((((between ++ [last]).map fun e => e.batch.length).sum : ℕ) : ℤ) * 1000000000 <
          rate * (last.admittedAt - first.admittedAt + (between.length + 1))) := by
  intro s
  have hvalid := Config.valid_of_validate hcfg
  have hlimited : s.Limited cfg := limited_of_run hvalid hrun
  have hsize : ∀ e ∈ s.admissions, e.batch ≠ [] ∧
      (e.batch.length : ℤ) ≤ cfg.reader.readBatchSize.max := by
    intro e he
    obtain ⟨i, -, he⟩ := List.mem_flatMap.mp he
    exact (sourced_of_run hvalid hrun i).put e.batch (mem_put_of_mem_admissions hrun he)
  have hfits : ∀ e ∈ s.admissions, Throttler.Fits e.batch := fun e he =>
    fits_of_length_le (Config.pacing_of_validate hcfg) (hsize e he).2
  have hnonneg : ∀ e ∈ s.admissions, 0 ≤ e.settings.requestedTPS := fun e he =>
    hvalid.requestedTPSMin.trans (RangeConfig.bounds_of_contains (hlimited.admitted he).2).1
  refine ⟨hlimited.ordered, fun e he => ?_, ?_⟩
  · obtain ⟨hready, hallowed⟩ := hlimited.admitted he
    refine ⟨(hsize e he).1, (hsize e he).2, hallowed, hready.1, fun hinstalled => ?_⟩
    have hne : e.settings.requestedTPS ≠ 0 := fun hzero => hready.1 ⟨hinstalled, hzero⟩
    exact hready.2 hinstalled (lt_of_le_of_ne (hnonneg e he) (Ne.symm hne)) (hfits e he)
  · intro before first between last after hlog rate hconst
    have hord : (first :: (between ++ [last])).Pairwise fun e e' => e.admittedAt ≤ e'.heldSince := by
      have h := hlimited.ordered
      rw [hlog, List.append_assoc, List.pairwise_append, List.pairwise_append] at h
      exact h.2.1.1
    have hmem : ∀ e ∈ between ++ [last], e ∈ s.admissions := fun e he => by
      rw [hlog]
      exact List.mem_append_left _ (List.mem_append_right _ (List.mem_cons_of_mem _ he))
    have hpaced : ∀ e, ∀ e' ∈ between ++ [last], e.admittedAt ≤ e'.heldSince →
        Pacing.Paced (fun e => e.batch.length) Admission.admittedAt rate.toNat 1000000000 e e' :=
      fun e e' he' h => paced_of_ready h (hconst e' he').1 (hnonneg e' (hmem e' he'))
        (hconst e' he').2 (hfits e' (hmem e' he')) (hlimited.admitted (hmem e' he')).1
    obtain ⟨hfirst, hrest⟩ := List.pairwise_cons.mp hord
    have hchain : List.IsChain (Pacing.Paced (fun e => e.batch.length) Admission.admittedAt
        rate.toNat 1000000000) (first :: (between ++ [last])) :=
      (List.pairwise_cons.mpr ⟨fun e he => hpaced first e he (hfirst e he),
        hrest.imp_of_mem fun _ he' h => hpaced _ _ he' h⟩).isChain
    -- the rate is positive, as the last batch was admitted at one that is
    have hlast : last ∈ between ++ [last] := List.mem_append_right _ (List.mem_singleton_self last)
    have hrate : 0 < rate := by
      have hne : last.settings.requestedTPS ≠ 0 := fun hzero =>
        (hlimited.admitted (hmem last hlast)).1.1 ⟨(hconst last hlast).1, hzero⟩
      have := hnonneg last (hmem last hlast)
      have := (hconst last hlast).2
      omega
    have hsum := Pacing.total_size_lt (by omega) hchain
    obtain ⟨r, rfl⟩ := Int.eq_ofNat_of_zero_le hrate.le
    rw [Int.toNat_natCast] at hsum
    have hcast := Int.ofNat_lt.mpr hsum
    push_cast at hcast ⊢
    linarith

/-- Two batches are admitted, the second as late as two millions a second allow. -/
theorem rate_limited_readAgainRun :
    let s := machine.after (newService exampleConfig 0) readAgainRun
    s.admissions = [⟨[⟨"c"⟩], 0, ⟨2000000, true⟩, 500⟩,
      ⟨[⟨"d"⟩, ⟨"e"⟩], 500, ⟨2000000, true⟩, 1500⟩] ∧
      s.admissions.Pairwise (fun e e' => e.admittedAt ≤ e'.heldSince) ∧
      (2 : ℤ) * 1000000000 < 2000000 * ((1500 : ℕ) - (500 : ℕ) + 1) := by
  intro s
  have hvalid : exampleConfig.validate exampleParsers = none := by decide +kernel
  have hrun : machine.Run (newService exampleConfig 0) readAgainRun := by decide +kernel
  have hlog : s.admissions = [⟨[⟨"c"⟩], 0, ⟨2000000, true⟩, 500⟩,
      ⟨[⟨"d"⟩, ⟨"e"⟩], 500, ⟨2000000, true⟩, 1500⟩] := by decide +kernel
  obtain ⟨hordered, -, hrate⟩ := rate_limited hvalid hrun
  exact ⟨hlog, hordered, hrate [] _ [] _ [] hlog 2000000 (by decide)⟩

end Service

end IngestionLab
