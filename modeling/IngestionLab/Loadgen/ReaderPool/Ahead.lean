import IngestionLab.Loadgen.Pipeline
import IngestionLab.Machine.Ranking

/-!
# What a cancelled reader pool has left to do

Once its context is cancelled, a reader worker claims no further file and leaves the one it
has at the next test of the context. What the workers and the watcher have left to do is a
number (`IngestionLab.ReaderPool.ahead`), which every step of theirs lowers
(`IngestionLab.ReaderPool.ahead_next_lt`) and no other raises, whatever the file system
answers.

Until the watcher has closed `done` there is such a step
(`IngestionLab.ReaderPool.exists_step`). Three places could hold a worker up for good: the
once another worker is in, the error channel, which has room for one error, and the
condition variable it waits for a file on (`IngestionLab.ReaderPool.Unblocked`).
-/

namespace IngestionLab

open Function Go

/-! ### Weights -/

/-- What is still ahead in `sendBatch`. -/
def SendPc.ahead : SendPc → ℕ
  | trying => 22
  | begin => 21
  | flag _ => 20
  | waiting _ => 19
  | finish _ _ => 18
  | recordWait => 17
  | recordTry | unflag _ => 16
  | test => 13

/-- What is still ahead in `readFile`, and in `runWorker` after it. -/
def ReadPc.ahead : ReadPc → ℕ
  | reading _ => 17
  | opening | recording _ _ _ => 16
  | openingReader | appending _ _ _ => 15
  | head _ => 14
  | tail _ => 13
  | closing _ => 12
  | closingReader _ _ => 11
  | closingFile _ _ | closingUnopened _ => 10
  | returned _ => 9
  | sending _ _ pc => pc.ahead

/-- What a worker still has ahead of it. -/
def ReaderWorkerPc.ahead : ReaderWorkerPc → ℕ
  | file _ pc => pc.ahead
  | reporting _ _ => 8
  | pushing _ _ => 7
  | cancelling _ => 6
  | marking _ => 5
  | releasing _ => 4
  | claim | parked | checking => 3
  | exiting => 2
  | removed => 1
  | exited => 0

/-- What the watcher still has ahead of it. -/
def WatcherPc.ahead : WatcherPc → ℕ
  | waiting => 3
  | marking => 2
  | joining => 1
  | closed => 0

namespace ReadPc

variable {v : ReadView} {pc pc' : ReadPc} {m : ReadMove}

theorem ahead_afterSend (back : Option (Batch × ReadEnd)) (sent : Bool) :
    (afterSend back sent).ahead ≤ 15 := by
  rcases back with - | ⟨rows, ending⟩
  · exact Nat.le_of_ble_eq_true rfl
  · cases sent <;> exact Nat.le_of_ble_eq_true rfl

theorem ahead_afterAppend (v : ReadView) (batch : Batch) (ending : ReadEnd) :
    (afterAppend v batch ending).ahead ≤ 14 := by
  cases ending <;> exact Nat.le_of_ble_eq_true rfl

/-- **Every move inside `readFile`** leaves less to do, once the context is cancelled. -/
theorem ahead_move_lt (hc : v.cancelled = true) (h : pc.move v m = some pc') :
    pc'.ahead < pc.ahead := by
  have hsend := ahead_afterSend
  have happend := ahead_afterAppend v
  revert h
  fun_cases move v pc m <;> intro h <;> grind [ReadPc.ahead, SendPc.ahead, afterSend]

end ReadPc

namespace ReaderPool

variable {p : ReaderPool} {sh : Memory} {w : ℕ} {a : Action} {c : ReaderWorker}

/-- **What the pool has left to do** once its context is cancelled. -/
def ahead (p : ReaderPool) : ℕ :=
  Cells.total (fun c => c.pc.ahead) p.worker p.started + p.watcher.ahead

/-! ### Every step lowers it -/

@[simp] theorem ahead_broadcast_pc (pc : ReaderWorkerPc) : pc.broadcast.ahead = pc.ahead := by
  cases pc <;> rfl

/-- Whoever waits for a file is woken for nothing. -/
@[simp] theorem ahead_broadcast (p : ReaderPool) : p.broadcast.ahead = p.ahead := by
  have htotal : Cells.total (fun c => c.pc.ahead) p.broadcast.worker p.started =
      Cells.total (fun c => c.pc.ahead) p.worker p.started :=
    Cells.total_congr fun v _ => ahead_broadcast_pc (p.worker v).pc
  exact congrArg (· + p.watcher.ahead) htotal

/-- A worker that has less ahead of it. -/
theorem ahead_setWorker_lt (hw : w < p.started) (h : c.pc.ahead < (p.worker w).pc.ahead) :
    (p.setWorker w c).ahead < p.ahead := by
  have htotal := Cells.total_update (fun c => c.pc.ahead) p.worker c hw
  simp only [ahead, setWorker]
  omega

theorem ahead_goto_lt {pc pc' : ReaderWorkerPc} (hat : p.At w pc) (h : pc'.ahead < pc.ahead) :
    (p.goto w pc').ahead < p.ahead :=
  ahead_setWorker_lt hat.1 (by rw [hat.2]; exact h)

/-- **Every step of a worker or of the watcher of a cancelled pool lowers what is left.** -/
theorem ahead_next_lt (hc : p.cancelled = true) (ha : p.Enabled sh a) (hown : a.isOwn = true) :
    (p.next sh a).ahead < p.ahead := by
  have hgoes : ∀ v, (p.stopping || p.cancelled || (p.worker v).draining) = true := fun v => by
    rw [hc, Bool.or_true, Bool.true_or]
  cases a
  case reconcile | receiveError | stopMark | cancel => cases hown
  case watcherWoken =>
    rw [ahead, ahead, ha.1]
    exact Nat.lt_succ_self _
  case watcherMark =>
    have hmark : (p.next sh .watcherMark).ahead = Cells.total (fun c => c.pc.ahead)
        p.broadcast.worker p.started + 1 := rfl
    have hcast : Cells.total (fun c => c.pc.ahead) p.broadcast.worker p.started + p.watcher.ahead =
        p.ahead := ahead_broadcast p
    rw [ha] at hcast
    rw [hmark, ← hcast]
    exact Nat.lt_succ_self _
  case watcherJoined =>
    rw [ahead, ahead, ha.1]
    exact Nat.lt_succ_self _
  case claim v index => exact absurd (hgoes v) (by rw [ha.2.1]; exact Bool.false_ne_true)
  case claimPark v => exact absurd (hgoes v) (by rw [ha.2.1]; exact Bool.false_ne_true)
  case claimQuit v => exact ahead_goto_lt ha.1 (by decide)
  case read v path pc move =>
    obtain ⟨hat, hmove⟩ := ha
    obtain ⟨pc', hpc'⟩ := Option.isSome_iff_exists.mp hmove
    rw [next, hpc']
    refine ahead_setWorker_lt hat.1 ?_
    rw [hat.2]
    exact ReadPc.ahead_move_lt hc hpc'
  case reportFirst v path e => exact ahead_goto_lt ha.1 (Nat.lt_succ_self 7)
  case push v path e => exact ahead_goto_lt ha.1 (Nat.lt_succ_self 6)
  case cancelPool v path => exact ahead_goto_lt ha (Nat.lt_succ_self 5)
  case mark v path =>
    have hmark : (p.next sh (.mark v path)).ahead = ((p.goto v (.releasing path)).broadcast).ahead := rfl
    rw [hmark, ahead_broadcast]
    exact ahead_goto_lt ha (Nat.lt_succ_self 4)
  case release v path =>
    have hrelease : (p.next sh (.release v path)).ahead =
        ((p.setWorker v { p.worker v with busy := false, pc := .checking }).broadcast).ahead := rfl
    rw [hrelease, ahead_broadcast]
    refine ahead_setWorker_lt ha.1 ?_
    rw [ha.2]
    exact Nat.lt_succ_self 3
  case check v =>
    rw [next, hc, if_pos rfl]
    exact ahead_goto_lt ha (by decide)
  case exitWorker v =>
    have hexit : (p.next sh (.exitWorker v)).ahead = (p.goto v .removed).ahead := by
      rw [next, exitWorker_eq, if_neg (by rw [hc]; simp)]
      rfl
    rw [hexit]
    exact ahead_goto_lt ha (by decide)
  case releaseWg v => exact ahead_goto_lt (p := p) ha (by decide)
  case readDone v path => exact ahead_goto_lt ha (by simp [ReaderWorkerPc.ahead, ReadPc.ahead])
  case readFailed v path e => exact ahead_goto_lt ha (by simp [ReaderWorkerPc.ahead, ReadPc.ahead])
  case reportAgain v path e => exact ahead_goto_lt ha.1 (by simp [ReaderWorkerPc.ahead])

/-- What the event loop does raises nothing: a cancelled pool takes no request. -/
theorem ahead_next_eq (hc : p.cancelled = true) (hown : a.isOwn = false) :
    (p.next sh a).ahead = p.ahead := by
  cases a
  case reconcile d => rw [next, reconcile_of_stopped (Or.inr hc)]
  case receiveError e => rfl
  case cancel => rfl
  case stopMark => exact ahead_broadcast { p with stopping := true }
  all_goals cases hown

/-! ### Nobody waits for good -/

/-- Inside `sourceErrorOnce`. -/
def inOnce : ReaderWorkerPc → Bool
  | .pushing _ _ | .cancelling _ | .marking _ => true
  | _ => false

@[simp] theorem inOnce_broadcast (pc : ReaderWorkerPc) : inOnce pc.broadcast = inOnce pc := by
  cases pc <;> rfl

@[simp] theorem broadcast_ne_parked (pc : ReaderWorkerPc) : pc.broadcast ≠ .parked := by
  cases pc <;> simp [ReaderWorkerPc.broadcast]

@[simp] theorem broadcast_eq_pushing {pc : ReaderWorkerPc} {path : Path} {e : ReaderSourceError} :
    pc.broadcast = .pushing path e ↔ pc = .pushing path e := by
  cases pc <;> simp [ReaderWorkerPc.broadcast]

/-- Who is inside the once, if it is running. -/
structure OnceBy (p : ReaderPool) (inside : Option ℕ) : Prop where
  worker : ∀ w, inOnce (p.worker w).pc = true ↔ inside = some w
  running : p.once = .running ↔ inside ≠ none
  started : ∀ w, inside = some w → w < p.started

/-- **Nobody waits for good**: the once is running exactly while one worker is inside, the
error channel has room for the error that is sent from there, and nobody waits for a file of
a pool that is stopping. -/
structure Unblocked (p : ReaderPool) : Prop where
  once : ∃ inside, p.OnceBy inside
  empty : p.once = .fresh ∨ (∃ w path e, (p.worker w).pc = .pushing path e) → p.sourceErrors = none
  awake : p.stopping = true → ∀ w, (p.worker w).pc ≠ .parked

/-- Who is inside the once stays there, and nobody else enters. -/
theorem inOnce_next (hnew : ∀ v, p.started ≤ v → inOnce (p.worker v).pc = false)
    (ha : p.Enabled sh a) (h1 : ∀ w path e, a ≠ .reportFirst w path e)
    (h2 : ∀ w path, a ≠ .mark w path) (v : ℕ) :
    inOnce ((p.next sh a).worker v).pc = inOnce (p.worker v).pc := by
  cases a
  case reportFirst => exact absurd rfl (h1 _ _ _)
  case mark => exact absurd rfl (h2 _ _)
  case reconcile d =>
    rw [next]
    by_cases hstop : p.stopping = true ∨ p.cancelled = true
    · rw [reconcile_of_stopped hstop]
    · simp only [not_or, Bool.not_eq_true] at hstop
      obtain ⟨cell, heq, hfresh, hold⟩ := exists_reconcile_eq hstop.1 hstop.2 d
      have hcell : (p.reconcile d).worker v = cell v := by rw [heq]
      rw [hcell]
      by_cases hv : p.started ≤ v ∧ v < p.started + (d - p.workers.length)
      · rw [hfresh v hv.1 hv.2, hnew v hv.1]
        rfl
      · rw [hold v hv]
        exact inOnce_broadcast _
  case exitWorker w =>
    simp only [Enabled, At] at ha
    rw [next, exitWorker_eq]
    split <;> simp only [goto, setWorker, update_apply] <;> grind [inOnce]
  all_goals
    simp only [Enabled, At] at ha
    simp only [next, goto, setWorker, broadcast, markStopping, claimFile, releaseFileLocked,
      update_apply, inOnce_broadcast]
  all_goals grind [inOnce]

/-- The once is entered and left by a worker with an error only. -/
theorem once_next (h1 : ∀ w path e, a ≠ .reportFirst w path e) (h2 : ∀ w path, a ≠ .mark w path) :
    (p.next sh a).once = p.once := by
  cases a
  case reportFirst => exact absurd rfl (h1 _ _ _)
  case mark => exact absurd rfl (h2 _ _)
  case reconcile d =>
    obtain ⟨_, _, _, _, _, heq⟩ := reconcile_frame p d
    rw [next, heq]
  case exitWorker w =>
    rw [next, exitWorker_eq]
    split <;> rfl
  all_goals rfl

/-- Workers are only ever started. -/
theorem started_le_next : p.started ≤ (p.next sh a).started := by
  cases a
  case reconcile d =>
    rw [next]
    by_cases hstop : p.stopping = true ∨ p.cancelled = true
    · rw [reconcile_of_stopped hstop]
    · simp only [not_or, Bool.not_eq_true] at hstop
      obtain ⟨cell, heq, -, -⟩ := exists_reconcile_eq hstop.1 hstop.2 d
      rw [heq]
      exact Nat.le_add_right _ _
  case exitWorker w =>
    rw [next, exitWorker_eq]
    split
    · exact Nat.le_succ _
    · exact le_rfl
  all_goals exact le_rfl

/-- **A worker about to send its error** has entered the once to do so. -/
theorem pushing_of_next {v : ℕ} {path : Path} {e : ReaderSourceError} (ha : p.Enabled sh a)
    (h : ((p.next sh a).worker v).pc = .pushing path e) :
    (a = .reportFirst v path e) ∨ (p.worker v).pc = .pushing path e := by
  revert h
  cases a
  case reconcile d =>
    rw [next]
    rcases reconcile_worker p d v with hcell | ⟨dr, pc, hcell, rfl | rfl⟩ <;> rw [hcell]
    · rintro ⟨⟩
    · exact Or.inr
    · exact fun h => Or.inr (broadcast_eq_pushing.mp h)
  case exitWorker w =>
    simp only [Enabled, At] at ha
    rw [next, exitWorker_eq]
    split <;> simp only [goto, setWorker, update_apply] <;> grind
  all_goals
    simp only [Enabled, At] at ha
    simp only [next, goto, setWorker, broadcast, markStopping, claimFile, releaseFileLocked,
      update_apply, broadcast_eq_pushing]
  all_goals grind

/-- **A worker waits for a file** only of a pool that is not stopping. -/
theorem parked_of_next {v : ℕ} (ha : p.Enabled sh a) (h : ((p.next sh a).worker v).pc = .parked) :
    (p.next sh a).stopping = false ∨ p.stopping = true ∧ (p.worker v).pc = .parked := by
  revert h
  cases a
  case reconcile d =>
    rw [next]
    cases hstop : p.stopping with
    | true =>
      rw [reconcile_of_stopped (Or.inl hstop)]
      exact fun h => Or.inr ⟨rfl, h⟩
    | false =>
      obtain ⟨_, _, _, _, _, heq⟩ := reconcile_frame p d
      rw [heq]
      exact fun _ => Or.inl hstop
  case exitWorker w =>
    simp only [Enabled, At] at ha
    rw [next, exitWorker_eq]
    split <;> simp only [goto, setWorker, update_apply] <;> grind
  all_goals
    simp only [Enabled, At] at ha
    simp only [next, goto, setWorker, broadcast, markStopping, claimFile, releaseFileLocked,
      update_apply, broadcast_ne_parked]
  all_goals grind

/-- One worker at a time is inside the once. -/
theorem OnceBy.next {inside : Option ℕ} (h : p.OnceBy inside) (ha : p.Enabled sh a) :
    ∃ inside, (p.next sh a).OnceBy inside := by
  have hnew : ∀ v, p.started ≤ v → inOnce (p.worker v).pc = false := by
    intro v hv
    rw [← Bool.not_eq_true, h.worker]
    exact fun hmem => absurd (h.started v hmem) (Nat.not_lt.mpr hv)
  by_cases h1 : ∃ w path e, a = .reportFirst w path e
  · obtain ⟨w, path, e, rfl⟩ := h1
    obtain ⟨hat, hfresh⟩ := ha
    obtain rfl : inside = none := by
      by_contra hc
      exact absurd (hfresh.symm.trans (h.running.mpr hc)) (by decide)
    refine ⟨some w, fun v => ?_, ⟨fun _ => Option.some_ne_none w, fun _ => rfl⟩, fun v hv => ?_⟩
    · have hv := h.worker v
      simp only [ReaderPool.next, goto, setWorker, update_apply]
      grind [inOnce]
    · obtain rfl := Option.some.inj hv
      exact hat.1
  by_cases h2 : ∃ w path, a = .mark w path
  · obtain ⟨w, path, rfl⟩ := h2
    obtain rfl : inside = some w := (h.worker w).mp (by rw [ha.2]; rfl)
    have hdone : (p.next sh (.mark w path)).once = .done := rfl
    refine ⟨none, fun v => ?_, ?_, fun v hv => by cases hv⟩
    · have hv := h.worker v
      simp only [ReaderPool.next, goto, setWorker, markStopping, broadcast, update_apply,
        inOnce_broadcast]
      grind [inOnce]
    · rw [hdone]
      exact ⟨fun hc => absurd hc (by decide), fun hc => absurd rfl hc⟩
  have h1' : ∀ w path e, a ≠ .reportFirst w path e := fun w path e hc => h1 ⟨w, path, e, hc⟩
  have h2' : ∀ w path, a ≠ .mark w path := fun w path hc => h2 ⟨w, path, hc⟩
  refine ⟨inside, fun v => ?_, ?_, fun v hv => (h.started v hv).trans_le started_le_next⟩
  · rw [inOnce_next hnew ha h1' h2']
    exact h.worker v
  · rw [once_next h1' h2']
    exact h.running

/-- A new error is sent from inside the once only. -/
theorem sourceErrors_of_next (h : p.sourceErrors = none) (hpush : ∀ w path e, a ≠ .push w path e) :
    (p.next sh a).sourceErrors = none := by
  cases a
  case push => exact absurd rfl (hpush _ _ _)
  case reconcile d =>
    obtain ⟨_, _, _, _, _, heq⟩ := reconcile_frame p d
    rw [ReaderPool.next, heq]
    exact h
  case exitWorker w =>
    rw [ReaderPool.next, exitWorker_eq]
    split <;> exact h
  case receiveError e => rfl
  all_goals exact h

/-- A once that has not been entered had not been entered before. -/
theorem once_fresh_of_next (h : (p.next sh a).once = .fresh) : p.once = .fresh := by
  by_cases h1 : ∃ w path e, a = .reportFirst w path e
  · obtain ⟨w, path, e, rfl⟩ := h1
    cases h
  by_cases h2 : ∃ w path, a = .mark w path
  · obtain ⟨w, path, rfl⟩ := h2
    cases h
  rwa [once_next (fun w path e hc => h1 ⟨w, path, e, hc⟩) fun w path hc => h2 ⟨w, path, hc⟩] at h

/-- **Nobody waits for good**, whatever happens next. -/
theorem Unblocked.next (h : p.Unblocked) (ha : p.Enabled sh a) : (p.next sh a).Unblocked := by
  obtain ⟨inside, honce⟩ := h.once
  refine ⟨honce.next ha, fun hempty => ?_, fun hstop v hparked => ?_⟩
  · have hold : p.sourceErrors = none := by
      refine h.empty ?_
      rcases hempty with hfresh | ⟨v, path, e, hpushing⟩
      · exact Or.inl (once_fresh_of_next hfresh)
      · rcases pushing_of_next ha hpushing with rfl | hpushing'
        · exact Or.inl ha.2
        · exact Or.inr ⟨v, path, e, hpushing'⟩
    refine sourceErrors_of_next hold ?_
    rintro w path e rfl
    -- whoever has sent its error is alone inside
    have hinside : inside = some w := (honce.worker w).mp (by rw [ha.1.2]; rfl)
    rcases hempty with hfresh | ⟨v, path', e', hpushing⟩
    · have hrunning : p.once = .running := honce.running.mpr (by rw [hinside]; exact Option.some_ne_none w)
      rw [once_fresh_of_next hfresh] at hrunning
      cases hrunning
    · have hpushing' : (p.worker v).pc = .pushing path' e' :=
        (pushing_of_next ha hpushing).resolve_left (by rintro ⟨⟩)
      have hv : inside = some v := (honce.worker v).mp (by rw [hpushing']; rfl)
      obtain rfl : w = v := Option.some.inj (hinside.symm.trans hv)
      simp only [ReaderPool.next, goto, setWorker, update_self] at hpushing
      cases hpushing
  · rcases parked_of_next ha hparked with hgoes | ⟨hstop', hparked'⟩
    · rw [hstop] at hgoes
      cases hgoes
    · exact h.awake hstop' v hparked'

/-- A pool that has just been started. -/
theorem unblocked_start (dataPath : Path) (batchSize n : ℕ) (files : List Path) :
    (start dataPath batchSize n files).Unblocked := by
  have hempty : (empty files (readerSourceDirectory dataPath) batchSize).Unblocked := by
    refine ⟨⟨none, fun w => ⟨?_, ?_⟩, ⟨?_, fun hc => absurd rfl hc⟩, fun w => ?_⟩, fun _ => rfl, ?_⟩
    all_goals rintro ⟨⟩
  rcases Nat.eq_zero_or_pos n with rfl | hn
  · exact hempty
  · have hask : (empty files (readerSourceDirectory dataPath) batchSize).Enabled {} (.reconcile n) := hn
    exact hempty.next hask

/-! ### There is always a step -/

/-- A channel takes a batch, or the default case beside the send is ready. -/
theorem allows_send_or_full (c : Chan Batch) (batch : Batch) : c.Allows (.send batch) ∨ c.Allows .full := by
  by_cases hc : c.IsClosed
  · exact Or.inl (Or.inl hc)
  · rcases Nat.lt_or_ge c.buffer.length c.capacity with hlt | hge
    · exact Or.inl (Or.inr hlt)
    · exact Or.inr ⟨hc, hge⟩

/-- **A worker in `readFile` can move on** once the context is cancelled: nothing it waits
for is beyond its reach. -/
theorem exists_move {v : ReadView} (hc : v.cancelled = true) (w : ℕ) (path : Path) (pc : ReadPc)
    (ch : Chan Batch) : (∃ error, pc = .returned error) ∨
      ∃ m, (pc.move v m).isSome = true ∧ ch.Allows (Action.op (.read w path pc m)) := by
  cases pc with
  | opening => exact Or.inr ⟨.opened, rfl, trivial⟩
  | openingReader => exact Or.inr ⟨.readerOpened, rfl, trivial⟩
  | closingUnopened message => exact Or.inr ⟨.closedUnopened none, rfl, trivial⟩
  | head batch => exact Or.inr ⟨.testHead, rfl, trivial⟩
  | reading batch => exact Or.inr ⟨.read [] .eof, rfl, trivial⟩
  | recording batch rows ending => exact Or.inr ⟨.recordRead, rfl, trivial⟩
  | appending batch rows ending =>
    refine Or.inr ⟨.appendRows, ?_, trivial⟩
    rw [ReadPc.move, hc]
    split <;> rfl
  | sending batch back place =>
    refine Or.inr ?_
    cases place with
    | test => exact ⟨.testSend, rfl, trivial⟩
    | trying =>
      rcases allows_send_or_full ch batch with hsend | hfull
      · exact ⟨.trySend batch, by simp [ReadPc.move], hsend⟩
      · exact ⟨.tryDefault, rfl, hfull⟩
    | recordTry => exact ⟨.recordTry, rfl, trivial⟩
    | begin => exact ⟨.beginBlockedSend, rfl, trivial⟩
    | flag id => exact ⟨.setBlocked, rfl, trivial⟩
    | waiting id => exact ⟨.waitCanceled, by simp [ReadPc.move, hc], trivial⟩
    | finish id sent => exact ⟨.finishBlockedWriter, rfl, trivial⟩
    | recordWait => exact ⟨.recordWait, rfl, trivial⟩
    | unflag sent => exact ⟨.clearBlocked, rfl, trivial⟩
  | tail batch => exact Or.inr ⟨.sendTail, rfl, trivial⟩
  | closing error => exact Or.inr ⟨.testClosing, rfl, trivial⟩
  | closingReader error cancelled => exact Or.inr ⟨.closedReader none, rfl, trivial⟩
  | closingFile error cancelled => exact Or.inr ⟨.closedFile none, rfl, trivial⟩
  | returned error => exact Or.inl ⟨error, rfl⟩

/-- **A worker inside the once can move on.** -/
theorem Unblocked.exists_once_step (h : p.Unblocked) (hlt : w < p.started)
    (hin : inOnce (p.worker w).pc = true) (sh : Memory) (ch : Chan Batch) :
    ∃ a : Action, a.isOwn = true ∧ p.Enabled sh a ∧ ch.Allows a.op := by
  cases hpc : (p.worker w).pc with
  | pushing path e =>
    exact ⟨.push w path e, rfl, ⟨⟨hlt, hpc⟩, h.empty (Or.inr ⟨w, path, e, hpc⟩)⟩, trivial⟩
  | cancelling path => exact ⟨.cancelPool w path, rfl, ⟨hlt, hpc⟩, trivial⟩
  | marking path => exact ⟨.mark w path, rfl, ⟨hlt, hpc⟩, trivial⟩
  | _ => simp [hpc, inOnce] at hin

/-- **A worker of a cancelled and marked pool can move on**, or another one it waits for. -/
theorem Unblocked.exists_worker_step (h : p.Unblocked) (hc : p.cancelled = true)
    (hstop : p.stopping = true) (hlt : w < p.started) (hexit : (p.worker w).pc ≠ .exited)
    (sh : Memory) (ch : Chan Batch) :
    ∃ a : Action, a.isOwn = true ∧ p.Enabled sh a ∧ ch.Allows a.op := by
  cases hpc : (p.worker w).pc with
  | claim =>
    exact ⟨.claimQuit w, rfl, ⟨⟨hlt, hpc⟩, by rw [hstop, Bool.true_or, Bool.true_or]⟩, trivial⟩
  | parked => exact absurd hpc (h.awake hstop w)
  | file path pc =>
    rcases exists_move (v := p.view sh path) hc w path pc ch with ⟨error, rfl⟩ | ⟨m, hmove, hallows⟩
    · cases error with
      | none => exact ⟨.readDone w path, rfl, ⟨hlt, hpc⟩, trivial⟩
      | some e => exact ⟨.readFailed w path e, rfl, ⟨hlt, hpc⟩, trivial⟩
    · exact ⟨.read w path pc m, rfl, ⟨⟨hlt, hpc⟩, hmove⟩, hallows⟩
  | reporting path e =>
    cases honce : p.once with
    | fresh => exact ⟨.reportFirst w path e, rfl, ⟨⟨hlt, hpc⟩, honce⟩, trivial⟩
    | done => exact ⟨.reportAgain w path e, rfl, ⟨⟨hlt, hpc⟩, honce⟩, trivial⟩
    | running =>
      -- somebody else is inside the once
      obtain ⟨inside, hby⟩ := h.once
      obtain ⟨v, rfl⟩ := Option.ne_none_iff_exists'.mp (hby.running.mp honce)
      exact h.exists_once_step (hby.started v rfl) ((hby.worker v).mpr rfl) sh ch
  | pushing path e => exact h.exists_once_step hlt (by rw [hpc]; rfl) sh ch
  | cancelling path => exact h.exists_once_step hlt (by rw [hpc]; rfl) sh ch
  | marking path => exact h.exists_once_step hlt (by rw [hpc]; rfl) sh ch
  | releasing path => exact ⟨.release w path, rfl, ⟨hlt, hpc⟩, trivial⟩
  | checking => exact ⟨.check w, rfl, ⟨hlt, hpc⟩, trivial⟩
  | exiting => exact ⟨.exitWorker w, rfl, ⟨hlt, hpc⟩, trivial⟩
  | removed => exact ⟨.releaseWg w, rfl, ⟨hlt, hpc⟩, trivial⟩
  | exited => exact absurd hpc hexit

/-- **Until `done` is closed there is a step** of a worker or of the watcher, whatever the
reader channel holds. -/
theorem exists_step (hw : p.WellFormed) (h : p.Unblocked) (hc : p.cancelled = true)
    (hopen : p.watcher ≠ .closed) (sh : Memory) (ch : Chan Batch) :
    ∃ a : Action, a.isOwn = true ∧ p.Enabled sh a ∧ ch.Allows a.op := by
  cases hwatcher : p.watcher with
  | waiting => exact ⟨.watcherWoken, rfl, ⟨hwatcher, hc⟩, trivial⟩
  | marking => exact ⟨.watcherMark, rfl, hwatcher, trivial⟩
  | joining =>
    rcases Nat.eq_zero_or_pos p.wg with hzero | hpos
    · exact ⟨.watcherJoined, rfl, ⟨hwatcher, hzero⟩, trivial⟩
    · rw [hw.wg] at hpos
      obtain ⟨w, hmem, halive⟩ := Finset.sum_pos_iff.mp hpos
      have hexit : (p.worker w).pc ≠ .exited := fun hpc => by simp [alive, hpc] at halive
      exact h.exists_worker_step hc (hw.joining (Or.inl hwatcher)) (Finset.mem_range.mp hmem) hexit sh ch
  | closed => exact absurd hwatcher hopen

end ReaderPool

end IngestionLab
