import IngestionLab.Go.Glob
import IngestionLab.Loadgen.ReaderPool.Claims

/-!
# Where source errors come from

Every error of a reader pool is made of an operation on one of its files and of what the
operating system says (`IngestionLab.ReaderSourceError.MadeOf`), at whichever step of a
worker it is found (`IngestionLab.ReaderPool.Traced`).

Its path is relative to the directory of the source. It is neither rooted nor above that
directory, unless the file is the root itself, which has no relative path
(`IngestionLab.isRelative_relativeSourcePath`).
-/

namespace IngestionLab

open Function Go

/-! ### Relative paths -/

/-- A path with something in it that neither starts at the root nor one up. -/
def IsRelative (path : Path) : Prop := path ≠ [] ∧ ¬['/'] <+: path ∧ ¬['.', '.', '/'] <+: path

instance (path : Path) : Decidable (IsRelative path) := inferInstanceAs (Decidable (_ ∧ _))

theorem isRelative_of_notMem {path : Path} (hne : path ≠ []) (h : '/' ∉ path) : IsRelative path :=
  ⟨hne, fun hc => h (hc.subset (by decide)), fun hc => h (hc.subset (by decide))⟩

/-- **What a pattern finds is not the root**, if the pattern is not. -/
theorem exists_ne_slash_of_mem_glob {fs : FileSystem} {pattern path : Path} {found : List Path}
    (hrooted : isRooted pattern) (hpattern : ∃ c ∈ pattern, c ≠ '/')
    (hglob : fs.glob pattern = some found) (hpath : path ∈ found) : ∃ c ∈ path, c ≠ '/' := by
  rcases FileSystem.of_mem_globWithLimit hrooted hglob hpath with
    ⟨-, rfl⟩ | ⟨-, hpathRooted, hname, hfound⟩
  · exact hpattern
  · -- the last element of the pattern matches a name
    have hnonempty : cleanElements path ≠ [] := by
      have hlength := hfound.length_eq
      rw [cleanElements_of_isName_afterSlash hrooted hname, List.length_append] at hlength
      exact List.ne_nil_of_length_pos (by simp [← hlength])
    obtain ⟨e, es, hes⟩ := List.exists_cons_of_ne_nil hnonempty
    have he : e ∈ cleanElements path := hes ▸ List.mem_cons_self
    have hisName := isName_of_mem_cleanElements hpathRooted he
    obtain ⟨c, hc⟩ := List.exists_mem_of_ne_nil e hisName.ne_nil
    exact ⟨c, mem_of_mem_cleanElements hc he, fun heq => hisName.noSlash (heq ▸ hc)⟩

/-- The root finds nothing but itself. -/
theorem eq_of_mem_glob_of_slashes {fs : FileSystem} {pattern path : Path} {found : List Path}
    (hrooted : isRooted pattern) (hpattern : ∀ c ∈ pattern, c = '/')
    (hglob : fs.glob pattern = some found) (hpath : path ∈ found) : path = pattern := by
  rcases FileSystem.of_mem_globWithLimit hrooted hglob hpath with ⟨-, hsame⟩ | ⟨hmeta, -⟩
  · exact hsame
  · obtain ⟨c, hc, hspecial⟩ := List.any_eq_true.mp hmeta
    rw [hpattern c hc] at hspecial
    exact absurd hspecial (by decide)

/-- **The path of a source error is relative** exactly if the file is not the root. -/
theorem isRelative_relativeSourcePath (sourceDirectory : Path) {sourcePath : Path}
    (hne : sourcePath ≠ []) :
    IsRelative (relativeSourcePath sourceDirectory sourcePath) ↔ ∃ c ∈ sourcePath, c ≠ '/' := by
  constructor
  · intro h
    by_contra hslashes
    push Not at hslashes
    have hbase := base_of_slashes hne hslashes
    have hsame : relativeSourcePath sourceDirectory sourcePath = ['/'] := by
      rw [relativeSourcePath]
      split
      · exact hbase
      · next relative hrel =>
        rw [if_pos, hbase]
        simpa only [List.isPrefixOf_iff_prefix] using rel_of_slashes hslashes hrel
    rw [hsame] at h
    exact h.2.1 List.prefix_rfl
  · intro hpath
    have hbase := isRelative_of_notMem (base_ne_nil sourcePath) (notMem_base hpath)
    rw [relativeSourcePath]
    split
    · exact hbase
    · next relative hrel =>
      split_ifs with hup
      · exact hbase
      · push Not at hup
        obtain ⟨hdot, hnone, -, hup⟩ := hup
        refine ⟨hnone, fun hc => ?_, fun hc => hup (List.isPrefixOf_iff_prefix.mpr hc)⟩
        obtain rfl | ⟨es, rfl, hes⟩ := exists_elements_of_rel hrel
        · exact hdot rfl
        · obtain ⟨rest, hrest⟩ := hc
          exact head?_joinElements hes (hrest ▸ rfl)

/-! ### Errors -/

/-- What an error may say was tried. -/
def sourceOperations : List String := ["glob", "open", "read", "close", "reader-close"]

/-- **The error is about a file** that meets a condition: something was tried on it, and the
operating system says why it failed. -/
def ReaderSourceError.MadeOf (Fits : Path → Prop) (error : ReaderSourceError) : Prop :=
  ∃ directory, ∃ operation ∈ sourceOperations, ∃ path, Fits path ∧ ∃ message ≠ "",
    error = newReaderSourceError directory operation path message

/-- What has been said of a read that failed. -/
def ReadEnd.texts : ReadEnd → List String
  | .failed message => [message]
  | .more | .eof => []

namespace ReadPc

/-- What has been said, and is not yet in an error. -/
def texts : ReadPc → List String
  | closingUnopened message => [message]
  | recording _ _ ending | appending _ _ ending => ending.texts
  | sending _ back _ => back.elim [] fun back => back.2.texts
  | _ => []

/-- The error a worker has found. -/
def error : ReadPc → Option ReaderSourceError
  | closing error | closingReader error _ | closingFile error _ | returned error => error
  | _ => none

end ReadPc

/-- What the operating system says in a move. -/
def ReadMove.texts : ReadMove → List String
  | .openFailed message | .readerFailed message => [message]
  | .closedUnopened closeError | .closedReader closeError | .closedFile closeError =>
    closeError.toList
  | .read _ ending => ending.texts
  | _ => []

namespace ReadPc

variable {v : ReadView} {pc pc' : ReadPc} {m : ReadMove} {e : ReaderSourceError}

/-- What is said at a position, and the error found there, come from a move, or were there
before it. -/
structure Comes (v : ReadView) (pc : ReadPc) (m : ReadMove) (pc' : ReadPc) : Prop where
  texts : ∀ text ∈ pc'.texts, text ∈ pc.texts ++ m.texts
  error : ∀ e ∈ pc'.error, e ∈ pc.error ∨ ∃ operation ∈ sourceOperations,
    ∃ message ∈ pc.texts ++ m.texts, e = v.fail operation message

theorem Comes.of_error_eq_none (htexts : ∀ text ∈ pc'.texts, text ∈ pc.texts ++ m.texts)
    (herror : pc'.error = none) : Comes v pc m pc' :=
  ⟨htexts, fun e he => absurd (herror ▸ he) (Option.not_mem_none e)⟩

theorem Comes.of_eq_nil (htexts : pc'.texts = []) (herror : pc'.error = none) : Comes v pc m pc' :=
  .of_error_eq_none (fun _ h => absurd (htexts ▸ h) List.not_mem_nil) herror

theorem Comes.of_error_eq_some {operation message : String} (htexts : pc'.texts = [])
    (hoperation : operation ∈ sourceOperations) (hmessage : message ∈ pc.texts ++ m.texts)
    (herror : pc'.error = some (v.fail operation message)) : Comes v pc m pc' := by
  refine ⟨fun _ h => absurd (htexts ▸ h) List.not_mem_nil,
    fun e he => Or.inr ⟨operation, hoperation, message, hmessage, ?_⟩⟩
  rw [herror] at he
  exact (Option.some.inj he).symm

theorem Comes.afterAppend {batch : Batch} {ending : ReadEnd}
    (hmem : ∀ text ∈ ending.texts, text ∈ pc.texts ++ m.texts) :
    Comes v pc m (afterAppend v batch ending) := by
  cases ending with
  | more => exact .of_eq_nil rfl rfl
  | eof => exact .of_eq_nil rfl rfl
  | failed message => exact .of_error_eq_some rfl (by decide) (hmem message List.mem_cons_self) rfl

theorem Comes.afterSend {batch : Batch} {back : Option (Batch × ReadEnd)} {place : SendPc} {sent : Bool} :
    Comes v (sending batch back place) m (afterSend back sent) := by
  cases back with
  | none => exact .of_eq_nil rfl rfl
  | some back =>
    cases sent with
    | false => exact .of_eq_nil rfl rfl
    | true => exact .of_error_eq_none (fun text h => List.mem_append_left _ h) rfl

theorem Comes.orClose {error : Option ReaderSourceError} {cancelled : Bool} {operation : String}
    {closeError : Option String} (htexts : pc'.texts = []) (herror : pc.error = error)
    (hoperation : operation ∈ sourceOperations) (hmem : closeError.toList = m.texts)
    (herror' : pc'.error = orClose v error cancelled operation closeError) :
    Comes v pc m pc' := by
  refine ⟨fun _ h => absurd (htexts ▸ h) List.not_mem_nil, fun e he => ?_⟩
  rw [herror', ReadPc.orClose] at he
  split_ifs at he
  · obtain ⟨message, hmessage, rfl⟩ := Option.map_eq_some_iff.mp he
    refine Or.inr ⟨operation, hoperation, message, List.mem_append_right _ ?_, rfl⟩
    rw [← hmem, hmessage]
    exact List.mem_cons_self
  · exact Or.inl (herror ▸ he)

/-- **A move makes no error but of what has been said.** -/
theorem comes_move (hm : pc.move v m = some pc') : Comes v pc m pc' := by
  cases pc with
  | opening =>
    cases m <;> simp only [move, reduceCtorEq, Option.some.injEq] at hm
    case opened => exact hm ▸ .of_eq_nil rfl rfl
    case openFailed message =>
      exact hm ▸ .of_error_eq_some rfl (by decide) List.mem_cons_self rfl
  | openingReader =>
    cases m <;> simp only [move, reduceCtorEq, Option.some.injEq] at hm
    case readerOpened => exact hm ▸ .of_eq_nil rfl rfl
    case readerFailed message => exact hm ▸ .of_error_eq_none (fun _ h => h) rfl
  | closingUnopened message =>
    cases m <;> simp only [move, reduceCtorEq] at hm
    case closedUnopened closeError =>
      split at hm
      · obtain rfl := Option.some.inj hm
        exact .of_error_eq_some rfl (by decide)
          (List.mem_append_right _ (List.mem_singleton_self _)) rfl
      · obtain rfl := Option.some.inj hm
        exact .of_error_eq_some rfl (by decide) List.mem_cons_self rfl
  | head batch =>
    cases m <;> simp only [move, reduceCtorEq, Option.some.injEq] at hm
    case testHead =>
      subst hm
      split <;> exact .of_eq_nil rfl rfl
  | reading batch =>
    cases m <;> simp only [move, reduceCtorEq] at hm
    case read rows ending =>
      split_ifs at hm
      · exact Option.some.inj hm ▸ .afterAppend fun _ h => h
      · exact Option.some.inj hm ▸ .of_error_eq_none (fun _ h => h) rfl
  | recording batch rows ending =>
    cases m <;> simp only [move, reduceCtorEq, Option.some.injEq] at hm
    case recordRead =>
      exact hm ▸ .of_error_eq_none (fun _ h => List.mem_append_left _ h) rfl
  | appending batch rows ending =>
    cases m <;> simp only [move, reduceCtorEq] at hm
    case appendRows =>
      split_ifs at hm
      · exact Option.some.inj hm ▸ .afterAppend fun _ h => List.mem_append_left _ h
      · exact Option.some.inj hm ▸ .of_eq_nil rfl rfl
      · exact Option.some.inj hm ▸ .of_error_eq_none (fun _ h => List.mem_append_left _ h) rfl
      · exact Option.some.inj hm ▸ .of_error_eq_none (fun _ h => List.mem_append_left _ h) rfl
  | sending batch back place =>
    have hstays : ∀ {place' : SendPc}, Comes v (sending batch back place) m (sending batch back place') :=
      .of_error_eq_none (fun _ h => List.mem_append_left _ h) rfl
    cases place <;> cases m <;>
      simp only [move, reduceCtorEq, Option.some.injEq, Option.ite_none_right_eq_some] at hm
    case test.testSend =>
      subst hm
      split
      · exact .afterSend
      · exact hstays
    case recordTry.recordTry => exact hm ▸ .afterSend
    case unflag.clearBlocked sent => exact hm ▸ .afterSend
    case trying.trySend sent => exact hm.2 ▸ hstays
    case waiting.waitSend id sent => exact hm.2 ▸ hstays
    case waiting.waitCanceled id => exact hm.2 ▸ hstays
    all_goals exact hm ▸ hstays
  | tail batch =>
    cases m <;> simp only [move, reduceCtorEq, Option.some.injEq] at hm
    case sendTail =>
      subst hm
      split <;> exact .of_eq_nil rfl rfl
  | closing error =>
    cases m <;> simp only [move, reduceCtorEq, Option.some.injEq] at hm
    case testClosing => exact hm ▸ ⟨fun _ h => absurd h List.not_mem_nil, fun e he => Or.inl he⟩
  | closingReader error cancelled =>
    cases m <;> simp only [move, reduceCtorEq, Option.some.injEq] at hm
    case closedReader closeError => exact hm ▸ .orClose rfl rfl (by decide) rfl rfl
  | closingFile error cancelled =>
    cases m <;> simp only [move, reduceCtorEq, Option.some.injEq] at hm
    case closedFile closeError => exact hm ▸ .orClose rfl rfl (by decide) rfl rfl
  | returned error => cases m <;> simp only [move, reduceCtorEq] at hm

end ReadPc

/-! ### The pool -/

/-- Where a worker stands nothing has come from elsewhere: its file meets the condition, the
error it has found is about such a file, and what has been said is something. -/
def ReaderWorkerPc.Traced (Fits : Path → Prop) : ReaderWorkerPc → Prop
  | file path pc => Fits path ∧ (∀ error ∈ pc.error, error.MadeOf Fits) ∧
      ∀ text ∈ pc.texts, text ≠ ""
  | reporting _ error | pushing _ error => error.MadeOf Fits
  | _ => True

@[simp] theorem ReaderWorkerPc.traced_broadcast {Fits : Path → Prop} (pc : ReaderWorkerPc) :
    pc.broadcast.Traced Fits ↔ pc.Traced Fits := by
  cases pc <;> exact Iff.rfl

namespace ReaderPool

variable {Fits : Path → Prop} {p : ReaderPool} {sh : Memory} {a : Action}

/-- **Every error of the pool is about one of its files**, and these meet the condition. -/
structure Traced (Fits : Path → Prop) (p : ReaderPool) : Prop where
  files : ∀ path ∈ p.files, Fits path
  worker : ∀ w, (p.worker w).pc.Traced Fits
  sourceErrors : ∀ error ∈ p.sourceErrors, error.MadeOf Fits

/-- What the operating system says in an action. -/
def Action.texts : Action → List String
  | .read _ _ _ move => move.texts
  | _ => []

/-- The file that is claimed next is one of the pool. -/
theorem getD_mem_of_nextIndex {index : ℕ} (h : p.nextIndex = some index) :
    p.files.getD index [] ∈ p.files := by
  obtain ⟨offset, hoffset, rfl⟩ := List.mem_map.mp (List.mem_of_find?_eq_some h)
  have hlt : (p.nextFile + offset) % p.files.length < p.files.length :=
    Nat.mod_lt _ (Nat.zero_lt_of_lt (List.mem_range.mp hoffset))
  rw [List.getD_eq_getElem?_getD, List.getElem?_eq_getElem hlt, Option.getD_some]
  exact List.getElem_mem hlt

theorem Traced.reconcile (h : p.Traced Fits) (d : ℕ) : (p.reconcile d).Traced Fits := by
  obtain ⟨_, _, _, _, _, heq⟩ := reconcile_frame p d
  refine ⟨by rw [heq]; exact h.files, fun w => ?_, by rw [heq]; exact h.sourceErrors⟩
  rcases reconcile_worker p d w with hcell | ⟨dr, pc, hcell, rfl | rfl⟩
  · rw [hcell]
    trivial
  · rw [hcell]
    exact h.worker w
  · rw [hcell]
    exact (ReaderWorkerPc.traced_broadcast _).mpr (h.worker w)

/-- A pool that has just been started. -/
theorem traced_start (dataPath : Path) (batchSize n : ℕ) {files : List Path}
    (h : ∀ path ∈ files, Fits path) : (start dataPath batchSize n files).Traced Fits := by
  have hempty : (empty files (readerSourceDirectory dataPath) batchSize).Traced Fits :=
    ⟨h, fun _ => trivial, fun error he => absurd he (Option.not_mem_none error)⟩
  exact hempty.reconcile n

/-- A worker that moves on leaves the others where they are. -/
theorem Traced.goto (h : p.Traced Fits) (w : ℕ) (pc : ReaderWorkerPc) (hpc : pc.Traced Fits)
    (v : ℕ) : ((p.goto w pc).worker v).pc.Traced Fits := by
  simp only [ReaderPool.goto, setWorker, update_apply]
  split
  · exact hpc
  · exact h.worker v

theorem Traced.broadcast (h : p.Traced Fits) (v : ℕ) : ((p.broadcast).worker v).pc.Traced Fits :=
  (ReaderWorkerPc.traced_broadcast _).mpr (h.worker v)

/-- Where a worker stands after an action. -/
theorem Traced.worker_next (h : p.Traced Fits) (ha : p.Enabled sh a)
    (htexts : ∀ text ∈ a.texts, text ≠ "") (v : ℕ) : ((p.next sh a).worker v).pc.Traced Fits := by
  have hat : ∀ {w : ℕ} {pc : ReaderWorkerPc}, p.At w pc → pc.Traced Fits :=
    fun hpc => hpc.2 ▸ h.worker _
  cases a with
  | reconcile d => exact (h.reconcile d).worker v
  | receiveError error => exact h.worker v
  | stopMark => exact h.broadcast v
  | cancel => exact h.worker v
  | watcherWoken => exact h.worker v
  | watcherMark => exact h.broadcast v
  | watcherJoined => exact h.worker v
  | claimQuit w => exact h.goto w .exiting trivial v
  | claim w index =>
    simp only [next, claimFile, setWorker, update_apply]
    split
    · exact ⟨h.files _ (getD_mem_of_nextIndex ha.2.2),
        fun error he => absurd he (Option.not_mem_none error),
        fun text hmem => absurd hmem List.not_mem_nil⟩
    · exact h.worker v
  | claimPark w => exact h.goto w .parked trivial v
  | read w path pc move =>
    obtain ⟨hpc, hmove⟩ := ha
    obtain ⟨pc', hpc'⟩ := Option.isSome_iff_exists.mp hmove
    obtain ⟨hfits, herror, htold⟩ := hat hpc
    have hcomes := ReadPc.comes_move hpc'
    have hsaid : ∀ text ∈ pc.texts ++ move.texts, text ≠ "" := fun text hmem =>
      (List.mem_append.mp hmem).elim (htold text) (htexts text)
    simp only [next, setWorker, update_apply, hpc', Option.getD_some]
    split
    · refine ⟨hfits, fun error he => ?_, fun text hmem => hsaid text (hcomes.texts text hmem)⟩
      rcases hcomes.error error he with hold | ⟨operation, hoperation, message, hmem, rfl⟩
      · exact herror error hold
      · exact ⟨_, operation, hoperation, path, hfits, message, hsaid message hmem, rfl⟩
    · exact h.worker v
  | readDone w path => exact h.goto w (.releasing path) trivial v
  | readFailed w path error => exact h.goto w (.reporting path error) ((hat ha).2.1 error rfl) v
  | reportFirst w path error =>
    have hreporting := hat ha.1
    exact h.goto w (.pushing path error) hreporting v
  | reportAgain w path error => exact h.goto w (.releasing path) trivial v
  | push w path error => exact h.goto w (.cancelling path) trivial v
  | cancelPool w path => exact h.goto w (.marking path) trivial v
  | mark w path => exact (ReaderWorkerPc.traced_broadcast _).mpr (h.goto w (.releasing path) trivial v)
  | release w path =>
    refine (ReaderWorkerPc.traced_broadcast _).mpr ?_
    simp only [setWorker, update_apply]
    split
    · trivial
    · exact h.worker v
  | check w =>
    refine h.goto w _ ?_ v
    split <;> trivial
  | exitWorker w =>
    simp only [next, ReaderPool.goto, setWorker, exitWorker_eq]
    split <;> simp only [update_apply] <;> split_ifs <;> first | trivial | exact h.worker v
  | releaseWg w => exact h.goto w .exited trivial v

/-- **No action brings an error from elsewhere.** -/
theorem Traced.next (h : p.Traced Fits) (ha : p.Enabled sh a)
    (htexts : ∀ text ∈ a.texts, text ≠ "") : (p.next sh a).Traced Fits where
  files := by
    rw [files_next]
    exact h.files
  worker := h.worker_next ha htexts
  sourceErrors := by
    cases a with
    | reconcile d => exact (h.reconcile d).sourceErrors
    | receiveError error => exact fun error' he => absurd he (Option.not_mem_none error')
    | push w path error =>
      rintro _ ⟨⟩
      have hpushing := h.worker w
      rwa [ha.1.2] at hpushing
    | exitWorker w =>
      simp only [ReaderPool.next, ReaderPool.goto, setWorker, exitWorker_eq]
      split <;> exact h.sourceErrors
    | _ => exact h.sourceErrors

end ReaderPool

end IngestionLab
