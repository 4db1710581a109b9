import IngestionLab.Loadgen.ReaderPool.Steps
import IngestionLab.Machine.RoundRobin

/-!
# Who owns which file

A reader worker owns the file it has claimed until it releases it; the pool keeps the
set of claimed files in `active`. What an action does to ownership is said once
(`IngestionLab.ReaderPool.owns_next`, with `IngestionLab.ReaderPool.owns_claim` and
`IngestionLab.ReaderPool.owns_release` for the two actions that change it), and from it
that the two accounts agree and that no file has two owners
(`IngestionLab.ReaderPool.Exclusive`).

The claims go round the files (`IngestionLab.RoundRobin`): a file that no one holds is
some way ahead of the cursor, and every claim of another file brings the cursor nearer
to it. Releases do not move the cursor, so they do not matter.

The main result is `IngestionLab.ReaderPool.claims_exclusive_and_fair`.
-/

namespace IngestionLab

open Function RoundRobin

/-- The file a worker owns. -/
def ReaderWorkerPc.ownedFile? : ReaderWorkerPc → Option Go.Path
  | file path _ | reporting path _ | pushing path _ | cancelling path | marking path
  | releasing path => some path
  | claim | parked | checking | exiting | removed | exited => none

namespace ReaderPool

variable {p : ReaderPool} {sh : Memory} {w v : ℕ} {path : Go.Path} {a : Action}

/-- A started worker owns a file. -/
def Owns (p : ReaderPool) (w : ℕ) (path : Go.Path) : Prop :=
  w < p.started ∧ (p.worker w).pc.ownedFile? = some path

/-! ### What an action does to ownership -/

@[simp] theorem ownedFile?_broadcast (pc : ReaderWorkerPc) :
    pc.broadcast.ownedFile? = pc.ownedFile? := by
  cases pc <;> rfl

/-- `reconcile` takes no file from a worker and gives none to those it starts. -/
theorem owns_reconcile (p : ReaderPool) (d v : ℕ) (path : Go.Path) :
    (p.reconcile d).Owns v path ↔ p.Owns v path := by
  by_cases hs : p.stopping = true ∨ p.cancelled = true
  · rw [reconcile_of_stopped hs]
  simp only [not_or, Bool.not_eq_true] at hs
  obtain ⟨cell, heq, hnew, hold⟩ := exists_reconcile_eq hs.1 hs.2 d
  rw [heq]
  simp only [Owns]
  by_cases hv : p.started ≤ v ∧ v < p.started + (d - p.workers.length)
  · rw [hnew v hv.1 hv.2]
    exact ⟨fun h => absurd h.2 nofun, fun h => by omega⟩
  · simp only [hold v hv, ownedFile?_broadcast]
    exact and_congr_left fun _ => by omega

/-- Only a claim and a release change who owns what. -/
theorem owns_next (hclaim : ∀ w index, a ≠ .claim w index)
    (hrelease : ∀ w path, a ≠ .release w path) (ha : p.Enabled sh a) :
    (p.next sh a).Owns v path ↔ p.Owns v path := by
  cases a
  case reconcile d => exact owns_reconcile p d v path
  case claim w index => exact absurd rfl (hclaim w index)
  case release w path => exact absurd rfl (hrelease w path)
  case exitWorker w =>
    obtain ⟨hlt, hpc⟩ := ha
    simp only [next, exitWorker_eq]
    split <;>
    · simp only [Owns, goto, setWorker, update_apply]
      grind [ReaderWorkerPc.ownedFile?]
  case stopMark => simp only [Owns, next, markStopping, broadcast, ownedFile?_broadcast]
  case watcherMark => simp only [Owns, next, markStopping, broadcast, ownedFile?_broadcast]
  all_goals first
    | rfl
    | (simp only [Enabled, At, Owns, next, goto, setWorker, broadcast, markStopping,
        ownedFile?_broadcast, update_apply] at ha ⊢
       grind [ReaderWorkerPc.ownedFile?])

/-- Only a claim and a release change the set of active files. -/
theorem active_next (hclaim : ∀ w index, a ≠ .claim w index)
    (hrelease : ∀ w path, a ≠ .release w path) : (p.next sh a).active = p.active := by
  cases a
  case reconcile d =>
    obtain ⟨_, _, _, _, _, h⟩ := reconcile_frame p d
    simp [next, h]
  case claim w index => exact absurd rfl (hclaim w index)
  case release w path => exact absurd rfl (hrelease w path)
  case exitWorker w =>
    simp only [next, exitWorker_eq]
    split <;> rfl
  all_goals rfl

/-- A claim adds its file to those of the worker, which had none. -/
theorem owns_claim {index : ℕ} (ha : p.Enabled sh (.claim w index)) :
    (p.next sh (.claim w index)).Owns v path ↔
      p.Owns v path ∨ v = w ∧ path = p.files.getD index [] := by
  obtain ⟨⟨hlt, hpc⟩, -, -⟩ := ha
  simp only [Owns, next, claimFile, setWorker, update_apply]
  grind [ReaderWorkerPc.ownedFile?]

/-- A release takes the file of the worker. -/
theorem owns_release {released : Go.Path} (ha : p.Enabled sh (.release w released)) :
    (p.next sh (.release w released)).Owns v path ↔ p.Owns v path ∧ v ≠ w := by
  obtain ⟨hlt, hpc⟩ := ha
  simp only [Owns, next, releaseFileLocked, broadcast, setWorker, ownedFile?_broadcast,
    update_apply]
  grind [ReaderWorkerPc.ownedFile?]

/-- **A worker comes to own a file by a claim only**, and a draining worker does not
claim. -/
theorem claim_of_owns_next (ha : p.Enabled sh a) (h : (p.next sh a).Owns w path)
    (hnot : ¬p.Owns w path) : (∃ index, a = .claim w index) ∧ (p.worker w).draining = false := by
  by_cases hclaim : ∃ v index, a = .claim v index
  · obtain ⟨v, index, rfl⟩ := hclaim
    rcases (owns_claim ha).mp h with hc | ⟨rfl, -⟩
    · exact absurd hc hnot
    · have hgo := ha.2.1
      simp only [Bool.or_eq_false_iff] at hgo
      exact ⟨⟨index, rfl⟩, hgo.2⟩
  by_cases hrelease : ∃ v q, a = .release v q
  · obtain ⟨v, q, rfl⟩ := hrelease
    exact absurd ((owns_release ha).mp h).1 hnot
  · exact absurd ((owns_next (fun v i e => hclaim ⟨v, i, e⟩)
      (fun v q e => hrelease ⟨v, q, e⟩) ha).mp h) hnot

/-! ### Exclusive ownership -/

/-- **Ownership is exclusive**: the active files are those of the workers, and each has
one owner. -/
structure Exclusive (p : ReaderPool) : Prop where
  active : ∀ path, p.active path = true ↔ ∃ w, p.Owns w path
  unique : ∀ path v w, p.Owns v path → p.Owns w path → v = w

/-- The file a claim takes is not active. -/
theorem active_of_nextIndex {index : ℕ} (h : p.nextIndex = some index) :
    p.active (p.files.getD index []) = false := by
  obtain ⟨-, -, hfree, -⟩ := exists_of_find? h
  simpa using hfree

/-- **Every action keeps ownership exclusive.** -/
theorem Exclusive.next (h : p.Exclusive) (ha : p.Enabled sh a) : (p.next sh a).Exclusive := by
  by_cases hclaim : ∃ w index, a = .claim w index
  · obtain ⟨w, index, rfl⟩ := hclaim
    have hfree := active_of_nextIndex ha.2.2
    have hnone : ∀ v, ¬p.Owns v (p.files.getD index []) := fun v hv => by
      have hactive := (h.active _).mpr ⟨v, hv⟩
      rw [hfree] at hactive
      exact absurd hactive nofun
    constructor
    · intro path
      have hset : (p.next sh (.claim w index)).active =
          update p.active (p.files.getD index []) true := rfl
      simp only [hset, owns_claim ha, exists_or, ← h.active path, update_apply]
      grind
    · intro path u v hu hv
      rw [owns_claim ha] at hu hv
      rcases hu with hu | ⟨rfl, rfl⟩ <;> rcases hv with hv | ⟨rfl, hfile⟩
      · exact h.unique path u v hu hv
      · exact absurd (hfile ▸ hu) (hnone u)
      · exact absurd hv (hnone v)
      · rfl
  by_cases hrelease : ∃ w q, a = .release w q
  · obtain ⟨w, q, rfl⟩ := hrelease
    have howns : p.Owns w q := ⟨ha.1, by rw [ha.2]; rfl⟩
    constructor
    · intro path
      have hset : (p.next sh (.release w q)).active = update p.active q false := rfl
      simp only [hset, owns_release ha, update_apply]
      split
      · -- only the worker that releases the file had it
        rename_i hq
        subst hq
        exact ⟨nofun, fun ⟨v, hv, hne⟩ => absurd (h.unique path v w hv howns) hne⟩
      · rename_i hq
        rw [h.active path]
        refine exists_congr fun v => (and_iff_left_of_imp ?_).symm
        rintro hv rfl
        exact hq (Option.some.inj (hv.2.symm.trans howns.2))
    · intro path u v hu hv
      rw [owns_release ha] at hu hv
      exact h.unique path u v hu.1 hv.1
  · have hown : ∀ v path, (p.next sh a).Owns v path ↔ p.Owns v path := fun v path =>
      owns_next (fun w i e => hclaim ⟨w, i, e⟩) (fun w q e => hrelease ⟨w, q, e⟩) ha
    have hactive : (p.next sh a).active = p.active :=
      active_next (fun w i e => hclaim ⟨w, i, e⟩) (fun w q e => hrelease ⟨w, q, e⟩)
    constructor
    · intro path
      simp only [hactive, hown, h.active path]
    · intro path u v hu hv
      exact h.unique path u v ((hown u path).mp hu) ((hown v path).mp hv)

/-- In a pool that has just been started no one owns a file. -/
theorem exclusive_start (dataPath : Go.Path) (batchSize n : ℕ) (files : List Go.Path) :
    (start dataPath batchSize n files).Exclusive := by
  have hempty : (empty files (readerSourceDirectory dataPath) batchSize).Exclusive :=
    ⟨fun path => ⟨nofun, fun ⟨w, hw⟩ => absurd hw.1 (Nat.not_lt_zero w)⟩,
      fun path v w hv => absurd hv.1 (Nat.not_lt_zero v)⟩
  by_cases hn : 1 ≤ n
  · have hask : (empty files (readerSourceDirectory dataPath) batchSize).Enabled {}
        (.reconcile n) := hn
    exact hempty.next hask
  · obtain rfl : n = 0 := by omega
    exact hempty

/-! ### Fairness -/

/-- The action is a claim that succeeds. -/
def Action.isClaim : Action → Bool
  | .claim _ _ => true
  | _ => false

/-- How many claims succeed in a run. -/
def claims (as : List (Memory ⊕ Action)) : ℕ :=
  as.countP fun a => a.elim (fun _ => false) Action.isClaim

/-- The list of files never changes. -/
theorem files_next : (p.next sh a).files = p.files := by
  cases a
  case reconcile d =>
    obtain ⟨_, _, _, _, _, h⟩ := reconcile_frame p d
    simp [next, h]
  case exitWorker w =>
    simp only [next, exitWorker_eq]
    split <;> rfl
  all_goals rfl

/-- Only a claim moves the cursor. -/
theorem nextFile_next (ha : a.isClaim = false) : (p.next sh a).nextFile = p.nextFile := by
  cases a
  case reconcile d =>
    obtain ⟨_, _, _, _, _, h⟩ := reconcile_frame p d
    simp [next, h]
  case exitWorker w =>
    simp only [next, exitWorker_eq]
    split <;> rfl
  case claim w index => exact absurd ha (by rintro ⟨⟩)
  all_goals rfl

/-- Only a claim makes a file active. -/
theorem inactive_next (ha : a.isClaim = false) (h : p.active path = false) :
    (p.next sh a).active path = false := by
  by_cases hrelease : ∃ w q, a = .release w q
  · obtain ⟨w, q, rfl⟩ := hrelease
    have hset : (p.next sh (.release w q)).active = update p.active q false := rfl
    rw [hset, update_apply]
    split
    · rfl
    · exact h
  · rw [active_next (fun w i e => absurd (e ▸ ha) nofun) (fun w q e => hrelease ⟨w, q, e⟩)]
    exact h

/-- Within the run the file is claimed, after at most `g` other claims. -/
def ClaimedAfter (s : Memory × ReaderPool) (as : List (Memory ⊕ Action)) (path : Go.Path)
    (g : ℕ) : Prop :=
  ∃ bs w index cs, as = bs ++ .inr (.claim w index) :: cs ∧ claims bs ≤ g ∧
    (machine.after s bs).2.active path = false ∧
    (machine.after s (bs ++ [.inr (.claim w index)])).2.Owns w path

theorem claims_cons (a : Memory ⊕ Action) (as : List (Memory ⊕ Action)) :
    claims (a :: as) = claims [a] + claims as := by
  show claims ([a] ++ as) = claims [a] + claims as
  exact List.countP_append

theorem ClaimedAfter.cons {s : Memory × ReaderPool} {a : Memory ⊕ Action}
    {as : List (Memory ⊕ Action)} {g : ℕ} (h : ClaimedAfter (machine.next s a) as path g) :
    ClaimedAfter s (a :: as) path (claims [a] + g) := by
  obtain ⟨bs, w, index, cs, rfl, hbs, hbefore, hown⟩ := h
  refine ⟨a :: bs, w, index, cs, rfl, ?_, hbefore, hown⟩
  rw [claims_cons]
  omega

theorem ClaimedAfter.mono {s : Memory × ReaderPool} {as : List (Memory ⊕ Action)} {g g' : ℕ}
    (h : ClaimedAfter s as path g) (hg : g ≤ g') : ClaimedAfter s as path g' := by
  obtain ⟨bs, w, index, cs, has, hbs, hrest⟩ := h
  exact ⟨bs, w, index, cs, has, hbs.trans hg, hrest⟩

/-- **A file `g` ahead of the cursor is claimed after at most `g` other claims.** The
induction is on the run; a claim of another file brings the cursor nearer. -/
theorem claimed_of_ahead {s : Memory × ReaderPool} {as : List (Memory ⊕ Action)} {place g : ℕ}
    (hplace : Ahead s.2.nextFile s.2.files.length place g)
    (hpath : s.2.files.getD place [] = path) (hfree : s.2.active path = false)
    (hrun : machine.Run s as) (hmany : g < claims as) : ClaimedAfter s as path g := by
  induction as generalizing s g with
  | nil => exact absurd hmany (Nat.not_lt_zero g)
  | cons a as ih =>
    obtain ⟨ha, hrest⟩ := hrun
    rw [claims_cons] at hmany
    rcases a with sh | a
    · have hzero : claims [.inl sh] = 0 := rfl
      have hmore := ih (s := machine.next s (.inl sh)) hplace hpath hfree hrest (by omega)
      exact hmore.cons.mono (by omega)
    by_cases hclaim : a.isClaim = true
    · obtain ⟨w, index, rfl⟩ : ∃ w index, a = .claim w index := by
        cases a
        case claim w index => exact ⟨w, index, rfl⟩
        all_goals exact absurd hclaim nofun
      have henabled : s.2.Enabled s.1 (.claim w index) := ha
      have hone : claims [.inr (.claim w index)] = 1 := rfl
      by_cases hhit : s.2.files.getD index [] = path
      · exact ⟨[], w, index, as, rfl, Nat.zero_le g, hfree,
          (owns_claim henabled).mpr (Or.inr ⟨rfl, hhit.symm⟩)⟩
      obtain hc | ⟨g', hlt, hnear⟩ := hplace.chosen_or_nearer
        (show (!s.2.active (s.2.files.getD place [])) = true by rw [hpath, hfree]; rfl)
        henabled.2.2
      · exact absurd (hc ▸ hpath) hhit
      have hidle : (machine.next s (.inr (.claim w index))).2.active path = false :=
        (update_of_ne (Ne.symm hhit) ..).trans hfree
      have hmore := ih (s := machine.next s (.inr (.claim w index))) hnear hpath hidle hrest
        (by omega)
      exact hmore.cons.mono (by omega)
    · have hno : a.isClaim = false := by simpa using hclaim
      have hzero : claims [.inr a] = 0 := by simp [claims, hno]
      have hplace' : Ahead (s.2.next s.1 a).nextFile (s.2.next s.1 a).files.length place g := by
        rwa [nextFile_next hno, files_next]
      have hpath' : (s.2.next s.1 a).files.getD place [] = path := by rwa [files_next]
      have hmore := ih (s := machine.next s (.inr a)) hplace' hpath' (inactive_next hno hfree)
        hrest (by omega)
      exact hmore.cons.mono (by omega)

/-! ### The main result -/

/-- Reachable pools keep the files they were started with, and ownership exclusive. -/
theorem exclusive_of_reachable {sh : Memory} {p : ReaderPool} {s : Memory × ReaderPool}
    (h : p.Exclusive) (hreach : machine.Reachable (sh, p) s) :
    s.2.Exclusive ∧ s.2.files = p.files := by
  refine hreach.invariant (I := fun s => s.2.Exclusive ∧ s.2.files = p.files) ?_ ⟨h, rfl⟩
  rintro s (sh' | a) ⟨hexclusive, hfiles⟩ ha
  · exact ⟨hexclusive, hfiles⟩
  · exact ⟨hexclusive.next ha, files_next.trans hfiles⟩

/-- **The claims of files are exclusive and fair.** In every state a pool started on
some files reaches:

* no file has two owners, and the active files are exactly the files owned;
* whoever comes to own a file claims it, and is not draining;
* a file that is not active is owned by the end of the `n`-th claim from now on, `n`
being the number of files, whatever else happens meanwhile. -/
theorem claims_exclusive_and_fair {dataPath : Go.Path} {batchSize workers : ℕ}
    {files : List Go.Path} {sh : Memory} {p : ReaderPool} {s : Memory × ReaderPool}
    (hstart : startReaderPool dataPath batchSize workers (.ok files) = .ok p)
    (hreach : machine.Reachable (sh, p) s) :
    (∀ path v w, s.2.Owns v path → s.2.Owns w path → v = w) ∧
      (∀ path, s.2.active path = true ↔ ∃ w, s.2.Owns w path) ∧
      (∀ a w path, machine.Enabled s a → (machine.next s a).2.Owns w path → ¬s.2.Owns w path →
        (∃ index, a = .inr (.claim w index)) ∧ (s.2.worker w).draining = false) ∧
      ∀ path ∈ files, s.2.active path = false → ∀ as, machine.Run s as →
        files.length ≤ claims as →
        ∃ bs w index cs, as = bs ++ .inr (.claim w index) :: cs ∧ claims bs < files.length ∧
          (machine.after s bs).2.active path = false ∧
          (machine.after s (bs ++ [.inr (.claim w index)])).2.Owns w path := by
  obtain ⟨sorted, hsorted, rfl⟩ : ∃ sorted, sorted.Perm files ∧
      p = start dataPath batchSize workers sorted := by
    simp only [startReaderPool, sourceFiles] at hstart
    split at hstart
    · exact absurd hstart nofun
    · exact ⟨_, List.perm_insertionSort _ files, (Except.ok.inj hstart).symm⟩
  obtain ⟨hexclusive, hkept⟩ :=
    exclusive_of_reachable (exclusive_start dataPath batchSize workers sorted) hreach
  have hfiles : s.2.files = sorted := by
    refine hkept.trans ?_
    obtain ⟨_, _, _, _, _, h⟩ :=
      reconcile_frame (empty sorted (readerSourceDirectory dataPath) batchSize) workers
    rw [start, h]
    rfl
  refine ⟨hexclusive.unique, hexclusive.active, ?_, ?_⟩
  · rintro (sh' | a) w path ha hown hnot
    · exact absurd hown hnot
    · obtain ⟨⟨index, rfl⟩, hdrain⟩ := claim_of_owns_next ha hown hnot
      exact ⟨⟨index, rfl⟩, hdrain⟩
  · intro path hmem hfree as hrun hmany
    obtain ⟨place, hlt, hpath⟩ := List.mem_iff_getElem.mp (hsorted.mem_iff.mpr hmem)
    obtain ⟨g, hahead⟩ := exists_ahead s.2.nextFile hlt
    have hlen := hsorted.length_eq
    obtain ⟨bs, w, index, cs, has, hbs, hbefore, hown⟩ :=
      claimed_of_ahead (g := g) (by rwa [hfiles])
        (by simp [hfiles, hlt, hpath]) hfree hrun
        (by have := hahead.1; omega)
    refine ⟨bs, w, index, cs, has, ?_, hbefore, hown⟩
    have := hahead.1
    omega

/-- One worker that is to read two files. -/
def rotatingReader : ReaderPool :=
  start "*.parquet".toList 2 1 (["b.parquet".toList, "a.parquet".toList].insertionSort (· ≤ ·))

/-- It claims the first file, finds it empty, releases it and claims the second. -/
def rotatingRun : List (Memory ⊕ Action) :=
  let path := "a.parquet".toList
  let read pc move := Sum.inr (Action.read 0 path pc move)
  [.inr (.claim 0 0), read .opening .opened, read .openingReader .readerOpened,
    read (.head []) .testHead, read (.reading []) (.read [] .eof), read (.tail []) .sendTail,
    read (.closing none) .testClosing, read (.closingReader none false) (.closedReader none),
    read (.closingFile none false) (.closedFile none), .inr (.readDone 0 path),
    .inr (.release 0 path), .inr (.check 0), .inr (.claim 0 1)]

theorem claims_exclusive_and_fair_rotatingRun :
    ∃ bs w index cs, rotatingRun = bs ++ .inr (.claim w index) :: cs ∧ claims bs < 2 ∧
      (machine.after ({}, rotatingReader) bs).2.active "b.parquet".toList = false ∧
      (machine.after ({}, rotatingReader) (bs ++ [.inr (.claim w index)])).2.Owns w
        "b.parquet".toList :=
  (claims_exclusive_and_fair (show startReaderPool "*.parquet".toList 2 1
      (.ok ["b.parquet".toList, "a.parquet".toList]) = .ok rotatingReader from rfl)
    (.refl ({}, rotatingReader))).2.2.2
    _ List.mem_cons_self (by decide +kernel) rotatingRun (by decide +kernel) (by decide +kernel)

end ReaderPool

end IngestionLab
