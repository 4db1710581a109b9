import Mathlib.Data.List.Infix
import Mathlib.Data.List.DropRight

/-!
# Slash-separated paths

The functions of Go's `path/filepath` the reader uses, for a system whose separator
is the slash. A path is the list of its characters; its elements are what stands
between slashes. `IngestionLab.Go.clean` works on elements, as the documentation of
`filepath.Clean` describes it: empty elements and `.` are dropped, `..` takes away
the element before it, and a `..` that would leave the root is dropped.
-/

namespace IngestionLab

namespace Go

/-- A path. -/
abbrev Path := List Char

/-- The elements between the slashes, empty ones included. -/
def elements (path : Path) : List Path := path.splitOn '/'

/-- The path starts at the root. -/
def isRooted (path : Path) : Bool := path.head? == some '/'

/-- One element added to the cleaned elements before it, which stand in reverse. -/
def cleanStep (rooted : Bool) (reversed : List Path) (element : Path) : List Path :=
  if element = [] ∨ element = ['.'] then reversed
  else if element = ['.', '.'] then
    match reversed with
    | [] => if rooted then [] else [element]
    | previous :: rest => if previous = ['.', '.'] then element :: reversed else rest
  else element :: reversed

/-- The elements of a cleaned path. -/
def cleanElements (path : Path) : List Path :=
  ((elements path).foldl (cleanStep (isRooted path)) []).reverse

/-- Elements with slashes between them. -/
def joinElements : List Path → Path
  | [] => []
  | [element] => element
  | element :: rest => element ++ '/' :: joinElements rest

/-- `filepath.Clean`. -/
def clean (path : Path) : Path :=
  if isRooted path then '/' :: joinElements (cleanElements path)
  else if cleanElements path = [] then ['.'] else joinElements (cleanElements path)

/-- The path up to its last slash, that one included. -/
def upToSlash (path : Path) : Path := path.rdropWhile (· ≠ '/')

/-- `filepath.Dir`. -/
def dir (path : Path) : Path := clean (upToSlash path)

/-- `filepath.Base`: the last element, trailing slashes apart. -/
def base (path : Path) : Path :=
  if path = [] then ['.']
  else
    let stripped := path.rdropWhile (· = '/')
    if stripped = [] then ['/'] else stripped.rtakeWhile (· ≠ '/')

/-- Drop what two lists of elements begin with in common. -/
def dropCommon : List Path → List Path → List Path × List Path
  | b :: bs, t :: ts => if b = t then dropCommon bs ts else (b :: bs, t :: ts)
  | bs, ts => (bs, ts)

/-- `filepath.Rel`: the second path as seen from the first, `none` where there is
none. -/
def rel (basepath targpath : Path) : Option Path :=
  if clean targpath = clean basepath then some ['.']
  else if isRooted basepath ≠ isRooted targpath then none
  else
    let (up, down) := dropCommon (cleanElements basepath) (cleanElements targpath)
    if up.head? = some ['.', '.'] then none
    else some (joinElements (up.map (fun _ => ['.', '.']) ++ down))

/-! ### Elements -/

/-- An element has no slash. -/
theorem notMem_of_mem_elements {path element : Path} (h : element ∈ elements path) :
    '/' ∉ element := by
  induction path generalizing element with
  | nil =>
    rw [List.mem_singleton.mp h]
    exact List.not_mem_nil
  | cons c path ih =>
    rw [elements, List.splitOn_eq_splitOnP, List.splitOnP_cons_eq_if_modifyHead,
      ← List.splitOn_eq_splitOnP] at h
    split at h
    · rcases List.mem_cons.mp h with rfl | h
      · exact List.not_mem_nil
      · exact ih h
    · rename_i hc
      obtain ⟨head, rest, heq⟩ := List.exists_cons_of_ne_nil (List.splitOn_ne_nil '/' path)
      rw [heq, List.modifyHead_cons] at h
      have hrest : ∀ e ∈ head :: rest, '/' ∉ e := fun e he => ih (by rwa [elements, heq])
      rcases List.mem_cons.mp h with rfl | h
      · intro hm
        rcases List.mem_cons.mp hm with rfl | hm
        · exact hc (by simp)
        · exact hrest _ (List.mem_cons_self ..) hm
      · exact hrest _ (List.mem_cons_of_mem _ h)

/-- A base has no slash, unless the path is nothing but slashes. -/
theorem notMem_base {path : Path} (h : ∃ c ∈ path, c ≠ '/') : '/' ∉ base path := by
  obtain ⟨c, hc, hne⟩ := h
  rw [base, if_neg (List.ne_nil_of_mem hc), if_neg]
  · intro hm
    simpa using List.mem_rtakeWhile_imp hm
  · intro hnil
    have hall := List.rdropWhile_eq_nil_iff.mp hnil c hc
    exact hne (by simpa using hall)

/-! ### Cleaned elements -/

theorem mem_cleanStep {rooted : Bool} {reversed : List Path} {element e : Path}
    (h : e ∈ cleanStep rooted reversed element) : e ∈ reversed ∨ e = element ∧ element ≠ [] := by
  have hadded : ¬(element = [] ∨ element = ['.']) → e ∈ element :: reversed →
      e ∈ reversed ∨ e = element ∧ element ≠ [] := fun hkept hmem =>
    (List.mem_cons.mp hmem).symm.imp_right fun heq => ⟨heq, fun hc => hkept (Or.inl hc)⟩
  cases reversed with
  | nil =>
    simp only [cleanStep] at h
    split_ifs at h with hskip
    · exact Or.inl h
    · exact Or.inl h
    · exact hadded hskip h
    · exact hadded hskip h
  | cons previous rest =>
    simp only [cleanStep] at h
    split_ifs at h with hskip
    · exact Or.inl h
    · exact hadded hskip h
    · exact Or.inl (List.mem_cons_of_mem previous h)
    · exact hadded hskip h

/-- **A cleaned element** is not empty and has no slash. -/
theorem of_mem_cleanElements {path e : Path} (h : e ∈ cleanElements path) : e ≠ [] ∧ '/' ∉ e := by
  have hfold : ∀ (es reversed : List Path), (∀ e ∈ es, '/' ∉ e) →
      (∀ e ∈ reversed, e ≠ [] ∧ '/' ∉ e) →
      ∀ e ∈ es.foldl (cleanStep (isRooted path)) reversed, e ≠ [] ∧ '/' ∉ e := by
    intro es
    induction es with
    | nil => exact fun reversed _ hreversed => hreversed
    | cons element es ih =>
      intro reversed hes hreversed
      refine ih _ (fun e he => hes e (List.mem_cons_of_mem element he)) fun e he => ?_
      rcases mem_cleanStep he with hmem | ⟨rfl, hne⟩
      · exact hreversed e hmem
      · exact ⟨hne, hes e List.mem_cons_self⟩
  exact hfold _ [] (fun e => notMem_of_mem_elements) (fun e he => absurd he List.not_mem_nil) e
    (List.mem_reverse.mp h)

/-- The first element is what elements with slashes between them begin with. -/
theorem prefix_joinElements (e : Path) (es : List Path) : e <+: joinElements (e :: es) := by
  cases es with
  | nil => exact List.prefix_rfl
  | cons element rest => exact List.prefix_append ..

theorem head?_joinElements {es : List Path} (h : ∀ e ∈ es, e ≠ [] ∧ '/' ∉ e) :
    (joinElements es).head? ≠ some '/' := by
  cases es with
  | nil => exact nofun
  | cons e es =>
    obtain ⟨hne, hslash⟩ := h e List.mem_cons_self
    obtain ⟨c, e', rfl⟩ := List.exists_cons_of_ne_nil hne
    obtain ⟨rest, hrest⟩ := prefix_joinElements (c :: e') es
    rw [← hrest]
    intro hc
    obtain rfl : c = '/' := Option.some.inj hc
    exact hslash List.mem_cons_self

/-! ### Relative paths -/

theorem mem_dropCommon {bs ts : List Path} :
    (∀ e ∈ (dropCommon bs ts).1, e ∈ bs) ∧ ∀ e ∈ (dropCommon bs ts).2, e ∈ ts := by
  fun_induction dropCommon bs ts with
  | case1 bs t ts ih =>
    exact ⟨fun e he => List.mem_cons_of_mem t (ih.1 e he),
      fun e he => List.mem_cons_of_mem t (ih.2 e he)⟩
  | case2 b bs t ts hne => exact ⟨fun _ he => he, fun _ he => he⟩
  | case3 bs ts _ => exact ⟨fun _ he => he, fun _ he => he⟩

/-- **A relative path** is a dot, or made of elements that are not empty and have no slash. -/
theorem exists_elements_of_rel {basepath targpath relative : Path}
    (h : rel basepath targpath = some relative) :
    relative = ['.'] ∨ ∃ es, relative = joinElements es ∧ ∀ e ∈ es, e ≠ [] ∧ '/' ∉ e := by
  rw [rel] at h
  split_ifs at h with hsame hrooted
  · exact Or.inl (Option.some.inj h).symm
  · dsimp only at h
    split_ifs at h
    refine Or.inr ⟨_, (Option.some.inj h).symm, fun e he => ?_⟩
    rcases List.mem_append.mp he with hup | hdown
    · obtain ⟨-, -, rfl⟩ := List.mem_map.mp hup
      exact ⟨List.cons_ne_nil _ _, by decide⟩
    · exact of_mem_cleanElements (mem_dropCommon.2 e hdown)

/-! ### Slashes only -/

theorem elements_replicate (n : ℕ) :
    elements (List.replicate n '/') = List.replicate (n + 1) [] := by
  induction n with
  | zero => rfl
  | succ n ih =>
    rw [List.replicate_succ, elements, List.splitOn_eq_splitOnP, List.splitOnP_cons_eq_if_modifyHead,
      if_pos (beq_self_eq_true '/'), ← List.splitOn_eq_splitOnP, ← elements, ih]
    rfl

theorem cleanElements_of_slashes {path : Path} (h : ∀ c ∈ path, c = '/') :
    cleanElements path = [] := by
  have hstep : ∀ n, (List.replicate n ([] : Path)).foldl (cleanStep (isRooted path)) [] = [] := by
    intro n
    induction n with
    | zero => rfl
    | succ n ih => exact ih
  rw [cleanElements]
  conv_lhs => rw [List.eq_replicate_of_mem h]
  rw [elements_replicate, ← List.eq_replicate_of_mem h, hstep]
  rfl

/-- The base of a path of slashes is a slash. -/
theorem base_of_slashes {path : Path} (hne : path ≠ []) (h : ∀ c ∈ path, c = '/') :
    base path = ['/'] := by
  rw [base, if_neg hne, if_pos]
  exact List.rdropWhile_eq_nil_iff.mpr fun c hc => decide_eq_true (h c hc)

theorem base_ne_nil (path : Path) : base path ≠ [] := by
  rw [base]
  dsimp only
  split_ifs with hnil hstripped
  · exact List.cons_ne_nil _ _
  · exact List.cons_ne_nil _ _
  · intro hc
    have hlast := List.rdropWhile_last_not (fun c => decide (c = '/')) path hstripped
    have hall := List.rtakeWhile_eq_nil_iff.mp hc hstripped
    simp at hlast hall
    exact hlast hall

/-- **From anywhere, the root** is some way up. -/
theorem rel_of_slashes {basepath targpath relative : Path} (h : ∀ c ∈ targpath, c = '/')
    (hrel : rel basepath targpath = some relative) :
    relative = ['.'] ∨ relative = [] ∨ relative = ['.', '.'] ∨ ['.', '.', '/'] <+: relative := by
  rw [rel] at hrel
  split_ifs at hrel with hsame hrooted
  · exact Or.inl (Option.some.inj hrel).symm
  · dsimp only at hrel
    split_ifs at hrel
    refine Or.inr ?_
    have hdown : (dropCommon (cleanElements basepath) (cleanElements targpath)).2 = [] := by
      refine List.eq_nil_iff_forall_not_mem.mpr fun e he => ?_
      have hmem := mem_dropCommon.2 e he
      rw [cleanElements_of_slashes h] at hmem
      exact absurd hmem List.not_mem_nil
    rw [hdown, List.append_nil] at hrel
    rw [← Option.some.inj hrel]
    cases (dropCommon (cleanElements basepath) (cleanElements targpath)).1 with
    | nil => exact Or.inl rfl
    | cons e es =>
      cases es with
      | nil => exact Or.inr (Or.inl rfl)
      | cons e' es => exact Or.inr (Or.inr ⟨_, rfl⟩)

end Go

end IngestionLab
