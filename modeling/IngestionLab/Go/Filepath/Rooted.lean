import IngestionLab.Go.Filepath

/-!
# Rooted paths

A path that starts at the root says, once cleaned, nothing but a list of names:
`IngestionLab.Go.root` is the cleaned path with given names, and the functions of
`IngestionLab.Go.Filepath` are described here by what they do to that list. The
directory of a path drops the last name, its base is the last name, and what lies
below a directory is seen from it as the names that are left
(`IngestionLab.Go.rel_root`).
-/

namespace IngestionLab

namespace Go

/-- **A name**: an element that `clean` keeps wherever it stands. -/
structure IsName (element : Path) : Prop where
  ne_nil : element ≠ []
  ne_dot : element ≠ ['.']
  ne_dotdot : element ≠ ['.', '.']
  noSlash : '/' ∉ element

theorem isName_iff {element : Path} : IsName element ↔
    element ≠ [] ∧ element ≠ ['.'] ∧ element ≠ ['.', '.'] ∧ '/' ∉ element :=
  ⟨fun h => ⟨h.ne_nil, h.ne_dot, h.ne_dotdot, h.noSlash⟩,
    fun h => ⟨h.1, h.2.1, h.2.2.1, h.2.2.2⟩⟩

instance {element : Path} : Decidable (IsName element) := decidable_of_iff' _ isName_iff

/-- The cleaned path from the root through the given names. -/
def root (names : List Path) : Path := '/' :: joinElements names

/-- `filepath.Join` of two paths that are not empty. -/
def join (first second : Path) : Path := clean (first ++ '/' :: second)

/-- What follows the last slash: the file of `filepath.Split`. -/
def afterSlash (path : Path) : Path := path.rtakeWhile (· ≠ '/')

/-! ### Elements -/

theorem elements_of_notMem {path : Path} (h : '/' ∉ path) : elements path = [path] :=
  List.splitOn_eq_singleton h

theorem elements_append (a b : Path) : elements (a ++ '/' :: b) = elements a ++ elements b :=
  List.splitOn_append_cons_self a b

@[simp] theorem joinElements_cons_cons (e e' : Path) (es : List Path) :
    joinElements (e :: e' :: es) = e ++ '/' :: joinElements (e' :: es) := rfl

theorem joinElements_eq_intercalate (es : List Path) :
    joinElements es = ['/'].intercalate es := by
  induction es with
  | nil => rfl
  | cons e es ih =>
    cases es with
    | nil => simp [joinElements]
    | cons e' es => rw [joinElements_cons_cons, ih, List.intercalate_cons_cons, List.append_assoc]; rfl

theorem elements_joinElements {es : List Path} (hne : es ≠ []) (h : ∀ e ∈ es, '/' ∉ e) :
    elements (joinElements es) = es := by
  rw [joinElements_eq_intercalate]
  exact List.splitOn_intercalate '/' h hne

theorem length_le_joinElements {es : List Path} (h : ∀ e ∈ es, e ≠ []) :
    es.length ≤ (joinElements es).length := by
  induction es with
  | nil => exact le_rfl
  | cons e es ih =>
    have hpos : 0 < e.length := List.length_pos_iff.mpr (h e List.mem_cons_self)
    cases es with
    | nil => exact hpos
    | cons e' es =>
      have hrest := ih fun d hd => h d (List.mem_cons_of_mem e hd)
      simp only [joinElements_cons_cons, List.length_append, List.length_cons] at hrest ⊢
      omega

theorem mem_joinElements {es : List Path} {e : Path} {c : Char} (hc : c ∈ e) (he : e ∈ es) :
    c ∈ joinElements es := by
  induction es with
  | nil => cases he
  | cons e' es ih =>
    cases es with
    | nil => rwa [List.mem_singleton.mp he] at hc
    | cons e'' es =>
      rw [joinElements_cons_cons]
      rcases List.mem_cons.mp he with rfl | he
      · exact List.mem_append_left _ hc
      · exact List.mem_append_right _ (List.mem_cons_of_mem _ (ih he))

/-- The elements of a path are made of its characters. -/
theorem mem_of_mem_elements {path element : Path} {c : Char} (hc : c ∈ element)
    (h : element ∈ elements path) : c ∈ path := by
  have hjoin : joinElements (elements path) = path := by
    rw [joinElements_eq_intercalate]
    exact List.intercalate_splitOn '/'
  rw [← hjoin]
  exact mem_joinElements hc h

/-- A path is what stands up to its last slash and what follows it. -/
theorem upToSlash_append_afterSlash (path : Path) : upToSlash path ++ afterSlash path = path :=
  List.rdropWhile_append_rtakeWhile

theorem notMem_afterSlash (path : Path) : '/' ∉ afterSlash path := by
  intro h
  simpa using List.mem_rtakeWhile_imp h

/-- **A rooted path has a last slash.** -/
theorem exists_upToSlash {path : Path} (h : isRooted path) :
    ∃ above, upToSlash path = above ++ ['/'] ∧ path = above ++ '/' :: afterSlash path := by
  have hne : upToSlash path ≠ [] := by
    rw [upToSlash, Ne, List.rdropWhile_eq_nil_iff]
    intro hall
    cases path with
    | nil => cases h
    | cons c path =>
      have hc : c = '/' := by simpa [isRooted] using h
      simpa [hc] using hall c List.mem_cons_self
  have hlast : (upToSlash path).getLast hne = '/' := by
    have := List.rdropWhile_last_not (fun c => decide (c ≠ '/')) path hne
    simpa [upToSlash] using this
  refine ⟨(upToSlash path).dropLast, ?_, ?_⟩
  · conv_lhs => rw [← List.dropLast_append_getLast hne, hlast]
  · conv_lhs => rw [← upToSlash_append_afterSlash path, ← List.dropLast_append_getLast hne, hlast]
    rw [List.append_assoc]
    rfl

theorem isRooted_append {a : Path} (b : Path) (h : isRooted a) : isRooted (a ++ b) := by
  cases a with
  | nil => cases h
  | cons c a => exact h

/-- Something rooted before a slash, or nothing. -/
theorem isRooted_append_slash {a b c : Path} (h : isRooted (a ++ '/' :: b)) :
    isRooted (a ++ '/' :: c) := by
  cases a with
  | nil => rfl
  | cons d a => exact h

/-! ### Cleaning -/

theorem cleanStep_of_isName {rooted : Bool} {reversed : List Path} {e : Path} (h : IsName e) :
    cleanStep rooted reversed e = e :: reversed := by
  rw [cleanStep.eq_def, if_neg (not_or.mpr ⟨h.ne_nil, h.ne_dot⟩), if_neg h.ne_dotdot]

theorem foldl_cleanStep_of_isName {rooted : Bool} {es : List Path} (h : ∀ e ∈ es, IsName e)
    (reversed : List Path) :
    es.foldl (cleanStep rooted) reversed = es.reverse ++ reversed := by
  induction es generalizing reversed with
  | nil => rfl
  | cons e es ih =>
    rw [List.foldl_cons, cleanStep_of_isName (h e List.mem_cons_self),
      ih fun d hd => h d (List.mem_cons_of_mem e hd)]
    simp

/-- From the root, a step of the cleaning keeps names. -/
theorem isName_of_mem_cleanStep {reversed : List Path} {element e : Path}
    (hslash : '/' ∉ element) (h : ∀ d ∈ reversed, IsName d)
    (he : e ∈ cleanStep true reversed element) : IsName e := by
  rw [cleanStep.eq_def] at he
  by_cases hskip : element = [] ∨ element = ['.']
  · rw [if_pos hskip] at he
    exact h e he
  rw [if_neg hskip] at he
  by_cases hup : element = ['.', '.']
  · rw [if_pos hup] at he
    cases reversed with
    | nil => exact absurd he List.not_mem_nil
    | cons previous rest =>
      dsimp only at he
      -- no `..` is among the names, so what stands before is taken away
      rw [if_neg (h previous List.mem_cons_self).ne_dotdot] at he
      exact h e (List.mem_cons_of_mem previous he)
  · rw [if_neg hup] at he
    rcases List.mem_cons.mp he with rfl | he
    · exact ⟨fun hc => hskip (Or.inl hc), fun hc => hskip (Or.inr hc), hup, hslash⟩
    · exact h e he

/-- **The cleaned elements of a rooted path** are names. -/
theorem isName_of_mem_cleanElements {path e : Path} (hrooted : isRooted path)
    (he : e ∈ cleanElements path) : IsName e := by
  have hfold : ∀ (es reversed : List Path), (∀ d ∈ es, '/' ∉ d) → (∀ d ∈ reversed, IsName d) →
      ∀ d ∈ es.foldl (cleanStep true) reversed, IsName d := by
    intro es
    induction es with
    | nil => exact fun reversed _ hreversed => hreversed
    | cons element es ih =>
      intro reversed hes hreversed
      refine ih _ (fun d hd => hes d (List.mem_cons_of_mem element hd)) fun d hd => ?_
      exact isName_of_mem_cleanStep (hes element List.mem_cons_self) hreversed hd
  rw [cleanElements, hrooted] at he
  exact hfold _ [] (fun d => notMem_of_mem_elements) (fun d hd => absurd hd List.not_mem_nil) e
    (List.mem_reverse.mp he)

/-- What is no name adds none. -/
theorem length_cleanStep_le {reversed : List Path} {element : Path}
    (hreversed : ∀ d ∈ reversed, IsName d) (hslash : '/' ∉ element) (h : ¬IsName element) :
    (cleanStep true reversed element).length ≤ reversed.length := by
  rw [cleanStep.eq_def]
  by_cases hskip : element = [] ∨ element = ['.']
  · rw [if_pos hskip]
  rw [if_neg hskip]
  by_cases hup : element = ['.', '.']
  · rw [if_pos hup]
    cases reversed with
    | nil => exact le_rfl
    | cons previous rest =>
      dsimp only
      rw [if_neg (hreversed previous List.mem_cons_self).ne_dotdot]
      exact Nat.le_succ _
  · exact absurd ⟨fun hc => hskip (Or.inl hc), fun hc => hskip (Or.inr hc), hup, hslash⟩ h

/-- Cleaning adds no characters. -/
theorem mem_of_mem_cleanElements {path e : Path} {c : Char} (hc : c ∈ e)
    (he : e ∈ cleanElements path) : c ∈ path := by
  have hfold : ∀ (es reversed : List Path),
      ∀ d ∈ es.foldl (cleanStep (isRooted path)) reversed, d ∈ reversed ∨ d ∈ es := by
    intro es
    induction es with
    | nil => exact fun reversed d hd => Or.inl hd
    | cons element es ih =>
      intro reversed d hd
      rcases ih _ d hd with hd | hd
      · rcases mem_cleanStep hd with hd | ⟨rfl, -⟩
        · exact Or.inl hd
        · exact Or.inr List.mem_cons_self
      · exact Or.inr (List.mem_cons_of_mem element hd)
  rcases hfold _ [] e (List.mem_reverse.mp he) with he | he
  · exact absurd he List.not_mem_nil
  · exact mem_of_mem_elements hc he

/-- **One more element** below a rooted path. -/
theorem cleanElements_append {above e : Path} (hrooted : isRooted (above ++ '/' :: e))
    (he : '/' ∉ e) :
    cleanElements (above ++ '/' :: e) =
      (cleanStep true (cleanElements (above ++ ['/'])).reverse e).reverse := by
  have hslash : isRooted (above ++ ['/']) := isRooted_append_slash hrooted
  rw [cleanElements, cleanElements, hrooted, hslash, elements_append, elements_append,
    elements_of_notMem he, elements_of_notMem List.not_mem_nil]
  simp [cleanStep]

theorem cleanElements_append_name {above n : Path} (hrooted : isRooted (above ++ '/' :: n))
    (hn : IsName n) :
    cleanElements (above ++ '/' :: n) = cleanElements (above ++ ['/']) ++ [n] := by
  rw [cleanElements_append hrooted hn.noSlash, cleanStep_of_isName hn]
  simp

theorem cleanElements_append_slash {above : Path} (h : isRooted above) :
    cleanElements (above ++ ['/']) = cleanElements above := by
  rw [cleanElements, cleanElements, isRooted_append _ h, h, elements_append,
    elements_of_notMem List.not_mem_nil]
  simp [cleanStep]

@[simp] theorem isRooted_root (names : List Path) : isRooted (root names) := rfl

theorem clean_of_isRooted {path : Path} (h : isRooted path) :
    clean path = root (cleanElements path) := by
  rw [clean, if_pos h, root]

/-- **The names of a cleaned path** are the ones it is made of. -/
theorem cleanElements_root {names : List Path} (h : ∀ n ∈ names, IsName n) :
    cleanElements (root names) = names := by
  have helements : (elements (root names)).foldl (cleanStep true) [] = names.reverse := by
    rw [root, ← List.nil_append ('/' :: joinElements names), elements_append]
    by_cases hnames : names = []
    · rw [hnames]
      rfl
    · rw [elements_joinElements hnames fun n hn => (h n hn).noSlash, List.foldl_append,
        foldl_cleanStep_of_isName h]
      exact List.append_nil _
  rw [cleanElements, isRooted_root, helements, List.reverse_reverse]

theorem cleanElements_clean {path : Path} (h : isRooted path) :
    cleanElements (clean path) = cleanElements path := by
  rw [clean_of_isRooted h, cleanElements_root fun _ => isName_of_mem_cleanElements h]

theorem clean_root {names : List Path} (h : ∀ n ∈ names, IsName n) :
    clean (root names) = root names := by
  rw [clean_of_isRooted (isRooted_root names), cleanElements_root h]

/-- A name joined to a rooted directory. -/
theorem cleanElements_join {directory n : Path} (hrooted : isRooted directory) (hn : IsName n) :
    cleanElements (join directory n) = cleanElements directory ++ [n] := by
  have hjoined : isRooted (directory ++ '/' :: n) := isRooted_append _ hrooted
  rw [join, cleanElements_clean hjoined, cleanElements_append_name hjoined hn,
    cleanElements_append_slash hrooted]

theorem isRooted_join {directory n : Path} (h : isRooted directory) : isRooted (join directory n) := by
  rw [join, clean_of_isRooted (isRooted_append _ h), isRooted_root]

/-! ### The last element -/

theorem upToSlash_append {above file : Path} (h : '/' ∉ file) :
    upToSlash (above ++ '/' :: file) = above ++ ['/'] := by
  have hfile : ∀ c ∈ file.reverse, decide (c ≠ '/') = true := fun c hc =>
    decide_eq_true fun heq => h (heq ▸ List.mem_reverse.mp hc)
  rw [upToSlash, List.rdropWhile, List.reverse_append, List.reverse_cons, List.append_assoc,
    List.dropWhile_append_of_pos hfile]
  simp

theorem afterSlash_append {above file : Path} (h : '/' ∉ file) :
    afterSlash (above ++ '/' :: file) = file := by
  have happend := upToSlash_append_afterSlash (above ++ '/' :: file)
  rw [upToSlash_append h, List.append_assoc] at happend
  exact List.cons.inj (List.append_cancel_left happend) |>.2

/-- The base of a path that does not end in a slash. -/
theorem base_of_afterSlash_ne_nil {path : Path} (h : afterSlash path ≠ []) :
    base path = afterSlash path := by
  have hne : path ≠ [] := by
    rintro rfl
    exact h rfl
  have hlast : path.getLast hne ≠ '/' := by
    intro heq
    exact h (List.rtakeWhile_eq_nil_iff.mpr fun _ => by simp [heq])
  have hstripped : path.rdropWhile (· = '/') = path :=
    List.rdropWhile_eq_self_iff.mpr fun _ => by simpa using hlast
  rw [base, if_neg hne]
  dsimp only
  rw [hstripped, if_neg hne, afterSlash]

theorem isRooted_upToSlash {path : Path} (h : isRooted path) : isRooted (upToSlash path) := by
  obtain ⟨above, hup, hpath⟩ := exists_upToSlash h
  rw [hpath] at h
  rw [hup]
  exact isRooted_append_slash h

theorem dir_of_isRooted {path : Path} (h : isRooted path) :
    dir path = root (cleanElements (upToSlash path)) :=
  clean_of_isRooted (isRooted_upToSlash h)

/-- **A rooted path whose last element is a name**: the names of its directory, and it. -/
theorem cleanElements_of_isName_afterSlash {path : Path} (h : isRooted path)
    (hname : IsName (afterSlash path)) :
    cleanElements path = cleanElements (upToSlash path) ++ [afterSlash path] := by
  obtain ⟨above, hup, hpath⟩ := exists_upToSlash h
  rw [hup]
  conv_lhs => rw [hpath]
  exact cleanElements_append_name (hpath ▸ h) hname

theorem joinElements_append_singleton {es : List Path} (hne : es ≠ []) (e : Path) :
    joinElements (es ++ [e]) = joinElements es ++ '/' :: e := by
  induction es with
  | nil => exact absurd rfl hne
  | cons d es ih =>
    cases es with
    | nil => rfl
    | cons d' es =>
      have hrest := ih (List.cons_ne_nil _ _)
      rw [List.cons_append] at hrest
      rw [List.cons_append, List.cons_append, joinElements_cons_cons, hrest,
        joinElements_cons_cons, List.append_assoc]
      rfl

theorem afterSlash_root {names : List Path} {n : Path} (h : '/' ∉ n) :
    afterSlash (root (names ++ [n])) = n := by
  by_cases hnames : names = []
  · rw [hnames]
    exact @afterSlash_append [] n h
  · rw [root, joinElements_append_singleton hnames, ← List.cons_append]
    exact afterSlash_append h

/-- **The directory of a cleaned path** drops its last name. -/
theorem dir_root {names : List Path} {n : Path} (h : ∀ e ∈ names, IsName e) (hn : IsName n) :
    dir (root (names ++ [n])) = root names := by
  have hall : ∀ e ∈ names ++ [n], IsName e := by
    intro e he
    rcases List.mem_append.mp he with he | he
    · exact h e he
    · rwa [List.mem_singleton.mp he]
  have hafter : afterSlash (root (names ++ [n])) = n := afterSlash_root hn.noSlash
  have hclean := cleanElements_of_isName_afterSlash (isRooted_root (names ++ [n]))
    (by rwa [hafter])
  rw [cleanElements_root hall, hafter] at hclean
  rw [dir_of_isRooted (isRooted_root _), ← (List.append_inj' hclean rfl).1]

theorem dir_root_nil : dir (root []) = root [] := rfl

/-- The base of a cleaned path is its last name. -/
theorem base_root {names : List Path} {n : Path} (hn : IsName n) :
    base (root (names ++ [n])) = n := by
  have hafter : afterSlash (root (names ++ [n])) = n := afterSlash_root hn.noSlash
  have hne : afterSlash (root (names ++ [n])) ≠ [] := by
    rw [hafter]
    exact hn.ne_nil
  rw [base_of_afterSlash_ne_nil hne, hafter]

theorem root_injective {names names' : List Path} (h : ∀ e ∈ names, IsName e)
    (h' : ∀ e ∈ names', IsName e) (heq : root names = root names') : names = names' := by
  rw [← cleanElements_root h, heq, cleanElements_root h']

/-! ### Seen from above -/

theorem dropCommon_append (above below : List Path) :
    dropCommon above (above ++ below) = ([], below) := by
  induction above with
  | nil => cases below <;> rfl
  | cons e above ih => rw [List.cons_append, dropCommon, if_pos rfl, ih]

/-- **What lies below a directory** is seen from it as the names that are left. -/
theorem rel_root {above below : List Path} {path : Path} (habove : ∀ e ∈ above, IsName e)
    (hrooted : isRooted path) (hpath : cleanElements path = above ++ below) (hbelow : below ≠ []) :
    rel (root above) path = some (joinElements below) := by
  have hne : clean path ≠ clean (root above) := by
    intro heq
    have hnames := congrArg cleanElements heq
    rw [cleanElements_clean hrooted, clean_root habove, cleanElements_root habove, hpath] at hnames
    exact hbelow (List.append_right_eq_self.mp hnames)
  have hsame : ¬isRooted (root above) ≠ isRooted path := fun h => h (hrooted ▸ rfl)
  rw [rel, if_neg hne, if_neg hsame, cleanElements_root habove, hpath, dropCommon_append]
  rfl

/-- The names below a directory, joined to it. -/
theorem cleanElements_root_append {above below : List Path} (habove : ∀ e ∈ above, IsName e)
    (hbelow : ∀ e ∈ below, IsName e) (hne : below ≠ []) :
    cleanElements (root above ++ '/' :: joinElements below) = above ++ below := by
  have hrooted : isRooted (root above ++ '/' :: joinElements below) := rfl
  have hfold : (elements (root above)).foldl (cleanStep true) [] = above.reverse := by
    have hroot := cleanElements_root habove
    rw [cleanElements, isRooted_root] at hroot
    exact List.reverse_eq_iff.mp hroot
  rw [cleanElements, hrooted, elements_append, List.foldl_append, hfold,
    elements_joinElements hne fun e he => (hbelow e he).noSlash, foldl_cleanStep_of_isName hbelow]
  simp

end Go

end IngestionLab
