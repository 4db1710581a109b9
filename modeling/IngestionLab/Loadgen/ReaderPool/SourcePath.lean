import IngestionLab.Go.Glob
import IngestionLab.Loadgen.Config.Valid
import IngestionLab.Loadgen.ReaderPool

/-!
# The paths of source errors

An error of the source names its file by a directory, reported once, and a path
relative to it. The directory is cut from the pattern of the configuration
(`IngestionLab.readerSourceDirectory`) and the relative path from what the pattern
found (`IngestionLab.relativeSourcePath`). This file says when the two together name
the file (`IngestionLab.named_iff`).

The walk of `readerSourceDirectory` stops below the first element with `*`, `?` or
`[` (`IngestionLab.readerSourceDirectory_of_isRooted`), but the elements it keeps are
those of the pattern and not of the file: a backslash, which is no part of the name
it escapes, stays in the directory. The pattern itself is a file when nothing in it
is special, and then its last element may be no name at all. A name of its own may
start with two dots, which is no way up but reads like one.
-/

namespace IngestionLab

open Go

/-! ### The reported directory -/

/-- An element the walk of `readerSourceDirectory` keeps. -/
def isKept (element : Path) : Bool := !element.any isMeta

theorem isKept_iff {element : Path} : isKept element ↔ ∀ c ∈ element, isWildcard c = false := by
  simp [isKept, isMeta, isWildcard]

/-- The elements of the pattern above the first with a wildcard, its last one apart. -/
def literalPart (pattern : Path) : List Path :=
  (cleanElements (upToSlash pattern)).takeWhile isKept

theorem isName_of_mem_literalPart {pattern e : Path} (h : isRooted pattern)
    (he : e ∈ literalPart pattern) : IsName e :=
  isName_of_mem_cleanElements (isRooted_upToSlash h) (List.takeWhile_subset _ he)

/-- One step of the walk. -/
theorem walkUp_succ_root {fuel : ℕ} {names : List Path} {n directory : Path}
    (h : ∀ e ∈ names, IsName e) (hn : IsName n) :
    walkUp (fuel + 1) (root (names ++ [n])) directory =
      walkUp fuel (root names) (if isKept n then directory else root names) := by
  have hne : root (names ++ [n]) ≠ root names := by
    intro heq
    have hall : ∀ e ∈ names ++ [n], IsName e := by
      simpa [or_imp, forall_and] using ⟨h, hn⟩
    simpa using root_injective hall h heq
  rw [walkUp, dir_root h hn, if_neg hne, base_root hn, isKept]
  cases n.any isMeta <;> rfl

/-- **The walk** ends above the first element that is a pattern, where it starts if
there is none. -/
theorem walkUp_root {fuel : ℕ} {names : List Path} {directory : Path} (hfuel : names.length < fuel)
    (h : ∀ e ∈ names, IsName e) :
    walkUp fuel (root names) directory =
      if names.all isKept then directory else root (names.takeWhile isKept) := by
  induction names using List.reverseRecOn generalizing fuel directory with
  | nil =>
    cases fuel with
    | zero => cases hfuel
    | succ fuel => rw [walkUp, dir_root_nil, if_pos rfl, List.all_nil, if_pos rfl]
  | append_singleton names n ih =>
    cases fuel with
    | zero => cases hfuel
    | succ fuel =>
      have hnames : ∀ e ∈ names, IsName e := fun e he => h e (List.mem_append_left _ he)
      have hlength : names.length < fuel := by simpa using hfuel
      rw [walkUp_succ_root hnames (h n (by simp)), ih hlength hnames]
      by_cases hall : names.all isKept
      · have hkept : names.takeWhile isKept = names :=
          List.takeWhile_eq_self_iff.mpr (List.all_eq_true.mp hall)
        rw [if_pos hall, List.all_append, hall, List.takeWhile_append_of_pos
          (List.all_eq_true.mp hall)]
        cases hn : isKept n <;> simp [hn]
      · have hsome : ¬(names ++ [n]).all isKept := fun hc =>
          hall (Bool.and_eq_true_iff.mp (List.all_append ▸ hc)).1
        have hlt : ¬(names.takeWhile isKept).length = names.length := fun hc =>
          hall (List.all_eq_true.mpr (List.takeWhile_eq_self_iff.mp
            ((List.takeWhile_prefix _).eq_of_length hc)))
        rw [if_neg hall, if_neg hsome, List.takeWhile_append, if_neg hlt]

/-- **What `readerSourceDirectory` reports** for an absolute pattern. -/
theorem readerSourceDirectory_of_isRooted {pattern : Path} (h : isRooted pattern) :
    readerSourceDirectory pattern = root (literalPart pattern) := by
  have hnames : ∀ e ∈ cleanElements (upToSlash pattern), IsName e := fun e =>
    isName_of_mem_cleanElements (isRooted_upToSlash h)
  have hlength : (cleanElements (upToSlash pattern)).length <
      (root (cleanElements (upToSlash pattern))).length + 1 :=
    Nat.lt_succ_of_le ((length_le_joinElements fun e he => (hnames e he).ne_nil).trans
      (Nat.le_succ _))
  rw [readerSourceDirectory, dir_of_isRooted h, walkUp_root hlength hnames, literalPart]
  split_ifs with hall
  · rw [List.takeWhile_eq_self_iff.mpr (List.all_eq_true.mp hall)]
  · rfl

/-! ### The reported path -/

/-- **A path below the reported directory** is reported by the names that are left. -/
theorem relativeSourcePath_root {above below : List Path} {path : Path}
    (habove : ∀ e ∈ above, IsName e) (hrooted : isRooted path)
    (hpath : cleanElements path = above ++ below) (hne : below ≠ []) :
    relativeSourcePath (root above) path = joinElements below := by
  have hbelow : ∀ e ∈ below, IsName e := fun e he =>
    isName_of_mem_cleanElements hrooted (hpath ▸ List.mem_append_right above he)
  have helements := elements_joinElements hne fun e he => (hbelow e he).noSlash
  rw [relativeSourcePath, rel_root habove hrooted hpath hne]
  dsimp only
  rw [if_neg]
  -- what is left are names: neither nothing nor a dot, nor a way up
  rintro (hdot | hnil | hdotdot | hup)
  · rw [hdot] at helements
    exact (hbelow ['.'] (helements ▸ List.mem_singleton.mpr rfl)).ne_dot rfl
  · rw [hnil] at helements
    exact (hbelow [] (helements ▸ List.mem_singleton.mpr rfl)).ne_nil rfl
  · rw [hdotdot] at helements
    exact (hbelow ['.', '.'] (helements ▸ List.mem_singleton.mpr rfl)).ne_dotdot rfl
  · obtain ⟨rest, hrest⟩ := List.isPrefixOf_iff_prefix.mp hup
    rw [← hrest] at helements
    refine (hbelow ['.', '.'] (helements ▸ ?_)).ne_dotdot rfl
    exact elements_append ['.', '.'] rest ▸ List.mem_cons_self

/-- Names with slashes between them start as the first of them does. -/
theorem dotdot_prefix_joinElements {n : Path} (hn : IsName n) (names : List Path) :
    ['.', '.'] <+: joinElements (n :: names) ↔ ['.', '.'] <+: n := by
  cases names with
  | nil => rfl
  | cons n' names =>
    match n, hn with
    | [], hn => exact absurd rfl hn.ne_nil
    | [c], _ => simp
    | c :: d :: n, _ => simp

/-! ### Naming a file -/

/-- **The diagnostics name a path the pattern found**: the directory is above the
path, the relative path goes down from it, and the two together are the path. -/
structure Named (pattern path : Path) : Prop where
  absolute : isRooted (readerSourceDirectory pattern) ∧ isRooted path
  above : cleanElements (readerSourceDirectory pattern) <+: cleanElements path
  ne : cleanElements (readerSourceDirectory pattern) ≠ cleanElements path
  relative : ¬isRooted (relativeSourcePath (readerSourceDirectory pattern) path)
  noWayUp : ¬['.', '.'] <+: relativeSourcePath (readerSourceDirectory pattern) path
  joined : join (readerSourceDirectory pattern)
    (relativeSourcePath (readerSourceDirectory pattern) path) = clean path

/-- **What the pattern and the path must not have** for the diagnostics to name the
path: an escape above the first wildcard, a last element that is no name, and two dots
at the start of the first name below the directory. -/
structure Nameable (pattern path : Path) : Prop where
  noEscape : ∀ e ∈ literalPart pattern, '\\' ∉ e
  isName : IsName (afterSlash pattern)
  noDots : ∀ n, (cleanElements path)[(literalPart pattern).length]? = some n → ¬['.', '.'] <+: n

/-- A path with a name below the reported directory. -/
theorem named_iff_of_below {pattern path : Path} {n : Path} {below : List Path}
    (hpattern : isRooted pattern) (hrooted : isRooted path)
    (hpath : cleanElements path = literalPart pattern ++ n :: below) :
    Named pattern path ↔ ¬['.', '.'] <+: n := by
  have habove : ∀ e ∈ literalPart pattern, IsName e := fun e => isName_of_mem_literalPart hpattern
  have hbelow : ∀ e ∈ n :: below, IsName e := fun e he =>
    isName_of_mem_cleanElements hrooted (hpath ▸ List.mem_append_right _ he)
  have hne : n :: below ≠ [] := List.cons_ne_nil _ _
  have hdirectory := readerSourceDirectory_of_isRooted hpattern
  have hnames := cleanElements_root habove
  have hrelative := relativeSourcePath_root habove hrooted hpath hne
  have hdots := dotdot_prefix_joinElements (hbelow n List.mem_cons_self) below
  constructor
  · intro h hc
    refine h.noWayUp ?_
    rw [hdirectory, hrelative]
    exact hdots.mpr hc
  · intro h
    constructor
    · exact ⟨hdirectory ▸ rfl, hrooted⟩
    · rw [hdirectory, hnames, hpath]
      exact List.prefix_append ..
    · rw [hdirectory, hnames, hpath]
      simp
    · rw [hdirectory, hrelative]
      simpa [isRooted] using head?_joinElements fun e he =>
        ⟨(hbelow e he).ne_nil, (hbelow e he).noSlash⟩
    · rw [hdirectory, hrelative]
      exact fun hc => h (hdots.mp hc)
    · have hjoined : isRooted (root (literalPart pattern) ++ '/' :: joinElements (n :: below)) := rfl
      rw [hdirectory, hrelative, join, clean_of_isRooted hjoined, clean_of_isRooted hrooted,
        cleanElements_root_append habove hbelow hne, hpath]

/-- **Element by element**: a path the pattern found by matching. -/
theorem named_iff_of_forall₂ {pattern path : Path} (hpattern : isRooted pattern)
    (hrooted : isRooted path) (hname : IsName (afterSlash pattern))
    (h : List.Forall₂ Matches (cleanElements pattern) (cleanElements path)) :
    Named pattern path ↔ Nameable pattern path := by
  obtain ⟨rest, hrest⟩ := List.takeWhile_prefix isKept (l := cleanElements (upToSlash pattern))
  have helements : cleanElements pattern = literalPart pattern ++ (rest ++ [afterSlash pattern]) := by
    rw [cleanElements_of_isName_afterSlash hpattern hname, ← List.append_assoc, literalPart, hrest]
  rw [helements] at h
  have hmatches : List.Forall₂ Matches (literalPart pattern)
      ((cleanElements path).take (literalPart pattern).length) :=
    (List.forall₂_take_append _ _ _ h.flip).flip
  have hkept : ∀ e ∈ literalPart pattern, ∀ c ∈ e, isWildcard c = false := fun e he =>
    isKept_iff.mp (List.mem_takeWhile_imp he)
  by_cases hescape : ∀ e ∈ literalPart pattern, '\\' ∉ e
  · have heq := eq_of_forall₂_matches
      (fun e he => hasMeta_eq_false_iff.mpr ⟨hkept e he, hescape e he⟩) hmatches
    have hlength : (literalPart pattern).length < (cleanElements path).length := by
      rw [← h.length_eq, List.length_append, List.length_append]
      simp
    have hpath : cleanElements path = literalPart pattern ++
        (cleanElements path)[(literalPart pattern).length] ::
          (cleanElements path).drop ((literalPart pattern).length + 1) := by
      conv_lhs => rw [← List.take_append_drop (literalPart pattern).length (cleanElements path)]
      rw [heq, List.drop_eq_getElem_cons hlength]
    rw [named_iff_of_below hpattern hrooted hpath]
    constructor
    · intro hdots
      refine ⟨hescape, hname, fun n hn => ?_⟩
      rw [List.getElem?_eq_getElem hlength] at hn
      exact Option.some.inj hn ▸ hdots
    · intro hnameable
      exact hnameable.noDots _ (List.getElem?_eq_getElem hlength)
  · -- the escaped element is longer than the name it matched
    refine iff_of_false (fun hnamed => ?_) fun hnameable => hescape hnameable.noEscape
    have habove := hnamed.above
    rw [readerSourceDirectory_of_isRooted hpattern,
      cleanElements_root fun e => isName_of_mem_literalPart hpattern] at habove
    rw [← List.prefix_iff_eq_take.mp habove] at hmatches
    refine hescape fun e he hbackslash => ?_
    exact absurd (length_lt_of_matches (hkept e he) hbackslash
      (List.forall₂_same.mp hmatches e he)) (lt_irrefl _)

/-- A pattern without anything special that ends in no name: the path it finds is not
below the directory. -/
theorem not_named_of_not_isName {pattern : Path} (hpattern : isRooted pattern)
    (hplain : hasMeta pattern = false) (hname : ¬IsName (afterSlash pattern)) :
    ¬Named pattern pattern := by
  intro h
  obtain ⟨above, hup, hsplit⟩ := exists_upToSlash hpattern
  have hkept : literalPart pattern = cleanElements (upToSlash pattern) := by
    refine List.takeWhile_eq_self_iff.mpr fun e he => isKept_iff.mpr fun c hc => ?_
    have hstart : upToSlash pattern <+: pattern := List.rdropWhile_prefix _ _
    exact (hasMeta_eq_false_iff.mp hplain).1 c (hstart.subset (mem_of_mem_cleanElements hc he))
  have hlength : (cleanElements pattern).length ≤ (cleanElements (upToSlash pattern)).length := by
    have hnames : ∀ d ∈ (cleanElements (above ++ ['/'])).reverse, IsName d := fun d hd =>
      isName_of_mem_cleanElements (hup ▸ isRooted_upToSlash hpattern) (List.mem_reverse.mp hd)
    rw [hup]
    conv_lhs => rw [hsplit]
    rw [cleanElements_append (hsplit ▸ hpattern) (notMem_afterSlash pattern), List.length_reverse]
    simpa using length_cleanStep_le hnames (notMem_afterSlash pattern) hname
  have habove := h.above
  have hne := h.ne
  rw [readerSourceDirectory_of_isRooted hpattern,
    cleanElements_root fun e => isName_of_mem_literalPart hpattern, hkept] at habove hne
  exact hne (habove.eq_of_length_le hlength)

/-- **When the diagnostics name the file**: for a valid configuration and whatever its
pattern finds, exactly when nothing is escaped above the first wildcard, the pattern
ends in a name, and the first name below the directory does not start with two dots. -/
theorem named_iff {net : NetParsers} {config : Config} (hvalid : config.validate net = none)
    {fs : FileSystem} {found : List Path} (hglob : fs.glob config.source.path.toList = some found)
    {path : Path} (hpath : path ∈ found) :
    Named config.source.path.toList path ↔ Nameable config.source.path.toList path := by
  have hpattern : isRooted config.source.path.toList := (Config.valid_of_validate hvalid).path
  rcases FileSystem.of_mem_globWithLimit hpattern hglob hpath with
    ⟨hplain, rfl⟩ | ⟨-, hrooted, hname, hfound⟩
  · by_cases hname : IsName (afterSlash config.source.path.toList)
    · refine named_iff_of_forall₂ hpattern hpattern hname (List.forall₂_same.mpr fun e he => ?_)
      obtain ⟨hwild, hbackslash⟩ := hasMeta_eq_false_iff.mp hplain
      refine matches_self (hasMeta_eq_false_iff.mpr ⟨fun c hc => ?_, fun hc => ?_⟩)
      · exact hwild c (mem_of_mem_cleanElements hc he)
      · exact hbackslash (mem_of_mem_cleanElements hc he)
    · exact iff_of_false (not_named_of_not_isName hpattern hplain hname) fun h => hname h.isName
  · exact named_iff_of_forall₂ hpattern hrooted hname hfound

/-- A file system with one file, in a directory under the root. -/
def oneFile (directory file : Path) (hdirectory : IsName directory) (hfile : IsName file) :
    FileSystem where
  lstat path := path = root [] ∨ path = root [directory] ∨ path = root [directory, file]
  names path :=
    if path = root [] then some [directory]
    else if path = root [directory] then some [file]
    else none
  isName_of_mem := by
    intro path entries h n hn
    split_ifs at h
    · obtain rfl := Option.some.inj h
      rwa [List.mem_singleton.mp hn]
    · obtain rfl := Option.some.inj h
      rwa [List.mem_singleton.mp hn]

/-- A file under `/data` is named. -/
theorem named_under_data :
    Named exampleConfig.source.path.toList (root ["data".toList, "part.parquet".toList]) := by
  have hvalid : exampleConfig.validate exampleParsers = none := by decide
  have hglob : (oneFile "data".toList "part.parquet".toList (by decide) (by decide)).glob exampleConfig.source.path.toList =
        some [root ["data".toList, "part.parquet".toList]] := by decide
  refine (named_iff hvalid hglob (List.mem_singleton.mpr rfl)).mpr ⟨by decide, by decide, ?_⟩
  intro n hn
  obtain rfl : "part.parquet".toList = n := Option.some.inj hn
  decide

/-- The configuration of `config.toml` with an escaped blank in the source. -/
def escapedConfig : Config :=
  { exampleConfig with source := { exampleConfig.source with path := "/data\\ 1/*.parquet" } }

/-- **An escaped blank**: the directory `/data 1` is reported with the backslash, and the
file is not below it. -/
theorem not_named_under_escaped :
    escapedConfig.validate exampleParsers = none ∧
      (oneFile "data 1".toList "part.parquet".toList (by decide) (by decide)).glob escapedConfig.source.path.toList =
          some [root ["data 1".toList, "part.parquet".toList]] ∧
      readerSourceDirectory escapedConfig.source.path.toList = "/data\\ 1".toList ∧
      ¬Named escapedConfig.source.path.toList (root ["data 1".toList, "part.parquet".toList]) :=
  ⟨by decide, by decide, by decide, fun h => absurd h.above (by decide)⟩

end IngestionLab
