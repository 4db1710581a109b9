import IngestionLab.Go.Filepath.Rooted
import Mathlib.Data.Char
import Mathlib.Data.List.Forall2
import Mathlib.Data.List.Lex
import Mathlib.Data.List.Sort

/-!
# Glob patterns

`Match` and `Glob` of Go's `path/filepath`, for a system whose separator is the
slash. A pattern is read into terms as its documented grammar says
(`IngestionLab.Go.parse`) and the terms are matched against the whole name
(`IngestionLab.Go.matched`). `IngestionLab.Go.FileSystem.glob` walks the directories
of a file system, of which nothing is known but that the entries of a directory have
names.

What a rooted pattern finds is described element by element: the path found has as
many names as the cleaned pattern has elements, and each of them matches its element
(`IngestionLab.Go.FileSystem.of_mem_globWithLimit`). An element without the wildcards
`*`, `?` and `[` matches one name only: itself, or a shorter name when it has a
backslash (`IngestionLab.Go.length_lt_of_matches`).
-/

namespace IngestionLab

namespace Go

/-- A term of a pattern. -/
inductive Term
  /-- `*`: any sequence of characters other than the slash. -/
  | star
  /-- `?`: any one character other than the slash. -/
  | one
  /-- A character class: its ranges, or anything outside of them. -/
  | range (negated : Bool) (ranges : List (Char × Char))
  /-- A character, escaped or not. -/
  | char (c : Char)
  deriving DecidableEq, Repr

/-! ### Reading a pattern -/

/-- A character inside a class, which more has to follow. -/
def followed : Path → Option (Char × Path)
  | c :: c' :: rest => some (c, c' :: rest)
  | _ => none

/-- `getEsc`: a possibly escaped character inside a class. -/
def getEsc : Path → Option (Char × Path)
  | '-' :: _ => none
  | ']' :: _ => none
  | '\\' :: rest => followed rest
  | chunk => followed chunk

/-- The ranges of a class up to its closing bracket; a class has at least one. -/
def readRanges : ℕ → Bool → Path → Option (List (Char × Char) × Path)
  | 0, _, _ => none
  | fuel + 1, nonempty, chunk =>
    if nonempty ∧ chunk.head? = some ']' then some ([], chunk.tail)
    else do
      let (lo, chunk) ← getEsc chunk
      let (hi, chunk) ← if chunk.head? = some '-' then getEsc chunk.tail else some (lo, chunk)
      let (ranges, rest) ← readRanges fuel true chunk
      some ((lo, hi) :: ranges, rest)

/-- The terms of a pattern, `none` if it is malformed. Every term takes a character,
so that the length of the pattern is fuel enough. -/
def readTerms : ℕ → Path → Option (List Term)
  | _, [] => some []
  | 0, _ :: _ => none
  | fuel + 1, c :: rest =>
    if c = '*' then (readTerms fuel rest).map (.star :: ·)
    else if c = '?' then (readTerms fuel rest).map (.one :: ·)
    else if c = '[' then do
      let negated := rest.head? == some '^'
      let (ranges, rest) ← readRanges fuel false (if negated then rest.tail else rest)
      (readTerms fuel rest).map (.range negated ranges :: ·)
    else if c = '\\' then
      match rest with
      | [] => none
      | c :: rest => (readTerms fuel rest).map (.char c :: ·)
    else (readTerms fuel rest).map (.char c :: ·)

/-- The terms of a pattern. -/
def terms (pattern : Path) : Option (List Term) := readTerms pattern.length pattern

/-! ### Matching -/

/-- A sequence without a slash, and then what `rest` accepts. -/
def matchStar (rest : Path → Bool) : Path → Bool
  | [] => rest []
  | c :: name => rest (c :: name) || (c != '/' && matchStar rest name)

/-- The terms match the whole name. -/
def matchTerms : List Term → Path → Bool
  | [], name => name.isEmpty
  | .star :: terms, name => matchStar (matchTerms terms) name
  | _ :: _, [] => false
  | .one :: terms, c :: name => c != '/' && matchTerms terms name
  | .range negated ranges :: terms, c :: name =>
    (ranges.any (fun r => decide (r.1 ≤ c ∧ c ≤ r.2)) != negated) && matchTerms terms name
  | .char c' :: terms, c :: name => c' == c && matchTerms terms name

/-- `filepath.Match`: whether the pattern matches the whole name, `none` if it is
malformed. -/
def matched (pattern name : Path) : Option Bool := (terms pattern).map (matchTerms · name)

/-- The pattern is well formed and matches the name. -/
def Matches (pattern name : Path) : Prop := matched pattern name = some true

/-! ### Finding files -/

/-- **A file system**, as far as `Glob` looks at it. -/
structure FileSystem where
  /-- `os.Lstat` has no error. -/
  lstat : Path → Bool
  /-- The entries of what `os.Stat` says is a directory and can be opened, in the
  order they are read. -/
  names : Path → Option (List Path)
  isName_of_mem : ∀ {directory : Path} {entries : List Path}, names directory = some entries →
    ∀ n ∈ entries, IsName n

/-- `*`, `?` or the opening bracket: what makes a pattern match more than one name. -/
def isWildcard (c : Char) : Bool := c == '*' || c == '?' || c == '['

/-- `hasMeta`: a wildcard or a backslash. -/
def hasMeta (path : Path) : Bool := path.any fun c => isWildcard c || c == '\\'

/-- `cleanGlobPath`: a directory without its trailing slash. -/
def cleanGlobPath (path : Path) : Path :=
  if path = [] then ['.'] else if path = ['/'] then path else path.dropLast

/-- The entries that match, as paths. -/
def globNames (directory pattern : Path) : List Path → Option (List Path)
  | [] => some []
  | n :: names =>
    match matched pattern n with
    | none => none
    | some true => (globNames directory pattern names).map (join directory n :: ·)
    | some false => globNames directory pattern names

namespace FileSystem

variable (fs : FileSystem)

/-- `glob`: the entries of one directory that match. What is no directory has none. -/
def globIn (directory pattern : Path) : Option (List Path) :=
  match fs.names directory with
  | none => some []
  | some names => globNames directory pattern (names.insertionSort (· ≤ ·))

/-- The entries of several directories that match. -/
def globEach (pattern : Path) : List Path → Option (List Path)
  | [] => some []
  | directory :: directories =>
    match fs.globIn directory pattern with
    | none => none
    | some found => (globEach pattern directories).map (found ++ ·)

/-- `globWithLimit`, with as many directories as may still be entered. -/
def globWithLimit : ℕ → Path → Option (List Path)
  | 0, _ => none
  | limit + 1, pattern =>
    if matched pattern [] = none then none
    else if !hasMeta pattern then some (if fs.lstat pattern then [pattern] else [])
    else
      let directory := cleanGlobPath (upToSlash pattern)
      if !hasMeta directory then fs.globIn directory (afterSlash pattern)
      else if directory = pattern then none
      else
        match globWithLimit limit directory with
        | none => none
        | some directories => fs.globEach (afterSlash pattern) directories

/-- **`filepath.Glob`**, `none` for its only error, a malformed pattern. -/
def glob (pattern : Path) : Option (List Path) := fs.globWithLimit 10000 pattern

end FileSystem

/-! ### Elements without a wildcard -/

theorem hasMeta_eq_false_iff {path : Path} :
    hasMeta path = false ↔ (∀ c ∈ path, isWildcard c = false) ∧ '\\' ∉ path := by
  simp only [hasMeta, List.any_eq_false, Bool.or_eq_true, beq_iff_eq, not_or, forall_and,
    Bool.not_eq_true]
  refine and_congr_right fun _ => ?_
  exact ⟨fun h hmem => h _ hmem rfl, fun h c hc heq => h (heq ▸ hc)⟩

theorem matchTerms_map_char {literal name : Path} :
    matchTerms (literal.map .char) name = true ↔ name = literal := by
  induction literal generalizing name with
  | nil => simp [matchTerms]
  | cons c literal ih =>
    cases name with
    | nil => simp [matchTerms]
    | cons c' name =>
      rw [List.map_cons, matchTerms, Bool.and_eq_true, beq_iff_eq, ih, List.cons.injEq]
      exact and_congr_left fun _ => eq_comm

theorem readTerms_escaped (fuel : ℕ) (c : Char) (rest : Path) :
    readTerms (fuel + 1) ('\\' :: c :: rest) = (readTerms fuel rest).map (.char c :: ·) := rfl

theorem readTerms_cons {fuel : ℕ} {c : Char} {rest : Path} (hwild : isWildcard c = false)
    (hc : c ≠ '\\') :
    readTerms (fuel + 1) (c :: rest) = (readTerms fuel rest).map (.char c :: ·) := by
  simp only [isWildcard, Bool.or_eq_false_iff, beq_eq_false_iff_ne] at hwild
  rw [readTerms.eq_def]
  dsimp only
  rw [if_neg hwild.1.1, if_neg hwild.1.2, if_neg hwild.2, if_neg hc]

/-- **Without a wildcard** the terms are characters: those of the element itself, or
fewer when some are escaped. -/
theorem exists_literal_of_readTerms {fuel : ℕ} {element : Path} {ts : List Term}
    (hwild : ∀ c ∈ element, isWildcard c = false) (h : readTerms fuel element = some ts) :
    ∃ literal : Path, ts = literal.map .char ∧
      (literal = element ∧ '\\' ∉ element ∨ '\\' ∈ element ∧ literal.length < element.length) := by
  induction fuel generalizing element ts with
  | zero =>
    cases element with
    | nil =>
      obtain rfl := Option.some.inj h
      exact ⟨[], rfl, Or.inl ⟨rfl, List.not_mem_nil⟩⟩
    | cons c rest => cases h
  | succ fuel ih =>
    rcases element with _ | ⟨c, rest⟩
    · obtain rfl := Option.some.inj h
      exact ⟨[], rfl, Or.inl ⟨rfl, List.not_mem_nil⟩⟩
    by_cases hc : c = '\\'
    · subst hc
      rcases rest with _ | ⟨c, rest⟩
      · cases h
      rw [readTerms_escaped] at h
      obtain ⟨ts', hts', rfl⟩ := Option.map_eq_some_iff.mp h
      have hrest : ∀ d ∈ rest, isWildcard d = false := fun d hd =>
        hwild d (List.mem_cons_of_mem _ (List.mem_cons_of_mem c hd))
      obtain ⟨literal, rfl, hliteral⟩ := ih hrest hts'
      refine ⟨c :: literal, rfl, Or.inr ⟨List.mem_cons_self, ?_⟩⟩
      have hle : literal.length ≤ rest.length :=
        hliteral.elim (fun hl => hl.1 ▸ le_rfl) fun hl => hl.2.le
      simpa using Nat.lt_succ_of_le hle
    · rw [readTerms_cons (hwild c List.mem_cons_self) hc] at h
      obtain ⟨ts', hts', rfl⟩ := Option.map_eq_some_iff.mp h
      obtain ⟨literal, rfl, hliteral⟩ := ih (fun d hd => hwild d (List.mem_cons_of_mem c hd)) hts'
      refine ⟨c :: literal, rfl, ?_⟩
      rcases hliteral with ⟨rfl, hbackslash⟩ | ⟨hbackslash, hlt⟩
      · exact Or.inl ⟨rfl, fun hmem => (List.mem_cons.mp hmem).elim (hc ·.symm) hbackslash⟩
      · exact Or.inr ⟨List.mem_cons_of_mem c hbackslash, Nat.succ_lt_succ hlt⟩

/-- A plain element is matched by itself only. -/
theorem eq_of_matches {element name : Path} (hwild : ∀ c ∈ element, isWildcard c = false)
    (hplain : '\\' ∉ element) (h : Matches element name) : name = element := by
  obtain ⟨ts, hts, hmatch⟩ := Option.map_eq_some_iff.mp h
  obtain ⟨literal, rfl, ⟨rfl, -⟩ | ⟨hbackslash, -⟩⟩ := exists_literal_of_readTerms hwild hts
  · exact matchTerms_map_char.mp hmatch
  · exact absurd hbackslash hplain

/-- **An escape is no part of the name**: an element with a backslash, but without a
wildcard, matches shorter names. -/
theorem length_lt_of_matches {element name : Path} (hwild : ∀ c ∈ element, isWildcard c = false)
    (hbackslash : '\\' ∈ element) (h : Matches element name) : name.length < element.length := by
  obtain ⟨ts, hts, hmatch⟩ := Option.map_eq_some_iff.mp h
  obtain ⟨literal, rfl, ⟨-, hplain⟩ | ⟨-, hlt⟩⟩ := exists_literal_of_readTerms hwild hts
  · exact absurd hbackslash hplain
  · rwa [matchTerms_map_char.mp hmatch]

theorem readTerms_of_plain {fuel : ℕ} {element : Path} (hfuel : element.length ≤ fuel)
    (hwild : ∀ c ∈ element, isWildcard c = false) (hbackslash : '\\' ∉ element) :
    readTerms fuel element = some (element.map .char) := by
  induction element generalizing fuel with
  | nil => cases fuel <;> rfl
  | cons c element ih =>
    cases fuel with
    | zero => cases hfuel
    | succ fuel =>
      rw [readTerms_cons (hwild c List.mem_cons_self) fun hc => hbackslash (hc ▸ List.mem_cons_self),
        ih (Nat.le_of_succ_le_succ hfuel) (fun d hd => hwild d (List.mem_cons_of_mem c hd))
          fun hc => hbackslash (List.mem_cons_of_mem c hc)]
      rfl

/-- A plain element matches itself. -/
theorem matches_self {element : Path} (hplain : hasMeta element = false) :
    Matches element element := by
  obtain ⟨hwild, hbackslash⟩ := hasMeta_eq_false_iff.mp hplain
  rw [Matches, matched, terms, readTerms_of_plain le_rfl hwild hbackslash, Option.map_some,
    matchTerms_map_char.mpr rfl]

/-- Plain elements match themselves only, one by one. -/
theorem eq_of_forall₂_matches {elements names : List Path}
    (hplain : ∀ e ∈ elements, hasMeta e = false) (h : List.Forall₂ Matches elements names) :
    names = elements := by
  induction h with
  | nil => rfl
  | cons hmatch _ ih =>
    obtain ⟨hwild, hbackslash⟩ := hasMeta_eq_false_iff.mp (hplain _ List.mem_cons_self)
    rw [eq_of_matches hwild hbackslash hmatch, ih fun e he => hplain e (List.mem_cons_of_mem _ he)]

/-- Only a name matches a name. -/
theorem isName_of_matches {element name : Path} (hslash : '/' ∉ element) (hname : IsName name)
    (h : Matches element name) : IsName element := by
  have hliteral : ∀ literal : Path, hasMeta literal = false → ¬IsName literal →
      element ≠ literal := by
    rintro literal hplain hno rfl
    obtain ⟨hwild, hbackslash⟩ := hasMeta_eq_false_iff.mp hplain
    exact hno (eq_of_matches hwild hbackslash h ▸ hname)
  exact ⟨hliteral [] rfl fun hn => hn.ne_nil rfl, hliteral ['.'] (by decide) fun hn => hn.ne_dot rfl,
    hliteral ['.', '.'] (by decide) fun hn => hn.ne_dotdot rfl, hslash⟩

/-! ### What a rooted pattern finds -/

/-- The directory part of a rooted path, without its trailing slash, has the same
names. -/
theorem cleanElements_cleanGlobPath {path : Path} (h : isRooted path) :
    isRooted (cleanGlobPath (upToSlash path)) ∧
      cleanElements (cleanGlobPath (upToSlash path)) = cleanElements (upToSlash path) := by
  obtain ⟨above, hup, hpath⟩ := exists_upToSlash h
  rw [cleanGlobPath, hup, if_neg (List.append_ne_nil_of_right_ne_nil _ (List.cons_ne_nil _ _))]
  by_cases habove : above = []
  · rw [habove]
    exact ⟨rfl, rfl⟩
  · have hrooted : isRooted above := by
      cases above with
      | nil => exact absurd rfl habove
      | cons c above =>
        rw [hpath] at h
        exact h
    rw [if_neg (by simpa using habove), List.dropLast_concat]
    exact ⟨hrooted, (cleanElements_append_slash hrooted).symm⟩

theorem exists_of_mem_globNames {directory pattern path : Path} {names found : List Path}
    (h : globNames directory pattern names = some found) (hpath : path ∈ found) :
    ∃ n ∈ names, Matches pattern n ∧ path = join directory n := by
  induction names generalizing found with
  | nil =>
    obtain rfl := Option.some.inj h
    exact absurd hpath List.not_mem_nil
  | cons n names ih =>
    rw [globNames] at h
    split at h
    · cases h
    · rename_i hmatch
      obtain ⟨found', hfound, rfl⟩ := Option.map_eq_some_iff.mp h
      rcases List.mem_cons.mp hpath with rfl | hpath
      · exact ⟨n, List.mem_cons_self, hmatch, rfl⟩
      · obtain ⟨n', hn', hmatch', rfl⟩ := ih hfound hpath
        exact ⟨n', List.mem_cons_of_mem n hn', hmatch', rfl⟩
    · obtain ⟨n', hn', hmatch', rfl⟩ := ih h hpath
      exact ⟨n', List.mem_cons_of_mem n hn', hmatch', rfl⟩

namespace FileSystem

variable {fs : FileSystem}

/-- What one directory has. -/
theorem exists_of_mem_globIn {directory pattern path : Path} {found : List Path}
    (h : fs.globIn directory pattern = some found) (hpath : path ∈ found) :
    ∃ n, IsName n ∧ Matches pattern n ∧ path = join directory n := by
  rw [globIn] at h
  split at h
  · obtain rfl := Option.some.inj h
    exact absurd hpath List.not_mem_nil
  · rename_i names hnames
    obtain ⟨n, hn, hmatch, rfl⟩ := exists_of_mem_globNames h hpath
    have hmem : n ∈ names := (List.perm_insertionSort _ names).mem_iff.mp hn
    exact ⟨n, fs.isName_of_mem hnames n hmem, hmatch, rfl⟩

theorem exists_of_mem_globEach {pattern path : Path} {directories found : List Path}
    (h : fs.globEach pattern directories = some found) (hpath : path ∈ found) :
    ∃ directory ∈ directories, ∃ n, IsName n ∧ Matches pattern n ∧ path = join directory n := by
  induction directories generalizing found with
  | nil =>
    obtain rfl := Option.some.inj h
    exact absurd hpath List.not_mem_nil
  | cons directory directories ih =>
    rw [globEach] at h
    split at h
    · cases h
    · rename_i here hhere
      obtain ⟨there, hthere, rfl⟩ := Option.map_eq_some_iff.mp h
      rcases List.mem_append.mp hpath with hpath | hpath
      · exact ⟨directory, List.mem_cons_self, exists_of_mem_globIn hhere hpath⟩
      · obtain ⟨d, hd, hfound⟩ := ih hthere hpath
        exact ⟨d, List.mem_cons_of_mem directory hd, hfound⟩

/-- **What a rooted pattern with a wildcard or an escape finds**: a path with as many
names as the pattern has elements, each matching its element. -/
def Finds (pattern path : Path) : Prop :=
  isRooted path ∧ IsName (afterSlash pattern) ∧
    List.Forall₂ Matches (cleanElements pattern) (cleanElements path)

/-- One more element: the names of a directory, and a name in it. -/
theorem finds_join {pattern directory n : Path} (hrooted : isRooted pattern)
    (hdirectory : isRooted directory)
    (hnames : List.Forall₂ Matches (cleanElements (upToSlash pattern)) (cleanElements directory))
    (hn : IsName n) (hmatch : Matches (afterSlash pattern) n) :
    Finds pattern (join directory n) := by
  have hname : IsName (afterSlash pattern) :=
    isName_of_matches (notMem_afterSlash pattern) hn hmatch
  refine ⟨isRooted_join hdirectory, hname, ?_⟩
  rw [cleanElements_of_isName_afterSlash hrooted hname, cleanElements_join hdirectory hn]
  exact List.rel_append hnames (List.Forall₂.cons hmatch List.Forall₂.nil)

/-- **What `Glob` finds for a rooted pattern**: the pattern itself if nothing in it is
special, else what matches it element by element. -/
theorem of_mem_globWithLimit {limit : ℕ} {pattern path : Path} {found : List Path}
    (hrooted : isRooted pattern) (h : fs.globWithLimit limit pattern = some found)
    (hpath : path ∈ found) :
    hasMeta pattern = false ∧ path = pattern ∨ hasMeta pattern = true ∧ Finds pattern path := by
  induction limit generalizing pattern path found with
  | zero => cases h
  | succ limit ih =>
    obtain ⟨hdirectory, hnames⟩ := cleanElements_cleanGlobPath hrooted
    rw [globWithLimit] at h
    split_ifs at h with hbad hplain hthere
    · obtain rfl := Option.some.inj h
      exact Or.inl ⟨by simpa using hplain, List.mem_singleton.mp hpath⟩
    · obtain rfl := Option.some.inj h
      exact absurd hpath List.not_mem_nil
    dsimp only at h
    split_ifs at h with hstop hsame
    · -- the directory is as it is written: its names match themselves
      obtain ⟨n, hn, hmatch, rfl⟩ := exists_of_mem_globIn h hpath
      obtain ⟨hwild, hbackslash⟩ := hasMeta_eq_false_iff.mp (by simpa using hstop)
      refine Or.inr ⟨by simpa using hplain, finds_join hrooted hdirectory ?_ hn hmatch⟩
      rw [← hnames]
      refine List.forall₂_same.mpr fun e he => matches_self (hasMeta_eq_false_iff.mpr ⟨?_, ?_⟩)
      · exact fun c hc => hwild c (mem_of_mem_cleanElements hc he)
      · exact fun hc => hbackslash (mem_of_mem_cleanElements hc he)
    · split at h
      · cases h
      · rename_i directories hdirectories
        obtain ⟨d, hd, n, hn, hmatch, rfl⟩ := exists_of_mem_globEach h hpath
        rcases ih hdirectory hdirectories hd with ⟨hnone, -⟩ | ⟨-, hd, -, hfound⟩
        · exact absurd hnone (by simpa using hstop)
        · rw [hnames] at hfound
          exact Or.inr ⟨by simpa using hplain, finds_join hrooted hd hfound hn hmatch⟩

end FileSystem

end Go

end IngestionLab
