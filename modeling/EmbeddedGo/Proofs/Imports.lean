/-
EmbeddedGo.Proofs.Imports — what is found in a text of import declarations.

Imports are found by two scans of the whole text, one for imports of a single path and one for imports in
brackets, and the findings of the second come behind those of the first. On import declarations in any
layout (`Declared`) neither scan takes a part of a declaration that is not its own, with two exceptions,
and both lie in brackets: a name that ends in the keyword is read as the keyword by the first scan too,
which takes the path behind it (`ImportSpec.early`), and so is the keyword inside a path if a blank
follows it (`Hides`). Without the latter the paths found are those of the declarations, each once
(`imports_of_declared`). They are in the order of the source if all single imports stand in front and no
name in brackets ends in the keyword, but not in general (`imports_declared_order`).

  §1 import declarations and how they are written
  §2 scans that pass by a text or take it
  §3 the two readers
  §4 the scan for single imports
  §5 the scan for imports in brackets
  §6 the lines between the brackets
  §7 the paths of the declarations
-/
import EmbeddedGo.Go.Source
import EmbeddedGo.Proofs.LineEnds
import EmbeddedGo.Proofs.PackageClause
import EmbeddedGo.Proofs.Reference
import EmbeddedGo.Proofs.TokenLayout
import EmbeddedGo.Proofs.Trimming
import Mathlib.Data.List.Basic

namespace EmbeddedGo.Go

open Text

/-! ## §1 Declarations -/

/-- The keyword of import declarations. -/
def importKeyword : Text := ['i', 'm', 'p', 'o', 'r', 't']

theorem importKeyword_ne_nil : importKeyword ≠ [] := List.cons_ne_nil _ _

/-- One imported path, and the name that is given for it, if one is. -/
structure ImportSpec where
  name : Option Text
  path : Text
  deriving DecidableEq

/-- An import of one path, or of those in brackets. -/
inductive ImportDecl where
  | single (spec : ImportSpec)
  | block (specs : List ImportSpec)
  deriving DecidableEq

/-- The paths that can be imported: not empty, on one line, without double quotes and brackets. -/
structure IsImportPath (path : Text) : Prop where
  nonempty : path ≠ []
  plain : ∀ c ∈ path, c ≠ '"' ∧ c ≠ '(' ∧ c ≠ ')' ∧ isLineEnd c = false

/-- The names that a path can be imported under: the dot, or a word, to which the underscore counts. -/
def IsImportName (name : Text) : Prop :=
  name = ['.'] ∨ (name ≠ [] ∧ ∀ c ∈ name, isWord c = true)

/-- A path between double quotes. -/
def inQuotes (path : Text) : Text := '"' :: (path ++ ['"'])

theorem inQuotes_ne_nil (path : Text) : inQuotes path ≠ [] := List.cons_ne_nil _ _

/-- The ways to write a path with its name. -/
inductive Spelled : ImportSpec → Text → Prop where
  | plain {path : Text} (hpath : IsImportPath path) : Spelled ⟨none, path⟩ (inQuotes path)
  | named {name gap path : Text} (hname : IsImportName name) (hgap : gap.all isGoSpace = true)
    (hne : gap ≠ []) (hpath : IsImportPath path) :
    Spelled ⟨some name, path⟩ (name ++ (gap ++ inQuotes path))

/-- The ways to write paths between brackets: a line feed stands behind each of them but the last. -/
inductive Bracketed : List ImportSpec → Text → Prop where
  | nil : Bracketed [] []
  | blank {specs : List ImportSpec} {c : Char} {s : Text} (hc : isGoSpace c = true)
    (h : Bracketed specs s) : Bracketed specs (c :: s)
  | spec {spec : ImportSpec} {specs : List ImportSpec} {t gap s : Text} (hspec : Spelled spec t)
    (hgap : gap.all isGoSpace = true) (hline : '\n' ∈ gap ∨ s = []) (h : Bracketed specs s) :
    Bracketed (spec :: specs) (t ++ (gap ++ s))

/-- The ways to write import declarations one after another, on lines of their own or not. -/
inductive Declared : List ImportDecl → Text → Prop where
  | nil : Declared [] []
  | blank {ds : List ImportDecl} {c : Char} {s : Text} (hc : isGoSpace c = true) (h : Declared ds s) :
    Declared ds (c :: s)
  | single {spec : ImportSpec} {ds : List ImportDecl} {gap t s : Text}
    (hgap : gap.all isGoSpace = true) (hne : gap ≠ []) (hspec : Spelled spec t) (h : Declared ds s) :
    Declared (.single spec :: ds) (importKeyword ++ (gap ++ (t ++ s)))
  | block {specs : List ImportSpec} {ds : List ImportDecl} {gap inside s : Text}
    (hgap : gap.all isGoSpace = true) (hne : gap ≠ []) (hinside : Bracketed specs inside)
    (h : Declared ds s) :
    Declared (.block specs :: ds) (importKeyword ++ (gap ++ '(' :: (inside ++ ')' :: s)))

/-- The paths of a declaration. -/
def ImportDecl.paths : ImportDecl → List Text
  | .single spec => [spec.path]
  | .block specs => specs.map ImportSpec.path

/-- What the scan for single imports takes of a path in brackets: the path, if its name ends in the
keyword. -/
def ImportSpec.early (spec : ImportSpec) : List Text :=
  if spec.name.any importKeyword.isSuffixOf then [spec.path] else []

/-- What the scan for single imports takes of a declaration. -/
def ImportDecl.early : ImportDecl → List Text
  | .single spec => [spec.path]
  | .block specs => specs.flatMap ImportSpec.early

/-- What the scan for imports in brackets takes of a declaration. -/
def ImportDecl.late : ImportDecl → List Text
  | .single _ => []
  | .block specs => specs.map ImportSpec.path

/-- Whether the keyword stands in a path with a blank behind it. -/
def Hides (path : Text) : Prop :=
  ∃ u c v, isBlank c = true ∧ path = u ++ importKeyword ++ c :: v

/-- A declaration in whose brackets no path hides the keyword. -/
def ImportDecl.IsPlain : ImportDecl → Prop
  | .single _ => True
  | .block specs => ∀ spec ∈ specs, ¬ Hides spec.path

theorem IsImportName.ne_nil {name : Text} (h : IsImportName name) : name ≠ [] := by
  rcases h with rfl | h
  · exact List.cons_ne_nil _ _
  · exact h.1

theorem IsImportName.isAlias {name : Text} (h : IsImportName name) {c : Char} (hc : c ∈ name) :
    isAlias c = true := by
  rcases h with rfl | h
  · rw [List.mem_singleton.1 hc]
    rfl
  · rw [Go.isAlias, h.2 c hc]
    rfl

theorem isBlank_of_isAlias {c : Char} (h : isAlias c = true) : isBlank c = false := by
  rw [isAlias, Bool.or_eq_true, beq_iff_eq] at h
  rcases h with h | rfl
  · exact isBlank_of_isWord h
  · rfl

theorem isAlias_of_isBlank {c : Char} (h : isBlank c = true) : isAlias c = false := by
  rw [← Bool.not_eq_true]
  intro halias
  rw [isBlank_of_isAlias halias] at h
  cases h

theorem all_isBlank {gap : Text} (h : gap.all isGoSpace = true) : gap.all isBlank = true := by
  rw [List.all_eq_true] at h ⊢
  exact fun c hc => isBlank_of_isGoSpace (h c hc)

/-- A character that is neither of a word, nor a dot, a blank or a quote stands in the path, if it stands
in what is written for it. -/
theorem Spelled.mem_path {spec : ImportSpec} {t : Text} (h : Spelled spec t) {c : Char}
    (halias : isAlias c = false) (hblank : isBlank c = false) (hquote : c ≠ '"') (hc : c ∈ t) :
    c ∈ spec.path := by
  have hin : ∀ path : Text, c ∈ inQuotes path → c ∈ path := by
    intro path hmem
    simpa [inQuotes, hquote] using hmem
  cases h with
  | plain _ => exact hin _ hc
  | named hname hgap hne hpath =>
    rcases List.mem_append.1 hc with hc | hc
    · rw [hname.isAlias hc] at halias
      cases halias
    · rcases List.mem_append.1 hc with hc | hc
      · rw [List.all_eq_true.1 (all_isBlank hgap) c hc] at hblank
        cases hblank
      · exact hin _ hc

theorem Spelled.isImportPath {spec : ImportSpec} {t : Text} (h : Spelled spec t) :
    IsImportPath spec.path := by
  cases h with
  | plain hpath => exact hpath
  | named _ _ _ hpath => exact hpath

/-- What is written for a path has no brackets. -/
theorem Spelled.not_mem_brackets {spec : ImportSpec} {t : Text} (h : Spelled spec t) :
    '(' ∉ t ∧ ')' ∉ t :=
  ⟨fun hc => (h.isImportPath.plain _ (h.mem_path (by decide) (by decide) (by decide) hc)).2.1 rfl,
    fun hc => (h.isImportPath.plain _ (h.mem_path (by decide) (by decide) (by decide) hc)).2.2.1 rfl⟩

/-- What is written for a path ends with the quote. -/
theorem Spelled.exists_last {spec : ImportSpec} {t : Text} (h : Spelled spec t) :
    ∃ init, t = init ++ ['"'] := by
  cases h with
  | @plain path _ => exact ⟨'"' :: path, rfl⟩
  | @named name gap path _ _ _ _ => exact ⟨name ++ (gap ++ '"' :: path), by simp [inQuotes]⟩

/-- What is written for a path begins with a quote or with its name. -/
theorem Spelled.exists_first {spec : ImportSpec} {t : Text} (h : Spelled spec t) :
    ∃ c rest, t = c :: rest ∧ isBlank c = false ∧ c ≠ '(' := by
  cases h with
  | @plain path _ => exact ⟨'"', path ++ ['"'], rfl, by decide, by decide⟩
  | @named name gap path hname _ _ _ =>
    obtain ⟨c, name, rfl⟩ := List.exists_cons_of_ne_nil hname.ne_nil
    have hc : isAlias c = true := hname.isAlias List.mem_cons_self
    refine ⟨c, _, rfl, isBlank_of_isAlias hc, ?_⟩
    rintro rfl
    cases hc

/-! ## §2 Passing by and taking -/

section Scans

variable {α : Type} {read : Text → Option (α × Text)}

theorem findAll_nil : findAll read [] = [] := by
  rw [findAll, scan]
  rfl

theorem findAll_of_none {c : Char} {s : Text} (h : read (c :: s) = none) :
    findAll read (c :: s) = findAll read s := by
  rw [findAll, scan_none h]
  rfl

/-- A text passes by if nothing is found where some of it is left. -/
theorem findAll_passes {x s : Text} (h : ∀ u v, x = u ++ v → v ≠ [] → read (v ++ s) = none) :
    findAll read (x ++ s) = findAll read s := by
  induction x with
  | nil => rfl
  | cons c x ih =>
    have hhead : read (c :: (x ++ s)) = none := h [] (c :: x) rfl (List.cons_ne_nil c x)
    rw [List.cons_append, findAll_of_none hhead]
    exact ih fun u v hx hv => h (c :: u) v (by rw [hx, List.cons_append]) hv

/-- After a finding the search goes on behind what was taken. -/
theorem findAll_takes {x s : Text} {a : α} (hx : x ≠ []) (h : read (x ++ s) = some (a, s)) :
    findAll read (x ++ s) = a :: findAll read s := by
  obtain ⟨c, x, rfl⟩ := List.exists_cons_of_ne_nil hx
  rw [List.cons_append] at h ⊢
  rw [findAll, scan_found h (by simp)]
  rfl

end Scans

/-! ## §3 The readers -/

theorem afterKeyword?_import {gap s : Text} {c : Char} (hgap : gap.all isGoSpace = true) (hne : gap ≠ [])
    (hc : isBlank c = false) :
    afterKeyword? "import" (importKeyword ++ (gap ++ c :: s)) = some (c :: s) := by
  obtain ⟨b, gap, rfl⟩ := List.exists_cons_of_ne_nil hne
  have hblank := all_isBlank hgap
  rw [List.all_cons, Bool.and_eq_true] at hblank
  refine afterKeyword?_eq_some_iff.2 ⟨b, gap ++ c :: s, hblank.1, rfl, ?_⟩
  exact (trimStart_append hblank.2 hc s).symm

/-- There is no keyword where it does not stand with a blank behind it. -/
theorem afterKeyword?_eq_none {s : Text}
    (h : ∀ c rest, isBlank c = true → s ≠ importKeyword ++ c :: rest) :
    afterKeyword? "import" s = none := by
  rw [Option.eq_none_iff_forall_ne_some]
  intro t ht
  obtain ⟨c, rest, hc, hs, -⟩ := afterKeyword?_eq_some_iff.1 ht
  exact h c rest hc hs

theorem singleImport?_eq_none {s : Text} (h : afterKeyword? "import" s = none) :
    singleImport? s = none := by
  rw [singleImport?, h]
  rfl

theorem blockImport?_eq_none {s : Text} (h : afterKeyword? "import" s = none) :
    blockImport? s = none := by
  rw [blockImport?, h]

theorem afterKeyword?_of_ne {c : Char} (hc : c ≠ 'i') (s : Text) :
    afterKeyword? "import" (c :: s) = none :=
  afterKeyword?_eq_none fun _ _ _ h => hc (List.cons.inj h).1

/-- A reader of the keyword passes by what the keyword cannot begin in. -/
theorem findAll_of_not_mem {α : Type} {read : Text → Option (α × Text)}
    (hread : ∀ {s}, afterKeyword? "import" s = none → read s = none) {x : Text} (hx : 'i' ∉ x)
    (s : Text) : findAll read (x ++ s) = findAll read s := by
  refine findAll_passes fun u v huv hv => hread ?_
  obtain ⟨c, v, rfl⟩ := List.exists_cons_of_ne_nil hv
  refine afterKeyword?_of_ne ?_ _
  rintro rfl
  exact hx (huv ▸ List.mem_append_right u List.mem_cons_self)

theorem not_mem_of_isGoSpace {gap : Text} (hgap : gap.all isGoSpace = true) {c : Char}
    (hc : isGoSpace c = false) : c ∉ gap := by
  intro hmem
  rw [List.all_eq_true.1 hgap c hmem] at hc
  cases hc

/-- A reader of the keyword passes by blanks. -/
theorem findAll_gap {α : Type} {read : Text → Option (α × Text)}
    (hread : ∀ {s}, afterKeyword? "import" s = none → read s = none) {gap : Text}
    (hgap : gap.all isGoSpace = true) (s : Text) : findAll read (gap ++ s) = findAll read s :=
  findAll_of_not_mem hread (not_mem_of_isGoSpace hgap rfl) s

theorem quotedPath?_inQuotes {path : Text} (hpath : IsImportPath path) (s : Text) :
    quotedPath? (inQuotes path ++ s) = some (path, s) := by
  have hquote : '"' ∉ path := fun h => (hpath.plain _ h).1 rfl
  have hupTo : upTo? '"' (path ++ '"' :: s) = some (path, s) := upTo?_eq_some_iff.2 ⟨rfl, hquote⟩
  obtain ⟨c, path, rfl⟩ := List.exists_cons_of_ne_nil hpath.nonempty
  have hshape : inQuotes (c :: path) ++ s = '"' :: (c :: path ++ '"' :: s) := by simp [inQuotes]
  rw [hshape, quotedPath?, hupTo]

theorem afterAlias?_inQuotes (path s : Text) : afterAlias? (inQuotes path ++ s) = none := rfl

theorem afterAlias?_name {name gap path : Text} (hname : IsImportName name)
    (hgap : gap.all isGoSpace = true) (hne : gap ≠ []) (s : Text) :
    afterAlias? (name ++ (gap ++ (inQuotes path ++ s))) = some (inQuotes path ++ s) := by
  obtain ⟨b, gap, rfl⟩ := List.exists_cons_of_ne_nil hne
  have hblank := all_isBlank hgap
  rw [List.all_cons, Bool.and_eq_true] at hblank
  have hb : isAlias b = false := isAlias_of_isBlank hblank.1
  have htake : (name ++ (b :: gap ++ (inQuotes path ++ s))).takeWhile isAlias = name := by
    rw [List.takeWhile_append_of_pos fun c hc => hname.isAlias hc, List.cons_append,
      List.takeWhile_cons_of_neg (by simp [hb]), List.append_nil]
  have hdrop : (name ++ (b :: gap ++ (inQuotes path ++ s))).dropWhile isAlias =
      b :: (gap ++ (inQuotes path ++ s)) := by
    rw [List.dropWhile_append_of_pos fun c hc => hname.isAlias hc, List.cons_append,
      List.dropWhile_cons_of_neg (by simp [hb])]
  obtain ⟨n, name, rfl⟩ := List.exists_cons_of_ne_nil hname.ne_nil
  rw [afterAlias?, htake, hdrop]
  simp only [hblank.1, if_true]
  exact congrArg some (trimStart_append hblank.2 (by decide) _)

/-- An import of one path is taken as a whole. -/
theorem singleImport?_spelled {spec : ImportSpec} {gap t : Text} (hgap : gap.all isGoSpace = true)
    (hne : gap ≠ []) (hspec : Spelled spec t) (s : Text) :
    singleImport? (importKeyword ++ (gap ++ (t ++ s))) = some (spec.path, s) := by
  obtain ⟨c, rest, ht, hc, -⟩ := hspec.exists_first
  have hkeyword : afterKeyword? "import" (importKeyword ++ (gap ++ (t ++ s))) = some (t ++ s) := by
    rw [ht]
    exact afterKeyword?_import hgap hne hc
  have hname : (afterAlias? (t ++ s)).getD (t ++ s) = inQuotes spec.path ++ s := by
    cases hspec with
    | plain _ => rw [afterAlias?_inQuotes, Option.getD_none]
    | named hname hgap hne _ =>
      rw [List.append_assoc, List.append_assoc, afterAlias?_name hname hgap hne, Option.getD_some]
  rw [singleImport?, hkeyword, Option.bind_eq_bind, Option.bind_some, hname]
  exact quotedPath?_inQuotes hspec.isImportPath s

/-- Brackets behind the keyword are no import of one path. -/
theorem singleImport?_bracket {gap : Text} (hgap : gap.all isGoSpace = true) (hne : gap ≠ []) (s : Text) :
    singleImport? (importKeyword ++ (gap ++ '(' :: s)) = none := by
  rw [singleImport?, afterKeyword?_import hgap hne (by decide)]
  rfl

/-- An import in brackets is taken as a whole. -/
theorem blockImport?_bracket {gap inside : Text} (hgap : gap.all isGoSpace = true) (hne : gap ≠ [])
    (hinside : ')' ∉ inside) (s : Text) :
    blockImport? (importKeyword ++ (gap ++ '(' :: (inside ++ ')' :: s))) = some (inside, s) := by
  rw [blockImport?, afterKeyword?_import hgap hne (by decide)]
  exact upTo?_eq_some_iff.2 ⟨rfl, hinside⟩

/-! ## §4 Single imports -/

/-- The keyword and a blank do not begin in front of a quote and end behind it. -/
theorem keyword_of_quoted {v s rest : Text} {c : Char} (hc : isBlank c = true)
    (h : v ++ '"' :: s = importKeyword ++ c :: rest) : ∃ r, v = importKeyword ++ c :: r := by
  have hsplit : v ++ '"' :: s = (importKeyword ++ [c]) ++ rest := by simp [h]
  have hquote : '"' ∉ importKeyword ++ [c] := by
    simp only [importKeyword, List.mem_append, List.mem_singleton, not_or]
    refine ⟨by decide, ?_⟩
    rintro rfl
    cases hc
  rcases List.append_eq_append_iff.1 hsplit with ⟨a, hkeyword, ha⟩ | ⟨r, rfl, -⟩
  · cases a with
    | nil => exact ⟨[], by rw [hkeyword, List.append_nil]⟩
    | cons d a =>
      obtain ⟨rfl, -⟩ := List.cons.inj ha
      exact absurd (hkeyword ▸ List.mem_append_right v List.mem_cons_self) hquote
  · exact ⟨r, by simp⟩

/-- A text between quotes passes by, if it does not hide the keyword. -/
theorem findAll_single_inQuotes {path : Text} (h : ¬ Hides path) (s : Text) :
    findAll singleImport? (inQuotes path ++ s) = findAll singleImport? s := by
  refine findAll_passes fun u v huv hv => singleImport?_eq_none (afterKeyword?_eq_none ?_)
  intro c rest hc hs
  obtain ⟨init, last, rfl⟩ := (List.eq_nil_or_concat' v).resolve_left hv
  have hquoted : ('"' :: path) ++ ['"'] = (u ++ init) ++ [last] := by
    rw [List.append_assoc]
    exact huv
  obtain ⟨hinit, hlast⟩ : '"' :: path = u ++ init ∧ ['"'] = [last] := List.append_inj' hquoted rfl
  obtain rfl := List.singleton_inj.1 hlast
  rw [List.append_assoc] at hs
  obtain ⟨r, rfl⟩ := keyword_of_quoted hc hs
  cases u with
  | nil => cases hinit
  | cons d u =>
    obtain ⟨-, hpath⟩ := List.cons.inj hinit
    exact h ⟨u, c, r, hc, by rw [List.append_assoc]; exact hpath⟩

theorem isAlias_importKeyword : importKeyword.all isAlias = true := by decide

/-- In a name the keyword ends where a blank follows. -/
theorem keyword_of_name {v gap s rest : Text} {c : Char} (hc : isBlank c = true)
    (hv : ∀ d ∈ v, isAlias d = true) (hgap : gap.all isGoSpace = true) (hne : gap ≠ [])
    (h : v ++ (gap ++ s) = importKeyword ++ c :: rest) : v = importKeyword := by
  obtain ⟨b, gap, rfl⟩ := List.exists_cons_of_ne_nil hne
  have hb : isAlias b = false :=
    isAlias_of_isBlank (List.all_eq_true.1 (all_isBlank hgap) b List.mem_cons_self)
  rcases List.append_eq_append_iff.1 h with ⟨a, hkeyword, ha⟩ | ⟨a, rfl, ha⟩
  · cases a with
    | nil => rw [hkeyword, List.append_nil]
    | cons d a =>
      -- The blank behind the name would stand in the keyword.
      obtain ⟨rfl, -⟩ := List.cons.inj ha
      have hmem : b ∈ importKeyword := hkeyword ▸ List.mem_append_right v List.mem_cons_self
      rw [List.all_eq_true.1 isAlias_importKeyword b hmem] at hb
      cases hb
  · cases a with
    | nil => rw [List.append_nil]
    | cons d a =>
      -- The blank behind the keyword would stand in the name.
      obtain ⟨rfl, -⟩ := List.cons.inj ha
      have halias : isAlias c = true := hv c (List.mem_append_right _ List.mem_cons_self)
      rw [isAlias_of_isBlank hc] at halias
      cases halias

/-- The beginning of a name passes by if no end of the name that begins in it is the keyword. -/
theorem findAll_single_front {front back gap : Text} (hname : ∀ c ∈ front ++ back, isAlias c = true)
    (hfront : ∀ v, v ≠ [] → v <:+ front → v ++ back ≠ importKeyword)
    (hgap : gap.all isGoSpace = true) (hne : gap ≠ []) (s : Text) :
    findAll singleImport? (front ++ (back ++ (gap ++ s))) =
      findAll singleImport? (back ++ (gap ++ s)) := by
  refine findAll_passes fun u v huv hv => singleImport?_eq_none (afterKeyword?_eq_none ?_)
  intro c rest hc hs
  rw [← List.append_assoc] at hs
  refine hfront v hv ⟨u, huv.symm⟩ (keyword_of_name hc (fun d hd => hname d ?_) hgap hne hs)
  rw [huv, List.append_assoc]
  exact List.mem_append_right u hd

/-- Of what is written for a path in brackets only a name that ends in the keyword is read as one, and
then the path behind it is taken. -/
theorem findAll_single_spelled {spec : ImportSpec} {t : Text} (hspec : Spelled spec t)
    (hhides : ¬ Hides spec.path) (s : Text) :
    findAll singleImport? (t ++ s) = spec.early ++ findAll singleImport? s := by
  cases hspec with
  | plain _ => exact findAll_single_inQuotes hhides s
  | @named name gap path hname hgap hne hpath =>
    rw [List.append_assoc, List.append_assoc]
    by_cases hsuffix : importKeyword <:+ name
    · have hearly : ImportSpec.early ⟨some name, path⟩ = [path] :=
        if_pos (List.isSuffixOf_iff_suffix.2 hsuffix)
      obtain ⟨front, rfl⟩ := hsuffix
      have hfront : ∀ v, v ≠ [] → v <:+ front → v ++ importKeyword ≠ importKeyword :=
        fun v hv _ hkeyword => hv (List.append_left_eq_self.1 hkeyword)
      have hread : singleImport? (importKeyword ++ (gap ++ inQuotes path) ++ s) = some (path, s) := by
        rw [List.append_assoc, List.append_assoc]
        exact singleImport?_spelled hgap hne (.plain hpath) s
      have hpass := findAll_single_front (fun c hc => hname.isAlias hc) hfront hgap hne
        (inQuotes path ++ s)
      have htake := findAll_takes (List.append_ne_nil_of_left_ne_nil importKeyword_ne_nil _) hread
      rw [List.append_assoc, List.append_assoc] at htake
      rw [List.append_assoc, hpass, htake, hearly]
      rfl
    · have hearly : ImportSpec.early ⟨some name, path⟩ = [] :=
        if_neg fun h => hsuffix (List.isSuffixOf_iff_suffix.1 h)
      have hfront : ∀ v, v ≠ [] → v <:+ name → v ++ [] ≠ importKeyword := by
        rintro v - hv hkeyword
        rw [List.append_nil] at hkeyword
        exact hsuffix (hkeyword ▸ hv)
      have hall : ∀ c ∈ name ++ [], isAlias c = true := fun c hc => hname.isAlias (by simpa using hc)
      have hpass := findAll_single_front hall hfront hgap hne (inQuotes path ++ s)
      rw [List.nil_append] at hpass
      rw [hpass, findAll_gap singleImport?_eq_none hgap, findAll_single_inQuotes hhides, hearly,
        List.nil_append]

theorem findAll_single_bracketed {specs : List ImportSpec} {inside : Text} (h : Bracketed specs inside)
    (hhides : ∀ spec ∈ specs, ¬ Hides spec.path) (s : Text) :
    findAll singleImport? (inside ++ s) =
      specs.flatMap ImportSpec.early ++ findAll singleImport? s := by
  induction h with
  | nil => rfl
  | @blank specs c t hc _ ih =>
    have hgap : [c].all isGoSpace = true := by simpa using hc
    rw [← ih hhides]
    exact findAll_gap singleImport?_eq_none hgap (t ++ s)
  | @spec spec specs t gap inside hspec hgap _ _ ih =>
    rw [List.append_assoc, List.append_assoc,
      findAll_single_spelled hspec (hhides spec List.mem_cons_self),
      findAll_gap singleImport?_eq_none hgap,
      ih fun spec hmem => hhides spec (List.mem_cons_of_mem _ hmem), List.flatMap_cons,
      List.append_assoc]

/-- The keyword in front of brackets passes by. -/
theorem findAll_single_bracket {gap : Text} (hgap : gap.all isGoSpace = true) (hne : gap ≠ [])
    (s : Text) :
    findAll singleImport? (importKeyword ++ (gap ++ '(' :: s)) = findAll singleImport? s := by
  have hbehind : findAll singleImport? (['m', 'p', 'o', 'r', 't'] ++ (gap ++ '(' :: s)) =
      findAll singleImport? s := by
    rw [findAll_of_not_mem singleImport?_eq_none (by decide), findAll_gap singleImport?_eq_none hgap]
    exact findAll_of_none (singleImport?_eq_none (afterKeyword?_of_ne (by decide) s))
  exact (findAll_of_none (singleImport?_bracket hgap hne s)).trans hbehind

/-- The scan for single imports takes the paths of the declarations that it takes early, in their
order. -/
theorem findAll_single_declared {ds : List ImportDecl} {code : Text} (h : Declared ds code)
    (hplain : ∀ d ∈ ds, d.IsPlain) : findAll singleImport? code = ds.flatMap ImportDecl.early := by
  induction h with
  | nil => exact findAll_nil
  | @blank ds c s hc _ ih =>
    have hgap : [c].all isGoSpace = true := by simpa using hc
    rw [← ih hplain]
    exact findAll_gap singleImport?_eq_none hgap s
  | @single spec ds gap t s hgap hne hspec _ ih =>
    have hread : singleImport? (importKeyword ++ (gap ++ t) ++ s) = some (spec.path, s) := by
      rw [List.append_assoc, List.append_assoc]
      exact singleImport?_spelled hgap hne hspec s
    have htake := findAll_takes (List.append_ne_nil_of_left_ne_nil importKeyword_ne_nil _) hread
    rw [List.append_assoc, List.append_assoc] at htake
    rw [htake, ih fun d hd => hplain d (List.mem_cons_of_mem _ hd)]
    rfl
  | @block specs ds gap inside s hgap hne hinside _ ih =>
    have hclose : findAll singleImport? (')' :: s) = findAll singleImport? s :=
      findAll_of_none (singleImport?_eq_none (afterKeyword?_of_ne (by decide) s))
    rw [findAll_single_bracket hgap hne,
      findAll_single_bracketed hinside (hplain _ List.mem_cons_self), hclose,
      ih fun d hd => hplain d (List.mem_cons_of_mem _ hd)]
    rfl

/-! ## §5 Imports in brackets -/

theorem Bracketed.not_mem {specs : List ImportSpec} {inside : Text} (h : Bracketed specs inside) :
    ')' ∉ inside := by
  induction h with
  | nil => exact List.not_mem_nil
  | @blank specs c s hc _ ih =>
    rw [List.mem_cons, not_or]
    refine ⟨?_, ih⟩
    rintro rfl
    cases hc
  | @spec spec specs t gap s hspec hgap _ _ ih =>
    simp only [List.mem_append, not_or]
    exact ⟨hspec.not_mem_brackets.2, not_mem_of_isGoSpace hgap rfl, ih⟩

/-- No bracket behind a quote belongs to a keyword in front of it. -/
theorem blockImport?_quoted {v : Text} (hv : '(' ∉ v) (s : Text) :
    blockImport? (v ++ '"' :: s) = none := by
  rw [blockImport?]
  split
  · next inside hkeyword =>
    exfalso
    obtain ⟨c, t, hc, hs, htrim⟩ := afterKeyword?_eq_some_iff.1 hkeyword
    obtain ⟨r, rfl⟩ := keyword_of_quoted hc hs
    obtain ⟨g, hg, ht⟩ := exists_trimStart t
    have hsplit : r ++ '"' :: s = g ++ '(' :: inside := by
      have hkeyword : importKeyword ++ c :: (r ++ '"' :: s) = importKeyword ++ c :: t := by
        rw [← List.cons_append, ← List.append_assoc]
        exact hs
      rw [htrim, ← ht]
      exact (List.cons.inj (List.append_cancel_left hkeyword)).2
    rcases List.append_eq_append_iff.1 hsplit with ⟨a, rfl, ha⟩ | ⟨a, rfl, ha⟩
    · cases a with
      | nil => cases ha
      | cons d a =>
        obtain ⟨rfl, -⟩ := List.cons.inj ha
        have hquote : isBlank '"' = true := List.all_eq_true.1 hg '"' (by simp)
        cases hquote
    · cases a with
      | nil => cases ha
      | cons d a =>
        obtain ⟨rfl, -⟩ := List.cons.inj ha
        exact hv (by simp)
  · rfl

/-- An import of one path passes by. -/
theorem findAll_block_single {spec : ImportSpec} {gap t : Text} (hgap : gap.all isGoSpace = true)
    (hspec : Spelled spec t) (s : Text) :
    findAll blockImport? (importKeyword ++ (gap ++ (t ++ s))) = findAll blockImport? s := by
  have hopen : '(' ∉ importKeyword ++ (gap ++ t) := by
    simp only [List.mem_append, not_or]
    exact ⟨by decide, not_mem_of_isGoSpace hgap rfl, hspec.not_mem_brackets.1⟩
  obtain ⟨init, hinit⟩ := hspec.exists_last
  have hpass : findAll blockImport? (importKeyword ++ (gap ++ t) ++ s) = findAll blockImport? s := by
    refine findAll_passes fun u v huv hv => ?_
    obtain ⟨w, last, rfl⟩ := (List.eq_nil_or_concat' v).resolve_left hv
    have hquote : ['"'] = [last] := by
      have hshape : (importKeyword ++ (gap ++ init)) ++ ['"'] = (u ++ w) ++ [last] := by
        rw [List.append_assoc u, ← huv, hinit]
        simp
      exact (List.append_inj' hshape rfl).2
    obtain rfl := List.singleton_inj.1 hquote
    rw [List.append_assoc]
    refine blockImport?_quoted (fun hmem => hopen ?_) s
    rw [huv]
    exact List.mem_append_right u (List.mem_append_left _ hmem)
  rwa [List.append_assoc, List.append_assoc] at hpass

/-! ## §6 Lines -/

/-- The path on a line. -/
def linePath? (line : Text) : Option Text := (findAll quotedPath? line).head?

theorem blockPaths_eq (inside : Text) : blockPaths inside = (lines inside).filterMap linePath? := rfl

theorem quotedPath?_of_ne {c : Char} (hc : c ≠ '"') (s : Text) : quotedPath? (c :: s) = none := by
  rw [quotedPath?.eq_def]
  split
  · next h => exact absurd (List.cons.inj h).1 hc
  · rfl

theorem linePath?_nil : linePath? [] = none := by
  rw [linePath?, findAll_nil]
  rfl

theorem linePath?_of_ne {c : Char} (hc : c ≠ '"') (line : Text) :
    linePath? (c :: line) = linePath? line := by
  rw [linePath?, findAll_of_none (quotedPath?_of_ne hc line)]
  rfl

theorem linePath?_inQuotes {path : Text} (hpath : IsImportPath path) (line : Text) :
    linePath? (inQuotes path ++ line) = some path := by
  rw [linePath?, findAll_takes (inQuotes_ne_nil path) (quotedPath?_inQuotes hpath line)]
  rfl

theorem filterMap_consLine {c : Char} (hc : c ≠ '"') (rest : List Text) :
    (consLine c rest).filterMap linePath? = rest.filterMap linePath? := by
  cases rest with
  | nil =>
    show List.filterMap linePath? [[c]] = []
    rw [List.filterMap_cons_none ((linePath?_of_ne hc []).trans linePath?_nil)]
    rfl
  | cons line rest =>
    rw [consLine, List.filterMap_cons, List.filterMap_cons, linePath?_of_ne hc]

/-- What is not a quote makes no difference in front of the lines. -/
theorem blockPaths_cons {c : Char} (hc : c ≠ '"') (s : Text) : blockPaths (c :: s) = blockPaths s := by
  simp only [blockPaths_eq]
  rw [lines.eq_def]
  split
  · next h => cases h
  · next s' h =>
    obtain ⟨rfl, rfl⟩ := List.cons.inj h
    rw [lines_end rfl (by simp)]
  · next h =>
    obtain ⟨rfl, rfl⟩ := List.cons.inj h
    split
    · exact List.filterMap_cons_none linePath?_nil
    · exact filterMap_consLine hc (lines s)

theorem blockPaths_append {x : Text} (hx : '"' ∉ x) (s : Text) :
    blockPaths (x ++ s) = blockPaths s := by
  induction x with
  | nil => rfl
  | cons c x ih =>
    rw [List.mem_cons, not_or] at hx
    rw [List.cons_append, blockPaths_cons (Ne.symm hx.1), ih hx.2]

/-- Behind the first line the paths are those of the rest, if the line ends in front of it. -/
theorem filterMap_tail_lines {gap s : Text} (hgap : '"' ∉ gap) (hline : '\n' ∈ gap ∨ s = []) :
    (lines (gap ++ s)).tail.filterMap linePath? = blockPaths s := by
  induction gap with
  | nil =>
    rw [hline.resolve_left List.not_mem_nil]
    rfl
  | cons c gap ih =>
    rw [List.mem_cons, not_or] at hgap
    have hrest : blockPaths (gap ++ s) = blockPaths s := blockPaths_append hgap.2 s
    rw [List.cons_append, lines.eq_def]
    split
    · next h => cases h
    · next s' h =>
      -- The line feed behind a carriage return belongs to the same line end.
      obtain ⟨-, hfeed⟩ := List.cons.inj h
      rw [← hrest, hfeed, blockPaths_cons (by decide)]
      rfl
    · next h =>
      obtain ⟨rfl, rfl⟩ := List.cons.inj h
      split
      · exact hrest
      · next hend =>
        have hline : '\n' ∈ gap ∨ s = [] := by
          refine hline.imp_left fun hmem => (List.mem_cons.1 hmem).resolve_left ?_
          rintro rfl
          exact hend rfl
        rw [← ih hgap.2 hline]
        cases lines (gap ++ s) <;> rfl

/-- Characters that end no line begin the first line. -/
theorem exists_lines_append {x : Text} (hx : ∀ c ∈ x, isLineEnd c = false) (hne : x ≠ []) (s : Text) :
    ∃ line, lines (x ++ s) = (x ++ line) :: (lines s).tail := by
  induction x with
  | nil => exact absurd rfl hne
  | cons c x ih =>
    rw [List.cons_append, lines_char (hx c List.mem_cons_self)]
    by_cases hnil : x = []
    · subst hnil
      cases hs : lines s with
      | nil => exact ⟨[], by rw [List.nil_append, hs]; rfl⟩
      | cons line rest => exact ⟨line, by rw [List.nil_append, hs]; rfl⟩
    · obtain ⟨line, hlines⟩ := ih (fun d hd => hx d (List.mem_cons_of_mem _ hd)) hnil
      exact ⟨line, by rw [hlines]; rfl⟩

theorem blockPaths_inQuotes {path gap s : Text} (hpath : IsImportPath path)
    (hgap : gap.all isGoSpace = true) (hline : '\n' ∈ gap ∨ s = []) :
    blockPaths (inQuotes path ++ (gap ++ s)) = path :: blockPaths s := by
  have hends : ∀ c ∈ inQuotes path, isLineEnd c = false := by
    intro c hc
    rcases List.mem_cons.1 hc with rfl | hc
    · rfl
    · rcases List.mem_append.1 hc with hc | hc
      · exact (hpath.plain c hc).2.2.2
      · rw [List.mem_singleton.1 hc]
        rfl
  obtain ⟨line, hlines⟩ := exists_lines_append hends (inQuotes_ne_nil path) (gap ++ s)
  rw [blockPaths_eq, hlines, List.filterMap_cons_some (linePath?_inQuotes hpath line),
    filterMap_tail_lines (not_mem_of_isGoSpace hgap rfl) hline]

/-- A path is found on its line, under whatever name. -/
theorem blockPaths_spelled {spec : ImportSpec} {t gap s : Text} (hspec : Spelled spec t)
    (hgap : gap.all isGoSpace = true) (hline : '\n' ∈ gap ∨ s = []) :
    blockPaths (t ++ (gap ++ s)) = spec.path :: blockPaths s := by
  cases hspec with
  | plain hpath => exact blockPaths_inQuotes hpath hgap hline
  | @named name before path hname hbefore _ hpath =>
    have hquote : '"' ∉ name ++ before := by
      rw [List.mem_append, not_or]
      exact ⟨fun hmem => Bool.false_ne_true (hname.isAlias hmem), not_mem_of_isGoSpace hbefore rfl⟩
    rw [← List.append_assoc name, List.append_assoc, blockPaths_append hquote]
    exact blockPaths_inQuotes hpath hgap hline

theorem blockPaths_bracketed {specs : List ImportSpec} {inside : Text} (h : Bracketed specs inside) :
    blockPaths inside = specs.map ImportSpec.path := by
  induction h with
  | nil => rfl
  | @blank specs c s hc _ ih =>
    rw [← ih]
    refine blockPaths_cons ?_ s
    rintro rfl
    cases hc
  | spec hspec hgap hline _ ih => rw [blockPaths_spelled hspec hgap hline, ih, List.map_cons]

/-- The insides of the brackets are what the other scan takes, and their paths are those of the
declarations. -/
theorem findAll_block_declared {ds : List ImportDecl} {code : Text} (h : Declared ds code) :
    (findAll blockImport? code).flatMap blockPaths = ds.flatMap ImportDecl.late := by
  induction h with
  | nil => rw [findAll_nil]; rfl
  | @blank ds c s hc _ ih =>
    have hgap : [c].all isGoSpace = true := by simpa using hc
    rw [← ih]
    exact congrArg _ (findAll_gap blockImport?_eq_none hgap s)
  | @single spec ds gap t s hgap _ hspec _ ih =>
    rw [findAll_block_single hgap hspec, ih]
    rfl
  | @block specs ds gap inside s hgap hne hinside _ ih =>
    have hread : blockImport? (importKeyword ++ (gap ++ '(' :: (inside ++ [')'])) ++ s) =
        some (inside, s) := by
      have htake := blockImport?_bracket hgap hne hinside.not_mem s
      simpa using htake
    have htake := findAll_takes (List.append_ne_nil_of_left_ne_nil importKeyword_ne_nil _) hread
    have hshape : importKeyword ++ (gap ++ '(' :: (inside ++ ')' :: s)) =
        importKeyword ++ (gap ++ '(' :: (inside ++ [')'])) ++ s := by simp
    rw [hshape, htake, List.flatMap_cons, blockPaths_bracketed hinside, ih]
    rfl

/-! ## §7 Paths -/

theorem mem_early {spec : ImportSpec} {path : Text} (h : path ∈ spec.early) : path = spec.path := by
  rw [ImportSpec.early] at h
  split at h
  · exact List.mem_singleton.1 h
  · cases h

/-- What the two scans take of a declaration are its paths. -/
theorem mem_early_or_late {d : ImportDecl} {path : Text} :
    path ∈ d.early ∨ path ∈ d.late ↔ path ∈ d.paths := by
  cases d with
  | single spec => exact or_iff_left List.not_mem_nil
  | block specs =>
    refine ⟨fun h => h.elim (fun hearly => ?_) id, .inr⟩
    obtain ⟨spec, hspec, hmem⟩ := List.mem_flatMap.1 hearly
    exact List.mem_map.2 ⟨spec, hspec, (mem_early hmem).symm⟩

/-- Of import declarations in any layout, whose paths are not empty (`IsImportPath`) and, in brackets,
do not hide the keyword, each path is found, once, and nothing else: first what the scan for single
imports takes, then the paths in brackets. If the single imports stand in front and no name in brackets
ends in the keyword, that is the order of the source. -/
theorem imports_of_declared {ds : List ImportDecl} {code : Text} (h : Declared ds code)
    (hplain : ∀ d ∈ ds, d.IsPlain) :
    imports code = (ds.flatMap ImportDecl.early ++ ds.flatMap ImportDecl.late).eraseDups ∧
      (imports code).Nodup ∧
      (∀ path, path ∈ imports code ↔ path ∈ ds.flatMap ImportDecl.paths) ∧
      (∀ (specs : List ImportSpec) (blocks : List (List ImportSpec)),
        ds = specs.map .single ++ blocks.map .block →
        (∀ block ∈ blocks, ∀ spec ∈ block, spec.early = []) →
        imports code = (ds.flatMap ImportDecl.paths).eraseDups) := by
  have hfound : imports code =
      (ds.flatMap ImportDecl.early ++ ds.flatMap ImportDecl.late).eraseDups := by
    rw [imports, findAll_single_declared h hplain, findAll_block_declared h]
  refine ⟨hfound, nodup_eraseDups _, fun path => ?_, fun specs blocks hds hnames => ?_⟩
  · rw [hfound, List.mem_eraseDups, List.mem_append]
    simp only [List.mem_flatMap, ← mem_early_or_late, and_or_left, exists_or]
  · have hsingles : ∀ specs : List ImportSpec,
        (specs.map ImportDecl.single).flatMap ImportDecl.late = [] := fun specs =>
      List.flatMap_eq_nil_iff.2 (by simp [ImportDecl.late])
    have hblocks : (blocks.map ImportDecl.block).flatMap ImportDecl.early = [] := by
      refine List.flatMap_eq_nil_iff.2 fun d hd => ?_
      obtain ⟨block, hblock, rfl⟩ := List.mem_map.1 hd
      exact List.flatMap_eq_nil_iff.2 (hnames block hblock)
    have hpaths : ds.flatMap ImportDecl.paths =
        ds.flatMap ImportDecl.early ++ ds.flatMap ImportDecl.late := by
      subst hds
      rw [List.flatMap_append, List.flatMap_append, List.flatMap_append, hsingles, hblocks,
        List.append_nil, List.nil_append]
      simp only [List.flatMap_map]
      rfl
    rw [hfound, hpaths]

theorem isImportPath_letter {c : Char} (hc : isWord c = true) : IsImportPath [c] := by
  refine ⟨List.cons_ne_nil _ _, fun d hd => ?_⟩
  obtain rfl := List.mem_singleton.1 hd
  refine ⟨?_, ?_, ?_, ?_⟩
  · rintro rfl
    cases hc
  · rintro rfl
    cases hc
  · rintro rfl
    cases hc
  · rw [← Bool.not_eq_true]
    intro hend
    rw [isWord_of_isBlank (isBlank_of_isLineEnd hend)] at hc
    cases hc

theorem isImportName_letter {c : Char} (hc : isWord c = true) : IsImportName [c] :=
  .inr ⟨List.cons_ne_nil _ _, fun _ hd => List.mem_singleton.1 hd ▸ hc⟩

/-- A short path does not hide the keyword. -/
theorem not_hides_of_length_le {path : Text} (h : path.length ≤ importKeyword.length) : ¬ Hides path := by
  rintro ⟨u, c, v, -, rfl⟩
  simp only [List.length_append, List.length_cons] at h
  omega

/-- A path in brackets under a name, and one that is imported again by itself. -/
def repeating : Text := "import (\n\t_ \"p\"\n\t\"q\"\n)\nimport f \"q\""

/-- The declarations of `repeating`. -/
def repeatingDecls : List ImportDecl :=
  [.block [⟨some ['_'], ['p']⟩, ⟨none, ['q']⟩], .single ⟨some ['f'], ['q']⟩]

theorem declared_repeating : Declared repeatingDecls repeating := by
  have hp : IsImportPath ['p'] := isImportPath_letter (by decide)
  have hq : IsImportPath ['q'] := isImportPath_letter (by decide)
  have hunderscore : IsImportName ['_'] := isImportName_letter (by decide)
  have hf : IsImportName ['f'] := isImportName_letter (by decide)
  have hspace : [' '].all isGoSpace = true := rfl
  have hfeed : isGoSpace '\n' = true := rfl
  have hne : [' '] ≠ [] := List.cons_ne_nil _ _
  have hlast : Bracketed [⟨none, ['q']⟩] (inQuotes ['q'] ++ (['\n'] ++ [])) :=
    .spec (.plain hq) rfl (.inr rfl) .nil
  have hinside : Bracketed [⟨some ['_'], ['p']⟩, ⟨none, ['q']⟩] ('\n' :: '\t' ::
      (['_'] ++ ([' '] ++ inQuotes ['p']) ++ (['\n', '\t'] ++ (inQuotes ['q'] ++ (['\n'] ++ []))))) :=
    .blank rfl (.blank rfl (.spec (.named hunderscore hspace hne hp) rfl (.inl List.mem_cons_self) hlast))
  have hsingle : Declared [.single ⟨some ['f'], ['q']⟩]
      (importKeyword ++ ([' '] ++ (['f'] ++ ([' '] ++ inQuotes ['q']) ++ []))) :=
    .single hspace hne (.named hf hspace hne hq) .nil
  have hboth := Declared.block hspace hne hinside (.blank hfeed hsingle)
  exact hboth

theorem isPlain_repeating : ∀ d ∈ repeatingDecls, d.IsPlain := by
  have hblock : ∀ spec ∈ [(⟨some ['_'], ['p']⟩ : ImportSpec), ⟨none, ['q']⟩], ¬ Hides spec.path := by
    intro spec hspec
    refine not_hides_of_length_le ?_
    rcases List.mem_pair.1 hspec with rfl | rfl <;> decide
  intro d hd
  rcases List.mem_pair.1 hd with rfl | rfl
  · exact hblock
  · trivial

/-- A path that is imported twice is found where it stands by itself. -/
theorem imports_of_declared_repeating :
    Declared repeatingDecls repeating ∧ (∀ d ∈ repeatingDecls, d.IsPlain) ∧
      imports repeating = [['q'], ['p']] :=
  ⟨declared_repeating, isPlain_repeating,
    (imports_of_declared declared_repeating isPlain_repeating).1⟩

/-- The imports in brackets come second wherever they stand: the order of the source is another one. -/
theorem imports_declared_order :
    Declared repeatingDecls repeating ∧
      (repeatingDecls.flatMap ImportDecl.paths).eraseDups = [['p'], ['q']] ∧
      imports repeating ≠ [['p'], ['q']] :=
  ⟨declared_repeating, by decide, by decide +kernel⟩

end EmbeddedGo.Go
