/-
EmbeddedGo.Proofs.DeclarationNames — the names in a declaration file.

A declaration file is read here by what TypeScript sees in it: the functions with the names of their
parameters, and the members of the object that is exported by default (`declarations`, `memberNames`).
What is read are the names that the source writes, in order. Nothing compares them on the way, and
nothing knows the words that TypeScript keeps for itself. So the file is free of clashes exactly if the
names in the source are (`isClashFree_render_iff`); the names that parameters without a name get never
clash.

  §1 declaration files
  §2 the lines of a file
  §3 what is read from a file
  §4 clashes
-/
import Mathlib.Data.List.Nodup
import EmbeddedGo.Declarations
import EmbeddedGo.Proofs.ResolvedPath
import EmbeddedGo.Proofs.Offers

namespace EmbeddedGo.Declarations

open Text Go

/-! ## §1 Declaration files -/

/-- The names in a list of parameters with types. -/
def listedNames (listed : Text) : List Text :=
  (splitOn ',' listed).filterMap fun piece => (upTo? ':' (trimStart piece)).map Prod.fst

/-- The function that a line declares, and the names of its parameters. -/
def declared? (line : Text) : Option (Text × List Text) := do
  let s ← after? "export function " line
  let (name, s) ← upTo? '(' s
  let (listed, _) ← upTo? ')' s
  return (name, listedNames listed)

/-- The functions that a file declares, with the names of their parameters. -/
def declarations (file : Text) : List (Text × List Text) := (splitOn '\n' file).filterMap declared?

/-- The member that a line of an object declares. -/
def member? (line : Text) : Option Text := do
  let s ← after? "  " line
  let (name, _) ← upTo? ':' s
  return name

/-- The members of the object in a file. -/
def memberNames (file : Text) : List Text := (splitOn '\n' file).filterMap member?

/-- The words that are no names in TypeScript: those that are reserved everywhere, and behind them
those that are reserved in strict mode, which holds in every module. -/
def reservedWords : List Text := [
  "break", "case", "catch", "class", "const", "continue", "debugger", "default", "delete", "do", "else",
  "enum", "export", "extends", "false", "finally", "for", "function", "if", "import", "in",
  "instanceof", "new", "null", "return", "super", "switch", "this", "throw", "true", "try", "typeof",
  "var", "void", "while", "with",
  "implements", "interface", "let", "package", "private", "protected", "public", "static", "yield"]

/-- No name of a declared function, of a member or of a parameter clashes with another one of its kind
or with a word of the language. The constant that gathers the functions, `bindings`, is not looked
at. -/
structure IsClashFree (file : Text) : Prop where
  functions : ((declarations file).map Prod.fst).Nodup
  members : (memberNames file).Nodup
  parameters : ∀ d ∈ declarations file, d.2.Nodup
  words : ∀ d ∈ declarations file, ∀ name ∈ d.1 :: d.2, name ∉ reservedWords

instance (file : Text) : Decidable (IsClashFree file) :=
  decidable_of_iff
    (((declarations file).map Prod.fst).Nodup ∧ (memberNames file).Nodup ∧
      (∀ d ∈ declarations file, d.2.Nodup) ∧
      ∀ d ∈ declarations file, ∀ name ∈ d.1 :: d.2, name ∉ reservedWords)
    ⟨fun h => ⟨h.1, h.2.1, h.2.2.1, h.2.2.2⟩, fun h => ⟨h.functions, h.members, h.parameters, h.words⟩⟩

/-! ## §2 Lines -/

/-- All names of a function are words. -/
structure IsNamed (f : Function) : Prop where
  name : isIdentifier f.name = true
  parameters : ∀ p ∈ f.params, isIdentifier p.name = true

theorem not_mem_identifier {name : Text} (h : isIdentifier name = true) {c : Char}
    (hc : isWord c = false) : c ∉ name := by
  intro hmem
  rw [isWord_of_mem_identifier h hmem] at hc
  cases hc

/-- The type in a declaration is a word of TypeScript. -/
theorem typeName_mem (goType : Text) : typeName goType ∈ ownTypes := by
  unfold typeName
  split
  · decide
  · split
    · next h => exact List.contains_iff_mem.1 h
    · split
      · decide
      · split <;> decide

theorem not_mem_typeName (goType : Text) {c : Char} (hc : isWord c = false) : c ∉ typeName goType := by
  have hall : ∀ t ∈ ownTypes, isIdentifier t = true := by decide
  exact not_mem_identifier (hall _ (typeName_mem goType)) hc

theorem not_mem_parameter {p : Parameter} (h : isIdentifier p.name = true) {c : Char}
    (hc : isWord c = false) (hsep : c ∉ ": ".toList) : c ∉ parameter p := by
  simp only [parameter, List.mem_append, not_or]
  exact ⟨⟨not_mem_identifier h hc, hsep⟩, not_mem_typeName p.type hc⟩

/-- What is no part of a word stands in a list of parameters only as a mark between them. -/
theorem not_mem_parameters {params : List Parameter} (h : ∀ p ∈ params, isIdentifier p.name = true)
    {c : Char} (hc : isWord c = false) (hsep : c ∉ ": ".toList) (hcomma : c ∉ ", ".toList) :
    c ∉ Text.join ", " (params.map parameter) := by
  intro hmem
  rcases mem_join hmem with hmem | ⟨piece, hpiece, hmem⟩
  · exact hcomma hmem
  · obtain ⟨p, hp, rfl⟩ := List.mem_map.1 hpiece
    exact not_mem_parameter (h p hp) hc hsep hmem

/-- The lines of a file that are the same in all files. -/
def frame : List Text :=
  ["// Generated by use-golang. Do not edit.", [], "declare const bindings: \x7b", "\x7d;",
    "export default bindings;"]

/-- No line of a function holds a line feed. -/
theorem lineFeed_not_mem_functionLine {f : Function} (h : IsNamed f) : '\n' ∉ functionLine f := by
  have hword : isWord '\n' = false := by decide
  have hname := not_mem_identifier h.name hword
  have hlisted := not_mem_parameters h.parameters hword (by decide) (by decide)
  have htype := not_mem_typeName (f.result.getD []) hword
  unfold functionLine typeOf
  simp only [List.mem_append, not_or]
  exact ⟨⟨⟨⟨⟨⟨by decide, hname⟩, by decide⟩, hlisted⟩, by decide⟩, htype⟩, by decide⟩

theorem lineFeed_not_mem_memberLine {f : Function} (h : IsNamed f) : '\n' ∉ memberLine f := by
  have hname := not_mem_identifier h.name (c := '\n') (by decide)
  simp only [memberLine, List.mem_append, not_or]
  exact ⟨⟨⟨⟨by decide, hname⟩, by decide⟩, hname⟩, by decide⟩

/-- The lines of a file. -/
theorem splitOn_render {fs : List Function} (hne : fs ≠ []) (h : ∀ f ∈ fs, IsNamed f) :
    splitOn '\n' (render fs) =
      ["// Generated by use-golang. Do not edit.".toList, []] ++ fs.map functionLine ++
        [[], "declare const bindings: \x7b".toList] ++ fs.map memberLine ++
        ["\x7d;".toList, "export default bindings;".toList, []] := by
  have hbody : body fs = fs.map functionLine ++ ([[], "declare const bindings: \x7b"] : List Text) ++
      fs.map memberLine ++ (["\x7d;", "export default bindings;"] : List Text) := by
    cases fs with
    | nil => exact absurd rfl hne
    | cons f fs => rfl
  have hlines : ∀ line ∈ "// Generated by use-golang. Do not edit.".toList :: [] :: body fs,
      '\n' ∉ line := by
    intro line hline
    rw [hbody] at hline
    simp only [List.mem_cons, List.mem_append, List.mem_map, List.not_mem_nil, or_false] at hline
    rcases hline with rfl | rfl | ((⟨f, hf, rfl⟩ | rfl | rfl) | ⟨f, hf, rfl⟩) | rfl | rfl
    · decide
    · decide
    · exact lineFeed_not_mem_functionLine (h f hf)
    · decide
    · decide
    · exact lineFeed_not_mem_memberLine (h f hf)
    · decide
    · decide
  rw [render, show ("\n" : Text) = '\n' :: [] from rfl, splitOn_append, splitOn_join (by simp) hlines,
    hbody]
  simp only [List.cons_append, List.append_assoc, List.nil_append]
  rfl

/-- A reader that finds nothing in the frame finds what is in the lines of the functions. -/
theorem filterMap_lines_render {α : Type} {read : Text → Option α}
    (hframe : ∀ line ∈ frame, read line = none) {fs : List Function} (hne : fs ≠ [])
    (h : ∀ f ∈ fs, IsNamed f) :
    (splitOn '\n' (render fs)).filterMap read =
      fs.filterMap (fun f => read (functionLine f)) ++ fs.filterMap (fun f => read (memberLine f)) := by
  have hnone : ∀ ls : List Text, (∀ line ∈ ls, line ∈ frame) → ls.filterMap read = [] :=
    fun ls hls => List.filterMap_eq_nil_iff.2 fun line hline => hframe line (hls line hline)
  rw [splitOn_render hne h]
  simp only [List.filterMap_append, List.filterMap_map]
  rw [hnone _ (by simp [frame]), hnone _ (by simp [frame]), hnone _ (by simp [frame])]
  simp only [List.nil_append, List.append_nil]
  rfl

/-! ## §3 Names -/

/-- A blank behind a comma belongs to the parameter that follows. -/
theorem join_comma (a : Text) (pieces : List Text) :
    Text.join ", " (a :: pieces) = Text.join [','] (a :: pieces.map (' ' :: ·)) := by
  induction pieces generalizing a with
  | nil => rfl
  | cons b pieces ih =>
    have hcons : Text.join [','] ((' ' :: b) :: pieces.map (' ' :: ·)) =
        ' ' :: Text.join [','] (b :: pieces.map (' ' :: ·)) := by
      cases pieces with
      | nil => rfl
      | cons c pieces =>
        rw [List.map_cons, join_cons_cons, join_cons_cons]
        rfl
    rw [join_cons_cons, List.map_cons, join_cons_cons, hcons, ih b]
    simp

/-- The name of a parameter is read, also behind a blank. -/
theorem upTo_parameter {p : Parameter} (h : isIdentifier p.name = true) {g : Text}
    (hg : g.all isBlank = true) :
    (upTo? ':' (trimStart (g ++ parameter p))).map Prod.fst = some p.name := by
  have htrim : trimStart (g ++ parameter p) = p.name ++ ':' :: (' ' :: typeName p.type) := by
    obtain ⟨c, s, hname⟩ : ∃ c s, p.name = c :: s := by
      cases hp : p.name with
      | nil =>
        rw [hp] at h
        cases h
      | cons c s => exact ⟨c, s, rfl⟩
    have hblank : isBlank c = false :=
      isBlank_of_isWord (isWord_of_mem_identifier h (by simp [hname]))
    have hparameter : parameter p = c :: (s ++ ':' :: (' ' :: typeName p.type)) := by
      simp [parameter, hname]
    rw [hparameter, trimStart_append hg hblank, hname]
    rfl
  rw [htrim, upTo?_eq_some_iff.2 ⟨rfl, not_mem_identifier h (by decide)⟩]
  rfl

/-- The names of the parameters are read from their list. -/
theorem listedNames_join {params : List Parameter} (h : ∀ p ∈ params, isIdentifier p.name = true) :
    listedNames (Text.join ", " (params.map parameter)) = params.map Parameter.name := by
  cases params with
  | nil => rfl
  | cons p params =>
    simp only [List.forall_mem_cons] at h
    have hcomma : ∀ piece ∈ parameter p :: (params.map parameter).map (' ' :: ·), ',' ∉ piece := by
      intro piece hpiece
      rw [List.map_map] at hpiece
      rcases List.mem_cons.1 hpiece with rfl | hpiece
      · exact not_mem_parameter h.1 (by decide) (by decide)
      · obtain ⟨q, hq, rfl⟩ := List.mem_map.1 hpiece
        rw [Function.comp_apply, List.mem_cons, not_or]
        exact ⟨by decide, not_mem_parameter (h.2 q hq) (by decide) (by decide)⟩
    have hfirst := upTo_parameter h.1 (g := []) rfl
    have hrest : (params.map parameter).filterMap
        (fun piece => (upTo? ':' (trimStart (' ' :: piece))).map Prod.fst) =
        params.map Parameter.name := by
      rw [List.filterMap_map, ← List.filterMap_eq_map]
      exact List.filterMap_congr fun q hq => upTo_parameter (h.2 q hq) (g := [' ']) (by decide)
    rw [List.nil_append] at hfirst
    rw [List.map_cons, join_comma, listedNames, splitOn_join (by simp) hcomma, List.filterMap_cons,
      hfirst,
      List.filterMap_map]
    exact congrArg _ hrest

/-- A function's line declares its name and those of its parameters. -/
theorem declared_functionLine {f : Function} (h : IsNamed f) :
    declared? (functionLine f) = some (f.name, f.parameterNames) := by
  have hline : functionLine f = "export function ".toList ++ (f.name ++ '(' ::
      (Text.join ", " (f.params.map parameter) ++ ')' :: (": " ++ typeOf f.result ++ ";"))) := by
    unfold functionLine
    simp only [List.append_assoc]
    rfl
  have hname : '(' ∉ f.name := not_mem_identifier h.name (by decide)
  have hlisted : ')' ∉ Text.join ", " (f.params.map parameter) :=
    not_mem_parameters h.parameters (by decide) (by decide) (by decide)
  rw [declared?, hline, after?_append]
  simp only [Option.bind_eq_bind, Option.bind_some, upTo?_eq_some_iff.2 ⟨rfl, hname⟩,
    upTo?_eq_some_iff.2 ⟨rfl, hlisted⟩, listedNames_join h.parameters]
  rfl

theorem member_memberLine {f : Function} (h : IsNamed f) : member? (memberLine f) = some f.name := by
  have hline : memberLine f = "  ".toList ++ (f.name ++ ':' :: (" typeof " ++ f.name ++ ";")) := by
    simp [memberLine]
  have hname : ':' ∉ f.name := not_mem_identifier h.name (by decide)
  rw [member?, hline, after?_append]
  simp only [Option.bind_eq_bind, Option.bind_some, upTo?_eq_some_iff.2 ⟨rfl, hname⟩]
  rfl

variable {fs : List Function}

/-- A file declares the functions that it is written for. -/
theorem declarations_render (hne : fs ≠ []) (h : ∀ f ∈ fs, IsNamed f) :
    declarations (render fs) = fs.map fun f => (f.name, f.parameterNames) := by
  have hframe : ∀ line ∈ frame, declared? line = none := by decide
  have hmember : ∀ f : Function, declared? (memberLine f) = none := fun f => rfl
  rw [declarations, filterMap_lines_render hframe hne h]
  simp only [hmember, List.filterMap_none, List.append_nil, ← List.filterMap_eq_map]
  exact List.filterMap_congr fun f hf => declared_functionLine (h f hf)

/-- The members of the object in a file are its functions. -/
theorem memberNames_render (hne : fs ≠ []) (h : ∀ f ∈ fs, IsNamed f) :
    memberNames (render fs) = fs.map Function.name := by
  have hframe : ∀ line ∈ frame, member? line = none := by decide
  have hfunction : ∀ f : Function, member? (functionLine f) = none := fun f => rfl
  rw [memberNames, filterMap_lines_render hframe hne h]
  simp only [hfunction, List.filterMap_none, List.nil_append, ← List.filterMap_eq_map]
  exact List.filterMap_congr fun f hf => member_memberLine (h f hf)

/-! ## §4 Clashes -/

/-- No word of the language begins like a numbered name. -/
theorem numberedName_not_mem_reservedWords (i : Nat) : numberedName i ∉ reservedWords := by
  have hwords : ∀ w ∈ reservedWords, startsWith w "arg" = false := by decide
  have hstart : startsWith (numberedName i) "arg" = true := startsWith_iff.2 ⟨Text.ofNat i, rfl⟩
  intro hmem
  rw [hwords _ hmem] at hstart
  cases hstart

/-- The names of parameters can clash only where the declaration gives them. -/
theorem parameterNames_clashFree_iff (o : Offer) :
    (o.parameterNames.Nodup ∧ ∀ name ∈ o.parameterNames, name ∉ reservedWords) ↔
      (¬ Signature.AllSingle o.groups → (o.groups.map Signature.Group.first).Nodup ∧
        ∀ g ∈ o.groups, g.first ∉ reservedWords) := by
  unfold Offer.parameterNames
  split
  · next hsingle =>
    refine iff_of_true ⟨List.nodup_range.map numberedName_injective, ?_⟩ (absurd hsingle)
    intro name hname
    obtain ⟨i, -, rfl⟩ := List.mem_map.1 hname
    exact numberedName_not_mem_reservedWords i
  · next hpair =>
    rw [List.forall_mem_map]
    exact ⟨fun h _ => h, fun h => h hpair⟩

/-- The functions that are exported are named by the offers that the lines make. -/
theorem isNamed_of_offers {ls : List Text} {os : List Offer} (hos : Offers ls os)
    (hnames : (exportedIn ls).map (fun f => (f.name, f.parameterNames)) =
      os.map fun o => (o.name, o.parameterNames)) : ∀ f ∈ exportedIn ls, IsNamed f := by
  intro f hf
  have hmem : (f.name, f.parameterNames) ∈ os.map fun o => (o.name, o.parameterNames) := by
    rw [← hnames]
    exact List.mem_map_of_mem hf
  obtain ⟨o, ho, heq⟩ := List.mem_map.1 hmem
  obtain ⟨hname, hparameters⟩ := Prod.mk.inj heq
  obtain ⟨line, rest, hmakes⟩ := hos.exists_makes_of_mem ho
  exact {
    name := hname ▸ hmakes.isIdentifier_name
    parameters := fun p hp => hmakes.isIdentifier_parameterName p.name (by
      rw [hparameters]
      exact List.mem_map_of_mem hp) }

/-- The declaration file of a source that exports functions declares them under the names that are
marked, as functions and as members of the object, and their parameters under the names that the
declarations give, or numbered where these give none. It is free of clashes exactly if no name is marked
twice, no declaration names two parameters alike, and none of these names is a word of the language. -/
theorem isClashFree_render_iff {source : Text} (h : exported source ≠ []) :
    ∃ os, (∀ os', Offers (lines source) os' ↔ os' = os) ∧
      declarations (render (exported source)) = os.map (fun o => (o.name, o.parameterNames)) ∧
      memberNames (render (exported source)) = os.map Offer.name ∧
      (IsClashFree (render (exported source)) ↔
        (os.map Offer.name).Nodup ∧
          ∀ o ∈ os, o.name ∉ reservedWords ∧
            (¬ Signature.AllSingle o.groups → (o.groups.map Signature.Group.first).Nodup ∧
              ∀ g ∈ o.groups, g.first ∉ reservedWords)) := by
  obtain ⟨os, hos, hnames⟩ := exists_offers (lines source)
  have hnamed := isNamed_of_offers hos hnames
  have hdeclarations := (declarations_render h hnamed).trans hnames
  have hmembers : memberNames (render (exported source)) = os.map Offer.name := by
    have hfirst := congrArg (List.map Prod.fst) hnames
    rw [List.map_map, List.map_map] at hfirst
    exact (memberNames_render h hnamed).trans hfirst
  refine ⟨os, fun os' => ⟨fun h' => h'.unique hos, fun heq => heq ▸ hos⟩, hdeclarations, hmembers, ?_⟩
  have hfirst : (declarations (render (exported source))).map Prod.fst = os.map Offer.name := by
    rw [hdeclarations, List.map_map]
    rfl
  constructor
  · rintro ⟨hfunctions, -, hparameters, hwords⟩
    rw [hfirst] at hfunctions
    rw [hdeclarations, List.forall_mem_map] at hparameters hwords
    refine ⟨hfunctions, fun o ho => ?_⟩
    have hword := List.forall_mem_cons.1 (hwords o ho)
    exact ⟨hword.1, (parameterNames_clashFree_iff o).1 ⟨hparameters o ho, hword.2⟩⟩
  · rintro ⟨hnodup, hoffers⟩
    have hparameters := fun o ho => (parameterNames_clashFree_iff o).2 (hoffers o ho).2
    exact {
      functions := hfirst ▸ hnodup
      members := hmembers ▸ hnodup
      parameters := by
        rw [hdeclarations, List.forall_mem_map]
        exact fun o ho => (hparameters o ho).1
      words := by
        rw [hdeclarations, List.forall_mem_map]
        exact fun o ho => List.forall_mem_cons.2 ⟨(hoffers o ho).1, (hparameters o ho).2⟩ }

/-- A function with named parameters, and one with parameters that have only types. -/
def plainSource : Text :=
  "//export add\nfunc add(a, b int) int \x7b\x7d\n//export log\nfunc log(string, int) \x7b\x7d\n"

theorem isClashFree_render_plain :
    exported plainSource ≠ [] ∧ IsClashFree (render (exported plainSource)) := by
  have hne : exported plainSource ≠ [] := by decide +kernel
  obtain ⟨os, -, hdeclarations, hmembers, hiff⟩ := isClashFree_render_iff hne
  refine ⟨hne, hiff.2 ⟨?_, fun o ho => ?_⟩⟩
  · rw [← hmembers]
    decide +kernel
  · have hmem : (o.name, o.parameterNames) ∈ declarations (render (exported plainSource)) := by
      rw [hdeclarations]
      exact List.mem_map_of_mem ho
    have hall : ∀ d ∈ declarations (render (exported plainSource)),
        d.1 ∉ reservedWords ∧ d.2.Nodup ∧ ∀ name ∈ d.2, name ∉ reservedWords := by
      decide +kernel
    obtain ⟨hname, hparameters⟩ := hall _ hmem
    exact ⟨hname, (parameterNames_clashFree_iff o).1 hparameters⟩

/-- A name that is marked twice, two blank parameters, and a name that is a word of the language: each
has a declaration file with a clash. -/
theorem render_clashes :
    (exported "//export f\nfunc f() \x7b\x7d\n//export f\nfunc g() \x7b\x7d\n" ≠ [] ∧
      ¬ IsClashFree (render (exported
        "//export f\nfunc f() \x7b\x7d\n//export f\nfunc g() \x7b\x7d\n"))) ∧
    (exported "//export f\nfunc f(_ int, _ int) \x7b\x7d\n" ≠ [] ∧
      ¬ IsClashFree (render (exported "//export f\nfunc f(_ int, _ int) \x7b\x7d\n"))) ∧
    exported "//export delete\nfunc remove() \x7b\x7d\n" ≠ [] ∧
      ¬ IsClashFree (render (exported "//export delete\nfunc remove() \x7b\x7d\n")) := by
  decide +kernel

end EmbeddedGo.Declarations
