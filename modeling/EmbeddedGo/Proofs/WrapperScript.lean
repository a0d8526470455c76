/-
EmbeddedGo.Proofs.WrapperScript — wrappers as scripts.

Four texts from outside stand in a wrapper: the directory of the slot in the comment of its first line,
and the ids of the glue and the binary and the declared names in literals. The literals are read as
these texts, whatever they hold. The directory is written as it is, so the comment is one line if no
name on the way has a line terminator in it, and otherwise what comes behind the first of them is
program. Finishing a code puts the base and the name of an asset between quotes as they are, so what was
a literal is one of that URL if neither holds that quote, a backslash or a line break
(`render_script`).

  §1 the script of a wrapper
  §2 the directory of a slot
  §3 literals that are rewritten
  §4 wrappers, and what they become
-/
import EmbeddedGo.Proofs.BuildFailures
import EmbeddedGo.Proofs.ScriptText
import EmbeddedGo.Proofs.SlotNames

namespace EmbeddedGo

open Script

/-! ## §1 Scripts -/

namespace Wrapper

open Text (Piece)

/-- The comment in the first line. -/
def comment (shown : Text) : Text :=
  " Generated by use-golang from build slot " ++ shown ++ ". Do not edit."

/-- What stands behind the first line, with texts in quotes in the place of the two ids. -/
def program (glue url : Text) (names : List Text) : Text :=
  "import " ++ '"' :: (glue ++ '"' :: (middle ++ '"' :: (url ++ '"' :: closing names)))

/-- A list of literals. -/
def listScript (names : List Text) : List (Piece Lexeme) :=
  code "[" ++ List.intercalate (code ", ") (names.map quoted) ++ code "]"

/-- The lines that export what the program put on the global object. -/
def discoverScript : List (Piece Lexeme) :=
  code "const before = new Set(Object.getOwnPropertyNames(globalThis));\n" ++
  code "go.run(instance);\n" ++
  code "\n" ++
  code "const bindings = \x7b\x7d;\n" ++
  code "for (const name of Object.getOwnPropertyNames(globalThis)) \x7b\n" ++
  code "  if (!before.has(name)) \x7b\n" ++
  code "    bindings[name] = globalThis[name];\n" ++
  code "  \x7d\n" ++
  code "\x7d\n" ++
  code "\n" ++
  code "export default bindings;\n"

/-- The lines that export the declared names. -/
def declareScript (names : List Text) : List (Piece Lexeme) :=
  code "go.run(instance);\n" ++
  code "\n" ++
  code "const declared = " ++ listScript names ++ code ";\n" ++
  (code "const missing = declared.filter((name) => typeof globalThis[name] === " ++
    (quoted "undefined" ++ code ");\n")) ++
  code "if (missing.length > 0) \x7b\n" ++
  code "  throw new Error(\n" ++
  (code "    " ++ (quoted "[use-golang] missing binding(s) " ++
    (code " + missing.join(" ++ (quoted ", " ++ code ") +\n")))) ++
  (code "    " ++
    (quoted ": the Go program must install every //export function on globalThis" ++ code "\n")) ++
  code "  );\n" ++
  code "\x7d\n" ++
  code "\n" ++
  code "const bindings = \x7b\x7d;\n" ++
  code "for (const name of declared) \x7b\n" ++
  code "  bindings[name] = globalThis[name];\n" ++
  code "\x7d\n" ++
  code "\n" ++
  code "export default bindings;\n"

/-- What stands between the two ids. -/
def middleScript : List (Piece Lexeme) :=
  code ";\n\n" ++ code "const go = new Go();\n" ++
    code "const \x7b instance \x7d = await WebAssembly.instantiateStreaming(\n" ++ code "  fetch("

/-- What stands behind the URL of the binary. -/
def closingScript (names : List Text) : List (Piece Lexeme) :=
  code "),\n" ++ code "  go.importObject\n" ++ code ");\n" ++
    if names.isEmpty then discoverScript else declareScript names

/-- The same as a script. -/
def script (glue url : Text) (names : List Text) : List (Piece Lexeme) :=
  code "import " ++ (quoted glue ++ (middleScript ++ (quoted url ++ closingScript names)))

theorem fill_eq (shown glue url : Text) (names : List Text) :
    fill shown glue url names = '/' :: '/' :: (comment shown ++ '\n' :: program glue url names) := by
  have hline : ("// Generated by use-golang from build slot " : Text) =
      '/' :: '/' :: " Generated by use-golang from build slot " := by decide
  have hnotice : notice = ". Do not edit." ++ '\n' :: ("import " : Text) := by decide
  delta fill opening comment program
  rw [hline, hnotice]
  simp only [List.append_assoc, List.cons_append]

/-- The characters of a string need not be read out of its bytes. -/
theorem reads_code_ofList {s : Text} (h : s.all isInert = true) :
    Reads (String.ofList s).toList (code (String.ofList s).toList) := by
  rw [String.toList_ofList]
  exact reads_code (List.all_eq_true.1 h)

theorem reads_join (names : List Text) :
    Reads (Text.join ", " (names.map (Json.literal true)))
      (List.intercalate (code ", ") (names.map quoted)) := by
  induction names with
  | nil => exact reads_code (s := []) (by simp)
  | cons a rest ih =>
    cases rest with
    | nil => simpa [Text.join, List.intercalate] using reads_literal a
    | cons b rest =>
      have hsep : Reads ", " (code ", ") := reads_code_ofList (by decide)
      have hall := ((reads_literal a).append hsep).append ih
      simpa [Text.join, List.intercalate] using hall

theorem reads_literalList (names : List Text) :
    Reads (Json.literalList names) (listScript names) := by
  have hopen : Reads "[" (code "[") := reads_code_ofList (by decide)
  have hclose : Reads "]" (code "]") := reads_code_ofList (by decide)
  exact (hopen.append (reads_join names)).append hclose

/-- A line with a literal in it. -/
theorem reads_line {line before inside after : Text} {pieces : List (Piece Lexeme)}
    (hline : line = before ++ '"' :: (inside ++ '"' :: after)) (hbefore : before.all isInert = true)
    (hinside : IsVerbatim '"' inside) (hafter : Reads (String.ofList after).toList pieces) :
    Reads (String.ofList line).toList
      (code (String.ofList before).toList ++ (quoted (String.ofList inside).toList ++ pieces)) := by
  have heq : (String.ofList line).toList = (String.ofList before).toList ++
      ('"' :: ((String.ofList inside).toList ++ ['"']) ++ (String.ofList after).toList) := by
    simp [hline]
  rw [heq]
  refine (reads_code_ofList hbefore).append (Reads.append ?_ hafter)
  rw [String.toList_ofList]
  exact reads_verbatim hinside

theorem reads_declare (names : List Text) : Reads (declare names) (declareScript names) := by
  have hmissing : Reads
      "const missing = declared.filter((name) => typeof globalThis[name] === \"undefined\");\n"
      (code "const missing = declared.filter((name) => typeof globalThis[name] === " ++
        (quoted "undefined" ++ code ");\n")) :=
    reads_line rfl (by decide) (by decide) (reads_code_ofList (by decide))
  have hsep : Reads " + missing.join(\", \") +\n"
      (code " + missing.join(" ++ (quoted ", " ++ code ") +\n")) :=
    reads_line rfl (by decide) (by decide) (reads_code_ofList (by decide))
  have hbinding : Reads "    \"[use-golang] missing binding(s) \" + missing.join(\", \") +\n"
      (code "    " ++ (quoted "[use-golang] missing binding(s) " ++
        (code " + missing.join(" ++ (quoted ", " ++ code ") +\n")))) :=
    reads_line rfl (by decide) (by decide) hsep
  have hprogram : Reads
      "    \": the Go program must install every //export function on globalThis\"\n"
      (code "    " ++
        (quoted ": the Go program must install every //export function on globalThis" ++ code "\n")) :=
    reads_line rfl (by decide) (by decide) (reads_code_ofList (by decide))
  delta declare declareScript
  repeat' first
    | with_reducible exact reads_literalList names
    | with_reducible exact hmissing
    | with_reducible exact hbinding
    | with_reducible exact hprogram
    | with_reducible apply Reads.append
  all_goals exact reads_code_ofList (by decide)

theorem reads_discover : Reads discover discoverScript := by
  delta discover discoverScript
  repeat' with_reducible apply Reads.append
  all_goals exact reads_code_ofList (by decide)

theorem reads_middle : Reads middle middleScript := by
  delta middle middleScript
  repeat' with_reducible apply Reads.append
  all_goals exact reads_code_ofList (by decide)

theorem reads_closing (names : List Text) : Reads (closing names) (closingScript names) := by
  delta closing closingScript
  refine .append (.append (.append ?_ ?_) ?_) ?_
  · exact reads_code_ofList (by decide)
  · exact reads_code_ofList (by decide)
  · exact reads_code_ofList (by decide)
  · split
    · exact reads_discover
    · exact reads_declare names

theorem reads_program {glue url : Text} (hglue : IsVerbatim '"' glue) (hurl : IsVerbatim '"' url)
    (names : List Text) : Reads (program glue url names) (script glue url names) := by
  have himport : Reads "import " (code "import ") := reads_code_ofList (by decide)
  have hall := himport.append ((reads_verbatim hglue).append
    (reads_middle.append ((reads_verbatim hurl).append (reads_closing names))))
  delta program script
  simpa only [List.append_assoc, List.cons_append, List.nil_append] using hall

theorem isOneLine_comment_iff {shown : Text} : IsOneLine (comment shown) ↔ IsOneLine shown := by
  have hbefore : IsOneLine " Generated by use-golang from build slot " := by decide +kernel
  have hafter : IsOneLine ". Do not edit." := by decide
  delta comment
  exact ⟨fun h => (isOneLine_append.1 (isOneLine_append.1 h).1).2,
    fun h => isOneLine_append.2 ⟨isOneLine_append.2 ⟨hbefore, h⟩, hafter⟩⟩

variable {shown glue url : Text} {names : List Text}

/-- The first line of a wrapper is its comment, unless the directory in it has more than one line. -/
theorem firstLine_fill_iff :
    firstLine (fill shown glue url names) = '/' :: '/' :: comment shown ↔ IsOneLine shown := by
  have hline : firstLine (fill shown glue url names) =
      '/' :: '/' :: firstLine (comment shown ++ '\n' :: program glue url names) := by
    rw [fill_eq]
    rfl
  rw [hline, ← isOneLine_comment_iff]
  constructor
  · intro h
    rw [← (List.cons.inj (List.cons.inj h).2).2]
    exact isOneLine_firstLine _
  · intro h
    rw [firstLine_break h (by decide)]

/-- A wrapper is its comment and its script, unless the directory has more than one line. -/
theorem read?_fill_iff (hglue : IsVerbatim '"' glue) (hurl : IsVerbatim '"' url) :
    read? (fill shown glue url names) =
      some (.found (.comment (comment shown)) :: .plain '\n' :: script glue url names) ↔
        IsOneLine shown := by
  rw [fill_eq, ← isOneLine_comment_iff]
  constructor
  · intro h
    rw [comment_of_read? h]
    exact isOneLine_firstLine _
  · intro h
    exact ((reads_program hglue hurl names).comment h).read?_eq

/-! ## §2 Directories -/

theorem isOneLine_name {path : Text} (h : IsOneLine path) : IsOneLine (Slot.name path) :=
  Slot.forall_mem_name (by decide) (fun _ => isLineTerminator_of_isAlphanum) h

/-- The directory of a slot is one line if the names that lead to it are. -/
theorem isOneLine_shownSlot {here : List Text} {projectRoot : Path} {buildRoot : Option Path}
    {path : Text} (hpath : IsOneLine path) (hhere : ∀ n ∈ here, IsOneLine n)
    (hroot : ∀ root ∈ buildRoot, ∀ n ∈ root.names, IsOneLine n) :
    IsOneLine (shownSlot here projectRoot buildRoot (Slot.name path)) := by
  have hslot := isOneLine_name hpath
  cases buildRoot with
  | none => exact hslot
  | some root =>
    have htarget : ∀ n ∈ Path.fromTop here (root.child (Slot.name path)), IsOneLine n := by
      intro n hn
      rw [Path.child_of_plain _ (Slot.isPlain_name path)] at hn
      have hmem := (Path.mem_of_mem_climb hn).1
      have hchild : n ∈ root.names ++ [Slot.name path] → IsOneLine n := fun h =>
        (List.mem_append.1 h).elim (hroot root rfl n) fun h => List.mem_singleton.1 h ▸ hslot
      split at hmem
      · exact hchild hmem
      · exact (List.mem_append.1 hmem).elim (hhere n) hchild
    have hway : ∀ n ∈ (Path.way here projectRoot (root.child (Slot.name path))).names,
        IsOneLine n := by
      intro n hn
      rcases List.mem_append.1 hn with hn | hn
      · rw [List.eq_of_mem_replicate hn]
        decide
      · exact htarget n (List.mem_of_mem_drop hn)
    intro c hc
    rw [shownSlot, Path.text] at hc
    split at hc
    · rw [List.mem_singleton.1 hc]
      decide
    · rcases List.mem_append.1 hc with hc | hc
      · rw [List.eq_of_mem_replicate hc]
        decide
      · rcases Text.mem_join hc with hc | ⟨n, hn, hc⟩
        · rw [List.mem_singleton.1 hc]
          decide
        · exact hway n hn c hc

end Wrapper

/-! ## §3 Literals -/

namespace Bundle

open Text

/-- A text between quotes is read as a literal of itself if it can stand there, and only then. -/
theorem lexeme?_between_iff {quote : Char} (hquote : isQuote quote = true) {s rest : Text} :
    lexeme? (quote :: (s ++ quote :: rest)) = some (.string (unitsOf s), rest) ↔
      IsVerbatim quote s := by
  rw [← @body_verbatim_iff quote s rest, lexeme?_of_quote (by simpa [isQuote] using hquote)]
  constructor
  · intro h
    obtain ⟨⟨units, left⟩, hbody, heq⟩ := Option.map_eq_some_iff.1 h
    cases heq
    exact hbody
  · intro h
    rw [h]
    rfl

variable {c : Compiler} {buildRoot : Path} {base code output : Text} {s s' : Session}

/-- In a finished code each reference is the URL of what stands behind it. -/
theorem asset_of_finalize (h : (finalize c buildRoot base code).run.run s = (.ok output, s')) :
    ∃ url, output = substitute url code ∧ ∀ id ∈ references code,
      ∃ e ∈ emissions c buildRoot (references code) s,
        e.1 = emittedName (Percent.decode id) ∧ url id = base ++ e.asset := by
  obtain ⟨urls, s₁, hall, hend⟩ := run_bind_ok h
  cases hend
  refine ⟨fun id => (urls.lookup id).getD [], rfl, fun id hid => ?_⟩
  obtain ⟨-, content, -, -, -, -, hlookup, hemitted⟩ := lookup_of_emitAll hall hid
  refine ⟨_, hemitted, rfl, ?_⟩
  dsimp only
  rw [hlookup, Option.getD_some]

/-- Each reference of the code is the URL of an emission in the output, and between the quotes that it
had it is read as a literal of that URL if base and asset can stand there as they are, and only then. -/
def Rewrites (es : List Emission) (base code output : Text) : Prop :=
  ∃ url, output = substitute url code ∧
    ∀ before r after, scan reference? code = before ++ .found r :: after →
      ∃ e ∈ es, url r.id = base ++ e.asset ∧
        (lexeme? (r.quote :: (url r.id ++ r.quote :: after.flatMap (substitutePiece url))) =
            some (.string (unitsOf (base ++ e.asset)), after.flatMap (substitutePiece url)) ↔
          IsVerbatim r.quote base ∧ IsVerbatim r.quote e.asset)

theorem rewrites_of_finalize (h : (finalize c buildRoot base code).run.run s = (.ok output, s')) :
    Rewrites (emissions c buildRoot (references code) s) base code output := by
  obtain ⟨url, houtput, hassets⟩ := asset_of_finalize h
  refine ⟨url, houtput, fun before r after hscan => ?_⟩
  have hfound : .found r ∈ scan reference? code := by simp [hscan]
  obtain ⟨s', rest, hread⟩ := exists_of_found hfound
  have hid : r.id ∈ references code := by
    rw [references, List.mem_eraseDups, findAll]
    exact List.mem_map.2 ⟨r, List.mem_filterMap.2 ⟨_, hfound, rfl⟩, rfl⟩
  obtain ⟨e, he, -, hurl⟩ := hassets r.id hid
  refine ⟨e, he, hurl, ?_⟩
  rw [hurl, lexeme?_between_iff (isQuote_of_reference? hread), isVerbatim_append]

theorem isVerbatim_asset {e : Emission} (hstem : IsVerbatim '"' (Path.ofText e.1).stem)
    (hending : IsVerbatim '"' (Path.ofText e.1).ending) : IsVerbatim '"' e.asset := by
  have hdigest : IsVerbatim '"' (contentDigest e.2) :=
    isVerbatim_of_all (fun _ => isAlphanum_of_mem_contentDigest) (by decide)
  have hfixed : IsVerbatim '"' assetsDirectory ∧ IsVerbatim '"' "/" ∧ IsVerbatim '"' "-" := by
    decide
  rw [Emission.asset, assetName]
  simp only [isVerbatim_append]
  exact ⟨⟨⟨⟨⟨hfixed.1, hfixed.2.1⟩, hstem⟩, hfixed.2.2⟩, hdigest⟩, hending⟩

end Bundle

/-! ## §4 Wrappers -/

namespace Wrapper

open EmbeddedGo.Bundle Text

/-- What a finished wrapper loads and fetches are two assets, whose names can stand between quotes. -/
theorem around_of_finalize {c : Compiler} {root : Path} {base output shown slot : Text}
    {names : List Text} {s s' : Session} (hslot : Path.IsPlain slot) (hnames : ∀ n ∈ names, '/' ∉ n)
    (h : (finalize c root base (module shown slot names)).run.run s = (.ok output, s')) :
    ∃ head, ∃ e₁ ∈ emissions c root (references (module shown slot names)) s,
      ∃ e₂ ∈ emissions c root (references (module shown slot names)) s,
      output = around head (base ++ e₁.asset) (base ++ e₂.asset) names ∧
      IsVerbatim '"' e₁.asset ∧ IsVerbatim '"' e₂.asset ∧
      (¬ VirtualId.start <:+: shown ++ notice → head = opening shown) := by
  obtain ⟨url, rfl, hassets⟩ := asset_of_finalize h
  obtain ⟨hglue, hurl⟩ := mem_references_module shown slot hnames
  obtain ⟨e₁, he₁, hname₁, hurl₁⟩ := hassets _ hglue
  obtain ⟨e₂, he₂, hname₂, hurl₂⟩ := hassets _ hurl
  have hbehind := substitute_module_behind shown slot hnames url
  replace hname₁ : e₁.1 = VirtualId.glueName := by
    rw [hname₁, Percent.decode_of_not_mem (by decide), emittedName, if_pos rfl]
  replace hname₂ : e₂.1 = wasmName := by
    rw [hname₂, VirtualId.decode_artifactUrl, emittedName, if_neg (artifact_ne_glue slot _),
      fileName_artifact hslot]
  refine ⟨substitute url (opening shown), e₁, he₁, e₂, he₂, ?_, ?_, ?_, fun hshown => ?_⟩
  · rw [hbehind, hurl₁, hurl₂]
  · exact isVerbatim_asset (by rw [hname₁]; decide) (by rw [hname₁]; decide)
  · exact isVerbatim_asset (by rw [hname₂]; decide) (by rw [hname₂]; decide)
  · have hfill := @substitute_module shown slot names hshown hnames url
    rw [hbehind] at hfill
    exact List.append_cancel_right hfill

/-- The first line of a wrapper is its comment exactly if the directory that is shown there holds no line
terminator, and it holds none if the path of the module and the names that lead to the build root hold
none. Behind it the ids and the names are literals of what they are. In a finished code each reference
is a literal of its URL exactly if base and asset can stand between its quotes as they are. In a
finished wrapper the assets always can. -/
theorem render_script (here : List Text) (projectRoot : Path) (buildRoot : Option Path) (path : Text)
    (names : List Text) :
    let slot := Slot.name path
    let shown := shownSlot here projectRoot buildRoot slot
    let url := VirtualId.artifactUrl slot wasmName
    let wrapper := render here projectRoot buildRoot slot names
    (wrapper = '/' :: '/' :: (comment shown ++ '\n' :: program VirtualId.glue url names) ∧
      read? (program VirtualId.glue url names) = some (script VirtualId.glue url names) ∧
      (firstLine wrapper = '/' :: '/' :: comment shown ↔ IsOneLine shown) ∧
      (read? wrapper = some (.found (.comment (comment shown)) :: .plain '\n' ::
        script VirtualId.glue url names) ↔ IsOneLine shown) ∧
      (IsOneLine path → (∀ n ∈ here, IsOneLine n) →
        (∀ root ∈ buildRoot, ∀ n ∈ root.names, IsOneLine n) → IsOneLine shown)) ∧
    ∀ (c : Compiler) (root : Path) (base code output : Text) (s s' : Session),
      (finalize c root base code).run.run s = (.ok output, s') →
      Rewrites (emissions c root (references code) s) base code output ∧
      (code = wrapper → (∀ n ∈ names, '/' ∉ n) →
        ∃ head, ∃ e₁ ∈ emissions c root (references code) s,
          ∃ e₂ ∈ emissions c root (references code) s,
          output = around head (base ++ e₁.asset) (base ++ e₂.asset) names ∧
          IsVerbatim '"' e₁.asset ∧ IsVerbatim '"' e₂.asset ∧
          (IsOneLine shown → ¬ VirtualId.start <:+: shown ++ notice → IsVerbatim '"' base →
            read? output = some (.found (.comment (comment shown)) :: .plain '\n' ::
              script (base ++ e₁.asset) (base ++ e₂.asset) names))) := by
  intro slot shown url wrapper
  have hglue : IsVerbatim '"' VirtualId.glue := by decide
  have hurl : IsVerbatim '"' url :=
    isVerbatim_of_all (fun _ => VirtualId.isUrlChar_of_mem_artifactUrl) (by decide)
  have hwrapper : wrapper = fill shown VirtualId.glue url names := module_eq_fill shown slot names
  refine ⟨⟨?_, (reads_program hglue hurl names).read?_eq, ?_, ?_, isOneLine_shownSlot⟩, ?_⟩
  · rw [hwrapper, fill_eq]
  · rw [hwrapper, firstLine_fill_iff]
  · rw [hwrapper, read?_fill_iff hglue hurl]
  · intro c root base code output s s' hrun
    refine ⟨rewrites_of_finalize hrun, ?_⟩
    rintro rfl hnames
    obtain ⟨head, e₁, he₁, e₂, he₂, rfl, hverbatim₁, hverbatim₂, hhead⟩ :=
      around_of_finalize (Slot.isPlain_name path) hnames hrun
    refine ⟨head, e₁, he₁, e₂, he₂, rfl, hverbatim₁, hverbatim₂, fun hshown hstart hbase => ?_⟩
    rw [hhead hstart]
    exact (read?_fill_iff (isVerbatim_append.2 ⟨hbase, hverbatim₁⟩)
      (isVerbatim_append.2 ⟨hbase, hverbatim₂⟩)).2 hshown

/-- A session with the glue and a binary in a slot. -/
def readySession : Session where
  host :=
    { files := { items := [(["b"], ⟨.directory, 0⟩), (["b", "a_js_29e70e18"], ⟨.directory, 0⟩),
        (["b", "a_js_29e70e18", "main.wasm"], ⟨.file [0], 0⟩)] }
      toolchain := { place := [] } }
  glue := some "g"

theorem render_script_ready :
    ∃ output s', (finalize {} (Path.ofNames ["b"]) "/"
        (render [] (Path.ofNames ["p"]) (some (Path.ofNames ["b"])) (Slot.name "/a.js")
          ["add"])).run.run readySession = (.ok output, s') ∧
      ∃ url₁ url₂, read? output =
        some (.found (.comment (comment "../b/a_js_29e70e18")) :: .plain '\n' ::
          script url₁ url₂ ["add"]) := by
  have hslot : Slot.name "/a.js" = "a_js_29e70e18" := by cbv
  have hshown : shownSlot [] (Path.ofNames ["p"]) (some (Path.ofNames ["b"])) (Slot.name "/a.js") =
      "../b/a_js_29e70e18" := by cbv
  have hnames : ∀ n ∈ [("add" : Text)], '/' ∉ n := by decide
  have hstart : ¬ VirtualId.start <:+: shownSlot [] (Path.ofNames ["p"])
      (some (Path.ofNames ["b"])) (Slot.name "/a.js") ++ notice :=
    not_infix_shownSlot [] _ ⟨rfl, by decide⟩ (by decide) "/a.js"
  have hwasm : readySession.host.files.read
      (((Path.ofNames ["b"]).child (Slot.name "/a.js")).child wasmName) = .ok [0] := by
    rw [hslot]
    cbv
  have hrun := (@run_finalize_module {} (Path.ofNames ["b"]) "/" _ _ "g" ["add"] [0] readySession
    readySession hstart (Slot.isPlain_name "/a.js") hnames rfl hwasm).1
  obtain ⟨⟨-, -, -, -, hline⟩, hfinish⟩ :=
    render_script [] (Path.ofNames ["p"]) (some (Path.ofNames ["b"])) "/a.js" ["add"]
  obtain ⟨head, e₁, -, e₂, -, -, -, -, hread⟩ := (hfinish {} _ _ _ _ _ _ hrun).2 rfl hnames
  have honeLine := hline (by decide) (by simp) (by decide)
  refine ⟨_, _, hrun, "/" ++ e₁.asset, "/" ++ e₂.asset, ?_⟩
  rw [← hshown]
  exact hread honeLine hstart (by decide)

/-- The name of the slot breaks the comment in two, and a quote in the base ends a literal. -/
theorem render_breaks_out :
    (firstLine (render [] (Path.ofNames ["p"]) (some (Path.ofNames ["p", "b"]))
        (Slot.name "/a\nb.js") []) = "// Generated by use-golang from build slot b/a" ∧
      ¬ IsOneLine (shownSlot [] (Path.ofNames ["p"]) (some (Path.ofNames ["p", "b"]))
        (Slot.name "/a\nb.js"))) ∧
    ∃ output s', (finalize {} (Path.ofNames ["b"]) "/\"/"
        "\"/@vite-golang/wasm_exec.js\"").run.run readySession = (.ok output, s') ∧
      ∃ rest, lexeme? output = some (.string (unitsOf "/"), rest) ∧ '"' ∈ rest := by
  have hshown : shownSlot [] (Path.ofNames ["p"]) (some (Path.ofNames ["p", "b"]))
      (Slot.name "/a\nb.js") = "b/a\nb_js_9af79b55" := by cbv
  refine ⟨⟨?_, ?_⟩, ?_⟩
  · have hcut : comment "b/a\nb_js_9af79b55" =
        " Generated by use-golang from build slot b/a" ++ '\n' :: "b_js_9af79b55. Do not edit." := by
      decide +kernel
    have hline : ("// Generated by use-golang from build slot b/a" : Text) =
        '/' :: '/' :: " Generated by use-golang from build slot b/a" := by decide
    rw [render, hshown, module_eq_fill, fill_eq, hcut, hline, List.append_assoc, List.cons_append]
    exact congrArg ('/' :: '/' :: ·) (firstLine_break (by decide +kernel) (by decide) _)
  · rw [hshown]
    decide
  · have hcode : ("\"/@vite-golang/wasm_exec.js\"" : Text) = mention VirtualId.glueName [] := by decide
    have hscan : scan reference? (mention VirtualId.glueName []) = [.found ⟨'"', VirtualId.glue⟩] := by
      have hfound := @scan_mention [] VirtualId.glueName [] trivial (by decide)
        isReferenceChar_of_mem_glueName
      rw [List.nil_append, List.map_nil, List.nil_append, scan] at hfound
      exact hfound
    have hreferences : references (mention VirtualId.glueName []) = [VirtualId.glue] := by
      rw [references, findAll, hscan]
      rfl
    have hload : (Session.loadGlue {}).run.run readySession = (.ok "g".toList, readySession) := rfl
    have hdecode : Percent.decode VirtualId.glue = VirtualId.glue :=
      Percent.decode_of_not_mem (by decide)
    rw [hcode, finalize, run_bind, hreferences, emitAll, run_bind, hdecode,
      run_emitTarget_glue {} "/\"/" hload]
    dsimp only
    rw [run_bind, emitAll, run_pure]
    dsimp only
    rw [run_pure]
    dsimp only
    rw [run_pure, substitute, hscan]
    have houtput : ([Piece.found ⟨'"', VirtualId.glue⟩] : List (Piece Reference)).flatMap
        (substitutePiece fun id =>
          (([(VirtualId.glue, "/\"/" ++ glueAsset "g")] : List (Text × Text)).lookup id).getD []) =
        '"' :: ("/" ++ '"' :: ('/' :: (glueAsset "g" ++ ['"']))) := by
      simp [substitutePiece]
    refine ⟨_, _, congrArg (fun output => (Except.ok output, _)) houtput,
      '/' :: (glueAsset "g" ++ ['"']), ?_, by simp⟩
    rw [lexeme?_of_quote (.inl rfl), body_verbatim (by decide)]
    rfl

end Wrapper

end EmbeddedGo
