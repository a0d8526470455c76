/-
EmbeddedGo.Proofs.Chunk — a transformed module in a bundle.

A transform that succeeds has left a binary in its slot, if its compiler is one that does, and no
later call takes it away. The code that it gave refers to the glue and to that binary. When the code
is rendered both are found behind their ids and emitted, and the code comes back with their URLs in
the two places, whatever the name of the module is.

  §1 files that stay
  §2 what a transform leaves
  §3 what stands behind the two ids
  §4 rendering
  §5 an example
-/
import EmbeddedGo.Proofs.Artifact
import EmbeddedGo.Proofs.WrapperText

namespace EmbeddedGo

/-! ## §1 Files -/

namespace FileTree

/-- A place where a file stands at the end of a walk is one that can be read, also after changes that
take nothing away. -/
theorem read_of_keeps {t t' : FileTree} (hk : Keeps t t') {p : Path} (hp : p.IsResolved)
    {place : Place} {found : Option Item} (hl : t.locate true p = .ok (place, found))
    {content : Bytes} (hf : t'.entryAt place = some (.file content)) :
    t'.read p = .ok content := by
  rw [read_eq_ok_iff, locate_resolved t' true hp]
  rw [locate_resolved t true hp] at hl
  match hr : refused? p with
  | some e => simp [hr] at hl
  | none =>
    rw [hr] at hl
    obtain ⟨m, hitem⟩ := entryAt_eq_some hf
    exact ⟨place, m, by dsimp only; rw [hk.walk hl (by simp [hf]), hitem]⟩

/-- A file that can be read can be read later. -/
theorem Keeps.read {t t' : FileTree} (hk : Keeps t t') {p : Path} (hp : p.IsResolved)
    {content : Bytes} (h : t.read p = .ok content) : ∃ content', t'.read p = .ok content' := by
  obtain ⟨place, m, hl⟩ := read_eq_ok_iff.1 h
  have hf : t.entryAt place = some (.file content) := entryAt_of_get? (locate_found hl).symm
  obtain ⟨content', hf'⟩ := hk.files place content hf
  exact ⟨content', read_of_keeps hk hp hl hf'⟩

/-- What was written is read. -/
theorem read_of_write {t t' : FileTree} {p : Path} (hp : p.IsResolved) {content : Bytes}
    (h : t.write p content = .ok t') : t'.read p = .ok content := by
  rw [write_eq] at h
  split at h
  · cases h
  · next place found hl =>
    split at h
    · next hcan =>
      cases h
      refine read_of_keeps (keeps_putFile hcan content) hp hl ?_
      rw [entryAt_putFile (ne_nil_of_canHold hcan), if_pos rfl]
    · cases h

/-- What was written through the text of a path is read through the path. -/
theorem read_of_writeWord {t t' : FileTree} {names : List Text} {last : Text} {content : Bytes}
    (hn : ∀ n ∈ names ++ [last], Path.IsPlain n)
    (h : t.writeWord (Path.ofNames (names ++ [last])).text content = .ok t') :
    t'.read (Path.ofNames (names ++ [last])) = .ok content := by
  obtain ⟨place, found, hl, hcan, rfl⟩ := writeWord_text hn h
  refine read_of_keeps (keeps_putFile hcan content) ⟨rfl, hn⟩ hl ?_
  rw [entryAt_putFile (ne_nil_of_canHold hcan), if_pos rfl]

end FileTree

/-! ## §2 Transforms -/

/-- A run that succeeds leaves its output file behind. -/
def Host.Delivers (h : Host) (args : List Text) : Prop :=
  (h.toolchain.answer args (h.sourceOf args)).succeeded = true →
    ∃ output content files, Host.outputOf args = some output ∧
      (h.toolchain.answer args (h.sourceOf args)).written = some content ∧
      h.files.writeWord output content = .ok files

namespace Transform

open Host

variable {s : Settings}

/-- The run of the compiler in a transform leaves its output file behind, if it succeeds. -/
def Delivers (s : Settings) (code id : Text) (h : Host) : Prop :=
  ∀ j h₁ h₂, (prepare s code id).run.run h = (.ok j, h₁) →
    (writeSource j).run.run h₁ = (.ok (), h₂) →
    h₂.Delivers (s.compiler.buildWords j.goFile.text j.wasmFile.text)

/-- A build that succeeds has gone through all of its phases. -/
theorem phases_of_build {code id : Text} {h h' : Host} {r : Result}
    (hrun : (build s code id).run.run h = (.ok r, h')) :
    ∃ unit warnings h₁ h₂ h₃, Directive.extract code = .ok unit ∧
      (prepare s code id).run.run h = (.ok (jobOf s id unit), h₁) ∧
      (writeSource (jobOf s id unit)).run.run h₁ = (.ok (), h₂) ∧
      (compile s (jobOf s id unit)).run.run h₂ = (.ok warnings, h₃) ∧
      (writeDeclarations s (jobOf s id unit)).run.run h₃ = (.ok (), h') ∧
      r = (jobOf s id unit).result s h'.files.here warnings := by
  obtain ⟨j, h₁, hprepare, hrun⟩ := run_bind_ok hrun
  obtain ⟨⟨⟩, h₂, hwrite, hrun⟩ := run_bind_ok hrun
  obtain ⟨warnings, h₃, hcompile, hrun⟩ := run_bind_ok hrun
  obtain ⟨⟨⟩, h₄, hdecl, hrun⟩ := run_bind_ok hrun
  obtain ⟨unit, hunit, rfl⟩ := eq_jobOf_of_prepare hprepare
  cases hrun
  exact ⟨unit, warnings, h₁, h₂, h₃, hunit, hprepare, hwrite, hcompile, hdecl, rfl⟩

theorem run_transform {code id : Text} {h h₁ h₂ h₃ h' : Host} {j : Job} {warnings : List Text}
    (hpresent : Directive.isPresent code = true)
    (hprepare : (prepare s code id).run.run h = (.ok j, h₁))
    (hwrite : (writeSource j).run.run h₁ = (.ok (), h₂))
    (hcompile : (compile s j).run.run h₂ = (.ok warnings, h₃))
    (hdecl : (writeDeclarations s j).run.run h₃ = (.ok (), h')) :
    (transform s code id).run.run h = (.ok (some (j.result s h'.files.here warnings)), h') := by
  have hbuild : (build s code id).run.run h = (.ok (j.result s h'.files.here warnings), h') := by
    rw [build, run_bind, hprepare]
    dsimp only
    rw [run_bind, hwrite]
    dsimp only
    rw [run_bind, hcompile]
    dsimp only
    rw [run_bind, hdecl]
    rfl
  rw [transform, if_pos hpresent, run_tryCatch, run_bind, hbuild]
  rfl

/-- A module with Go comes to a wrapper or to a failure. -/
theorem run_transform_ne_none {code id : Text} {h h' : Host}
    (hpresent : Directive.isPresent code = true) :
    (transform s code id).run.run h ≠ (.ok none, h') := by
  intro hrun
  rw [transform, if_pos hpresent, run_tryCatch, run_bind] at hrun
  rcases hbuild : (build s code id).run.run h with ⟨e | r, host⟩
  · rw [hbuild] at hrun
    cases hrun
  · rw [hbuild] at hrun
    cases hrun

theorem build_of_transform {code id : Text} {h h' : Host} {r : Result}
    (hrun : (transform s code id).run.run h = (.ok (some r), h')) :
    (build s code id).run.run h = (.ok r, h') := by
  unfold transform at hrun
  split at hrun
  · rw [run_tryCatch] at hrun
    split at hrun
    · next a h₁ hb =>
      cases hrun
      obtain ⟨r', h₂, hbuild, hb⟩ := run_bind_ok hb
      cases hb
      exact hbuild
    · cases hrun
  · cases hrun

/-- A compiler that delivers leaves what it wrote where the job wants it. -/
theorem read_of_compile (hs : s.buildRoot.IsResolved) {id unit : Text} {h h' : Host}
    {warnings : List Text} (hrun : (compile s (jobOf s id unit)).run.run h = (.ok warnings, h'))
    (hdeliver : h.Delivers (s.compiler.buildWords (jobOf s id unit).goFile.text
      (jobOf s id unit).wasmFile.text)) :
    ∃ content, (h.toolchain.answer
          (s.compiler.buildWords (jobOf s id unit).goFile.text (jobOf s id unit).wasmFile.text)
          (h.sourceOf (s.compiler.buildWords (jobOf s id unit).goFile.text
            (jobOf s id unit).wasmFile.text))).written = some content ∧
      h'.files.read (jobOf s id unit).wasmFile = .ok content := by
  have hwasm : (jobOf s id unit).wasmFile = _ := child_directory_jobOf hs id unit isPlain_wasmName
  obtain ⟨a, h₁, ha, hrun⟩ := run_bind_ok hrun
  have hsucceeded : a.succeeded = true ∧ h' = h₁ := by
    split at hrun
    · cases hrun
      exact ⟨by assumption, rfl⟩
    · cases hrun
  rw [s.compiler.run_run] at ha
  split at ha
  · cases ha
  · cases ha
  · next program _ =>
    cases ha
    obtain ⟨output, content, files, houtput, hwritten, hfiles⟩ := hdeliver hsucceeded.1
    rw [s.compiler.outputOf_buildWords] at houtput
    cases houtput
    have hran : (h.ran program (s.compiler.buildWords (jobOf s id unit).goFile.text
        (jobOf s id unit).wasmFile.text)).2.files = files := by
      simp only [ran, writeOutput, s.compiler.outputOf_buildWords, hwritten, hfiles]
    refine ⟨content, hwritten, ?_⟩
    rw [hsucceeded.2, hran, hwasm]
    rw [hwasm] at hfiles
    exact FileTree.read_of_writeWord (plain_of_mem_file hs id isPlain_wasmName) hfiles

/-- A transform leaves the binary in the slot, and gives a wrapper around it. -/
theorem wrapper_of_transform (hs : s.buildRoot.IsResolved) {code id : Text} {h h' : Host}
    {r : Result} (hrun : (transform s code id).run.run h = (.ok (some r), h'))
    (hdeliver : Delivers s code id h) :
    (∃ content, h'.files.read r.wasmFile = .ok content) ∧ r.slot = Slot.name id ∧
      r.wasmFile = (s.buildRoot.child (Slot.name id)).child Wrapper.wasmName ∧
      ∃ here names, (∀ n ∈ names, '/' ∉ n) ∧
        r.code = Wrapper.render here s.projectRoot (some s.buildRoot) (Slot.name id) names := by
  obtain ⟨unit, warnings, h₁, h₂, h₃, hunit, hprepare, hwrite, hcompile, hdecl, rfl⟩ :=
    phases_of_build (build_of_transform hrun)
  refine ⟨?_, rfl, rfl, h'.files.here, _, ?_, rfl⟩
  · obtain ⟨content, -, hread⟩ :=
      read_of_compile hs hcompile (hdeliver _ h₁ h₂ hprepare hwrite)
    have hkeeps : h₃.files.Keeps h'.files := by
      have := keeps_writeDeclarations s (jobOf s id unit) h₃
      rwa [hdecl] at this
    exact hkeeps.read ((hs.child (Slot.isPlain_name id)).child isPlain_wasmName) hread
  · intro n hn
    split at hn
    · obtain ⟨f, hf, rfl⟩ := List.mem_map.1 hn
      unfold Job.functions at hf
      split at hf
      · exact Go.slash_not_mem_of_exported hf
      · simp at hf
    · simp at hn

end Transform

/-! ## §3 Ids -/

theorem Session.run_readArtifact {buildRoot p : Path} {id : Text} {content : Bytes} {h : Host}
    (hid : VirtualId.resolve buildRoot id = some (.file p)) (hp : h.files.read p = .ok content) :
    (readArtifact buildRoot id).run.run h = (.ok content, h) := by
  have hpath : (artifactPath buildRoot id).run.run h = (.ok p, h) := by
    rw [artifactPath, hid]
    dsimp only
    rw [run_bind, Host.run_look, FileTree.isFile_of_read hp]
    rfl
  rw [readArtifact, run_bind, hpath]
  dsimp only
  rw [run_tryCatch, Host.readBytes, Host.run_look, hp]

namespace Bundle

variable (c : Compiler) {buildRoot : Path} (base : Text)

theorem run_emit (name : Text) (content : Bytes) (s : Session) :
    (emit name content).run.run s =
      (.ok (assetName assetsDirectory name content),
        { s with assets := Table.put (assetName assetsDirectory name content) content s.assets }) :=
  rfl

/-- The name of the asset of the glue. -/
def glueAsset (glue : Text) : Text :=
  "assets/wasm_exec-" ++ contentDigest (Utf8.encode glue) ++ ".js"

/-- The name of the asset of a binary. -/
def wasmAsset (wasm : Bytes) : Text := "assets/main-" ++ contentDigest wasm ++ ".wasm"

theorem assetName_glueName (glue : Text) :
    assetName assetsDirectory VirtualId.glueName (Utf8.encode glue) = glueAsset glue := by
  have hstem : (Path.ofText VirtualId.glueName).stem = "wasm_exec".toList := by decide
  have hending : (Path.ofText VirtualId.glueName).ending = ".js".toList := by decide
  have hstart : assetsDirectory ++ "/" ++ "wasm_exec" ++ "-" = "assets/wasm_exec-".toList := by
    decide
  delta assetName glueAsset
  rw [hstem, hending, hstart]

theorem assetName_wasmName (wasm : Bytes) :
    assetName assetsDirectory Wrapper.wasmName wasm = wasmAsset wasm := by
  have hstem : (Path.ofText Wrapper.wasmName).stem = "main".toList := by decide
  have hending : (Path.ofText Wrapper.wasmName).ending = ".wasm".toList := by decide
  have hstart : assetsDirectory ++ "/" ++ "main" ++ "-" = "assets/main-".toList := by decide
  delta assetName wasmAsset
  rw [hstem, hending, hstart]

theorem glueAsset_ne_wasmAsset (glue : Text) (wasm : Bytes) : glueAsset glue ≠ wasmAsset wasm := by
  have hg : glueAsset glue =
      "assets/wasm_exec-" ++ (contentDigest (Utf8.encode glue) ++ ".js") := List.append_assoc ..
  have hw : wasmAsset wasm = "assets/main-" ++ (contentDigest wasm ++ ".wasm") :=
    List.append_assoc ..
  intro h
  have h8 := congrArg (List.take 8) h
  rw [hg, hw, List.take_append_of_le_length (by decide),
    List.take_append_of_le_length (by decide)] at h8
  exact absurd h8 (by decide)

/-- The assets with both of a wrapper's. -/
def withBoth (glue : Text) (wasm : Bytes) (assets : Assets) : Assets :=
  Table.put (wasmAsset wasm) wasm (Table.put (glueAsset glue) (Utf8.encode glue) assets)

theorem fileName_artifact {slot : Text} (hslot : Path.IsPlain slot) (file : Text) :
    fileName (VirtualId.artifact slot file) = file := by
  have hs : ∀ c ∈ slot, (decide (c ≠ '/')) = true := fun c hc => by
    have : c ≠ '/' := fun h => hslot.noSlash (h ▸ hc)
    simpa using this
  rw [fileName, VirtualId.artifact, List.append_assoc, List.append_assoc, Text.after?_append,
    Option.getD_some, List.dropWhile_append_of_pos hs]
  rfl

/-- The glue is emitted as a text. -/
theorem run_emitTarget_glue {glue : Text} {s s' : Session}
    (hglue : (Session.loadGlue c).run.run s = (.ok glue, s')) :
    (emitTarget c buildRoot base VirtualId.glue).run.run s =
      (.ok (base ++ glueAsset glue),
        { s' with assets := Table.put (glueAsset glue) (Utf8.encode glue) s'.assets }) := by
  rw [emitTarget, if_pos rfl, run_bind, hglue]
  dsimp only
  rw [run_bind, run_emit, assetName_glueName]
  rfl

/-- A binary is emitted by its bytes. -/
theorem run_emitTarget_artifact {slot : Text} (hslot : Path.IsPlain slot) {wasm : Bytes}
    (s : Session)
    (hwasm : s.host.files.read ((buildRoot.child slot).child Wrapper.wasmName) = .ok wasm) :
    (emitTarget c buildRoot base (VirtualId.artifact slot Wrapper.wasmName)).run.run s =
      (.ok (base ++ wasmAsset wasm),
        { s with assets := Table.put (wasmAsset wasm) wasm s.assets }) := by
  have hne : VirtualId.artifact slot Wrapper.wasmName ≠ VirtualId.glue := by
    intro h
    rw [VirtualId.artifact, VirtualId.glue, List.append_assoc, List.append_assoc] at h
    have hname : '/' ∈ VirtualId.glueName := by
      rw [← List.append_cancel_left h]
      simp
    exact absurd hname (by decide)
  have hresolve := VirtualId.resolve_artifact buildRoot hslot Transform.isPlain_wasmName
    (show VirtualId.wasmEnding <:+ Wrapper.wasmName by decide)
  rw [emitTarget, if_neg hne, run_bind, Session.run_act, Session.run_readArtifact hresolve hwasm]
  dsimp only
  rw [run_bind, run_emit, fileName_artifact hslot, assetName_wasmName]
  rfl

end Bundle

/-! ## §4 Rendering -/

namespace Plugin

open EmbeddedGo.Bundle

/-- What a transform gave is rendered, after whatever other calls: it refers to the glue and to its
own binary, both are emitted, and their URLs stand where the ids stood. Nothing is assumed about the
name of the module. -/
theorem renderChunk_transform {files : FileTree} (hhere : ∀ n ∈ files.here, Path.IsPlain n)
    {options : Options} {root : Text} {p : Plugin}
    (hcreate : Plugin.create files options (Path.ofText root) "build" = .ok p)
    (hroot : "@vite-golang".toList ∉ p.buildRoot.names)
    {code id : Text} {s s₁ : Session} {r : Transform.Result}
    (htransform : (p.transform code id).run.run s = (.ok (some r), s₁))
    (hdeliver : Transform.Delivers p.settings code id s.host)
    {calls : List Call} {s₂ s₃ : Session} {glue : Text} (hcalls : s₂ = calls.foldl p.after s₁)
    (hglue : (Session.loadGlue p.compiler).run.run s₂ = (.ok glue, s₃)) :
    ∃ shown names wasm,
      r.code = Wrapper.fill shown VirtualId.glue
        (VirtualId.artifactUrl r.slot Wrapper.wasmName) names ∧
      references r.code = [VirtualId.glue, VirtualId.artifactUrl r.slot Wrapper.wasmName] ∧
      VirtualId.glue ≠ VirtualId.artifactUrl r.slot Wrapper.wasmName ∧
      s₂.host.files.read r.wasmFile = .ok wasm ∧
      (p.renderChunk r.code).run.run s₂ =
        (.ok (Wrapper.fill shown (p.options.base ++ glueAsset glue)
            (p.options.base ++ wasmAsset wasm) names),
          { s₃ with assets := withBoth glue wasm s₂.assets }) ∧
      glueAsset glue ≠ wasmAsset wasm := by
  have hb : p.buildRoot.IsResolved := (isResolved_of_create hhere hcreate).2
  have hmode : p.mode = .build := by
    have := (create_eq_ok_iff.1 hcreate).2.2.1
    rw [show Mode.ofText "build" = .ok .build from rfl] at this
    exact (Except.ok.inj this).symm
  -- what the transform left
  have hrun : (Transform.transform p.settings code id).run.run s.host = (.ok (some r), s₁.host) := by
    rw [transform, Session.run_act] at htransform
    obtain ⟨hout, rfl⟩ := Prod.mk.inj htransform
    exact Prod.ext hout rfl
  obtain ⟨⟨built, hbuilt⟩, hslot, hfile, here, names, hnames, hcode⟩ :=
    Transform.wrapper_of_transform hb hrun hdeliver
  have hplain : Path.IsPlain r.slot := hslot ▸ Slot.isPlain_name id
  have hshown := Wrapper.not_infix_shownSlot here p.projectRoot hb hroot id
  rw [← hslot] at hcode hfile hshown
  replace hcode : r.code = Wrapper.render here p.projectRoot (some p.buildRoot) r.slot names := hcode
  -- and what is there when the code is rendered
  obtain ⟨wasm, hwasm⟩ : ∃ wasm, s₂.host.files.read r.wasmFile = .ok wasm := by
    have hkeeps : s₁.KeepsFiles s₂ := hcalls ▸ keeps_calls hb s₁ calls
    refine FileTree.Keeps.read hkeeps ?_ hbuilt
    rw [hfile]
    exact (hb.child hplain).child Transform.isPlain_wasmName
  obtain ⟨hsame, hassets⟩ : Session.SameAssets s₂ s₃ := by
    have := Session.sameAssets_loadGlue p.compiler s₂
    rwa [hglue] at this
  have hreferences : references r.code =
      [VirtualId.glue, VirtualId.artifactUrl r.slot Wrapper.wasmName] := by
    rw [hcode]
    exact Wrapper.references_module hshown hnames
  have hne := Wrapper.glue_ne_artifactUrl r.slot Wrapper.wasmName
  have hemit : (emitAll p.compiler p.buildRoot p.options.base (references r.code)).run.run s₂ =
      (.ok [(VirtualId.glue, p.options.base ++ glueAsset glue),
          (VirtualId.artifactUrl r.slot Wrapper.wasmName, p.options.base ++ wasmAsset wasm)],
        { s₃ with assets := withBoth glue wasm s₂.assets }) := by
    have hread : s₃.host.files.read ((p.buildRoot.child r.slot).child Wrapper.wasmName) =
        .ok wasm := by
      rw [hsame, ← hwasm, hfile]
      rfl
    have hbinary := run_emitTarget_artifact p.compiler p.options.base hplain
      { s₃ with assets := Table.put (glueAsset glue) (Utf8.encode glue) s₂.assets } hread
    rw [hreferences, emitAll, run_bind, Percent.decode_of_not_mem (by decide),
      run_emitTarget_glue p.compiler p.options.base hglue, hassets]
    dsimp only
    rw [run_bind, emitAll, run_bind, VirtualId.decode_artifactUrl, hbinary]
    rfl
  refine ⟨Wrapper.shownSlot here p.projectRoot (some p.buildRoot) r.slot, names, wasm, ?_,
    hreferences, hne, hwasm, ?_, glueAsset_ne_wasmAsset glue wasm⟩
  · rw [hcode]
    exact Wrapper.module_eq_fill _ _ _
  · rw [renderChunk, hmode]
    dsimp only
    rw [finalize, run_bind, hemit]
    dsimp only
    rw [run_pure, hcode, Wrapper.render, Wrapper.substitute_module hshown hnames]
    simp [List.lookup_cons, beq_false_of_ne (Ne.symm hne)]

/-! ## §5 An example -/

/-- A tree with a compiler at its top, and slots. -/
def toolTree (slots : List (Place × Item)) : FileTree :=
  { items := (["t".toList], ⟨.file [], 0⟩) :: slots }

/-- A compiler that always succeeds with the same two bytes. -/
def toolHost (slots : List (Place × Item)) : Host :=
  { files := toolTree slots
    toolchain :=
      { place := ["t".toList]
        presence := .executable
        answer := fun _ _ => { succeeded := true, written := some [0, 97] } } }

/-- A plugin for a bundle in that tree. -/
def toolPlugin : Plugin :=
  { options := { tinygoPath := "/t", buildDirectory := "b" }
    projectRoot := Path.ofNames []
    buildRoot := Path.ofNames ["b".toList]
    mode := .build }

/-- The job of a module whose name holds a quote and a percent sign. -/
def toolJob : Transform.Job := Transform.jobOf toolPlugin.settings "/\"%" "A"

/-- The directories of that job. -/
def toolSlot : List (Place × Item) :=
  [(["b".toList], ⟨.directory, 0⟩), (["b".toList, "\"%_511842a9".toList], ⟨.directory, 0⟩)]

/-- The source in its slot. -/
def toolSource : List (Place × Item) :=
  [(["b".toList, "\"%_511842a9".toList, "main.go".toList],
    ⟨.file (Utf8.encode toolJob.source), 0⟩)]

theorem create_toolPlugin :
    Plugin.create (toolTree []) toolPlugin.options (Path.ofText "/") "build" = .ok toolPlugin :=
  create_eq_ok_iff.2 ⟨by cbv, by cbv, rfl, rfl⟩

theorem directory_toolJob :
    toolJob.directory = Path.ofNames ["b".toList, "\"%_511842a9".toList] := by
  show toolPlugin.buildRoot.child (Slot.name "/\"%") = _
  cbv

theorem run_prepare_tool :
    (Transform.prepare toolPlugin.settings "\"use golang\"\nA" "/\"%").run.run (toolHost []) =
      (.ok toolJob, toolHost toolSlot) := by
  have hunit : Directive.extract "\"use golang\"\nA" = .ok "A".toList := by cbv
  have hmake : (toolHost []).files.makePath toolJob.directory =
      (.ok (), (toolHost toolSlot).files) := by
    rw [directory_toolJob]
    cbv
  exact Transform.run_prepare_of_makePath hunit hmake

theorem run_writeSource_tool :
    (Transform.writeSource toolJob).run.run (toolHost toolSlot) =
      (.ok (), toolHost (toolSlot ++ toolSource)) := by
  have hfile : toolJob.goFile =
      Path.ofNames ["b".toList, "\"%_511842a9".toList, "main.go".toList] := by
    rw [Transform.Job.goFile, directory_toolJob]
    decide
  have hwrite : (toolHost toolSlot).files.write toolJob.goFile (Utf8.encode toolJob.source) =
      .ok (toolHost (toolSlot ++ toolSource)).files := by
    rw [hfile, toolSource]
    generalize Utf8.encode toolJob.source = content
    cbv
  rw [Transform.run_writeSource, hwrite]
  rfl

theorem delivers_tool :
    (toolHost (toolSlot ++ toolSource)).Delivers
      (toolPlugin.settings.compiler.buildWords toolJob.goFile.text toolJob.wasmFile.text) := by
  have hfile : toolJob.wasmFile =
      Path.ofNames ["b".toList, "\"%_511842a9".toList, "main.wasm".toList] := by
    rw [Transform.Job.wasmFile, directory_toolJob]
    decide
  have hwrite : ∃ files, (toolHost (toolSlot ++ toolSource)).files.writeWord
      toolJob.wasmFile.text [0, 97] = .ok files := by
    rw [hfile, toolSource]
    generalize Utf8.encode toolJob.source = content
    exact ⟨_, by cbv⟩
  obtain ⟨files, hfiles⟩ := hwrite
  exact fun _ => ⟨_, _, files, Compiler.outputOf_buildWords .., rfl, hfiles⟩

set_option maxRecDepth 4096 in
theorem run_transform_tool :
    ∃ r h, (Transform.transform toolPlugin.settings "\"use golang\"\nA" "/\"%").run.run
      (toolHost []) = (.ok (some r), h) := by
  have hpresent : Directive.isPresent "\"use golang\"\nA" = true := by cbv
  have hstart : (toolHost (toolSlot ++ toolSource)).start? toolPlugin.compiler.command
      (toolPlugin.settings.compiler.buildWords toolJob.goFile.text toolJob.wasmFile.text) =
        .ok "/t".toList := by
    rw [toolSource, Transform.Job.goFile, Transform.Job.wasmFile, directory_toolJob]
    generalize Utf8.encode toolJob.source = content
    cbv
  exact ⟨_, _, Transform.run_transform hpresent run_prepare_tool run_writeSource_tool
    (Compiler.run_compile _ hstart) rfl⟩

/-- The module is rendered after its glue was asked for. -/
theorem renderChunk_transform_tool :
    ∃ r s₁ s₂ glue, ((toolPlugin.transform "\"use golang\"\nA" "/\"%").run.run
        { host := toolHost [], glue := some "g" } = (.ok (some r), s₁)) ∧
      s₂ = toolPlugin.after s₁ (.load VirtualId.glue) ∧
      (Session.loadGlue toolPlugin.compiler).run.run s₂ = (.ok glue, s₂) ∧
      ∃ shown names wasm,
        r.code = Wrapper.fill shown VirtualId.glue
          (VirtualId.artifactUrl r.slot Wrapper.wasmName) names ∧
        (toolPlugin.renderChunk r.code).run.run s₂ =
          (.ok (Wrapper.fill shown ("/" ++ glueAsset glue) ("/" ++ wasmAsset wasm) names),
            { s₂ with assets := withBoth glue wasm s₂.assets }) := by
  obtain ⟨r, h, hrun⟩ := run_transform_tool
  have htransform : (toolPlugin.transform "\"use golang\"\nA" "/\"%").run.run
      { host := toolHost [], glue := some "g" } = (.ok (some r), { host := h, glue := some "g" }) := by
    rw [transform, Session.run_act, hrun]
  have hdeliver : Transform.Delivers toolPlugin.settings "\"use golang\"\nA" "/\"%"
      (toolHost []) := by
    intro j h₁ h₂ hprepare hwrite
    rw [run_prepare_tool] at hprepare
    cases hprepare
    rw [run_writeSource_tool] at hwrite
    cases hwrite
    exact delivers_tool
  have hall := renderChunk_transform (by simp [toolTree]) create_toolPlugin (by decide) htransform
    hdeliver (show _ = [Call.load VirtualId.glue].foldl toolPlugin.after _ from rfl) rfl
  obtain ⟨shown, names, wasm, hcode, -, -, -, hrender, -⟩ := hall
  exact ⟨r, _, _, _, htransform, rfl, rfl, shown, names, wasm, hcode, hrender⟩

end Plugin
end EmbeddedGo
