/-
EmbeddedGo.Proofs.BuildAssets — what the modules of a build find in its bundle.

All modules of a build share one table of assets, one glue and the slots, and their assets are written
only when all turns are over. Still each module with Go has what it needs in the bundle: its code names
two assets, and these hold the glue and what the compiler wrote for that very module
(`build_delivers`). What a turn emits stays in the table under its name, since another emission of that
name has the same contents; and what it wrote stays in its output, if outputs are apart and no link
leads from one place to another.

  §1 modules with Go
  §2 a build of two modules
  §3 modules in each other's way
-/
import EmbeddedGo.Proofs.BuildOutputs

namespace EmbeddedGo.Command

open EmbeddedGo.Bundle FileTree

variable {h : Host} {c : Common} {root out : Path} {files before after : List Text} {word file : Text}
  {p : Plugin} {first last turned : Progress} {n : Nat} {left : Session}

/-! ## §1 Modules with Go -/

/-- The compiler delivers in the turn of each module. -/
def Delivers (p : Plugin) (out : Path) (files : List Text) (first : Progress) : Prop :=
  ∀ before file after, files = before ++ file :: after → ∀ source code,
    Reads (reached p out before first).session.host file source code →
      Transform.Delivers p.settings code source.text (reached p out before first).session.host

/-- Outputs that stand in the place of no other output, of no input and of no asset. -/
structure Separate (t : FileTree) (p : Plugin) (out : Path) (files : List Text) (assets : Assets) :
    Prop where
  distinct : (files.map (outputPlace p out t)).Nodup
  inputs : ∀ file ∈ files, ∀ file' ∈ files, outputPlace p out t file ≠ inputPlace t file'
  assets : ∀ file ∈ files, ∀ asset ∈ assets, assetPlace out asset.1 ≠ outputPlace p out t file

theorem Separate.ne_of_after {t : FileTree} {assets : Assets}
    (hseparate : Separate t p out files assets) (hfiles : files = before ++ file :: after) :
    ∀ f ∈ after, outputPlace p out t f ≠ outputPlace p out t file := by
  intro f hf heq
  have hnodup := hseparate.distinct
  rw [hfiles, List.map_append, List.map_cons, List.nodup_append, List.nodup_cons] at hnodup
  exact hnodup.2.1.1 (heq ▸ List.mem_map_of_mem hf)

/-- The code of a module with Go among others. The compiler is that of the beginning, and no link has
come to stand in the slot. -/
theorem Works.bundled_of_module (hw : Works h c root files word p out first n turned left)
    (hunlinked : Unlinked h.files p out files left.assets) (hfiles : files = before ++ file :: after)
    {code output : Text} {compiled : Bool} {s : Session}
    (hpresent : Directive.isPresent code = true)
    (hdelivers : Transform.Delivers p.settings code (moduleId h.files file)
      (reached p out before first).session.host)
    (hbundled : (bundled p code (moduleId h.files file)).run.run
      (reached p out before first).session = (.ok (compiled, output), s)) :
    ∃ unit wasm url glue, Directive.extract code = .ok unit ∧
      (h.toolchain.answer (p.settings.slotWords (Slot.name (moduleId h.files file)))
        (Utf8.encode (Go.wrap unit))).written = some wasm ∧
      output = substitute url (p.settings.wrapper h.files.here (moduleId h.files file) unit) ∧
      url VirtualId.glue = p.options.base ++ glueAsset glue ∧
      url (VirtualId.artifactUrl (Slot.name (moduleId h.files file)) Wrapper.wasmName) =
        p.options.base ++ wasmAsset wasm ∧
      s.glue = some glue ∧
      (VirtualId.glueName, Utf8.encode glue) ∈ p.moduleEmissions code (moduleId h.files file)
        (reached p out before first).session ∧
      (Wrapper.wasmName, wasm) ∈ p.moduleEmissions code (moduleId h.files file)
        (reached p out before first).session := by
  have hin : file ∈ files := by simp [hfiles]
  have hbefore : ∀ f ∈ before, f ∈ files := fun f hf => by simp [hfiles, hf]
  have hsince := hw.begun.since.reached hw.begun.buildRoot out before
  have hstraight : p.settings.Straight (Slot.name (moduleId h.files file))
      (reached p out before first).session.host.files := fun name hname =>
    (hunlinked.slots file hin name hname).of_linksOf (hw.changes_reached hunlinked hbefore).links
  have hmodule := bundled_module hw.begun.buildRoot hw.begun.mode hpresent hstraight hdelivers hbundled
  rwa [hsince.tools.2, hsince.tools.1] at hmodule

/-- What a module is when its turn comes it was before the build, unless it stands in the slot of an
earlier one. -/
theorem Works.codeAt_input (hw : Works h c root files word p out first n turned left)
    (hunlinked : Unlinked h.files p out files left.assets)
    (hseparate : Separate h.files p out files left.assets) (hfiles : files = before ++ file :: after)
    {code : Text}
    (hcode : codeAt (reached p out before first).session.host.files (inputPlace h.files file) =
      some code)
    (hnotSlot : ∀ f ∈ before, ∀ name ∈ Transform.builtNames,
      inputPlace h.files file ≠ slotPlace p h.files f name) :
    codeAt h.files (inputPlace h.files file) = some code := by
  have hin : file ∈ files := by simp [hfiles]
  have hbefore : ∀ f ∈ before, f ∈ files := fun f hf => by simp [hfiles, hf]
  obtain ⟨content, hinput⟩ := hw.areFiles.entryAt hin
  rw [codeAt_later (hw.changes_reached hunlinked hbefore) ?_ hinput, hcode]
  rintro ⟨f, hf, heq | ⟨name, hname, heq⟩⟩
  · exact hseparate.inputs f (hbefore f hf) file hin heq.symm
  · exact hnotSlot f hf name hname heq

/-- If a build ends well each of its inputs has an output below the directory of the bundle, if outputs
stand neither in the place of each other nor in that of an asset. The output of a module with Go loads
an asset that holds the glue, as one of the turns of this very build read it from the compiler's own
files, and fetches one that holds what the compiler wrote for the source of that module. A module is
what it is when its turn comes, and that is what it was before unless it stands in the slot of
another. -/
theorem build_delivers (hs : Succeeds h c root files word p out first last)
    (hunlinked : Unlinked h.files p out files last.session.assets)
    (hseparate : Separate h.files p out files last.session.assets)
    (hdelivers : Delivers p out files first)
    (hcollision : NoCollision (buildEmissions p out files first))
    (hfiles : files = before ++ file :: after) :
    ∃ code output,
      codeAt (reached p out before first).session.host.files (inputPlace h.files file) = some code ∧
      ((∀ f ∈ before, ∀ name ∈ Transform.builtNames,
          inputPlace h.files file ≠ slotPlace p h.files f name) →
        codeAt h.files (inputPlace h.files file) = some code) ∧
      out.names <+: outputPlace p out h.files file ∧
      last.session.host.files.entryAt (outputPlace p out h.files file) =
        some (.file (Utf8.encode output)) ∧
      (Directive.isPresent code = true →
        ∃ unit wasm head glue names, Directive.extract code = .ok unit ∧
          (h.toolchain.answer (p.settings.slotWords (Slot.name (moduleId h.files file)))
            (Utf8.encode (Go.wrap unit))).written = some wasm ∧
          GlueRead p out files first glue ∧
          output = Wrapper.around head (p.options.base ++ glueAsset glue)
            (p.options.base ++ wasmAsset wasm) names ∧
          last.session.host.files.entryAt (assetPlace out (glueAsset glue)) =
            some (.file (Utf8.encode glue)) ∧
          last.session.host.files.entryAt (assetPlace out (wasmAsset wasm)) =
            some (.file wasm)) := by
  obtain ⟨turned, hw⟩ := hs.works
  obtain ⟨d, hturn⟩ := hw.built_of_zero hfiles
  have hin : file ∈ files := by simp [hfiles]
  obtain ⟨code, compiled, output, s, hcode, hreads, hbundled, hglue, hemitted, hentry⟩ :=
    hw.of_built hunlinked hfiles hturn
  refine ⟨code, output, hcode, hw.codeAt_input hunlinked hseparate hfiles hcode, ?_, ?_,
    fun hpresent => ?_⟩
  · rw [outputPlace, (names_outputPath p out _).2]
    exact List.prefix_append ..
  · exact hentry (hseparate.ne_of_after hfiles) (hseparate.assets file hin)
  · obtain ⟨unit, wasm, url, glue, hunit, hwritten, houtput, hglueUrl, hwasmUrl, hknown,
      hglueEmitted, hwasmEmitted⟩ := hw.bundled_of_module hunlinked hfiles hpresent
        (hdelivers before file after hfiles _ code hreads) hbundled
    have hglueFile := hw.entryAt_emission hunlinked hcollision (hemitted _ hglueEmitted)
      hasEnding_glueName
    have hwasmFile := hw.entryAt_emission hunlinked hcollision (hemitted _ hwasmEmitted)
      hasEnding_wasmName
    rw [Emission.asset, assetName_glueName] at hglueFile
    rw [Emission.asset, assetName_wasmName] at hwasmFile
    rw [Transform.Settings.wrapper, Wrapper.render, Wrapper.substitute_module_behind _ _
      (p.settings.slash_not_mem_exportNames _ unit), hglueUrl, hwasmUrl] at houtput
    exact ⟨unit, wasm, _, glue, _, hunit, hwritten, hw.assets_eq.2.2 glue (hglue glue hknown),
      houtput, hglueFile, hwasmFile⟩

/-! ## §2 A build -/

/-- A module with Go. -/
def goModule : Text := "\"use golang\"\nA"

/-- A file in its slot. -/
def goItem (name : Text) (content : Bytes) : Place × Item :=
  (["b", "a_js_29e70e18", name], ⟨.file content, 0⟩)

/-- The module, its slot with a binary, and the glue of the compiler. -/
def goItems (binary : Bytes) : List (Place × Item) := [
  topFile "a.js" goModule,
  (["b".toList, "a_js_29e70e18".toList], ⟨.directory, 0⟩),
  goItem "main.wasm" binary,
  (["g".toList], ⟨.directory, 0⟩),
  (["g".toList, "targets".toList], ⟨.directory, 0⟩),
  (["g".toList, "targets".toList, "wasm_exec.js".toList], ⟨.file (Utf8.encode "ab"), 0⟩)]

/-- What the transform of the module leaves. -/
def goBuilt (source : Bytes) : List (Place × Item) :=
  goItems (Utf8.encode "ab") ++ [goItem "main.go" source]

/-- The host of a build of a module and of the binary in its slot, where a module stands too. -/
def goDesk (runs : List (List Text)) : Host := desk (goItems (Utf8.encode goModule)) runs

/-- The inputs of that build. -/
def goFiles : List Text := ["a.js", "b/a_js_29e70e18/main.wasm"]

theorem isDesk_go :
    IsDesk (goItems (Utf8.encode goModule)) goFiles "d" (Path.ofNames ["d".toList]) where
  load := load_desk _
  root := root_desk _
  create := create_desk _
  started := started_desk _
  leads := leads_desk _
  isFile := by
    unfold goFiles
    simp only [List.forall_mem_cons]
    exact ⟨by cbv, by cbv, by simp⟩
  shown := by decide

theorem slotName_go : Slot.name "/a.js" = "a_js_29e70e18".toList := by cbv

theorem goesThrough_go (runs : List (List Text)) :
    Transform.GoesThrough Plugin.toolPlugin.settings (goDesk runs) goModule "/a.js" "A"
      "/t" (Utf8.encode "/g") (Utf8.encode "ab")
      (desk (goItems (Utf8.encode goModule) ++ [goItem "main.go" (Utf8.encode (Go.wrap "A"))]) []).files
      (desk (goBuilt (Utf8.encode (Go.wrap "A"))) []).files where
  present := by cbv
  extract := by cbv
  make := by
    rw [slotName_go]
    cbv
  write := by
    rw [slotName_go]
    generalize Utf8.encode (Go.wrap "A") = source
    cbv
  start := by
    rw [slotName_go]
    generalize Utf8.encode (Go.wrap "A") = source
    cbv
  answer := rfl
  binary := by
    rw [slotName_go]
    generalize Utf8.encode (Go.wrap "A") = source
    cbv

theorem run_loadGlue_go (source : Bytes) (runs : List (List Text)) :
    (Session.loadGlue Plugin.toolPlugin.compiler).run.run { host := desk (goBuilt source) runs } =
      (.ok "ab", { host := desk (goBuilt source) (runs ++ [Session.rootWords])
                   glue := some "ab" }) := by
  have hstart : (desk (goBuilt source) runs).start? Plugin.toolPlugin.compiler.command
      Session.rootWords = .ok "/t".toList := by cbv
  have hsaid : Compiler.said? (Utf8.encode "/g") = some "/g".toList := by cbv
  have hread : (desk (goBuilt source) runs).files.read (Session.gluePath (Path.ofText "/g")) =
      .ok (Utf8.encode "ab") := by cbv
  exact Session.run_loadGlue rfl hstart rfl hsaid hread (by cbv)

/-- The module and its output. -/
def goFirst (source output : Bytes) : List (Place × Item) :=
  goBuilt source ++ [bundleItem "a.js" (.file output)]

/-- Both outputs. -/
def goSecond (source output : Bytes) : List (Place × Item) :=
  goFirst source output ++ [
    (["d".toList, "b".toList], ⟨.directory, 0⟩),
    (["d".toList, "b".toList, "a_js_29e70e18".toList], ⟨.directory, 0⟩),
    (["d".toList, "b".toList, "a_js_29e70e18".toList, "main.js".toList],
      ⟨.file (Utf8.encode "ab"), 0⟩)]

theorem run_writeOutput_go (source : Bytes) (runs : List (List Text)) (output : Text) :
    (writeOutput (outputPath Plugin.toolPlugin (Path.ofNames ["d".toList])
        (Path.ofNames ["a.js".toList])) output).run.run (desk (goBuilt source) runs) =
      (.ok (), desk (goFirst source (Utf8.encode output)) runs) := by
  unfold writeOutput Host.writeText
  generalize Utf8.encode output = content
  cbv

theorem run_writeOutput_go_slot (source output : Bytes) (runs : List (List Text)) :
    (writeOutput (outputPath Plugin.toolPlugin (Path.ofNames ["d".toList])
        (Path.ofNames ["b".toList, "a_js_29e70e18".toList, "main.wasm".toList])) "ab").run.run
        (desk (goFirst source output) runs) =
      (.ok (), desk (goSecond source output) runs) := by
  cbv

theorem glueAsset_go : glueAsset "ab" = "assets/wasm_exec-fb8e20fc.js".toList := by
  delta glueAsset
  rw [contentDigest_ab]
  decide

theorem wasmAsset_go : wasmAsset (Utf8.encode "ab") = "assets/main-fb8e20fc.wasm".toList := by
  delta wasmAsset
  rw [contentDigest_ab]
  decide

/-- The glue and the binary are the same here, but not their names. -/
def goAssets : Assets :=
  [("assets/wasm_exec-fb8e20fc.js".toList, Utf8.encode "ab"),
    ("assets/main-fb8e20fc.wasm".toList, Utf8.encode "ab")]

theorem withBoth_go : withBoth "ab" (Utf8.encode "ab") [] = goAssets := by
  delta withBoth goAssets
  rw [glueAsset_go, wasmAsset_go]
  generalize Utf8.encode "ab" = content
  cbv

/-- All that the build leaves. -/
def goLast (source output : Bytes) : List (Place × Item) :=
  goSecond source output ++ [
    (["d".toList, "assets".toList], ⟨.directory, 0⟩),
    (["d".toList, "assets".toList, "wasm_exec-fb8e20fc.js".toList], ⟨.file (Utf8.encode "ab"), 0⟩),
    (["d".toList, "assets".toList, "main-fb8e20fc.wasm".toList], ⟨.file (Utf8.encode "ab"), 0⟩)]

theorem run_writeAssets_go (source output : Bytes) (runs : List (List Text)) :
    ∃ written, (Plugin.writeAssets (Path.ofNames ["d".toList]) goAssets).run.run
      (desk (goSecond source output) runs) = (.ok written, desk (goLast source output) runs) :=
  ⟨_, by cbv⟩

theorem isResolved_toolPlugin : Plugin.toolPlugin.buildRoot.IsResolved := ⟨rfl, by decide⟩

/-- The turn of the module. -/
theorem run_buildFile_go (shown : List Console.Shown) :
    ∃ output runs shown', (buildFile Plugin.toolPlugin (Path.ofNames ["d".toList]) "a.js").run.run
        { session := { host := goDesk versionRuns }, shown } =
      (.ok false,
        { session :=
            { host := desk (goFirst (Utf8.encode (Go.wrap "A")) output) runs
              glue := some "ab"
              assets := goAssets }
          shown := shown'
          task := taskFor Plugin.toolPlugin (Path.ofNames ["a.js".toList]) }) ∧
      turnEmissions Plugin.toolPlugin { host := goDesk versionRuns } "a.js" =
        [(VirtualId.glueName, Utf8.encode "ab"), (Wrapper.wasmName, Utf8.encode "ab")] := by
  have hreads : Reads (goDesk versionRuns) "a.js" (Path.ofNames ["a.js".toList]) goModule :=
    reads_of_read (by cbv) (by cbv) (by cbv)
  have hnames : ∀ n ∈ (relativeTo Plugin.toolPlugin.projectRoot (Path.ofNames ["a.js".toList])).names,
      Tagless n := by decide
  have hroot : "@vite-golang".toList ∉ Plugin.toolPlugin.buildRoot.names := by decide
  obtain ⟨r, htransform⟩ := (goesThrough_go versionRuns).run_transform isResolved_toolPlugin rfl
  have hglue := run_loadGlue_go (Utf8.encode (Go.wrap "A"))
    (versionRuns ++ [Plugin.toolPlugin.settings.slotWords (Slot.name "/a.js")])
  have hwasm : (desk (goBuilt (Utf8.encode (Go.wrap "A"))) []).files.read
      ((Plugin.toolPlugin.buildRoot.child (Slot.name "/a.js")).child Wrapper.wasmName) =
        .ok (Utf8.encode "ab") := by
    rw [slotName_go]
    generalize Utf8.encode (Go.wrap "A") = source
    cbv
  obtain ⟨unit, -, hbundled, hemissions⟩ := run_bundled_go (p := Plugin.toolPlugin)
    (s := { host := goDesk versionRuns }) isResolved_toolPlugin rfl hroot htransform hglue hwasm
  have htext : (Path.ofNames ["a.js".toList]).text = "/a.js".toList := by decide
  rw [← htext, withBoth_go] at hbundled
  rw [← htext] at hemissions
  obtain ⟨shown', hturn⟩ := run_turn_built (p := Plugin.toolPlugin)
    (d := { session := { host := goDesk versionRuns }
            shown
            task := taskFor Plugin.toolPlugin (Path.ofNames ["a.js".toList]) })
    hbundled (run_writeOutput_go _ _ _) hnames
  exact ⟨_, _, shown', (run_buildFile hreads).trans hturn,
    (turnEmissions_of_reads (d := { session := { host := goDesk versionRuns } }) hreads).trans
      hemissions⟩

theorem isInert_ab : IsInert "ab" := ⟨by cbv, by cbv⟩

theorem reads_go_slot (source output : Bytes) (runs : List (List Text)) :
    Reads (desk (goFirst source output) runs) "b/a_js_29e70e18/main.wasm"
      (Path.ofNames ["b".toList, "a_js_29e70e18".toList, "main.wasm".toList]) "ab" :=
  reads_of_read (by cbv) (by cbv) (by cbv)

/-- The build: what it has done before its files, after the first of them and at its end. -/
theorem succeeds_go :
    ∃ first last output runs,
      Succeeds (goDesk []) deskCommon (Path.ofNames []) goFiles "d" Plugin.toolPlugin
        (Path.ofNames ["d".toList]) first last ∧
      first.session = { host := goDesk versionRuns } ∧
      (reached Plugin.toolPlugin (Path.ofNames ["d".toList]) ["a.js"] first).session.host =
        desk (goFirst (Utf8.encode (Go.wrap "A")) output) runs ∧
      last.session.assets = goAssets ∧
      last.session.host = desk (goLast (Utf8.encode (Go.wrap "A")) output) runs ∧
      buildEmissions Plugin.toolPlugin (Path.ofNames ["d".toList]) goFiles first =
        [(VirtualId.glueName, Utf8.encode "ab"), (Wrapper.wasmName, Utf8.encode "ab")] := by
  obtain ⟨shown, hbegins⟩ := isDesk_go.begins
  obtain ⟨output, runs, shown₁, hfirst, hemissions⟩ := run_buildFile_go shown
  have hreads := reads_go_slot (Utf8.encode (Go.wrap "A")) output runs
  have hnames : ∀ n ∈ (relativeTo Plugin.toolPlugin.projectRoot
      (Path.ofNames ["b".toList, "a_js_29e70e18".toList, "main.wasm".toList])).names, Tagless n := by
    decide
  obtain ⟨shown₂, hsecond⟩ := run_buildFile_inert (p := Plugin.toolPlugin) rfl isInert_ab
    (d := { session := { host := desk (goFirst (Utf8.encode (Go.wrap "A")) output) runs
                         glue := some "ab"
                         assets := goAssets }
            shown := shown₁
            task := taskFor Plugin.toolPlugin (Path.ofNames ["a.js".toList]) })
    hreads (run_writeOutput_go_slot _ output runs) hnames
  have hturns : (buildFiles Plugin.toolPlugin (Path.ofNames ["d".toList]) goFiles).run.run
      { session := { host := goDesk versionRuns }, shown } = (.ok 0, _) :=
    run_buildFiles_cons hfirst (run_buildFiles_cons hsecond rfl)
  have htask := tagless_taskFor Plugin.toolPlugin hnames
  obtain ⟨written, hwrite⟩ := run_writeAssets_go (Utf8.encode (Go.wrap "A")) output runs
  have hassets : ∀ asset ∈ goAssets, Tagless asset.1 := by decide
  obtain ⟨shown₃, hbuild⟩ := run_build hbegins.begins hturns htask hwrite hassets
  have hone : (buildFiles Plugin.toolPlugin (Path.ofNames ["d".toList]) ["a.js"]).run.run
      { session := { host := goDesk versionRuns }, shown } = (.ok 0, _) :=
    run_buildFiles_cons hfirst rfl
  refine ⟨{ session := { host := goDesk versionRuns }, shown }, _, output, runs,
    { toBegins := hbegins, ends := hbuild }, rfl, ?_, rfl, rfl, ?_⟩
  · rw [reached, hone]
  · unfold goFiles
    rw [buildEmissions, hemissions, hfirst]
    dsimp only
    rw [buildEmissions, turnEmissions_of_reads (d := { session := _, shown := shown₁ }) hreads,
      moduleEmissions_inert isInert_ab, hsecond]
    rfl

/-- The transform of a module without the directive has nothing to deliver. -/
theorem delivers_absent {s : Transform.Settings} {code : Text}
    (habsent : Directive.extract code = .error .directiveNotFound) (id : Text) (h : Host) :
    Transform.Delivers s code id h := by
  intro j h₁ h₂ hprepare
  obtain ⟨unit, hunit, -⟩ := Transform.eq_jobOf_of_prepare hprepare
  rw [habsent] at hunit
  cases hunit

theorem delivers_go {first : Progress} {output : Bytes} {runs : List (List Text)}
    (hfirst : first.session = { host := goDesk versionRuns })
    (hreached : (reached Plugin.toolPlugin (Path.ofNames ["d".toList]) ["a.js"] first).session.host =
      desk (goFirst (Utf8.encode (Go.wrap "A")) output) runs) :
    Delivers Plugin.toolPlugin (Path.ofNames ["d".toList]) goFiles first := by
  intro before file after hfiles source code hreads
  rcases split_pair hfiles with ⟨rfl, rfl⟩ | ⟨rfl, rfl⟩
  · have hhost : (reached Plugin.toolPlugin (Path.ofNames ["d".toList]) [] first).session.host =
        goDesk versionRuns := by
      show first.session.host = _
      rw [hfirst]
    rw [hhost] at hreads ⊢
    have hmodule : Reads (goDesk versionRuns) "a.js" (Path.ofNames ["a.js".toList]) goModule :=
      reads_of_read (by cbv) (by cbv) (by cbv)
    obtain ⟨rfl, rfl⟩ := hmodule.unique hreads
    exact (goesThrough_go versionRuns).delivers isResolved_toolPlugin
  · rw [hreached] at hreads ⊢
    obtain ⟨rfl, rfl⟩ := (reads_go_slot _ output runs).unique hreads
    exact delivers_absent (by cbv) _ _

theorem unlinked_go :
    Unlinked (goDesk []).files Plugin.toolPlugin (Path.ofNames ["d".toList]) goFiles goAssets := by
  have hall : ∀ q, (goDesk []).files.IsStraight q :=
    isStraight_of_items (by simp [goDesk, desk, goItems, goItem, topFile])
  exact ⟨fun _ _ => hall _, fun _ _ _ _ => hall _, fun _ _ => hall _⟩

theorem inputPlace_go :
    inputPlace (goDesk []).files "a.js" = ["a.js".toList] ∧
      inputPlace (goDesk []).files "b/a_js_29e70e18/main.wasm" =
        ["b".toList, "a_js_29e70e18".toList, "main.wasm".toList] :=
  ⟨by cbv, by cbv⟩

theorem outputPlace_go :
    outputPlace Plugin.toolPlugin (Path.ofNames ["d".toList]) (goDesk []).files "a.js" =
        ["d".toList, "a.js".toList] ∧
      outputPlace Plugin.toolPlugin (Path.ofNames ["d".toList]) (goDesk []).files
          "b/a_js_29e70e18/main.wasm" =
        ["d".toList, "b".toList, "a_js_29e70e18".toList, "main.js".toList] := by
  rw [outputPlace, outputPlace, inputPlace_go.1, inputPlace_go.2]
  exact ⟨by decide, by decide⟩

theorem separate_go :
    Separate (goDesk []).files Plugin.toolPlugin (Path.ofNames ["d".toList]) goFiles goAssets := by
  constructor
  · rw [goFiles, List.map_cons, List.map_cons, outputPlace_go.1, outputPlace_go.2]
    decide
  · simp only [goFiles, List.forall_mem_cons, outputPlace_go, inputPlace_go]
    decide
  · simp only [goFiles, List.forall_mem_cons, outputPlace_go]
    decide

theorem noCollision_go :
    NoCollision [(VirtualId.glueName, Utf8.encode "ab"), (Wrapper.wasmName, Utf8.encode "ab")] := by
  intro e he e' he' _
  simp only [List.mem_cons, List.not_mem_nil, or_false] at he he'
  rcases he with rfl | rfl <;> rcases he' with rfl | rfl <;> rfl

/-- The first module fetches what was compiled for it. -/
theorem build_delivers_go :
    ∃ first last,
      Succeeds (goDesk []) deskCommon (Path.ofNames []) goFiles "d" Plugin.toolPlugin
        (Path.ofNames ["d".toList]) first last ∧
      ∃ glue wasm head names,
        last.session.host.files.entryAt ["d".toList, "a.js".toList] =
          some (.file (Utf8.encode (Wrapper.around head
            (Plugin.toolPlugin.options.base ++ glueAsset glue)
            (Plugin.toolPlugin.options.base ++ wasmAsset wasm) names))) ∧
        last.session.host.files.entryAt (assetPlace (Path.ofNames ["d".toList]) (wasmAsset wasm)) =
          some (.file wasm) := by
  obtain ⟨first, last, output, runs, hs, hfirst, hreached, hassets, -, hemissions⟩ := succeeds_go
  obtain ⟨code, output, -, hcode, -, hentry, hmodule⟩ := build_delivers hs (hassets ▸ unlinked_go)
    (hassets ▸ separate_go) (delivers_go hfirst hreached) (hemissions ▸ noCollision_go)
    (show goFiles = [] ++ "a.js".toList :: ["b/a_js_29e70e18/main.wasm".toList] from rfl)
  have hgo : codeAt (goDesk []).files (inputPlace (goDesk []).files "a.js") = some goModule := by
    rw [inputPlace_go.1]
    cbv
  obtain rfl := Option.some.inj ((hcode (by simp)).symm.trans hgo)
  obtain ⟨unit, wasm, head, glue, names, -, -, -, rfl, -, hwasm⟩ := hmodule (by cbv)
  rw [outputPlace_go.1] at hentry
  exact ⟨first, last, hs, glue, wasm, head, names, hentry, hwasm⟩

/-! ## §3 In each other's way -/

/-- Two modules, and a link from the output of one to the output of the other. -/
def linking : List (Place × Item) := apart ++ [bundleItem "b.js" (.link "a.js")]

theorem isDesk_linking : IsDesk linking ["a.js", "b.js"] "d" (Path.ofNames ["d".toList]) where
  load := load_desk _
  root := root_desk _
  create := create_desk _
  started := started_desk _
  leads := leads_desk _
  isFile := by
    simp only [List.forall_mem_cons]
    exact ⟨by cbv, by cbv, by simp⟩
  shown := by decide

theorem isPair_linking :
    IsPair linking (Path.ofNames ["d".toList]) "a.js" "b.js" (Path.ofNames ["a.js".toList])
      (Path.ofNames ["b.js".toList]) "A" "B"
      (desk (linking ++ [bundleItem "a.js" (.file (Utf8.encode "A"))]) versionRuns)
      (desk (linking ++ [bundleItem "a.js" (.file (Utf8.encode "B"))]) versionRuns) where
  inert := isInert_A
  inert' := isInert_B
  reads := reads_of_read (by cbv) (by cbv) (by cbv)
  writes := by cbv
  reads' := reads_of_read (by cbv) (by cbv) (by cbv)
  writes' := by cbv
  tagless := by decide
  tagless' := by decide

theorem separate_linking :
    Separate (desk linking []).files Plugin.toolPlugin (Path.ofNames ["d".toList]) ["a.js", "b.js"]
      [] := by
  have ha : inputPlace (desk linking []).files "a.js" = ["a.js".toList] := by cbv
  have hb : inputPlace (desk linking []).files "b.js" = ["b.js".toList] := by cbv
  have houtputs : outputPlace Plugin.toolPlugin (Path.ofNames ["d".toList]) (desk linking []).files
        "a.js" = ["d".toList, "a.js".toList] ∧
      outputPlace Plugin.toolPlugin (Path.ofNames ["d".toList]) (desk linking []).files "b.js" =
        ["d".toList, "b.js".toList] := by
    rw [outputPlace, outputPlace, ha, hb]
    exact ⟨by decide, by decide⟩
  constructor
  · rw [List.map_cons, List.map_cons, houtputs.1, houtputs.2]
    decide
  · simp only [List.forall_mem_cons, houtputs, ha, hb]
    decide
  · simp

/-- Modules can be in each other's way though their outputs are apart. A binary in a slot that is an
input too is another module when its turn comes, and has no wrapper in the bundle. And what is written
through a link from one output to another is all that is left of both. -/
theorem build_modules_interfere :
    (∃ first last code,
      Succeeds (goDesk []) deskCommon (Path.ofNames []) goFiles "d" Plugin.toolPlugin
        (Path.ofNames ["d".toList]) first last ∧
      Separate (goDesk []).files Plugin.toolPlugin (Path.ofNames ["d".toList]) goFiles
        last.session.assets ∧
      Delivers Plugin.toolPlugin (Path.ofNames ["d".toList]) goFiles first ∧
      NoCollision (buildEmissions Plugin.toolPlugin (Path.ofNames ["d".toList]) goFiles first) ∧
      codeAt (goDesk []).files (inputPlace (goDesk []).files "b/a_js_29e70e18/main.wasm") =
        some code ∧
      Directive.isPresent code = true ∧
      ∀ head glue url names,
        last.session.host.files.entryAt
            (outputPlace Plugin.toolPlugin (Path.ofNames ["d".toList]) (goDesk []).files
              "b/a_js_29e70e18/main.wasm") ≠
          some (.file (Utf8.encode (Wrapper.around head glue url names)))) ∧
    ∃ first last,
      Succeeds (desk linking []) deskCommon (Path.ofNames []) ["a.js", "b.js"] "d" Plugin.toolPlugin
        (Path.ofNames ["d".toList]) first last ∧
      Separate (desk linking []).files Plugin.toolPlugin (Path.ofNames ["d".toList]) ["a.js", "b.js"]
        last.session.assets ∧
      ((bundled Plugin.toolPlugin "A" "/a.js").run.run first.session).1 = .ok (false, "A") ∧
      last.session.host.files.entryAt
          (outputPlace Plugin.toolPlugin (Path.ofNames ["d".toList]) (desk linking []).files "a.js") =
        some (.file (Utf8.encode "B")) := by
  constructor
  · obtain ⟨first, last, output, runs, hs, hfirst, hreached, hassets, hlast, hemissions⟩ := succeeds_go
    refine ⟨first, last, goModule, hs, hassets ▸ separate_go, delivers_go hfirst hreached,
      hemissions ▸ noCollision_go, ?_, by cbv, fun head glue url names hentry => ?_⟩
    · rw [inputPlace_go.2]
      cbv
    · have hleft : (desk (goLast (Utf8.encode (Go.wrap "A")) output) runs).files.entryAt
          ["d".toList, "b".toList, "a_js_29e70e18".toList, "main.js".toList] =
            some (.file (Utf8.encode "ab")) := rfl
      rw [outputPlace_go.2, hlast, hleft] at hentry
      have hdecoded := congrArg Utf8.decode? (Entry.file.inj (Option.some.inj hentry))
      rw [Utf8.decode?_encode, Utf8.decode?_encode] at hdecoded
      have hsame : "ab".toList = Wrapper.around head glue url names := Option.some.inj hdecoded
      have hquote : '"' ∈ Wrapper.around head glue url names := by simp [Wrapper.around]
      rw [← hsame] at hquote
      exact absurd hquote (by decide)
  · obtain ⟨first, last, hs, hfirst, hlast⟩ := IsPair.succeeds isDesk_linking isPair_linking
    have hnone : last.session.assets = [] := by rw [hlast]
    have ha : inputPlace (desk linking []).files "a.js" = ["a.js".toList] := by cbv
    refine ⟨first, last, hs, hnone ▸ separate_linking, ?_, ?_⟩
    · rw [run_bundled_inert rfl isInert_A]
    · rw [outputPlace, ha, hlast]
      rfl

end EmbeddedGo.Command
