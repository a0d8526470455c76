/-
EmbeddedGo.Proofs.PassedText — what becomes of a text that is passed on.

The glue and scripts without Go are passed on: to the build tool, to browsers, into bundles and into
the directory of a build. All of them are read as texts, and a text that was read has one kind of
line end. So what is passed on are the bytes of the file exactly if it has no carriage return, and
otherwise the bytes of the same text with line feeds (`texts_passed`). Nothing else happens to it on
any of these ways, also not where the glue is kept between calls.

  §1 texts and bytes
  §2 the glue, as it is answered
  §3 the glue in a bundle
  §4 scripts that a server sends
  §5 scripts that a build copies
  §6 all ways
  §7 a text with a carriage return
-/
import EmbeddedGo.Proofs.BuildOutputs
import EmbeddedGo.Proofs.EmittedAssets
import EmbeddedGo.Proofs.Finishing
import EmbeddedGo.Proofs.ServedArtifact

namespace EmbeddedGo

/-! ## §1 Texts and bytes -/

/-- The bytes of a text when all its lines end in a line feed. -/
def unifiedBytes (code : Text) : Bytes := Utf8.encode (Text.unifyBreaks code)

variable {content : Bytes} {code : Text}

/-- They are those of the text just if it has no other line ends. -/
theorem unifiedBytes_eq_iff (hcode : Utf8.decode? content = some code) :
    unifiedBytes code = content ↔ '\r' ∉ code := by
  constructor
  · intro h
    have hsame : some (Text.unifyBreaks code) = some code := by
      rw [← hcode, ← h, unifiedBytes, Utf8.decode?_encode]
    rw [← Option.some.inj hsame]
    exact Text.not_mem_unifyBreaks code
  · intro h
    rw [unifiedBytes, Text.unifyBreaks_of_not_mem h]
    exact (Utf8.decode?_eq_some_iff.1 hcode).symm

/-! ## §2 Glue -/

namespace Session

variable {c : Compiler} {s : Session}

/-- The glue was not read yet, and these are the bytes of its file below the directory that the compiler
names. -/
structure GlueFile (c : Compiler) (s : Session) (content : Bytes) : Prop where
  unread : s.glue = none
  found : ∃ root, (c.root.run.run s.host).1 = .ok root ∧
    s.host.files.read (gluePath root) = .ok content

/-- The glue has to be read from a file with these bytes, or is known since that was done. -/
def GlueFrom (c : Compiler) (s : Session) (content : Bytes) : Prop :=
  ∃ s₀, GlueFile c s₀ content ∧ (s = s₀ ∨ s.glue = (s₀.loaded c).glue)

theorem GlueFile.glueIs (h : GlueFile c s content) (hcode : Utf8.decode? content = some code) :
    GlueIs c s (Text.unifyBreaks code) := by
  obtain ⟨hunread, root, hroot, hread⟩ := h
  have hfiles := c.looks_root s.host
  refine .inr ⟨hunread, ?_⟩
  rcases hrun : c.root.run.run s.host with ⟨_, host⟩
  rw [hrun] at hroot hfiles
  obtain rfl : _ = Except.ok root := hroot
  -- asking for the directory runs the compiler, which leaves the files as they are
  have hlater : host.files.read (gluePath root) = .ok content := by
    rw [show host.files = s.host.files from hfiles]
    exact hread
  rw [run_readGlue hrun hlater hcode]

theorem GlueFrom.glueIs (h : GlueFrom c s content) (hcode : Utf8.decode? content = some code) :
    GlueIs c s (Text.unifyBreaks code) := by
  obtain ⟨s₀, hfile, rfl | hknown⟩ := h
  · exact hfile.glueIs hcode
  · exact .inl (hknown.trans (hfile.glueIs hcode).known)

end Session

open Session

variable {glue : Text}

theorem Plugin.run_load_glue {p : Plugin} {s : Session} (hglue : GlueIs p.compiler s glue) :
    (p.load VirtualId.glue).run.run s = (.ok (some glue), s.loaded p.compiler) := by
  rw [Plugin.load, if_pos rfl, run_bind, run_loadGlue_iff.2 hglue]
  rfl

theorem Server.run_respond_glue {plugin : Plugin} {s : ServerState}
    (hglue : GlueIs plugin.compiler s.session glue) :
    (Server.respond plugin { path := VirtualId.glue }).run s =
      (.script glue, { s with session := s.session.loaded plugin.compiler }) := by
  have hartifact : Server.isArtifact VirtualId.glue = false := by decide
  have hroute : Server.route? VirtualId.glue = some .glue := by rfl
  have hhandler : Server.handler plugin { path := VirtualId.glue } =
      Server.serveRoute plugin .glue := by
    rw [Server.handler, hartifact, Bool.and_false, if_neg Bool.false_ne_true, Server.serve, hroute]
    rfl
  rw [Server.run_respond_handler, hhandler, Server.serveRoute, run_bind, Server.run_step,
    run_loadGlue_iff.2 hglue]
  rfl

/-! ## §3 Bundles -/

namespace Bundle

variable {c : Compiler} {buildRoot : Path} {s : Session}

theorem asset_glueName (glue : Text) :
    Emission.asset (VirtualId.glueName, Utf8.encode glue) = glueAsset glue :=
  assetName_glueName glue

/-- No artifact comes to the name of glue, whatever its digest is. -/
theorem asset_fileName_ne {id : Text} {p : Path} (h : VirtualId.resolve buildRoot id = some (.file p))
    (content : Bytes) (glue : Text) : Emission.asset (fileName id, content) ≠ glueAsset glue := by
  rw [← asset_glueName, Emission.asset, Emission.asset, assetName_eq, assetName_eq]
  intro heq
  have hfile := List.cons.inj (List.append_cancel_left heq)
  have hglueName : IsArtifactName VirtualId.glueName := .inl (by decide)
  obtain ⟨hname, -⟩ := assetFile_inj (isArtifactName_fileName h).hasPlainEnding
    hglueName.hasPlainEnding hfile.2
  have hsuffix := wasmEnding_suffix_fileName h
  rw [hname] at hsuffix
  exact absurd hsuffix (by decide)

/-- What is emitted under the name of glue is the glue. -/
theorem eq_glue_of_asset {id : Text} {content : Bytes} (hglue : GlueIs c s glue)
    (hstands : StandsFor c buildRoot s id content)
    (hasset : Emission.asset (emittedName id, content) = glueAsset glue) :
    content = Utf8.encode glue := by
  rw [StandsFor] at hstands
  split at hstands
  · obtain ⟨glue', hglue', hcontent⟩ := hstands
    rw [hcontent, hglue'.unique hglue]
  · next hid =>
    obtain ⟨p, hresolve, -⟩ := hstands
    rw [emittedName, if_neg hid] at hasset
    exact absurd hasset (asset_fileName_ne hresolve _ _)

theorem eq_glue_of_mem_emissions {references : List Text} (hknown : s.glue = some glue) {e : Emission}
    (he : e ∈ emissions c buildRoot references s) (hasset : e.asset = glueAsset glue) :
    e.2 = Utf8.encode glue := by
  induction references generalizing s with
  | nil => cases he
  | cons reference rest ih =>
    have hworld := sameWorld_behind c buildRoot (Percent.decode reference) s
    rw [emissions] at he
    rcases hrun : (behind c buildRoot (Percent.decode reference)).run.run s with ⟨e' | content, s'⟩
    · rw [hrun] at he
      cases he
    · rw [hrun] at he hworld
      rcases List.mem_cons.1 he with rfl | hin
      · exact eq_glue_of_asset (.inl hknown) (standsFor_of_behind hrun) hasset
      · have hlater : (addEmission s' (emittedName (Percent.decode reference), content)).glue =
            some glue := hworld.glue glue hknown
        exact ih hlater hin

/-- The glue is known, and it is one of the assets. -/
structure HoldsGlue (glue : Text) (s : Session) : Prop where
  known : s.glue = some glue
  asset : s.assets.lookup (glueAsset glue) = some (Utf8.encode glue)

/-- A code that refers to the glue is finished if something stands behind all of its references, and then
the glue is one of the assets. -/
theorem holdsGlue_of_finalize {base chunk : Text} (hglue : GlueIs c s glue)
    (hchunk : ∃ r ∈ references chunk, Percent.decode r = VirtualId.glue)
    (hbehind : ∀ r ∈ references chunk, ∃ content, StandsFor c buildRoot s (Percent.decode r) content) :
    ∃ output s', (finalize c buildRoot base chunk).run.run s = (.ok output, s') ∧ HoldsGlue glue s' := by
  obtain ⟨⟨cut, ⟨hleftmost, rfl⟩, -⟩, hall⟩ := finalize_cut c buildRoot base chunk s
  have hids : ∀ r, r ∈ references cut.text ↔ r ∈ cut.ids := by
    simp [Cut.references_text hleftmost]
  simp only [hids] at hchunk hbehind
  choose! content hcontent using hbehind
  obtain ⟨-, -, hfinished⟩ := hall cut hleftmost rfl
  obtain ⟨r, hr, hdecode⟩ := hchunk
  have hmade : made content r = (VirtualId.glueName, Utf8.encode glue) := by
    have hstands := hcontent r hr
    rw [StandsFor, if_pos hdecode] at hstands
    obtain ⟨glue', hglue', hsame⟩ := hstands
    rw [made, hdecode, emittedName, if_pos rfl, hsame, hglue'.unique hglue]
  have hmem : (VirtualId.glueName, Utf8.encode glue) ∈ cut.ids.eraseDups.map (made content) :=
    List.mem_map.2 ⟨r, List.mem_eraseDups.2 hr, hmade⟩
  have hlookup := lookup_foldl_add _ _ s.assets hmem fun e he hasset => by
    obtain ⟨r', hr', rfl⟩ := List.mem_map.1 he
    rw [asset_glueName] at hasset
    exact eq_glue_of_asset hglue (hcontent r' (List.mem_eraseDups.1 hr')) hasset
  rw [asset_glueName] at hlookup
  have hvisited : VirtualId.glue ∈ cut.ids.map Percent.decode := List.mem_map.2 ⟨r, hr, hdecode⟩
  refine ⟨_, _, hfinished content hcontent, ?_, hlookup⟩
  rw [visited_eq, if_pos hvisited]
  exact hglue.known

/-- An asset is still there if what was emitted since under its name is the same. -/
theorem lookup_foldl_add_of_lookup {log : List Emission} {assets : Assets} {name : Text}
    {content : Bytes} (hlookup : assets.lookup name = some content)
    (hsame : ∀ e ∈ log, e.asset = name → e.2 = content) :
    (log.foldl Assets.add assets).lookup name = some content := by
  induction log generalizing assets with
  | nil => exact hlookup
  | cons e log ih =>
    refine ih ?_ fun e' he' => hsame e' (List.mem_cons_of_mem _ he')
    rw [Assets.add, Table.lookup_put]
    split
    · next heq => rw [hsame e List.mem_cons_self (eq_of_beq heq).symm]
    · exact hlookup

/-- Whatever code is finished then, the glue stays what it is. -/
theorem HoldsGlue.renderChunk (h : HoldsGlue glue s) (p : Plugin) (chunk : Text) :
    HoldsGlue glue ((p.renderChunk chunk).run.run s).2 := by
  obtain ⟨hassets, hworld⟩ := p.run_renderChunk_state chunk s
  refine ⟨hworld.glue glue h.known, ?_⟩
  rw [hassets]
  refine lookup_foldl_add_of_lookup h.asset fun e he hasset => ?_
  unfold Plugin.chunkEmissions at he
  split at he
  · cases he
  · exact eq_glue_of_mem_emissions h.known he hasset

/-- A session once codes were finished in it. -/
def renderedAll (p : Plugin) (chunks : List Text) (s : Session) : Session :=
  chunks.foldl (fun s chunk => ((p.renderChunk chunk).run.run s).2) s

theorem HoldsGlue.renderedAll (h : HoldsGlue glue s) (p : Plugin) (chunks : List Text) :
    HoldsGlue glue (renderedAll p chunks s) := by
  induction chunks generalizing s with
  | nil => exact h
  | cons chunk chunks ih => exact ih (h.renderChunk p chunk)

end Bundle

/-! ## §4 Scripts of a server -/

namespace Server

open Reload

variable {plugin : Plugin} {s : ServerState} {path : Text}

/-- A path that is answered by a script in the project, which has these bytes. -/
structure IsScriptAt (plugin : Plugin) (s : ServerState) (path : Text) (content : Bytes) : Prop where
  ordinary : (plugin.servesArtifacts && isArtifact path) = false
  found : ∃ requested p, route? path = some (.file requested) ∧
    (files s).realPath (plugin.projectRoot.child (wantedFile requested)) = .ok p ∧
    isInside plugin.projectRoot p = true ∧ isScript p.name = true ∧ (files s).read p = .ok content

theorem run_respond_plain (h : IsScriptAt plugin s path content)
    (hcode : Utf8.decode? content = some code)
    (habsent : Directive.isPresent (Text.unifyBreaks code) = false) :
    (respond plugin { path }).run s = (.script (Text.unifyBreaks code), s) := by
  obtain ⟨hordinary, requested, p, hroute, hreal, hinside, hscript, hread⟩ := h
  have hfile := FileTree.isFile_of_read hread
  have htext := Host.run_readText_of_decode (h := s.session.host) hread hcode
  rw [run_respond { path } rfl hroute hordinary, run_serveFile_of_not_directory hreal hinside
    (.inl (FileTree.isDirectory_of_isFile hfile)), run_serveAt_script hfile hscript,
    run_serveScript htext, Transform.transform_of_not_present habsent]
  rfl

end Server

/-! ## §5 Scripts of a build -/

namespace Command

open EmbeddedGo.Bundle FileTree

variable {h : Host} {c : Common} {root out : Path} {files before after : List Text} {word file : Text}
  {p : Plugin} {first turned : Progress} {n : Nat} {left : Session}

/-- Nothing comes to the place of a file before its turn, and nothing to that of its output behind it. -/
structure Undisturbed (t : FileTree) (p : Plugin) (out : Path) (before : List Text) (file : Text)
    (after : List Text) (assets : Assets) : Prop where
  input : ¬ turnPlaces p out t before (inputPlace t file)
  outputs : ∀ f ∈ after, outputPlace p out t f ≠ outputPlace p out t file
  assets : ∀ asset ∈ assets, assetPlace out asset.1 ≠ outputPlace p out t file

/-- A turn that does not crash is no failure if its code is bundled as it is. -/
theorem built_of_inert {d d' : Progress} {failed : Bool} (hmode : p.mode = .build) {source : Path}
    (hreads : Reads d.session.host file source code) (hcode : IsInert code)
    (hturn : (buildFile p out file).run.run d = (.ok failed, d')) : failed = false := by
  rw [run_buildFile hreads] at hturn
  cases failed with
  | false => rfl
  | true =>
    obtain ⟨e, hfails, -⟩ := failed_of_turn hturn
    cases (run_bundled_inert hmode hcode source.text d.session).symm.trans hfails

/-- A script of a build that is bundled as it is has a turn that ends well, and its output stands at the
end. -/
theorem Works.entryAt_copy (hw : Works h c root files word p out first n turned left)
    (hunlinked : Unlinked h.files p out files left.assets) (hfiles : files = before ++ file :: after)
    (hundisturbed : Undisturbed h.files p out before file after left.assets)
    (hinput : h.files.entryAt (inputPlace h.files file) = some (.file content))
    (hcode : Utf8.decode? content = some code) (hinert : IsInert (Text.unifyBreaks code)) :
    (∃ d, (buildFile p out file).run.run (reached p out before first) = (.ok false, d)) ∧
      left.host.files.entryAt (outputPlace p out h.files file) = some (.file (unifiedBytes code)) := by
  have hbefore : ∀ f ∈ before, f ∈ files := fun f hf => by simp [hfiles, hf]
  have hchanges := hw.changes_reached hunlinked hbefore
  have hthen : codeAt (reached p out before first).session.host.files (inputPlace h.files file) =
      some (Text.unifyBreaks code) := by
    rw [← codeAt_later hchanges hundisturbed.input hinput, codeAt, hinput]
    simp [hcode]
  obtain ⟨failed, -, -, d, -, hturn, -, -⟩ := hw.turn_of_split hfiles
  have hbuilt : failed = false := by
    have hfile : file ∈ files := by simp [hfiles]
    obtain ⟨code', hreads, hsame, -⟩ := hw.areFiles.turn_of_buildFile
      (hw.begun.since.reached hw.begun.buildRoot out before) hfile hturn
    obtain rfl := Option.some.inj (hthen.symm.trans hsame)
    exact built_of_inert hw.begun.mode hreads hinert hturn
  rw [hbuilt] at hturn
  obtain ⟨code', compiled, output, s, hcode', -, hbundled, -, -, hentry⟩ :=
    hw.of_built hunlinked hfiles hturn
  obtain rfl := Option.some.inj (hthen.symm.trans hcode')
  cases (run_bundled_inert hw.begun.mode hinert _ _).symm.trans hbundled
  exact ⟨⟨d, hturn⟩, hentry hundisturbed.outputs hundisturbed.assets⟩

end Command

/-! ## §6 All ways -/

open EmbeddedGo.Bundle Server Command

/-- A text that is passed on leaves as the bytes of the same text with line feeds, and these are the
bytes of its file exactly if it has no carriage return. So it is with the glue, as it is loaded,
sent and emitted into a bundle, each time anew or from what was read before, and with scripts
without Go, as they are sent, and as they are copied by a build if they have no references. -/
theorem texts_passed (hcode : Utf8.decode? content = some code) :
    (unifiedBytes code = content ↔ '\r' ∉ code) ∧
      (∀ (p : Plugin) (s : Session), GlueFrom p.compiler s content →
        (p.load VirtualId.glue).run.run s =
          (.ok (some (Text.unifyBreaks code)), s.loaded p.compiler)) ∧
      (∀ (plugin : Plugin) (s : ServerState), GlueFrom plugin.compiler s.session content →
        (respond plugin { path := VirtualId.glue }).run s =
          (.script (Text.unifyBreaks code), { s with session := s.session.loaded plugin.compiler })) ∧
      (∀ (p : Plugin) (s : Session) (chunk : Text), p.mode = .build → GlueFrom p.compiler s content →
        (∃ r ∈ references chunk, Percent.decode r = VirtualId.glue) →
        (∀ r ∈ references chunk, ∃ behind,
          StandsFor p.compiler p.buildRoot s (Percent.decode r) behind) →
        ∃ output s', (p.renderChunk chunk).run.run s = (.ok output, s') ∧
          ∀ more, (renderedAll p more s').assets.lookup (glueAsset (Text.unifyBreaks code)) =
            some (unifiedBytes code)) ∧
      (∀ (plugin : Plugin) (s : ServerState) (path : Text), IsScriptAt plugin s path content →
        Directive.isPresent (Text.unifyBreaks code) = false →
        (respond plugin { path }).run s = (.script (Text.unifyBreaks code), s)) ∧
      (∀ (h : Host) (c : Common) (root : Path) (files : List Text) (word : Text) (p : Plugin)
        (out : Path) (first : Progress) (n : Nat) (turned : Progress) (left : Session)
        (before : List Text) (file : Text) (after : List Text),
        Works h c root files word p out first n turned left →
        Unlinked h.files p out files left.assets → files = before ++ file :: after →
        Undisturbed h.files p out before file after left.assets →
        h.files.entryAt (inputPlace h.files file) = some (.file content) →
        IsInert (Text.unifyBreaks code) →
        (∃ d, (buildFile p out file).run.run (reached p out before first) = (.ok false, d)) ∧
          left.host.files.entryAt (outputPlace p out h.files file) =
            some (.file (unifiedBytes code))) := by
  refine ⟨unifiedBytes_eq_iff hcode, fun p s hglue => Plugin.run_load_glue (hglue.glueIs hcode),
    fun plugin s hglue => run_respond_glue (hglue.glueIs hcode), ?_,
    fun plugin s path hscript habsent => run_respond_plain hscript hcode habsent, ?_⟩
  · intro p s chunk hmode hglue hchunk hbehind
    obtain ⟨output, s', hrun, hholds⟩ :
        ∃ output s', (p.renderChunk chunk).run.run s = (.ok output, s') ∧
          HoldsGlue (Text.unifyBreaks code) s' := by
      rw [Plugin.renderChunk, hmode]
      exact holdsGlue_of_finalize (hglue.glueIs hcode) hchunk hbehind
    exact ⟨output, s', hrun, fun more => (hholds.renderedAll p more).asset⟩
  · intro h c root files word p out first n turned left before file after hw hunlinked hfiles
      hundisturbed hinput hinert
    exact hw.entryAt_copy hunlinked hfiles hundisturbed hinput hcode hinert

/-! ## §7 A carriage return -/

/-- Glue and a script in a project, both of one line that a carriage return ends. -/
def returning : List (Place × Item) :=
  [topFile "a.js" "A\r", (["g".toList], ⟨.directory, 0⟩),
    (["g".toList, "targets".toList], ⟨.directory, 0⟩),
    (["g".toList, "targets".toList, VirtualId.glueName], ⟨.file (Utf8.encode "A\r"), 0⟩)]

/-- A session there. -/
def returningSession : Session := { host := desk returning [] }

/-- A plugin for a server there. -/
def returningPlugin : Plugin := { Plugin.toolPlugin with mode := .serve }

theorem glueFile_returning :
    GlueFile Plugin.toolPlugin.compiler returningSession (Utf8.encode "A\r") where
  unread := rfl
  found := ⟨Path.ofText "/g", by cbv, by cbv⟩

theorem isScriptAt_returning :
    IsScriptAt returningPlugin { session := returningSession } "/a.js" (Utf8.encode "A\r") where
  ordinary := by decide
  found := ⟨"a.js", Path.ofNames ["a.js".toList], by rfl, by cbv, by decide, by decide, by cbv⟩

/-- A code that refers to the glue. -/
def glueChunk : Text := '"' :: (VirtualId.glue ++ ['"'])

theorem references_glueChunk : references glueChunk = [VirtualId.glue] := by cbv

theorem isDesk_returning : IsDesk returning ["a.js"] "d" (Path.ofNames ["d".toList]) where
  load := load_desk _
  root := root_desk _
  create := create_desk _
  started := started_desk _
  leads := leads_desk _
  isFile := by
    simp only [List.forall_mem_cons]
    exact ⟨by cbv, by simp⟩
  shown := by decide

theorem isInert_returning : IsInert "A\n" := ⟨by cbv, by cbv⟩

theorem succeeds_returning :
    ∃ first last, Succeeds (desk returning []) deskCommon (Path.ofNames []) ["a.js"] "d"
      Plugin.toolPlugin (Path.ofNames ["d".toList]) first last ∧ last.session.assets = [] := by
  obtain ⟨shown, hbegins⟩ := isDesk_returning.begins
  have hread : (desk returning versionRuns).files.read (Path.ofNames ["a.js".toList]) =
      .ok (Utf8.encode "A\r") := by cbv
  have hreads : Reads (desk returning versionRuns) "a.js" (Path.ofNames ["a.js".toList]) "A\n" :=
    ⟨by cbv, Host.run_readText_of_decode hread (Utf8.decode?_encode _)⟩
  have hwrites : (writeOutput (outputPath Plugin.toolPlugin (Path.ofNames ["d".toList])
      (Path.ofNames ["a.js".toList])) "A\n").run.run (desk returning versionRuns) =
        (.ok (), desk (returning ++ [bundleItem "a.js" (.file (Utf8.encode "A\n"))]) versionRuns) := by
    cbv
  have htagless : ∀ n ∈ (relativeTo Plugin.toolPlugin.projectRoot
      (Path.ofNames ["a.js".toList])).names, Tagless n := by decide
  obtain ⟨shown', hturn⟩ := run_buildFile_inert (p := Plugin.toolPlugin) rfl isInert_returning
    (d := { session := { host := desk returning versionRuns }, shown }) hreads hwrites htagless
  have hturns : (buildFiles Plugin.toolPlugin (Path.ofNames ["d".toList]) ["a.js"]).run.run
      { session := { host := desk returning versionRuns }, shown } = (.ok 0, _) :=
    run_buildFiles_cons hturn rfl
  obtain ⟨shown'', hbuild⟩ := run_build hbegins.begins hturns
    (tagless_taskFor Plugin.toolPlugin htagless) rfl (List.forall_mem_nil _)
  exact ⟨_, _, { toBegins := hbegins, ends := hbuild }, rfl⟩

theorem unlinked_returning :
    Unlinked (desk returning []).files Plugin.toolPlugin (Path.ofNames ["d".toList]) ["a.js"] [] := by
  have hall : ∀ q, (desk returning []).files.IsStraight q :=
    FileTree.isStraight_of_items (by simp [desk, returning, topFile])
  exact ⟨fun _ _ => hall _, fun _ _ _ _ => hall _, fun _ _ => hall _⟩

theorem undisturbed_returning :
    Undisturbed (desk returning []).files Plugin.toolPlugin (Path.ofNames ["d".toList]) [] "a.js" []
      [] where
  input := fun ⟨_, hf, _⟩ => nomatch hf
  outputs := fun _ hf => nomatch hf
  assets := fun _ ha => nomatch ha

/-- On all ways the carriage return becomes a line feed. -/
theorem texts_passed_returning :
    Utf8.decode? (Utf8.encode "A\r") = some "A\r".toList ∧
      unifiedBytes "A\r" ≠ Utf8.encode "A\r" ∧
      (Plugin.toolPlugin.load VirtualId.glue).run.run returningSession =
        (.ok (some "A\n".toList), returningSession.loaded Plugin.toolPlugin.compiler) ∧
      ((respond returningPlugin { path := VirtualId.glue }).run { session := returningSession }).1 =
        .script "A\n" ∧
      (∃ output s',
        (Plugin.toolPlugin.renderChunk glueChunk).run.run returningSession = (.ok output, s') ∧
        s'.assets.lookup (glueAsset "A\n") = some (Utf8.encode "A\n")) ∧
      ((respond returningPlugin { path := "/a.js" }).run { session := returningSession }).1 =
        .script "A\n" ∧
      ∃ first last, Succeeds (desk returning []) deskCommon (Path.ofNames []) ["a.js"] "d"
          Plugin.toolPlugin (Path.ofNames ["d".toList]) first last ∧
        last.session.host.files.entryAt ["d".toList, "a.js".toList] =
          some (.file (Utf8.encode "A\n")) := by
  have hcode := Utf8.decode?_encode "A\r"
  obtain ⟨hbytes, hload, hroute, hchunk, hscript, hcopy⟩ := texts_passed hcode
  have hglue : GlueFrom Plugin.toolPlugin.compiler returningSession (Utf8.encode "A\r") :=
    ⟨_, glueFile_returning, .inl rfl⟩
  have hrefers : ∀ r ∈ references glueChunk, Percent.decode r = VirtualId.glue := by
    rw [references_glueChunk]
    simp only [List.forall_mem_cons]
    exact ⟨by cbv, by simp⟩
  obtain ⟨first, last, hs, hassets⟩ := succeeds_returning
  obtain ⟨turned, hw⟩ := hs.works
  refine ⟨hcode, fun h => absurd (hbytes.1 h) (by decide), hload _ _ hglue, ?_, ?_, ?_, first, last, hs,
    ?_⟩
  · rw [hroute returningPlugin { session := returningSession } hglue]
    rfl
  · have hin : VirtualId.glue ∈ references glueChunk := by
      rw [references_glueChunk]
      exact List.mem_cons_self
    have hbehind : StandsFor Plugin.toolPlugin.compiler Plugin.toolPlugin.buildRoot returningSession
        VirtualId.glue (Utf8.encode "A\n") := by
      rw [StandsFor, if_pos rfl]
      exact ⟨_, hglue.glueIs hcode, rfl⟩
    obtain ⟨output, s', hrun, hassets⟩ := hchunk _ _ glueChunk rfl hglue
      ⟨_, hin, hrefers _ hin⟩ fun r hr => (hrefers r hr).symm ▸ ⟨_, hbehind⟩
    exact ⟨output, s', hrun, hassets []⟩
  · rw [hscript _ _ _ isScriptAt_returning (by cbv)]
    rfl
  · have hplace : inputPlace (desk returning []).files "a.js" = ["a.js".toList] := by cbv
    have houtput : outputPlace Plugin.toolPlugin (Path.ofNames ["d".toList]) (desk returning []).files
        "a.js" = ["d".toList, "a.js".toList] := by
      rw [outputPlace, hplace]
      decide
    obtain ⟨-, hentry⟩ := hcopy _ _ _ _ _ _ _ _ _ _ _ [] "a.js" [] hw (hassets ▸ unlinked_returning) rfl
      (hassets ▸ undisturbed_returning) (by rw [hplace]; rfl) isInert_returning
    rw [← houtput]
    exact hentry

/-- The glue that is loaded does not have the bytes of its file, which the compiler names. -/
theorem load_returning :
    (∃ root, (Plugin.toolPlugin.compiler.root.run.run returningSession.host).1 = .ok root ∧
      returningSession.host.files.read (gluePath root) = .ok (Utf8.encode "A\r")) ∧
    ∃ glue s, (Plugin.toolPlugin.load VirtualId.glue).run.run returningSession = (.ok (some glue), s) ∧
      Utf8.encode glue ≠ Utf8.encode "A\r" := by
  have hcode := Utf8.decode?_encode "A\r"
  refine ⟨glueFile_returning.found, _, _,
    Plugin.run_load_glue (glueFile_returning.glueIs hcode), fun h => ?_⟩
  exact absurd ((unifiedBytes_eq_iff hcode).1 h) (by decide)

end EmbeddedGo
