/-
EmbeddedGo.Proofs.BuildOutputs — what a build that ends well leaves in the directory of the bundle.

Every file had its turn, and what its turn wrote stands in its output as long as nothing comes to the
same place later: the output of a later file, or an asset. Two inputs have one output if they are called
the same but for their endings, so that does happen (`build_shares_output`).

What is written through a link stands elsewhere. So no link may stand in the place of an output, an
asset or a file of a slot, or on the way to one.

  §1 builds that end well
  §2 one turn among others
  §3 the end of the build
  §4 outputs and inputs
-/
import EmbeddedGo.Proofs.BuildRuns

namespace EmbeddedGo.Command

open EmbeddedGo.Bundle FileTree

/-! ## §1 Builds -/

/-- Places where no link stands in the way of a build. -/
structure Unlinked (t : FileTree) (p : Plugin) (out : Path) (files : List Text) (assets : Assets) :
    Prop where
  outputs : ∀ file ∈ files, t.IsStraight (outputPlace p out t file)
  slots : ∀ file ∈ files, ∀ name ∈ Transform.builtNames, t.IsStraight (slotPlace p t file name)
  assets : ∀ asset ∈ assets, t.IsStraight (assetPlace out asset.1)

/-- The places that writing assets can change. -/
def assetPlaces (out : Path) (assets : Assets) (q : Place) : Prop :=
  ∃ asset ∈ assets, q = assetPlace out asset.1

/-- The places that a build can change. -/
def buildPlaces (p : Plugin) (out : Path) (t : FileTree) (files : List Text) (assets : Assets)
    (q : Place) : Prop :=
  turnPlaces p out t files q ∨ assetPlaces out assets q

/-- The code that stands at a place. -/
def codeAt (t : FileTree) (place : Place) : Option Text :=
  match t.entryAt place with
  | some (.file content) => (Utf8.decode? content).map Text.unifyBreaks
  | _ => none

variable {h : Host} {c : Common} {root out : Path} {files before after : List Text} {word file : Text}
  {p : Plugin} {first last turned : Progress} {n : Nat} {left : Session} {assets : Assets}

theorem Unlinked.straight (hunlinked : Unlinked h.files p out files assets) :
    ∀ q, buildPlaces p out h.files files assets q → h.files.IsStraight q := by
  rintro q (⟨file, hfile, rfl | ⟨name, hname, rfl⟩⟩ | ⟨asset, hasset, rfl⟩)
  · exact hunlinked.outputs file hfile
  · exact hunlinked.slots file hfile name hname
  · exact hunlinked.assets asset hasset

theorem turnPlaces_mono {t : FileTree} {chosen : List Text}
    (hchosen : ∀ file ∈ chosen, file ∈ files)
    {q : Place} (hq : turnPlaces p out t chosen q) : turnPlaces p out t files q := by
  obtain ⟨file, hfile, hq⟩ := hq
  exact ⟨file, hchosen file hfile, hq⟩

theorem AreFiles.entryAt {t : FileTree} (hfiles : AreFiles t files) (hfile : file ∈ files) :
    ∃ content, t.entryAt (inputPlace t file) = some (.file content) := by
  obtain ⟨place, content, m, hlocate⟩ := isFile_eq_true_iff.1 (hfiles.isFile file hfile)
  refine ⟨content, ?_⟩
  rw [inputPlace, hlocate]
  exact entryAt_of_get? (locate_found hlocate).symm

/-! ## §2 One turn -/

/-- The code that a turn reads stands at the place of its file. -/
theorem codeAt_of_reads {source : Path} {code : Text} (hsource : source.IsResolved)
    (hstraight : h.files.IsStraight source.names) (hreads : Reads h file source code) :
    codeAt h.files source.names = some code := by
  have hread := hreads.read
  rw [Host.run_readText] at hread
  split at hread
  · cases hread
  · next content hcontent =>
    obtain ⟨place, m, hl⟩ := read_eq_ok_iff.1 hcontent
    have hfile : h.files.entryAt place = some (.file content) := entryAt_of_get? (locate_found hl).symm
    rw [locate_straight hsource hstraight hl] at hfile
    split at hread
    · next s hs =>
      cases hread
      rw [codeAt, hfile]
      simp [hs]
    · cases hread

/-- A file that is written through a straight path stands at its place. -/
theorem entryAt_of_writeText {q : Path} (hq : q.IsResolved) {h h' : Host}
    (hstraight : h.files.IsStraight q.names) {s : Text}
    (hrun : (Host.writeText q s).run.run h = (.ok (), h')) :
    h'.files.entryAt q.names = some (.file (Utf8.encode s)) := by
  rw [Host.writeText, Host.writeBytes, Host.run_change] at hrun
  split at hrun
  · next t ht =>
    cases hrun
    obtain ⟨hcan, rfl⟩ := eq_putFile_of_write hq hstraight ht
    show (h.files.putFile _ _).entryAt q.names = _
    rw [entryAt_putFile (ne_nil_of_canHold hcan), if_pos rfl]
  · cases hrun

/-- What stood in a file stands there later. -/
theorem codeAt_later {places : Place → Prop} {t t' : FileTree} (hchanges : t.ChangesAt places t')
    {place : Place} (hplace : ¬ places place) {content : Bytes}
    (hfile : t.entryAt place = some (.file content)) : codeAt t place = codeAt t' place := by
  rw [codeAt, codeAt, hfile, hchanges.entryAt_eq hplace hfile]

/-- A turn that ends has read what stands at the place of its file. -/
theorem AreFiles.turn_of_buildFile (hfiles : AreFiles h.files files) {d d' : Progress}
    (hsince : Since h d) (hfile : file ∈ files) {failed : Bool}
    (hrun : (buildFile p out file).run.run d = (.ok failed, d')) :
    ∃ code, Reads d.session.host file (Path.ofNames (inputPlace h.files file)) code ∧
      codeAt d.session.host.files (inputPlace h.files file) = some code ∧
      (turn p out (Path.ofNames (inputPlace h.files file)) code).run.run
        { d with task := taskFor p (Path.ofNames (inputPlace h.files file)) } = (.ok failed, d') := by
  obtain ⟨source, code, hreads, hturn⟩ := reads_of_buildFile hrun
  obtain ⟨hreal, hinput, hresolved⟩ := hfiles.realPath_later hsince hfile
  obtain rfl := Except.ok.inj (hreads.real.symm.trans hreal)
  exact ⟨code, hreads, codeAt_of_reads hresolved hinput hreads, hturn⟩

/-- The turn of a file among those of others: what it read and what it gave stands in its output. -/
theorem entryAt_of_turn (hbegun : Begun h p out first) (hfiles : AreFiles h.files files)
    {places : Place → Prop} (hstraight : ∀ q, places q → h.files.IsStraight q)
    (hplaces : ∀ q, turnPlaces p out h.files files q → places q)
    (hbefore : ∀ f ∈ before, f ∈ files) (hfile : file ∈ files) {d : Progress}
    (hturn : (buildFile p out file).run.run (reached p out before first) = (.ok false, d)) :
    ∃ code compiled output s,
      codeAt (reached p out before first).session.host.files (inputPlace h.files file) = some code ∧
      Reads (reached p out before first).session.host file
        (Path.ofNames (inputPlace h.files file)) code ∧
      (bundled p code (moduleId h.files file)).run.run (reached p out before first).session =
        (.ok (compiled, output), s) ∧
      d.session.glue = s.glue ∧ d.session.assets = s.assets ∧
      h.Spares places d.session.host ∧
      d.session.host.files.entryAt (outputPlace p out h.files file) =
        some (.file (Utf8.encode output)) := by
  have hsince := hbegun.since.reached hbegun.buildRoot out before
  obtain ⟨code, hreads, hcode, hrun⟩ := hfiles.turn_of_buildFile hsince hfile hturn
  obtain ⟨-, -, hresolved⟩ := hfiles.realPath_later hsince hfile
  obtain ⟨compiled, output, s, host, host', hbundled, hmake, hwrite, hd⟩ := built_of_turn hrun
  have hbundle : (bundled p code (moduleId h.files file)).run.run (reached p out before first).session =
      (.ok (compiled, output), s) := hbundled
  have hreached : h.Spares places (reached p out before first).session.host := by
    have hturns : OnHost (Host.Spares (turnPlaces p out h.files before)) first _ :=
      spares_buildFiles hbegun.buildRoot hbegun.out hfiles hbegun.since hbefore
    exact Lasting.trans (hbegun.spares places)
      (hturns.mono fun q hq => hplaces q (turnPlaces_mono hbefore hq))
  -- each step of the turn spares what the build spares
  have hhost : h.Spares places host := by
    have htransform : (reached p out before first).session.host.Spares places _ :=
      Host.spares_transform hbegun.buildRoot code (moduleId h.files file)
        (fun name hname => hplaces _ ⟨file, hfile, .inr ⟨name, hname, rfl⟩⟩) _
    have hrendered := (run_bundled_state p code (moduleId h.files file)
      (reached p out before first).session).2.files
    rw [hbundle] at hrendered
    exact Lasting.trans hreached (Lasting.trans htransform
      (Lasting.trans (Host.SameFiles.spares hrendered) ((Host.spares_makePath _).of_run hmake)))
  have houtput := isResolved_outputPath (p := p) hbegun.out hresolved
  have hplace : places (outputPlace p out h.files file) := hplaces _ ⟨file, hfile, .inl rfl⟩
  have hwriting : host.Spares places host' :=
    (Host.spares_writeBytes houtput hplace (Utf8.encode output)).of_run hwrite
  have hentry := entryAt_of_writeText houtput
    ((hstraight _ hplace).of_linksOf (hhost hstraight).links) hwrite
  refine ⟨code, compiled, output, s, hcode, hreads, hbundle, ?_⟩
  rw [hd]
  exact ⟨rfl, rfl, Lasting.trans hhost hwriting, hentry⟩

/-! ## §3 The end -/

namespace Works

variable (hw : Works h c root files word p out first n turned left)

include hw in
/-- The assets at the end are those that were emitted, and the glue was read in one of the turns. -/
theorem assets_eq :
    left.assets = (buildEmissions p out files first).foldl Assets.add [] ∧
      Assets.IsTidy left.assets ∧
      ∀ glue, left.glue = some glue → GlueRead p out files first glue := by
  obtain ⟨written, host, -, hleft⟩ := hw.writes
  have hassets := assets_buildFiles p out files first
  rw [hw.turns, hw.begun.noAssets] at hassets
  rw [hleft]
  refine ⟨hassets.1, ?_, fun glue hglue => ?_⟩
  · show Assets.IsTidy turned.session.assets
    rw [hassets.1]
    exact Assets.isTidy_nil.foldl_add _
  · refine (hassets.2.2 glue hglue).resolve_left fun hfirst => ?_
    rw [hw.begun.noGlue] at hfirst
    cases hfirst

include hw in
/-- The turns change the places of their files, and then the assets are written. -/
theorem parts :
    h.Spares (turnPlaces p out h.files files) turned.session.host ∧
      turned.session.host.Spares (assetPlaces out left.assets) left.host := by
  obtain ⟨written, host, hwrite, hleft⟩ := hw.writes
  have htidy := hw.assets_eq.2.1
  rw [hleft] at htidy ⊢
  have hturns : first.session.host.Spares (turnPlaces p out h.files files)
      ((buildFiles p out files).run.run first).2.session.host :=
    spares_buildFiles hw.begun.buildRoot hw.begun.out hw.areFiles hw.begun.since fun f hf => hf
  rw [hw.turns] at hturns
  have hassets : Stays (Host.Spares (assetPlaces out turned.session.assets))
      (Plugin.writeAssets out turned.session.assets) :=
    Plugin.spares_writeAssets hw.begun.out htidy.names fun asset hasset => ⟨asset, hasset, rfl⟩
  exact ⟨Lasting.trans (hw.begun.spares _) hturns, hassets.of_run hwrite⟩

variable (hunlinked : Unlinked h.files p out files left.assets)

include hw hunlinked in
/-- Besides the places of a build nothing is changed by it. -/
theorem changes :
    h.files.ChangesAt (buildPlaces p out h.files files left.assets) left.host.files := by
  obtain ⟨hturns, hassets⟩ := hw.parts
  exact Lasting.trans (hturns.mono fun _ => .inl) (hassets.mono fun _ => .inr) hunlinked.straight

include hw hunlinked in
/-- What the turns of the first files have changed. -/
theorem changes_reached (hbefore : ∀ f ∈ before, f ∈ files) :
    h.files.ChangesAt (turnPlaces p out h.files before)
      (reached p out before first).session.host.files := by
  have hturns : OnHost (Host.Spares (turnPlaces p out h.files before)) first
      (reached p out before first) :=
    spares_buildFiles hw.begun.buildRoot hw.begun.out hw.areFiles hw.begun.since hbefore
  exact Lasting.trans (hw.begun.spares _) hturns
    fun q hq => hunlinked.straight q (.inl (turnPlaces_mono hbefore hq))

include hw hunlinked in
/-- Every asset stands in its file. -/
theorem entryAt_asset {name : Text} {content : Bytes} (hmem : (name, content) ∈ left.assets) :
    left.host.files.entryAt (assetPlace out name) = some (.file content) := by
  obtain ⟨hturns, -⟩ := hw.parts
  obtain ⟨written, host, hwrite, hleft⟩ := hw.writes
  have htidy := hw.assets_eq.2.1
  rw [hleft] at hunlinked htidy hmem ⊢
  have hchanges := hturns fun q hq => hunlinked.straight q (.inl hq)
  exact Plugin.entryAt_writeAssets hw.begun.out htidy
    (fun asset hasset => (hunlinked.assets asset hasset).of_linksOf hchanges.links) hwrite hmem

include hw in
/-- The turn of one of the files, between those of the others. -/
theorem turn_of_split (hfiles : files = before ++ file :: after) :
    ∃ failed k m d, (buildFiles p out before).run.run first = (.ok k, reached p out before first) ∧
      (buildFile p out file).run.run (reached p out before first) = (.ok failed, d) ∧
      (buildFiles p out after).run.run d = (.ok m, turned) ∧
      n = k + if failed then m + 1 else m := by
  have hturns := hw.turns
  rw [hfiles] at hturns
  obtain ⟨k, l, hbefore, hrest, hn⟩ := of_buildFiles_append hturns
  obtain ⟨failed, m, d, hturn, hafter, hl⟩ := of_buildFiles_cons hrest
  exact ⟨failed, k, m, d, hbefore, hturn, hafter, hl ▸ hn⟩

include hw hunlinked in
/-- The turn of a file whose module is built, and its output at the end. -/
theorem of_built (hfiles : files = before ++ file :: after) {d : Progress}
    (hturn : (buildFile p out file).run.run (reached p out before first) = (.ok false, d)) :
    ∃ code compiled output s,
      codeAt (reached p out before first).session.host.files (inputPlace h.files file) = some code ∧
      Reads (reached p out before first).session.host file
        (Path.ofNames (inputPlace h.files file)) code ∧
      (bundled p code (moduleId h.files file)).run.run (reached p out before first).session =
        (.ok (compiled, output), s) ∧
      (∀ glue, s.glue = some glue → left.glue = some glue) ∧
      (∀ e ∈ p.moduleEmissions code (moduleId h.files file) (reached p out before first).session,
        e ∈ buildEmissions p out files first) ∧
      ((∀ f ∈ after, outputPlace p out h.files f ≠ outputPlace p out h.files file) →
        (∀ asset ∈ left.assets, assetPlace out asset.1 ≠ outputPlace p out h.files file) →
        left.host.files.entryAt (outputPlace p out h.files file) =
          some (.file (Utf8.encode output))) := by
  obtain ⟨-, hwritten⟩ := hw.parts
  obtain ⟨written, host, -, rfl⟩ := hw.writes
  obtain ⟨_, k, m, d₁, hbefore, hsame, hafter, -⟩ := hw.turn_of_split hfiles
  cases hturn.symm.trans hsame
  have hin : file ∈ files := by simp [hfiles]
  obtain ⟨code, compiled, output, s, hcode, hreads, hbundled, hglue, hassets, hspares, hentry⟩ :=
    entryAt_of_turn hw.begun hw.areFiles hunlinked.straight (fun _ => .inl)
      (fun f hf => by simp [hfiles, hf]) hin hturn
  have hknown := (assets_buildFiles p out after d).2.1
  rw [hafter] at hknown
  refine ⟨code, compiled, output, s, hcode, hreads, hbundled,
    fun glue hg => hknown.glue glue (hglue.trans hg), fun e he => ?_, fun hdistinct hnone => ?_⟩
  · rw [hfiles]
    refine mem_buildEmissions hbefore ?_
    rwa [turnEmissions_of_reads hreads]
  · -- neither the later turns nor the assets come to the place of the output
    have hlater : Since h d := by
      have hsince := (hw.begun.since.reached hw.begun.buildRoot out before).buildFile
        hw.begun.buildRoot out file
      rwa [hturn] at hsince
    have hturned : d.session.host.Spares (turnPlaces p out h.files after)
        ((buildFiles p out after).run.run d).2.session.host :=
      spares_buildFiles hw.begun.buildRoot hw.begun.out hw.areFiles hlater
        fun f hf => by simp [hfiles, hf]
    rw [hafter] at hturned
    have hchanges : d.session.host.Spares
        (fun q => turnPlaces p out h.files after q ∨ assetPlaces out turned.session.assets q) host :=
      Lasting.trans (hturned.mono fun _ => .inl) (hwritten.mono fun _ => .inr)
    have hlinks := (hspares hunlinked.straight).links
    refine (hchanges fun q hq => (hunlinked.straight q ?_).of_linksOf hlinks).entryAt_eq ?_ hentry
    · exact hq.imp_left (turnPlaces_mono fun f hf => by simp [hfiles, hf])
    · rintro (⟨f, hf, heq | ⟨name, hname, heq⟩⟩ | ⟨asset, hasset, heq⟩)
      · exact hdistinct f hf heq.symm
      · exact outputPlace_ne_slotPlace _ _ _ _ hname heq
      · exact hnone asset hasset heq.symm

/-- Where nothing has failed, every module is built. -/
theorem built_of_zero (hw : Works h c root files word p out first 0 turned left)
    (hfiles : files = before ++ file :: after) :
    ∃ d, (buildFile p out file).run.run (reached p out before first) = (.ok false, d) := by
  obtain ⟨failed, k, m, d, -, hturn, -, hn⟩ := hw.turn_of_split hfiles
  cases failed with
  | false => exact ⟨d, hturn⟩
  | true =>
    simp only [if_true] at hn
    omega

include hw hunlinked in
/-- A file that stands where the build changes nothing stays as it is. -/
theorem entryAt_input (hfile : file ∈ files)
    (hplace : ¬ buildPlaces p out h.files files left.assets (inputPlace h.files file)) :
    ∃ content, h.files.entryAt (inputPlace h.files file) = some (.file content) ∧
      left.host.files.entryAt (inputPlace h.files file) = some (.file content) := by
  obtain ⟨content, hentry⟩ := hw.areFiles.entryAt hfile
  exact ⟨content, hentry, (hw.changes hunlinked).entryAt_eq hplace hentry⟩

include hw hunlinked in
/-- A name that was emitted with an ending stands in its file at the end. -/
theorem entryAt_emission (hcollision : NoCollision (buildEmissions p out files first)) {e : Emission}
    (he : e ∈ buildEmissions p out files first) (hending : HasEnding e.1) :
    left.host.files.entryAt (assetPlace out e.asset) = some (.file e.2) := by
  have hlookup := lookup_of_mem_log hcollision he hending []
  rw [← hw.assets_eq.1] at hlookup
  obtain ⟨before, after, hassets, -⟩ := List.lookup_eq_some_iff.1 hlookup
  exact hw.entryAt_asset hunlinked (by rw [hassets]; simp)

end Works

/-! ## §4 Outputs and inputs -/

/-- Two inputs have one output exactly if they are called the same but for their endings. An output
holds what its turn gave if it is not the output of a later input and no asset comes to its place. And
an input keeps its contents unless it stands in the place of an output, an asset or a file of a slot. -/
theorem build_outputs (hs : Succeeds h c root files word p out first last)
    (hunlinked : Unlinked h.files p out files last.session.assets) :
    (∀ file ∈ files, ∀ file' ∈ files,
      (outputPlace p out h.files file = outputPlace p out h.files file' ↔
        (relativeTo p.projectRoot (Path.ofNames (inputPlace h.files file))).withEnding [] =
          (relativeTo p.projectRoot (Path.ofNames (inputPlace h.files file'))).withEnding [])) ∧
      (∀ before file after, files = before ++ file :: after →
        ∃ code compiled output s,
          codeAt (reached p out before first).session.host.files (inputPlace h.files file) =
            some code ∧
          (bundled p code (moduleId h.files file)).run.run (reached p out before first).session =
            (.ok (compiled, output), s) ∧
          ((∀ f ∈ after, outputPlace p out h.files f ≠ outputPlace p out h.files file) →
            (∀ asset ∈ last.session.assets,
              assetPlace out asset.1 ≠ outputPlace p out h.files file) →
            last.session.host.files.entryAt (outputPlace p out h.files file) =
              some (.file (Utf8.encode output)))) ∧
      ∀ file ∈ files,
        ¬ buildPlaces p out h.files files last.session.assets (inputPlace h.files file) →
        ∃ content, h.files.entryAt (inputPlace h.files file) = some (.file content) ∧
          last.session.host.files.entryAt (inputPlace h.files file) = some (.file content) := by
  obtain ⟨turned, hw⟩ := hs.works
  refine ⟨fun file _ file' _ => outputPlace_eq_iff h.files file file',
    fun before file after hfiles => ?_, fun file hfile => hw.entryAt_input hunlinked hfile⟩
  obtain ⟨d, hturn⟩ := hw.built_of_zero hfiles
  obtain ⟨code, compiled, output, s, hcode, -, hbundled, -, -, hentry⟩ :=
    hw.of_built hunlinked hfiles hturn
  exact ⟨code, compiled, output, s, hcode, hbundled, hentry⟩

/-- Two modules. -/
def apart : List (Place × Item) := [topFile "a.js" "A", topFile "b.js" "B"]

theorem isDesk_apart : IsDesk apart ["a.js", "b.js"] "d" (Path.ofNames ["d".toList]) where
  load := load_desk _
  root := root_desk _
  create := create_desk _
  started := started_desk _
  leads := leads_desk _
  isFile := by
    simp only [List.forall_mem_cons]
    exact ⟨by cbv, by cbv, by simp⟩
  shown := by decide

theorem isPair_apart :
    IsPair apart (Path.ofNames ["d".toList]) "a.js" "b.js" (Path.ofNames ["a.js".toList])
      (Path.ofNames ["b.js".toList]) "A" "B"
      (desk (apart ++ [bundleItem "a.js" (.file (Utf8.encode "A"))]) versionRuns)
      (desk (apart ++ [bundleItem "a.js" (.file (Utf8.encode "A")),
        bundleItem "b.js" (.file (Utf8.encode "B"))]) versionRuns) where
  inert := isInert_A
  inert' := isInert_B
  reads := reads_of_read (by cbv) (by cbv) (by cbv)
  writes := by cbv
  reads' := reads_of_read (by cbv) (by cbv) (by cbv)
  writes' := by cbv
  tagless := by decide
  tagless' := by decide

theorem unlinked_apart :
    Unlinked (desk apart []).files Plugin.toolPlugin (Path.ofNames ["d".toList]) ["a.js", "b.js"]
      [] := by
  have hall : ∀ q, (desk apart []).files.IsStraight q :=
    isStraight_of_items (by simp [desk, apart, topFile])
  exact ⟨fun _ _ => hall _, fun _ _ _ _ => hall _, fun _ _ => hall _⟩

/-- Both have an output of their own, and stay as they are. -/
theorem build_outputs_apart :
    ∃ first last,
      Succeeds (desk apart []) deskCommon (Path.ofNames []) ["a.js", "b.js"] "d" Plugin.toolPlugin
        (Path.ofNames ["d".toList]) first last ∧
      outputPlace Plugin.toolPlugin (Path.ofNames ["d".toList]) (desk apart []).files "a.js" ≠
        outputPlace Plugin.toolPlugin (Path.ofNames ["d".toList]) (desk apart []).files "b.js" ∧
      (∃ output, last.session.host.files.entryAt ["d".toList, "b.js".toList] =
        some (.file (Utf8.encode output))) ∧
      last.session.host.files.entryAt ["a.js".toList] = some (.file (Utf8.encode "A")) := by
  obtain ⟨first, last, hs, -, hlast⟩ := IsPair.succeeds isDesk_apart isPair_apart
  have hnone : last.session.assets = [] := by rw [hlast]
  have ha : inputPlace (desk apart []).files "a.js" = ["a.js".toList] := by cbv
  have hb : inputPlace (desk apart []).files "b.js" = ["b.js".toList] := by cbv
  have houtput : outputPlace Plugin.toolPlugin (Path.ofNames ["d".toList]) (desk apart []).files
      "b.js" = ["d".toList, "b.js".toList] := by
    rw [outputPlace, hb]
    decide
  obtain ⟨hsame, hwritten, hkept⟩ := build_outputs hs (hnone ▸ unlinked_apart)
  refine ⟨first, last, hs, fun heq => ?_, ?_, ?_⟩
  · have hnames := (hsame "a.js" (by simp) "b.js" (by simp)).1 heq
    rw [ha, hb] at hnames
    exact absurd hnames (by decide)
  · obtain ⟨code, compiled, output, s, -, -, hentry⟩ := hwritten ["a.js"] "b.js" [] rfl
    rw [houtput] at hentry
    exact ⟨output, hentry (by simp) (by simp [hnone])⟩
  · obtain ⟨content, hbefore, hafter⟩ := hkept "a.js" (by simp) (by
      rw [ha, hnone]
      rintro (⟨file, -, hplace | ⟨name, -, hplace⟩⟩ | ⟨asset, hasset, -⟩)
      · have hlength := congrArg List.length hplace
        rw [outputPlace, (names_outputPath _ _ _).2] at hlength
        simp [Path.ofNames] at hlength
      · have hlength := congrArg List.length hplace
        simp [slotPlace, Transform.Settings.slotFile] at hlength
      · cases hasset)
    rw [ha] at hbefore hafter
    have hsame : Entry.file content = .file (Utf8.encode "A") :=
      Option.some.inj (hbefore.symm.trans rfl)
    rw [hafter, hsame]

/-- Two sources of one script. -/
def sharing : List (Place × Item) := [topFile "a.js" "A", topFile "a.ts" "B"]

theorem isDesk_sharing : IsDesk sharing ["a.js", "a.ts"] "." (Path.ofNames []) where
  load := load_desk _
  root := root_desk _
  create := create_desk _
  started := started_desk _
  leads := by cbv
  isFile := by
    simp only [List.forall_mem_cons]
    exact ⟨by cbv, by cbv, by simp⟩
  shown := by decide

theorem isPair_sharing :
    IsPair sharing (Path.ofNames []) "a.js" "a.ts" (Path.ofNames ["a.js".toList])
      (Path.ofNames ["a.ts".toList]) "A" "B" (desk sharing versionRuns)
      (desk [topFile "a.js" "B", topFile "a.ts" "B"] versionRuns) where
  inert := isInert_A
  inert' := isInert_B
  reads := reads_of_read (by cbv) (by cbv) (by cbv)
  writes := by cbv
  reads' := reads_of_read (by cbv) (by cbv) (by cbv)
  writes' := by cbv
  tagless := by decide
  tagless' := by decide

/-- Two inputs can have one output, and an input can be one: built into their own directory, the
second of two sources takes the place of the first. -/
theorem build_shares_output :
    ∃ first last,
      Succeeds (desk sharing []) deskCommon (Path.ofNames []) ["a.js", "a.ts"] "." Plugin.toolPlugin
        (Path.ofNames []) first last ∧
      inputPlace (desk sharing []).files "a.js" ≠ inputPlace (desk sharing []).files "a.ts" ∧
      outputPlace Plugin.toolPlugin (Path.ofNames []) (desk sharing []).files "a.js" =
        outputPlace Plugin.toolPlugin (Path.ofNames []) (desk sharing []).files "a.ts" ∧
      (desk sharing []).files.entryAt (inputPlace (desk sharing []).files "a.js") =
        some (.file (Utf8.encode "A")) ∧
      last.session.host.files.entryAt (inputPlace (desk sharing []).files "a.js") =
        some (.file (Utf8.encode "B")) := by
  obtain ⟨first, last, hs, -, hlast⟩ := IsPair.succeeds isDesk_sharing isPair_sharing
  have hjs : inputPlace (desk sharing []).files "a.js" = ["a.js".toList] := by cbv
  have hts : inputPlace (desk sharing []).files "a.ts" = ["a.ts".toList] := by cbv
  refine ⟨first, last, hs, ?_, ?_, ?_, ?_⟩
  · rw [hjs, hts]
    decide
  · rw [outputPlace, outputPlace, hjs, hts]
    decide
  · rw [hjs]
    rfl
  · rw [hjs, hlast]
    rfl

end EmbeddedGo.Command
