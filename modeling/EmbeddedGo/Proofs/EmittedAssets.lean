/-
EmbeddedGo.Proofs.EmittedAssets — what a sequence of emissions leaves in the table of assets, and in the
directory of assets when they are written.

The name of an asset keeps the stem and the ending of the name that it is emitted under, with a
digest between the two. Behind the last hyphen there is the digest and the ending, and no digest
holds a dot; so names whose endings hold no hyphen can be read back (`assetFile_inj`). Names of glue
and of binaries are such names, and no others come up in a bundle
(`isArtifactName_of_mem_emissions`). So as long as no digests collide nothing that was emitted is
lost to what comes after it (`emitEach_assets`).

Where the assets are written, each of them becomes a file directly in one directory. Links may lead
to that directory, but none may stand in the place of an asset: writing follows it to another asset
(`emitEach_assets_linked`).

  §1 the names of assets
  §2 the names of glue and of binaries
  §3 sequences of emissions
  §4 directories behind paths
  §5 assets as files
  §6 all of it, and an asset that is a link
-/
import EmbeddedGo.Proofs.Emission
import EmbeddedGo.Proofs.SlotNames

namespace EmbeddedGo

/-! ## §1 Names -/

namespace Bundle

variable {name name' : Text} {content content' : Bytes}

/-- An ending in which nothing looks like the separator of a digest. -/
def HasPlainEnding (name : Text) : Prop := '-' ∉ (Path.ofText name).ending

/-- Up to the first dot behind a digest there is the digest. -/
theorem takeWhile_digest_ending (name : Text) (content : Bytes) :
    (contentDigest content ++ (Path.ofText name).ending).takeWhile (· ≠ '.') =
      contentDigest content := by
  have hdigest : ∀ c ∈ contentDigest content, decide (c ≠ '.') = true := fun c hc =>
    decide_eq_true fun h => not_mem_contentDigest (by decide) (h ▸ hc)
  rw [List.takeWhile_append_of_pos hdigest]
  rcases Path.splitName_cases (Path.ofText name).name with hnone | ⟨e, he, -⟩
  · rw [show (Path.ofText name).ending = [] from hnone]
    simp
  · rw [show (Path.ofText name).ending = '.' :: e from he]
    simp

/-- An asset tells the name and the digest that it was made of. -/
theorem assetFile_inj (hname : HasPlainEnding name) (hname' : HasPlainEnding name')
    (h : assetFile name content = assetFile name' content') :
    (Path.ofText name).name = (Path.ofText name').name ∧
      contentDigest content = contentDigest content' := by
  have hplain : ∀ {name content}, HasPlainEnding name →
      '-' ∉ contentDigest content ++ (Path.ofText name).ending := fun h => by
    simpa using ⟨not_mem_contentDigest (by decide), h⟩
  obtain ⟨hstem, htail⟩ := Text.append_sep_inj (hplain hname) (hplain hname') h
  have hdigest := congrArg (List.takeWhile (· ≠ '.')) htail
  rw [takeWhile_digest_ending, takeWhile_digest_ending] at hdigest
  rw [hdigest] at htail
  have hending := List.append_cancel_left htail
  refine ⟨?_, hdigest⟩
  rw [← Path.splitName_append (Path.ofText name).name,
    ← Path.splitName_append (Path.ofText name').name]
  exact congrArg₂ (· ++ ·) hstem hending

theorem assetFile_congr (hname : (Path.ofText name).name = (Path.ofText name').name) :
    assetFile name content = assetFile name' content := by
  rw [assetFile, assetFile, Path.stem, Path.stem, Path.ending, Path.ending, hname]

/-! ## §2 Glue and binaries -/

/-- The names of glue and of binaries, in any directory. -/
def IsArtifactName (name : Text) : Prop :=
  (Path.ofText name).name = VirtualId.glueName ∨ VirtualId.wasmEnding <:+ (Path.ofText name).name

instance (name : Text) : Decidable (IsArtifactName name) :=
  inferInstanceAs (Decidable (_ ∨ _))

theorem IsArtifactName.hasPlainEnding (h : IsArtifactName name) : HasPlainEnding name := by
  rw [HasPlainEnding]
  rcases Path.splitName_cases (Path.ofText name).name with hnone | ⟨e, he, hdot⟩
  · rw [show (Path.ofText name).ending = [] from hnone]
    simp
  · have hwhole := Path.splitName_append (Path.ofText name).name
    rw [he] at hwhole
    rw [show (Path.ofText name).ending = '.' :: e from he]
    -- behind the last dot of the name stands the ending
    rcases h with hglue | ⟨before, hbefore⟩
    · rw [hglue, show VirtualId.glueName = "wasm_exec".toList ++ '.' :: "js".toList by decide] at hwhole
      obtain ⟨-, rfl⟩ := Text.append_sep_inj hdot (by decide) hwhole
      decide
    · rw [← hbefore, show VirtualId.wasmEnding = '.' :: "wasm".toList by decide] at hwhole
      obtain ⟨-, rfl⟩ := Text.append_sep_inj hdot (by decide) hwhole
      decide

end Bundle

namespace Text

/-- What a text ends in without a separator stands behind each separator. -/
theorem suffix_of_append_cons {sep : Char} {w a b : Text} (hw : sep ∉ w)
    (h : w <:+ a ++ sep :: b) : w <:+ b := by
  rcases List.suffix_or_suffix_of_suffix h (List.suffix_append a (sep :: b)) with hin | hin
  · exact (List.suffix_cons_iff.1 hin).resolve_left fun heq => hw (heq ▸ List.mem_cons_self)
  · exact absurd (hin.subset List.mem_cons_self) hw

/-- What a text ends in without a separator the last piece of it ends in. -/
theorem suffix_getLast_splitOn {sep : Char} {w : Text} (hw : sep ∉ w) (s : Text) (h : w <:+ s) :
    ∃ init last, splitOn sep s = init ++ [last] ∧ w <:+ last := by
  by_cases hsep : sep ∈ s
  · obtain ⟨a, b, rfl, ha⟩ := List.eq_append_cons_of_mem hsep
    obtain ⟨init, last, hsplit, hlast⟩ := suffix_getLast_splitOn hw b (suffix_of_append_cons hw h)
    exact ⟨a :: init, last, by rw [splitOn_append_cons ha, hsplit, List.cons_append], hlast⟩
  · exact ⟨[], s, splitOn_of_not_mem hsep, h⟩
  termination_by s.length
  decreasing_by
    subst_vars
    simp
    omega

end Text

namespace Bundle

open VirtualId

theorem wasmEnding_suffix_name {s : Text} (h : wasmEnding <:+ s) :
    wasmEnding <:+ (Path.ofText s).name := by
  obtain ⟨init, last, hsplit, hlast⟩ :=
    Text.suffix_getLast_splitOn (show '/' ∉ wasmEnding by decide) s h
  have hname : Path.isName last = true := by
    obtain ⟨before, rfl⟩ := hlast
    cases before with
    | nil => decide
    | cons c before => simp [Path.isName, wasmEnding]
  rw [Path.name, Path.ofText, hsplit, List.filter_append, List.filter_cons, if_pos hname]
  simpa using hlast

/-- The name behind the slot in the id of an artifact is that of a binary. -/
theorem wasmEnding_suffix_fileName {buildRoot p : Path} {id : Text}
    (h : resolve buildRoot id = some (.file p)) : wasmEnding <:+ (Path.ofText (fileName id)).name := by
  obtain ⟨s, hs, hresolve⟩ := Option.bind_eq_some_iff.1 h
  unfold resolveName at hresolve
  split at hresolve
  · cases hresolve
  split at hresolve
  · next hcond =>
    rw [Bool.and_eq_true, Text.endsWith_iff] at hcond
    obtain ⟨htwo, hend⟩ := hcond
    have hslash : '/' ∈ s := by
      by_contra hnone
      rw [Path.ofText_of_not_mem hnone] at htwo
      split at htwo
      · simp [hasTwoParts, Path.isAbsolute] at htwo
      · simp [hasTwoParts, Path.isAbsolute] at htwo
    obtain ⟨slot, file, rfl, hslot⟩ := List.eq_append_cons_of_mem hslash
    have hfile : fileName id = file := by
      have hall : ∀ c ∈ slot, decide (c ≠ '/') = true := fun c hc =>
        decide_eq_true fun h => hslot (h ▸ hc)
      rw [fileName, hs, Option.getD_some, List.dropWhile_append_of_pos hall]
      simp
    rw [hfile]
    exact wasmEnding_suffix_name (Text.suffix_of_append_cons (by decide) hend)
  · cases hresolve

theorem isArtifactName_fileName {buildRoot p : Path} {id : Text}
    (h : resolve buildRoot id = some (.file p)) : IsArtifactName (fileName id) :=
  .inr (wasmEnding_suffix_fileName h)

variable {c : Compiler} {buildRoot : Path}

theorem isArtifactName_of_behind {id : Text} {s s' : Session} {content : Bytes}
    (h : (behind c buildRoot id).run.run s = (.ok content, s')) : IsArtifactName (emittedName id) := by
  rw [emittedName]
  split
  · decide
  · next hid =>
    rw [behind, if_neg hid, Session.run_act] at h
    rcases hread : (Session.readArtifact buildRoot id).run.run s.host with ⟨e | bytes, host⟩
    · rw [hread] at h
      cases h
    · obtain ⟨p, hresolve, -⟩ := Session.of_run_readArtifact hread
      exact isArtifactName_fileName hresolve

/-- All that is emitted for a code is called like glue or like a binary. -/
theorem isArtifactName_of_mem_emissions {references : List Text} {s : Session} {e : Emission}
    (h : e ∈ emissions c buildRoot references s) : IsArtifactName e.1 := by
  induction references generalizing s with
  | nil => cases h
  | cons reference rest ih =>
    rw [emissions] at h
    rcases hrun : (behind c buildRoot (Percent.decode reference)).run.run s with ⟨e' | content, s'⟩
    · rw [hrun] at h
      cases h
    · rw [hrun] at h
      rcases List.mem_cons.1 h with rfl | hin
      · exact isArtifactName_of_behind hrun
      · exact ih hin

/-! ## §3 Sequences -/

variable (directory : Text)

/-- The name of the asset that an emission makes below a directory. -/
def Emission.assetIn (e : Emission) : Text := assetName directory e.1 e.2

/-- The file of that asset. -/
def Emission.file (e : Emission) : Text := assetFile e.1 e.2

/-- The names that calls of the emitter return, in order, and the assets after them. -/
def Assets.emitEach (assets : Assets) : List Emission → List Text × Assets
  | [] => ([], assets)
  | e :: rest =>
    let (name, assets) := assets.emit directory e.1 e.2
    let (names, assets) := Assets.emitEach assets rest
    (name :: names, assets)

theorem emitEach_eq (assets : Assets) (log : List Emission) :
    Assets.emitEach directory assets log =
      (log.map (Emission.assetIn directory),
        log.foldl (fun assets e => Table.put (e.assetIn directory) e.2 assets) assets) := by
  induction log generalizing assets with
  | nil => rfl
  | cons e rest ih =>
    rw [Assets.emitEach, Assets.emit]
    dsimp only
    rw [ih]
    rfl

variable {directory} {log : List Emission}

theorem mem_zip_assetIn {e : Emission} {name : Text} :
    (e, name) ∈ log.zip (log.map (Emission.assetIn directory)) ↔
      e ∈ log ∧ name = e.assetIn directory := by
  rw [← List.map_prod_left_eq_zip, List.mem_map]
  constructor
  · rintro ⟨e', he', heq⟩
    cases heq
    exact ⟨he', rfl⟩
  · rintro ⟨he, rfl⟩
    exact ⟨e, he, rfl⟩

variable (hnames : ∀ e ∈ log, IsArtifactName e.1) (hcollision : NoCollision log)

include hnames hcollision in
/-- Calls return the same name exactly for the same name and the same bytes. -/
theorem file_eq_iff {e e' : Emission} (he : e ∈ log) (he' : e' ∈ log) :
    e.file = e'.file ↔ (Path.ofText e.1).name = (Path.ofText e'.1).name ∧ e.2 = e'.2 := by
  constructor
  · intro h
    obtain ⟨hname, hdigest⟩ :=
      assetFile_inj (hnames e he).hasPlainEnding (hnames e' he').hasPlainEnding h
    exact ⟨hname, hcollision e he e' he' hdigest⟩
  · rintro ⟨hname, hcontent⟩
    rw [Emission.file, Emission.file, hcontent, assetFile_congr hname]

theorem assetIn_eq (e : Emission) : e.assetIn directory = directory ++ '/' :: e.file := assetName_eq ..

theorem assetIn_inj {e e' : Emission} :
    e.assetIn directory = e'.assetIn directory ↔ e.file = e'.file := by
  rw [assetIn_eq, assetIn_eq]
  simp

section Run

variable {names : List Text} {assets : Assets}
  (hrun : Assets.emitEach directory [] log = (names, assets))

include hnames hcollision hrun in
theorem lookup_assetIn {e : Emission} (he : e ∈ log) :
    assets.lookup (e.assetIn directory) = some e.2 := by
  rw [emitEach_eq] at hrun
  cases hrun
  exact Table.lookup_foldl_put (Emission.assetIn directory) Prod.snd he
    (fun e' he' heq => ((file_eq_iff hnames hcollision he' he).1 (assetIn_inj.1 heq)).2) []

include hnames hcollision hrun in
/-- The assets at the end are those that the calls made. -/
theorem mem_emitEach {asset : Text × Bytes} :
    asset ∈ assets ↔ ∃ e ∈ log, asset = (e.assetIn directory, e.2) := by
  constructor
  · intro hmem
    rw [emitEach_eq] at hrun
    cases hrun
    exact (Table.mem_foldl_put (Emission.assetIn directory) Prod.snd hmem).resolve_left (by simp)
  · rintro ⟨e, he, rfl⟩
    obtain ⟨before, after, heq, -⟩ :=
      List.lookup_eq_some_iff.1 (lookup_assetIn hnames hcollision hrun he)
    rw [heq]
    simp

include hnames hcollision hrun in
/-- At the end each call has an asset with its bytes under the name that it returned, and there are no
others. -/
theorem lookup_emitEach (name : Text) (content : Bytes) :
    assets.lookup name = some content ↔ ∃ e, (e, name) ∈ log.zip names ∧ e.2 = content := by
  have hnamesEq : names = log.map (Emission.assetIn directory) := by
    rw [emitEach_eq] at hrun
    exact (Prod.mk.inj hrun).1.symm
  rw [hnamesEq]
  constructor
  · intro h
    obtain ⟨before, after, heq, -⟩ := List.lookup_eq_some_iff.1 h
    have hmem : (name, content) ∈ assets := by simp [heq]
    obtain ⟨e, he, hpair⟩ := (mem_emitEach hnames hcollision hrun).1 hmem
    cases hpair
    exact ⟨e, mem_zip_assetIn.2 ⟨he, rfl⟩, rfl⟩
  · rintro ⟨e, hmem, rfl⟩
    obtain ⟨he, rfl⟩ := mem_zip_assetIn.1 hmem
    exact lookup_assetIn hnames hcollision hrun he

/-- Assets that are files directly below a directory. -/
def Assets.below (directory : Text) (files : List (Text × Bytes)) : Assets :=
  files.map fun file => (directory ++ '/' :: file.1, file.2)

include hnames hcollision hrun in
theorem exists_files :
    ∃ files, assets = Assets.below directory files ∧
      ∀ file, file ∈ files ↔ file ∈ log.map fun e => (e.file, e.2) := by
  have hmem := @mem_emitEach directory log hnames hcollision names assets hrun
  have hdrop : ∀ e : Emission, (e.assetIn directory).drop (directory.length + 1) = e.file := fun e => by
    rw [assetIn_eq, List.drop_append]
    simp
  refine ⟨assets.map fun asset => (asset.1.drop (directory.length + 1), asset.2), ?_, fun file => ?_⟩
  · rw [Assets.below, List.map_map]
    refine (List.map_id _).symm.trans (List.map_congr_left fun asset hasset => ?_)
    obtain ⟨e, -, rfl⟩ := hmem.1 hasset
    rw [Function.comp_apply, hdrop, ← assetIn_eq]
    rfl
  · rw [List.mem_map, List.mem_map]
    constructor
    · rintro ⟨asset, hasset, rfl⟩
      obtain ⟨e, he, rfl⟩ := hmem.1 hasset
      exact ⟨e, he, by rw [hdrop]⟩
    · rintro ⟨e, he, rfl⟩
      exact ⟨_, hmem.2 ⟨e, he, rfl⟩, by rw [hdrop]⟩

end Run

end Bundle

/-! ## §4 Directories -/

namespace FileTree

variable {t t' : FileTree} {p : Path} {dir : Place} {name : Text}

/-- The path of a directory that was made leads to it, whatever links stand on the way. -/
theorem leadsTo_of_makeDirectory (h : t.makeDirectory p = .ok t') : ∃ dir, t'.LeadsTo p dir := by
  have hkeeps := (makes_makeDirectory h).keeps
  have hhere := here_makeDirectory h
  unfold makeDirectory at h
  split at h
  · cases h
  · next place hl =>
    have hnone : t.entryAt place = none := Option.map_eq_none_iff.2 (locate_found hl).symm
    have hplace : place ≠ [] := by
      rintro rfl
      rw [entryAt_nil] at hnone
      cases hnone
    have hentry : t'.entryAt place = some .directory := by
      cases h
      rw [entryAt_insert hplace, if_pos rfl]
    obtain ⟨m, hitem⟩ := entryAt_eq_some hentry
    refine ⟨place, m, ?_⟩
    rw [locate_eq] at hl ⊢
    split at hl
    · cases hl
    · have hfollowed := walk_follow (by simp [hnone]) hl
      rw [hhere, hkeeps.walk hfollowed (by simp [hentry]), hitem]
  · cases h

theorem leadsTo_of_ensureDirectory (h : t.ensureDirectory p = .ok t') : ∃ dir, t'.LeadsTo p dir := by
  rcases ensureDirectory_eq_ok h with hmake | ⟨rfl, hthere⟩
  · exact leadsTo_of_makeDirectory hmake
  · exact hthere

/-- A path that was made leads to a directory. -/
theorem leadsTo_of_makePath (h : t.makePath p = (.ok (), t')) : ∃ dir, t'.LeadsTo p dir := by
  rcases ensurePath_cases h with hmake | ⟨rfl, hthere⟩ | ⟨-, -, t₁, -, hensure⟩
  · exact leadsTo_of_makeDirectory hmake
  · exact hthere
  · exact leadsTo_of_ensureDirectory hensure

/-- What is written behind a path that leads to a directory is a file in it, if no link stands there. -/
theorem LeadsTo.eq_putFile_of_write (h : t.LeadsTo p dir) (hn : Path.IsPlain name)
    (hlink : ∀ target, t.entryAt (dir ++ [name]) ≠ some (.link target)) {content : Bytes}
    (hwrite : t.write (p.child name) content = .ok t') :
    CanHold (t.entryAt (dir ++ [name])) = true ∧ t' = t.putFile (dir ++ [name]) content := by
  rw [write_eq] at hwrite
  split at hwrite
  · cases hwrite
  · next place found hl =>
    have hnul : '\x00' ∉ name := by
      intro hmem
      have hpath : '\x00' ∈ (p.child name).text := by
        rw [Path.child_of_plain p hn, Path.nul_mem_text_iff]
        exact ⟨name, by simp, hmem⟩
      simp [locate, hpath] at hl
    obtain ⟨left, hleft⟩ := h.locate_last hn hnul true
    rw [hl] at hleft
    split at hleft
    · cases hleft
    · obtain rfl := place_of_walk hn hleft.symm (.inr hlink)
      split at hwrite
      · next hcan =>
        cases hwrite
        exact ⟨hcan, rfl⟩
      · cases hwrite

end FileTree

/-! ## §5 Assets as files -/

namespace Path

/-- A path below a directory that is called by a relative text goes through that directory. -/
theorem child_below {directory file : Text} (hne : directory ≠ []) (hrelative : ¬ ['/'] <+: directory)
    (hfile : IsPlain file) (out : Path) :
    out.child (directory ++ '/' :: file) = (out.child directory).child file := by
  have hnot : ¬ ['/'] <+: directory ++ '/' :: file := by
    rintro ⟨rest, hrest⟩
    cases directory with
    | nil => exact hne rfl
    | cons c directory =>
      cases hrest
      exact hrelative ⟨directory, rfl⟩
  have hrelative' : (ofText directory).isAbsolute = false := by
    rwa [← Bool.not_eq_true, isAbsolute_ofText_iff]
  have hnot' : (ofText (directory ++ '/' :: file)).isAbsolute = false := by
    rwa [← Bool.not_eq_true, isAbsolute_ofText_iff]
  have hnames : (ofText (directory ++ '/' :: file)).names = (ofText directory).names ++ [file] := by
    rw [ofText, ofText, Text.splitOn_append, List.filter_append,
      Text.splitOn_of_not_mem hfile.noSlash, List.filter_cons, if_pos hfile.isName]
    rfl
  rw [child_of_plain _ hfile, child, child, join_of_not_absolute hnot',
    join_of_not_absolute hrelative', hnames]
  simp

end Path

namespace Plugin

open EmbeddedGo.Bundle Host FileTree

variable {out : Path} {assets : Assets}

theorem keeps_writeAssets (out : Path) (assets : Assets) :
    Stays KeepsFiles (writeAssets out assets) := by
  induction assets with
  | nil => exact .pure _
  | cons asset rest ih =>
    refine .bind (careful_makePath _) fun _ => ?_
    refine .bind (careful_change fun _ _ h => keeps_write h) fun _ => ?_
    exact .bind ih fun _ => .pure _

theorem sameTools_writeAssets (out : Path) (assets : Assets) :
    Stays SameTools (writeAssets out assets) := by
  induction assets with
  | nil => exact .pure _
  | cons asset rest ih =>
    refine .bind (sameTools_makePath _) fun _ => ?_
    refine .bind (sameTools_writeBytes _ _) fun _ => ?_
    exact .bind ih fun _ => .pure _

/-- Files stand in a directory, and elsewhere there are only new directories. -/
structure Filled (files : List (Text × Bytes)) (dir : Place) (t t' : FileTree) : Prop where
  changes : t.ChangesAt (fun q => ∃ file ∈ files, q = dir ++ [file.1]) t'
  files : ∀ file ∈ files, t'.entryAt (dir ++ [file.1]) = some (.file file.2)

/-- No link stands in the place of any of the files. -/
def Unlinked (files : List (Text × Bytes)) (dir : Place) (t : FileTree) : Prop :=
  ∀ file ∈ files, ∀ target, t.entryAt (dir ++ [file.1]) ≠ some (.link target)

variable {files : List (Text × Bytes)} {dir : Place} {file : Text × Bytes}

theorem Filled.cons {a b c : FileTree} (hfirst : Filled [file] dir a b) (hrest : Filled files dir b c)
    (hsame : ∀ again ∈ files, again.1 = file.1 → again.2 = file.2) : Filled (file :: files) dir a c := by
  constructor
  · refine (hfirst.changes.mono ?_).trans (hrest.changes.mono ?_)
    · rintro q ⟨other, hother, rfl⟩
      exact ⟨file, by simp, by rw [List.mem_singleton.1 hother]⟩
    · rintro q ⟨other, hother, rfl⟩
      exact ⟨other, List.mem_cons_of_mem _ hother, rfl⟩
  · intro other hother
    rcases List.mem_cons.1 hother with rfl | hother
    · -- what is written to that place again has the same bytes
      by_cases hagain : ∃ again ∈ files, dir ++ [other.1] = dir ++ [again.1]
      · obtain ⟨again, hmem, hplace⟩ := hagain
        have hname : again.1 = other.1 := by simpa using hplace.symm
        rw [hplace, hrest.files again hmem, hsame again hmem hname]
      · exact hrest.changes.entryAt_eq hagain (hfirst.files other (by simp))
    · exact hrest.files other hother

theorem Filled.congr {files' : List (Text × Bytes)} {t t' : FileTree} (h : Filled files dir t t')
    (hsame : ∀ file, file ∈ files ↔ file ∈ files') : Filled files' dir t t' where
  changes := h.changes.mono fun _ ⟨file, hmem, hq⟩ => ⟨file, (hsame file).1 hmem, hq⟩
  files := fun file hmem => h.files file ((hsame file).2 hmem)

variable {directory : Text} {h h' : Host} {written : List (Text × Path)}

section Write

variable (hne : directory ≠ []) (hrelative : ¬ ['/'] <+: directory)

include hne hrelative in
/-- Writing one asset puts its file into the directory, unless a link stands there. -/
theorem filled_writeAsset (hplain : Path.IsPlain file.1) {h₁ : Host}
    (hmake : (Host.makePath (out.child (directory ++ '/' :: file.1)).parent).run.run h = (.ok (), h₁))
    (hwrite : (writeBytes (out.child (directory ++ '/' :: file.1)) file.2).run.run h₁ = (.ok (), h')) :
    ∃ dir, h'.files.LeadsTo (out.child directory) dir ∧
      (Unlinked [file] dir h.files → Filled [file] dir h.files h'.files) := by
  have hchild := Path.child_below hne hrelative hplain out
  have hparent : ((out.child directory).child file.1).parent = out.child directory := by
    rw [Path.child_of_plain _ hplain, Path.parent]
    simp
  rw [hchild, hparent, run_makePath] at hmake
  split at hmake
  · next files hfiles =>
    cases hmake
    have hmakes : Makes h.files files := by
      have hall := makes_ensurePath (out.child directory).names.length h.files (out.child directory)
      rwa [show h.files.ensurePath _ (out.child directory) = (.ok (), files) from hfiles] at hall
    obtain ⟨dir, hdir⟩ := leadsTo_of_makePath hfiles
    have hmade : h.files.ChangesAt (fun q => ∃ f ∈ [file], q = dir ++ [f.1]) files :=
      changesAt_of_makes hmakes
    rw [writeBytes, run_change, hchild] at hwrite
    split at hwrite
    · next files' hfiles' =>
      cases hwrite
      refine ⟨dir, hdir.later (keeps_write hfiles') (here_write hfiles'), fun hlink => ?_⟩
      have hunlinked : ∀ target, files.entryAt (dir ++ [file.1]) ≠ some (.link target) :=
        fun target hl => hlink file (by simp) target (hmade.links _ target hl)
      obtain ⟨hcan, rfl⟩ := hdir.eq_putFile_of_write hplain hunlinked hfiles'
      refine ⟨hmade.trans (changesAt_putFile ⟨file, by simp, rfl⟩ hcan file.2), ?_⟩
      intro other hother
      rw [List.mem_singleton.1 hother]
      exact (entryAt_putFile (ne_nil_of_canHold hcan) ..).trans (if_pos rfl)
    · cases hwrite
  · cases hmake

include hne hrelative in
/-- If all assets are written there is a directory that has them as its files, unless a link stood in the
place of one. -/
theorem filled_writeAssets (hplain : ∀ file ∈ files, Path.IsPlain file.1)
    (hsame : ∀ file ∈ files, ∀ other ∈ files, file.1 = other.1 → file.2 = other.2)
    (hsome : files ≠ [])
    (hrun : (writeAssets out (Assets.below directory files)).run.run h = (.ok written, h')) :
    ∃ dir, h'.files.LeadsTo (out.child directory) dir ∧
      (Unlinked files dir h.files → Filled files dir h.files h'.files) := by
  induction files generalizing h written with
  | nil => exact absurd rfl hsome
  | cons file rest ih =>
    obtain ⟨⟨⟩, h₁, hmake, hrun⟩ := run_bind_ok hrun
    obtain ⟨⟨⟩, h₂, hwrite, hrun⟩ := run_bind_ok hrun
    obtain ⟨written', h₃, hall, hend⟩ := run_bind_ok hrun
    cases hend
    obtain ⟨dir, hdir, hfirst⟩ :=
      filled_writeAsset hne hrelative (hplain file (by simp)) hmake hwrite
    -- the directory that the first asset stands in is that of all others
    have hlater : h'.files.LeadsTo (out.child directory) dir :=
      hdir.later ((keeps_writeAssets out _).of_run hall) ((sameTools_writeAssets out _).of_run hall).1
    refine ⟨dir, hlater, fun hlinks => ?_⟩
    have hfilled := hfirst fun f hf => hlinks f (by simp [List.mem_singleton.1 hf])
    by_cases hnone : rest = []
    · subst hnone
      cases hall
      exact hfilled
    obtain ⟨dir', hdir', hrest⟩ := ih (fun f hf => hplain f (List.mem_cons_of_mem _ hf))
      (fun f hf g hg => hsame f (List.mem_cons_of_mem _ hf) g (List.mem_cons_of_mem _ hg)) hnone hall
    obtain rfl := hlater.unique hdir'
    refine hfilled.cons (hrest fun f hf target hl => ?_) fun f hf heq =>
      hsame f (List.mem_cons_of_mem _ hf) file (by simp) heq
    exact hlinks f (List.mem_cons_of_mem _ hf) target (hfilled.changes.links _ target hl)

include hne hrelative in
/-- The assets of a log are written so if they have its files. -/
theorem filled_of_log {log : List Emission} (hnames : ∀ e ∈ log, IsArtifactName e.1)
    (hcollision : NoCollision log)
    (hfiles : ∀ file, file ∈ files ↔ file ∈ log.map fun e => (e.file, e.2)) (hsome : log ≠ [])
    (hrun : (writeAssets out (Assets.below directory files)).run.run h = (.ok written, h')) :
    ∃ dir, h'.files.LeadsTo (out.child directory) dir ∧
      (Unlinked (log.map fun e => (e.file, e.2)) dir h.files →
        Filled (log.map fun e => (e.file, e.2)) dir h.files h'.files) := by
  have hplain : ∀ file ∈ files, Path.IsPlain file.1 := by
    intro file hfile
    obtain ⟨e, -, rfl⟩ := List.mem_map.1 ((hfiles file).1 hfile)
    exact isPlain_assetFile e.1 e.2
  have hsame : ∀ file ∈ files, ∀ other ∈ files, file.1 = other.1 → file.2 = other.2 := by
    intro file hfile other hother heq
    obtain ⟨e, he, rfl⟩ := List.mem_map.1 ((hfiles file).1 hfile)
    obtain ⟨e', he', rfl⟩ := List.mem_map.1 ((hfiles other).1 hother)
    exact ((file_eq_iff hnames hcollision he he').1 heq).2
  have hsomeFiles : files ≠ [] := by
    rintro rfl
    obtain ⟨e, rest, rfl⟩ := List.exists_cons_of_ne_nil hsome
    simpa using (hfiles (e.file, e.2)).2 (by simp)
  obtain ⟨dir, hdir, hfilled⟩ := filled_writeAssets hne hrelative hplain hsame hsomeFiles hrun
  refine ⟨dir, hdir, fun hlinks => (hfilled fun file hfile => ?_).congr hfiles⟩
  exact hlinks file ((hfiles file).1 hfile)

end Write

/-! ## §6 All of it -/

/-- Under names of glue and of binaries, the only ones that a bundle has, all that is emitted is an asset
at the end if no digests collide: each call returns a name that has its bytes then, no other names have
any, and names are the same exactly for the same last name and the same bytes. If the assets are written
below a directory they are files directly in the directory of assets, and nothing else is new but
directories that were missing, unless a link stood in the place of an asset. -/
theorem emitEach_assets (c : Compiler) (buildRoot : Path) :
    (∀ references s, ∀ e ∈ emissions c buildRoot references s, IsArtifactName e.1) ∧
      ∀ (directory : Text) (log : List Emission) (names : List Text) (assets : Assets),
        (∀ e ∈ log, IsArtifactName e.1) → NoCollision log →
        Assets.emitEach directory [] log = (names, assets) →
        names = log.map (fun e => directory ++ '/' :: e.file) ∧
          (∀ name content, assets.lookup name = some content ↔
            ∃ e, (e, name) ∈ log.zip names ∧ e.2 = content) ∧
          (∀ e name e' name', (e, name) ∈ log.zip names → (e', name') ∈ log.zip names →
            (name = name' ↔ (Path.ofText e.1).name = (Path.ofText e'.1).name ∧ e.2 = e'.2)) ∧
          ∀ out h written h', directory ≠ [] → ¬ ['/'] <+: directory →
            (writeAssets out assets).run.run h = (.ok written, h') →
            written = assets.map (fun asset => (asset.1, out.child asset.1)) ∧
              (log = [] → h' = h) ∧
              (log ≠ [] → ∃ dir, h'.files.LeadsTo (out.child directory) dir ∧
                (Unlinked (log.map fun e => (e.file, e.2)) dir h.files →
                  Filled (log.map fun e => (e.file, e.2)) dir h.files h'.files)) := by
  refine ⟨fun _ _ _ => isArtifactName_of_mem_emissions, ?_⟩
  intro directory log names assets hnames hcollision hrun
  have hnamesEq : names = log.map (Emission.assetIn directory) := by
    rw [emitEach_eq] at hrun
    exact (Prod.mk.inj hrun).1.symm
  refine ⟨?_, lookup_emitEach hnames hcollision hrun, ?_, ?_⟩
  · rw [hnamesEq]
    exact List.map_congr_left fun e _ => assetIn_eq e
  · intro e name e' name' he he'
    rw [hnamesEq] at he he'
    obtain ⟨hmem, rfl⟩ := mem_zip_assetIn.1 he
    obtain ⟨hmem', rfl⟩ := mem_zip_assetIn.1 he'
    exact assetIn_inj.trans (file_eq_iff hnames hcollision hmem hmem')
  · intro out h written h' hne hrelative hwrite
    obtain ⟨files, rfl, hfiles⟩ := exists_files hnames hcollision hrun
    refine ⟨written_writeAssets hwrite, fun hnone => ?_, fun hsome => ?_⟩
    · have hnil : files = [] := List.eq_nil_iff_forall_not_mem.2 fun file hfile => by
        simpa [hnone] using (hfiles file).1 hfile
      subst hnil
      cases hwrite
      rfl
    · exact filled_of_log hne hrelative hnames hcollision hfiles hsome hwrite

/-- Glue, and an empty binary. -/
def smallLog : List Emission := [(VirtualId.glueName, Utf8.encode "ab"), ("x/main.wasm".toList, [])]

/-- The assets that they make. -/
def smallAssets : Assets :=
  [("assets/wasm_exec-fb8e20fc.js".toList, Utf8.encode "ab"), ("assets/main-e3b0c442.wasm".toList, [])]

theorem contentDigest_nil : contentDigest [] = "e3b0c442".toList := by cbv

theorem emitEach_small :
    Assets.emitEach assetsDirectory [] smallLog = (smallAssets.map Prod.fst, smallAssets) := by
  have hglue : Emission.assetIn assetsDirectory (VirtualId.glueName, Utf8.encode "ab") =
      "assets/wasm_exec-fb8e20fc.js".toList := by
    rw [assetIn_eq, Emission.file, assetFile, contentDigest_ab]
    decide
  have hwasm : Emission.assetIn assetsDirectory ("x/main.wasm".toList, []) =
      "assets/main-e3b0c442.wasm".toList := by
    rw [assetIn_eq, Emission.file, assetFile, contentDigest_nil]
    decide
  rw [emitEach_eq, smallLog, List.map_cons, List.map_cons, List.foldl_cons, List.foldl_cons, hglue,
    hwasm]
  rfl

theorem noCollision_small : NoCollision smallLog := by
  have hdigests : ("fb8e20fc".toList : Text) ≠ "e3b0c442".toList := by decide
  intro e he e' he' heq
  simp only [smallLog, List.mem_cons, List.not_mem_nil, or_false] at he he'
  rcases he with rfl | rfl <;> rcases he' with rfl | rfl
  · rfl
  · rw [contentDigest_ab, contentDigest_nil] at heq
    exact absurd heq hdigests
  · rw [contentDigest_ab, contentDigest_nil] at heq
    exact absurd heq.symm hdigests
  · rfl

theorem isArtifactName_small : ∀ e ∈ smallLog, IsArtifactName e.1 := by decide

/-- They are written into a directory that is made for them. -/
theorem emitEach_assets_small :
    (∀ e ∈ smallLog, IsArtifactName e.1) ∧ NoCollision smallLog ∧
      Assets.emitEach assetsDirectory [] smallLog = (smallAssets.map Prod.fst, smallAssets) ∧
      ∃ written h', (writeAssets (Path.ofNames ["b"]) smallAssets).run.run Slot.emptyRoot =
          (.ok written, h') ∧
        ∃ dir, h'.files.LeadsTo ((Path.ofNames ["b"]).child assetsDirectory) dir ∧
          Filled (smallLog.map fun e => (e.file, e.2)) dir Slot.emptyRoot.files h'.files := by
  have hwrite : ∃ written h', (writeAssets (Path.ofNames ["b"]) smallAssets).run.run Slot.emptyRoot =
      (.ok written, h') := by
    delta smallAssets
    generalize Utf8.encode "ab" = content
    exact ⟨_, _, by cbv⟩
  obtain ⟨written, h', hwrite⟩ := hwrite
  obtain ⟨-, hall⟩ := emitEach_assets {} (Path.ofNames ["b"])
  obtain ⟨-, -, -, hwritten⟩ := hall _ _ _ _ isArtifactName_small noCollision_small emitEach_small
  obtain ⟨-, -, hfilled⟩ := hwritten _ _ _ _ (by decide) (by decide) hwrite
  obtain ⟨dir, hdir, hfill⟩ := hfilled (by decide)
  refine ⟨isArtifactName_small, noCollision_small, emitEach_small, written, h', hwrite, dir, hdir,
    hfill fun file _ target => ?_⟩
  exact isStraight_of_items (by simp [Slot.emptyRoot]) _ _ (List.prefix_refl _) target

/-- A link stands in the place of the glue, to that of the binary. -/
def linkedRoot : Host where
  files := { items := [
    (["d".toList], ⟨.directory, 0⟩),
    (["d".toList, "assets".toList], ⟨.directory, 0⟩),
    (["d".toList, "assets".toList, "wasm_exec-fb8e20fc.js".toList],
      ⟨.link "main-e3b0c442.wasm".toList, 0⟩)] }
  toolchain := { place := [] }

/-- What is written for the glue goes through the link and is lost to the binary: where the asset of the
glue should be its bytes are not. -/
theorem emitEach_assets_linked :
    (∀ e ∈ smallLog, IsArtifactName e.1) ∧ NoCollision smallLog ∧
      ∃ names assets written h' name,
        Assets.emitEach assetsDirectory [] smallLog = (names, assets) ∧
        (writeAssets (Path.ofNames ["d".toList]) assets).run.run linkedRoot = (.ok written, h') ∧
        ((VirtualId.glueName, Utf8.encode "ab"), name) ∈ smallLog.zip names ∧
        h'.files.read ((Path.ofNames ["d".toList]).child name) = .ok [] := by
  have hwrite : ∃ written h', (writeAssets (Path.ofNames ["d".toList]) smallAssets).run.run linkedRoot =
      (.ok written, h') ∧ h'.files.read ((Path.ofNames ["d".toList]).child
        "assets/wasm_exec-fb8e20fc.js".toList) = .ok [] := by
    delta smallAssets
    generalize Utf8.encode "ab" = content
    exact ⟨_, _, by cbv, by cbv⟩
  obtain ⟨written, h', hwrite, hread⟩ := hwrite
  exact ⟨isArtifactName_small, noCollision_small, _, _, written, h', _, emitEach_small, hwrite,
    List.mem_cons_self, hread⟩

end Plugin
end EmbeddedGo
