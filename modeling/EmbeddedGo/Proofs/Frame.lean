/-
EmbeddedGo.Proofs.Frame — places outside of which nothing changes.

An action changes certain places (`ChangesAt`) if elsewhere it only makes directories where nothing
stood. Writing through a path changes its place if no link stands on the way to it, and a transform
changes the files of its slot; no action makes a link, so what was straight stays so and the changes of
one action after the other add up (`Spares`). Besides the files, the working directory and the compiler
stay the same throughout (`SameTools`).

  §1 changed places
  §2 actions on files
  §3 the compiler
-/
import EmbeddedGo.Proofs.SlotFrame

namespace EmbeddedGo

open Transform (LinksOf)

/-! ## §1 Places -/

namespace FileTree

variable {places places' : Place → Prop} {t t' : FileTree}

/-- Besides certain places there are only new directories, where nothing stood, and no link is new. -/
structure ChangesAt (places : Place → Prop) (t t' : FileTree) : Prop where
  entries : ∀ q, ¬ places q →
    t'.entryAt q = t.entryAt q ∨ t.entryAt q = none ∧ t'.entryAt q = some .directory
  links : LinksOf t t'

theorem ChangesAt.refl (places : Place → Prop) (t : FileTree) : ChangesAt places t t :=
  ⟨fun _ _ => .inl rfl, .refl t⟩

theorem ChangesAt.mono (h : ChangesAt places t t') (hle : ∀ q, places q → places' q) :
    ChangesAt places' t t' :=
  ⟨fun q hq => h.entries q fun hp => hq (hle q hp), h.links⟩

/-- An entry elsewhere stays. -/
theorem ChangesAt.entryAt_eq (h : ChangesAt places t t') {q : Place} (hq : ¬ places q) {e : Entry}
    (he : t.entryAt q = some e) : t'.entryAt q = some e := by
  rcases h.entries q hq with hsame | ⟨hnone, -⟩
  · rw [hsame, he]
  · rw [he] at hnone
    cases hnone

theorem ChangesAt.trans {a b c : FileTree} (h : ChangesAt places a b) (h' : ChangesAt places b c) :
    ChangesAt places a c where
  entries := fun q hq => by
    rcases h'.entries q hq with hsame | ⟨hnone, hdir⟩
    · rw [hsame]
      exact h.entries q hq
    · rcases h.entries q hq with hsame | ⟨-, hmade⟩
      · exact .inr ⟨hsame ▸ hnone, hdir⟩
      · rw [hmade] at hnone
        cases hnone
  links := h.links.trans h'.links

theorem IsStraight.of_linksOf {q : Place} (h : t.IsStraight q) (hlinks : LinksOf t t') :
    t'.IsStraight q :=
  fun r hr target hl => h r hr target (hlinks r target hl)

/-- In a tree without links every place is straight. -/
theorem isStraight_of_items (h : ∀ item ∈ t.items, ∀ target, item.2.entry ≠ .link target)
    (place : Place) : t.IsStraight place := by
  intro q _ target hq
  obtain ⟨modified, hitem⟩ := entryAt_eq_some hq
  unfold get? at hitem
  split at hitem
  · cases hitem
  · obtain ⟨before, after, hitems, -⟩ := List.lookup_eq_some_iff.1 hitem
    exact h (q, ⟨.link target, modified⟩) (by rw [hitems]; simp) target rfl

theorem changesAt_of_makes (h : Makes t t') : ChangesAt places t t' where
  entries := fun q _ => h q
  links := fun q target hl => by
    rcases h q with hsame | ⟨-, hdir⟩
    · rw [← hsame, hl]
    · rw [hdir] at hl
      cases hl

theorem changesAt_putFile {place : Place} (hplace : places place)
    (hcan : CanHold (t.entryAt place) = true) (content : Bytes) :
    ChangesAt places t (t.putFile place content) := by
  have hp := ne_nil_of_canHold hcan
  refine ⟨fun q hq => .inl ?_, fun q target hl => ?_⟩
  · rw [entryAt_putFile hp, if_neg fun (heq : q = place) => hq (heq ▸ hplace)]
  · rw [entryAt_putFile hp] at hl
    split at hl
    · cases hl
    · exact hl

/-- What is written through a path behind no link stands at the place of its names. -/
theorem eq_putFile_of_write {p : Path} (hp : p.IsResolved) (hs : t.IsStraight p.names)
    {content : Bytes} (h : t.write p content = .ok t') :
    CanHold (t.entryAt p.names) = true ∧ t' = t.putFile p.names content := by
  rw [write_eq] at h
  split at h
  · cases h
  · next place found hl =>
    obtain rfl := locate_straight hp hs hl
    split at h
    · next hcan =>
      cases h
      exact ⟨hcan, rfl⟩
    · cases h

theorem here_makeDirectory {p : Path} (h : t.makeDirectory p = .ok t') : t'.here = t.here := by
  unfold makeDirectory at h
  split at h
  · cases h
  · cases h
    exact here_insert ..
  · cases h

theorem here_ensureDirectory {p : Path} (h : t.ensureDirectory p = .ok t') : t'.here = t.here := by
  unfold ensureDirectory at h
  split at h
  · cases h
    exact here_makeDirectory (by assumption)
  · split at h
    · cases h
    · cases h
      rfl
    · cases h

theorem here_ensurePath (depth : Nat) (t : FileTree) (p : Path) :
    (t.ensurePath depth p).2.here = t.here := by
  fun_induction ensurePath depth t p with
  | case1 depth t p t' h => exact here_makeDirectory h
  | case2 t p h => rfl
  | case3 t p h depth f t' hrec ih => simpa [hrec] using ih
  | case4 t p h depth t' hrec t'' hlast ih =>
    rw [hrec] at ih
    exact (here_ensureDirectory hlast).trans ih
  | case5 t p h depth t' hrec f hlast ih => simpa [hrec] using ih
  | case6 depth t p e hne h t' hlast => exact here_ensureDirectory hlast
  | case7 depth t p e hne h f hlast => rfl

theorem here_write {p : Path} {content : Bytes} (h : t.write p content = .ok t') :
    t'.here = t.here := by
  rw [write_eq] at h
  split at h
  · cases h
  · split at h
    · cases h
      exact here_putFile ..
    · cases h

theorem here_writeWord {word : Text} {content : Bytes} (h : t.writeWord word content = .ok t') :
    t'.here = t.here := by
  unfold writeWord at h
  dsimp only at h
  split at h
  · cases h
  · split at h
    · cases h
    · cases h
    · split at h
      · cases h
      · split at h
        · cases h
          exact here_insert ..
        · cases h
          rfl

end FileTree

/-! ## §2 Actions -/

namespace Host

open FileTree

variable {places places' : Place → Prop}

/-- If no link stands at the places or on the way to them, nothing changed but these. -/
def Spares (places : Place → Prop) (h h' : Host) : Prop :=
  (∀ q, places q → h.files.IsStraight q) → h.files.ChangesAt places h'.files

instance : Lasting (Spares places) where
  refl := fun h _ => .refl places h.files
  trans := fun hab hbc hstraight =>
    have hchanges := hab hstraight
    hchanges.trans (hbc fun q hq => (hstraight q hq).of_linksOf hchanges.links)

theorem Spares.mono {h h' : Host} (hs : Spares places h h') (hle : ∀ q, places q → places' q) :
    Spares places' h h' :=
  fun hstraight => (hs fun q hq => hstraight q (hle q hq)).mono hle

theorem SameFiles.spares {h h' : Host} (hs : SameFiles h h') : Spares places h h' := by
  intro _
  rw [show h'.files = h.files from hs]
  exact .refl places _

theorem spares_makePath (p : Path) : Stays (Spares places) (makePath p) := by
  intro h _
  have hmakes : Makes h.files (h.files.makePath p).2 := makes_ensurePath _ _ _
  rw [run_makePath]
  match hfiles : h.files.makePath p with
  | (.ok (), files) => exact changesAt_of_makes (by rwa [hfiles] at hmakes)
  | (.error e, files) => exact changesAt_of_makes (by rwa [hfiles] at hmakes)

theorem spares_writeBytes {p : Path} (hp : p.IsResolved) (hplace : places p.names)
    (content : Bytes) : Stays (Spares places) (writeBytes p content) := by
  intro h hstraight
  rw [writeBytes, run_change]
  cases hfiles : h.files.write p content with
  | ok files =>
    obtain ⟨hcan, rfl⟩ := eq_putFile_of_write hp (hstraight _ hplace) hfiles
    exact changesAt_putFile hplace hcan content
  | error e => exact .refl places _

theorem spares_transform {s : Transform.Settings} (hs : s.buildRoot.IsResolved) (code id : Text)
    (hplaces : ∀ name ∈ Transform.builtNames, places (s.slotFile (Slot.name id) name)) :
    Stays (Spares places) (Transform.transform s code id) := by
  intro h hstraight
  have hwithin := Transform.spares_transform hs id code h fun name hname =>
    hstraight _ (hplaces name hname)
  refine ⟨fun q hq => hwithin.entries q fun name hname heq => hq ?_, hwithin.links⟩
  rw [heq]
  exact hplaces name hname

/-! ## §3 The compiler -/

/-- The working directory and the compiler are the same. -/
def SameTools (h h' : Host) : Prop := h'.files.here = h.files.here ∧ h'.toolchain = h.toolchain

instance : Lasting SameTools :=
  ⟨fun _ => ⟨rfl, rfl⟩, fun hab hbc => ⟨hbc.1.trans hab.1, hbc.2.trans hab.2⟩⟩

theorem sameTools_makePath (p : Path) : Stays SameTools (makePath p) := by
  intro h
  have hhere : (h.files.makePath p).2.here = h.files.here := here_ensurePath ..
  rw [run_makePath]
  match hfiles : h.files.makePath p with
  | (.ok (), files) => exact ⟨by rwa [hfiles] at hhere, rfl⟩
  | (.error e, files) => exact ⟨by rwa [hfiles] at hhere, rfl⟩

theorem sameTools_writeBytes (p : Path) (content : Bytes) :
    Stays SameTools (writeBytes p content) := by
  intro h
  rw [writeBytes, run_change]
  cases hfiles : h.files.write p content with
  | ok files => exact ⟨here_write hfiles, rfl⟩
  | error e => exact ⟨rfl, rfl⟩

theorem sameTools_ran (h : Host) (program : Text) (args : List Text) :
    SameTools h (h.ran program args).2 := by
  refine ⟨?_, rfl⟩
  simp only [ran, writeOutput]
  split
  · split
    · next files hfiles => exact here_writeWord hfiles
    · rfl
  · rfl

theorem sameTools_run (command : Text) (args : List Text) : Stays SameTools (run command args) := by
  intro h
  rw [run_run]
  split
  · exact ⟨rfl, rfl⟩
  · exact sameTools_ran h _ args

end Host

namespace Compiler

open Host

variable (c : Compiler)

theorem sameTools_run (args : List Text) : Stays SameTools (c.run args) := by
  refine .tryCatch (Host.sameTools_run _ _) fun e => ?_
  split
  · exact .throw _
  · exact .throw _

theorem sameTools_compile (goFile wasmFile : Text) :
    Stays SameTools (c.compile goFile wasmFile) := by
  refine .bind (c.sameTools_run _) fun a => ?_
  split
  · exact .pure _
  · exact .throw _

theorem sameTools_version : Stays SameTools c.version := by
  refine .bind (c.sameTools_run _) fun a => ?_
  split
  · exact .pure _
  · exact .throw _

theorem sameTools_isInstalled : Stays SameTools c.isInstalled := by
  refine .tryCatch (.bind (Host.sameTools_run _ _) fun a => .pure _) fun e => ?_
  split
  · exact .pure _
  · exact .throw _

end Compiler

theorem Transform.sameTools_transform (s : Settings) (code id : Text) :
    Stays Host.SameTools (transform s code id) := by
  have hprepare : Stays Host.SameTools (prepare s code id) := by
    unfold prepare
    split
    · exact .throw _
    · exact .bind (.bind (Host.sameTools_makePath _) fun _ => .pure _) fun _ => .pure _
  have hdeclarations : ∀ job, Stays Host.SameTools (writeDeclarations s job) := by
    intro job
    unfold writeDeclarations
    split
    · exact Host.sameTools_writeBytes _ _
    · exact .pure _
  have hbuild : Stays Host.SameTools (build s code id) := by
    refine .bind hprepare fun job => .bind (Host.sameTools_writeBytes _ _) fun _ => ?_
    refine .bind (s.compiler.sameTools_compile _ _) fun _ => ?_
    exact .bind (hdeclarations job) fun _ => .bind .get fun _ => .pure _
  unfold transform
  split
  · exact .tryCatch (.bind hbuild fun _ => .pure _) fun e => .throw _
  · exact .pure _

theorem Plugin.sameTools_buildStart (p : Plugin) : Stays Host.SameTools p.buildStart := by
  refine .bind (Host.sameTools_makePath _) fun _ => .bind p.compiler.sameTools_isInstalled fun _ => ?_
  split
  · exact p.compiler.sameTools_version
  · exact .throw _

end EmbeddedGo
