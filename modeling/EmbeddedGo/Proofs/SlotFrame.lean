/-
EmbeddedGo.Proofs.SlotFrame — what a transform leaves alone, and what it leaves behind.

Where no link stands on the way to the files of a slot (`Straight`) a transform that is at work there
writes to these and to no others; besides it only makes directories where nothing stood. No transform
makes a link, so what was straight stays so, and the slots of other modules keep their files, whatever
the transform comes to.

Of its own slot more can be said. The compiler reads the source that was written before, and what it
writes stands in the slot when the transform has ended.

  §1 straight slots
  §2 changes within a slot
  §3 transforms
  §4 the binary
-/
import EmbeddedGo.Proofs.BinaryUrl
import EmbeddedGo.Proofs.Sequence

namespace EmbeddedGo.Transform

open FileTree

/-! ## §1 Straight slots -/

/-- No link stands in the place of a file of the slot or on the way to it. -/
def Settings.Straight (s : Settings) (slot : Text) (t : FileTree) : Prop :=
  ∀ name ∈ builtNames, t.IsStraight (s.slotFile slot name)

/-- The second tree has no links but those of the first. -/
def LinksOf (t t' : FileTree) : Prop :=
  ∀ q target, t'.entryAt q = some (.link target) → t.entryAt q = some (.link target)

variable {s : Settings} {slot : Text} {t t' : FileTree}

theorem LinksOf.refl (t : FileTree) : LinksOf t t := fun _ _ h => h

theorem LinksOf.trans {a b c : FileTree} (h : LinksOf a b) (h' : LinksOf b c) : LinksOf a c :=
  fun q target hq => h q target (h' q target hq)

theorem LinksOf.straight (h : LinksOf t t') (hs : s.Straight slot t) : s.Straight slot t' :=
  fun name hname q hq target hl => hs name hname q hq target (h q target hl)

/-! ## §2 Changes -/

/-- Besides the files of a slot there are only new directories, where nothing stood. -/
structure Within (s : Settings) (slot : Text) (t t' : FileTree) : Prop where
  entries : ∀ q, (∀ name ∈ builtNames, q ≠ s.slotFile slot name) →
    t'.entryAt q = t.entryAt q ∨ t.entryAt q = none ∧ t'.entryAt q = some .directory
  links : LinksOf t t'

theorem Within.refl (t : FileTree) : Within s slot t t := ⟨fun _ _ => .inl rfl, .refl t⟩

theorem Within.trans {a b c : FileTree} (h : Within s slot a b) (h' : Within s slot b c) :
    Within s slot a c where
  entries := fun q hq => by
    rcases h'.entries q hq with hsame | ⟨hnone, hdir⟩
    · rw [hsame]
      exact h.entries q hq
    · rcases h.entries q hq with hsame | ⟨-, hmade⟩
      · exact .inr ⟨hsame ▸ hnone, hdir⟩
      · rw [hmade] at hnone
        cases hnone
  links := h.links.trans h'.links

/-- A file that stands elsewhere stands there still. -/
theorem Within.entryAt_eq {q : Place} {content : Bytes} (h : Within s slot t t')
    (hq : ∀ name ∈ builtNames, q ≠ s.slotFile slot name)
    (hfile : t.entryAt q = some (.file content)) : t'.entryAt q = some (.file content) := by
  rcases h.entries q hq with hsame | ⟨hnone, -⟩
  · rw [hsame, hfile]
  · rw [hfile] at hnone
    cases hnone

theorem within_of_makes (h : Makes t t') : Within s slot t t' where
  entries := fun q _ => h q
  links := fun q target hl => by
    rcases h q with hsame | ⟨-, hdir⟩
    · rw [← hsame, hl]
    · rw [hdir] at hl
      cases hl

theorem within_of_putFile {name : Text} (hname : name ∈ builtNames)
    (hcan : CanHold (t.entryAt (s.slotFile slot name)) = true) (content : Bytes) :
    Within s slot t (t.putFile (s.slotFile slot name) content) := by
  have hp := ne_nil_of_canHold hcan
  refine ⟨fun q hq => .inl ?_, fun q target hl => ?_⟩
  · rw [entryAt_putFile hp, if_neg (hq name hname)]
  · rw [entryAt_putFile hp] at hl
    split at hl
    · cases hl
    · exact hl

section Places

variable (hs : s.buildRoot.IsResolved) (hplain : Path.IsPlain slot) {name : Text}
  (hname : name ∈ builtNames)

include hs hplain hname in
theorem isResolved_slotFile : (Path.ofNames (s.slotFile slot name)).IsResolved :=
  ⟨rfl, plain_of_mem_slotFile hs hplain hname⟩

include hs hplain hname in
/-- What is written to a straight slot stands there. -/
theorem eq_putFile_of_write (hstraight : s.Straight slot t) {content : Bytes}
    (h : t.write (Path.ofNames (s.slotFile slot name)) content = .ok t') :
    CanHold (t.entryAt (s.slotFile slot name)) = true ∧
      t' = t.putFile (s.slotFile slot name) content := by
  rw [write_eq] at h
  split at h
  · cases h
  · next place found hl =>
    have hplace : place = s.slotFile slot name :=
      locate_straight (isResolved_slotFile hs hplain hname) (hstraight name hname) hl
    rw [hplace] at h
    split at h
    · next hcan =>
      cases h
      exact ⟨hcan, rfl⟩
    · cases h

include hs hplain hname in
theorem eq_putFile_of_writeWord (hstraight : s.Straight slot t) {content : Bytes}
    (h : t.writeWord (Path.ofNames (s.slotFile slot name)).text content = .ok t') :
    CanHold (t.entryAt (s.slotFile slot name)) = true ∧
      t' = t.putFile (s.slotFile slot name) content := by
  obtain ⟨place, found, hl, hcan, rfl⟩ :=
    writeWord_text (plain_of_mem_slotFile hs hplain hname) h
  have hplace : place = s.slotFile slot name :=
    locate_straight (isResolved_slotFile hs hplain hname) (hstraight name hname) hl
  exact ⟨hplace ▸ hcan, by rw [hplace]⟩

end Places

/-! ## §3 Transforms -/

/-- If the slot was straight, no other files were changed. -/
def Spares (s : Settings) (slot : Text) (h h' : Host) : Prop :=
  s.Straight slot h.files → Within s slot h.files h'.files

instance : Lasting (Spares s slot) where
  refl := fun h _ => .refl h.files
  trans := fun hab hbc hstraight =>
    have hwithin := hab hstraight
    hwithin.trans (hbc (hwithin.links.straight hstraight))

theorem spares_makePath (p : Path) : Stays (Spares s slot) (Host.makePath p) := by
  intro h _
  have hmakes : Makes h.files (h.files.makePath p).2 := makes_ensurePath _ _ _
  rw [Host.run_makePath]
  match hfiles : h.files.makePath p with
  | (.ok (), files) => exact within_of_makes (by rwa [hfiles] at hmakes)
  | (.error e, files) => exact within_of_makes (by rwa [hfiles] at hmakes)

theorem spares_prepare (code id : Text) : Stays (Spares s slot) (prepare s code id) := by
  unfold prepare
  split
  · exact .throw _
  · exact .bind (.bind (spares_makePath _) fun _ => .pure _) fun _ => .pure _

section Slot

variable (hs : s.buildRoot.IsResolved) (hplain : Path.IsPlain slot)

include hs hplain in
theorem spares_writeText {name : Text} (hname : name ∈ builtNames) (content : Text) :
    Stays (Spares s slot) (Host.writeText (Path.ofNames (s.slotFile slot name)) content) := by
  intro h hstraight
  show Within s slot h.files ((Host.change _).run.run h).2.files
  rw [Host.run_change]
  match hfiles : h.files.write (Path.ofNames (s.slotFile slot name)) (Utf8.encode content) with
  | .ok files =>
    obtain ⟨hcan, rfl⟩ := eq_putFile_of_write hs hplain hname hstraight hfiles
    exact within_of_putFile hname hcan _
  | .error e => exact .refl _

include hs hplain in
/-- The compiler writes no file but the binary of the slot. -/
theorem spares_run : Stays (Spares s slot) (s.compiler.run (s.slotWords slot)) := by
  intro h hstraight
  rw [s.compiler.run_run]
  split
  · exact .refl _
  · exact .refl _
  · have houtput : Host.outputOf (s.slotWords slot) =
        some (Path.ofNames (s.slotFile slot Wrapper.wasmName)).text :=
      s.compiler.outputOf_buildWords ..
    simp only [Host.ran, Host.writeOutput, houtput]
    split
    · next output content hsome hcontent =>
      cases hsome
      split
      · next files hfiles =>
        obtain ⟨hcan, rfl⟩ :=
          eq_putFile_of_writeWord hs hplain wasmName_mem_built hstraight hfiles
        exact within_of_putFile wasmName_mem_built hcan content
      · exact .refl _
    · exact .refl _

end Slot

variable (hs : s.buildRoot.IsResolved) (id unit : Text)

include hs in
theorem spares_writeSource :
    Stays (Spares s (Slot.name id)) (writeSource (jobOf s id unit)) := by
  rw [writeSource, goFile_jobOf hs]
  exact spares_writeText hs (Slot.isPlain_name id) goName_mem_built _

include hs in
theorem spares_compile : Stays (Spares s (Slot.name id)) (compile s (jobOf s id unit)) := by
  rw [compile, goFile_jobOf hs, wasmFile_jobOf hs]
  refine .bind (spares_run hs (Slot.isPlain_name id)) fun a => ?_
  split
  · exact .pure _
  · exact .throw _

include hs in
theorem spares_writeDeclarations :
    Stays (Spares s (Slot.name id)) (writeDeclarations s (jobOf s id unit)) := by
  unfold writeDeclarations
  split
  · rw [declarations_jobOf hs]
    exact spares_writeText hs (Slot.isPlain_name id) declarationsName_mem_built _
  · exact .pure _

include hs in
/-- A transform changes no files but those of its slot, if that is straight. -/
theorem spares_transform (code : Text) :
    Stays (Spares s (Slot.name id)) (transform s code id) := by
  have hbuild : Stays (Spares s (Slot.name id)) (build s code id) := by
    refine .bind_of_run (spares_prepare code id) fun h j h' hrun => ?_
    obtain ⟨unit, -, rfl⟩ := eq_jobOf_of_prepare hrun
    refine Stays.bind (spares_writeSource hs id unit) (fun _ => ?_) h'
    refine .bind (spares_compile hs id unit) fun _ => ?_
    exact .bind (spares_writeDeclarations hs id unit) fun _ => .bind .get fun _ => .pure _
  unfold transform
  split
  · exact .tryCatch (.bind hbuild fun _ => .pure _) fun e => .throw _
  · exact .pure _

/-! ## §4 The binary -/

/-- A file behind no link that stands where it stood is read as before. -/
theorem read_of_entryAt {p : Path} (hp : p.IsResolved) (hstraight : t.IsStraight p.names)
    (hkeeps : t.Keeps t') {content : Bytes} (hread : t.read p = .ok content)
    (hsame : t.entryAt p.names = some (.file content) →
      t'.entryAt p.names = some (.file content)) : t'.read p = .ok content := by
  obtain ⟨place, m, hl⟩ := read_eq_ok_iff.1 hread
  have hfile : t.entryAt place = some (.file content) := entryAt_of_get? (locate_found hl).symm
  have hplace : place = p.names := locate_straight hp hstraight hl
  exact read_of_keeps hkeeps hp hl (hplace ▸ hsame (hplace ▸ hfile))

/-- The path of the binary of a slot. -/
def Settings.binary (s : Settings) (slot : Text) : Path :=
  Path.ofNames (s.slotFile slot Wrapper.wasmName)

include hs in
theorem binary_eq (hplain : Path.IsPlain slot) :
    s.binary slot = (s.buildRoot.child slot).child Wrapper.wasmName := by
  rw [(hs.child hplain).child_eq isPlain_wasmName, hs.child_eq hplain]
  rfl

include hs in
theorem slotWords_eq (hplain : Path.IsPlain slot) :
    s.slotWords slot = s.compiler.buildWords ((s.buildRoot.child slot).child BuildRoot.goName).text
      ((s.buildRoot.child slot).child Wrapper.wasmName).text := by
  rw [← binary_eq hs hplain, (hs.child hplain).child_eq isPlain_goName, hs.child_eq hplain]
  rfl

include hs in
/-- The binary of another slot is read as before. -/
theorem read_of_within {other : Text} (hplain : Path.IsPlain other) (hne : other ≠ slot)
    (hstraight : s.Straight other t) (hwithin : Within s slot t t') (hkeeps : t.Keeps t')
    {content : Bytes} (hread : t.read (s.binary other) = .ok content) :
    t'.read (s.binary other) = .ok content := by
  refine read_of_entryAt (isResolved_slotFile hs hplain wasmName_mem_built)
    (hstraight _ wasmName_mem_built) hkeeps hread (hwithin.entryAt_eq fun name _ heq => hne ?_)
  exact (slotFile_inj heq).1

include hs in
/-- The source that was written to a slot is what the compiler is given there. -/
theorem sourceOf_of_read (hplain : Path.IsPlain slot) {h : Host} {source : Bytes}
    (hread : h.files.read (Path.ofNames (s.slotFile slot BuildRoot.goName)) = .ok source) :
    h.sourceOf (s.slotWords slot) = source := by
  obtain ⟨place, m, hl⟩ := read_eq_ok_iff.1 hread
  have hlast : (s.slotWords slot).getLast?.getD [] =
      (Path.ofNames (s.slotFile slot BuildRoot.goName)).text := rfl
  have hword : h.files.locateWord (Path.ofNames (s.slotFile slot BuildRoot.goName)).text = _ :=
    locateWord_text h.files (plain_of_mem_slotFile hs hplain goName_mem_built)
  rw [Host.sourceOf, hlast, hword]
  unfold Settings.slotFile at hl
  rw [hl]

include hs in
/-- Declarations leave the binary. -/
theorem read_of_writeDeclarations {h h' : Host}
    (hstraight : s.Straight (Slot.name id) h.files) {content : Bytes}
    (hread : h.files.read (s.binary (Slot.name id)) = .ok content)
    (hrun : (writeDeclarations s (jobOf s id unit)).run.run h = (.ok (), h')) :
    h'.files.read (s.binary (Slot.name id)) = .ok content := by
  have hkeeps : h.files.Keeps h'.files := by
    have := keeps_writeDeclarations s (jobOf s id unit) h
    rwa [hrun] at this
  refine read_of_entryAt (isResolved_slotFile hs (Slot.isPlain_name id) wasmName_mem_built)
    (hstraight _ wasmName_mem_built) hkeeps hread fun hfile => ?_
  unfold writeDeclarations at hrun
  split at hrun
  · rw [declarations_jobOf hs, Host.writeText, Host.writeBytes, Host.run_change] at hrun
    split at hrun
    · next files hfiles =>
      cases hrun
      obtain ⟨hcan, rfl⟩ := eq_putFile_of_write hs (Slot.isPlain_name id)
        declarationsName_mem_built hstraight hfiles
      have hne : s.slotFile (Slot.name id) Wrapper.wasmName ≠
          s.slotFile (Slot.name id) BuildRoot.declarationsName :=
        fun heq => absurd (slotFile_inj heq).2 (by decide)
      show (h.files.putFile _ _).entryAt (s.slotFile (Slot.name id) Wrapper.wasmName) = _
      rw [entryAt_putFile (ne_nil_of_canHold hcan), if_neg hne]
      exact hfile
    · cases hrun
  · cases hrun
    exact hfile

include hs in
/-- A transform that succeeds in a straight slot leaves there what the compiler wrote for the source of
the module. -/
theorem binary_of_transform {code : Text} {h h' : Host} {r : Result}
    (hstraight : s.Straight (Slot.name id) h.files) (hunit : Directive.extract code = .ok unit)
    (hrun : (transform s code id).run.run h = (.ok (some r), h')) (hdeliver : Delivers s code id h) :
    ∃ wasm, (h.toolchain.answer (s.slotWords (Slot.name id))
        (Utf8.encode (Go.wrap unit))).written = some wasm ∧
      h'.files.read (s.binary (Slot.name id)) = .ok wasm := by
  obtain ⟨unit', warnings, h₁, h₂, h₃, hunit', hprepare, hwrite, hcompile, hdecl, rfl⟩ :=
    phases_of_build (build_of_transform hrun)
  obtain rfl : unit = unit' := Except.ok.inj (hunit.symm.trans hunit')
  -- the slot is straight before each of the phases
  have hstraight₁ : s.Straight (Slot.name id) h₁.files := by
    have hspares : Spares s (Slot.name id) h _ := spares_prepare code id h
    rw [hprepare] at hspares
    exact (hspares hstraight).links.straight hstraight
  have hstraight₃ : s.Straight (Slot.name id) h₃.files := by
    have hsource := spares_writeSource hs id unit h₁ hstraight₁
    rw [hwrite] at hsource
    have hbinary := spares_compile hs id unit h₂ (hsource.links.straight hstraight₁)
    rw [hcompile] at hbinary
    exact hbinary.links.straight (hsource.links.straight hstraight₁)
  have htoolchain₁ : h₁.toolchain = h.toolchain := by
    rw [run_prepare, hunit] at hprepare
    dsimp only at hprepare
    split at hprepare <;> cases hprepare
    rfl
  -- the compiler is given the source
  have hdelivers := hdeliver _ h₁ h₂ hprepare hwrite
  rw [run_writeSource, goFile_jobOf hs] at hwrite
  split at hwrite
  · next files hfiles =>
    cases hwrite
    have hsource : ({ h₁ with files } : Host).sourceOf (s.slotWords (Slot.name id)) =
        Utf8.encode (Go.wrap unit) :=
      sourceOf_of_read hs (Slot.isPlain_name id)
        (read_of_write (isResolved_slotFile hs (Slot.isPlain_name id) goName_mem_built) hfiles)
    obtain ⟨wasm, hwritten, hread⟩ := read_of_compile hs hcompile hdelivers
    rw [goFile_jobOf hs, wasmFile_jobOf hs] at hwritten
    rw [wasmFile_jobOf hs] at hread
    refine ⟨wasm, ?_, read_of_writeDeclarations hs id unit hstraight₃ hread hdecl⟩
    rw [← htoolchain₁, ← hsource]
    exact hwritten
  · cases hwrite

end EmbeddedGo.Transform
