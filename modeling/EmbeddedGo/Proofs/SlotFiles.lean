/-
EmbeddedGo.Proofs.SlotFiles — actions that see and change the files of one slot only.

While a transform holds its slot it writes a source, has it compiled and writes declarations. What
that comes to depends on the files of the slot alone, and changes no other entry (`Confined`). Two
conditions make it so. No link stands on the way to a file of a slot, or two slots could share one.
And whether the compiler starts does not depend on what the library makes (`Ground`).

  §1 the files of slots
  §2 hosts that came from one host
  §3 actions that are confined to a slot
  §4 writing a file of a slot
  §5 compiling in a slot
-/
import EmbeddedGo.Proofs.Calls
import EmbeddedGo.Proofs.WayDown

namespace EmbeddedGo

open FileTree

/-! ## §1 The files of slots -/

namespace Transform

/-- The place of a file in a slot. -/
def Settings.slotFile (s : Settings) (slot name : Text) : Place :=
  s.buildRoot.names ++ [slot] ++ [name]

/-- The names of the files that a transform makes. -/
def builtNames : List Text := [BuildRoot.goName, Wrapper.wasmName, BuildRoot.declarationsName]

/-- Outside of the build root the trees are the same, but for directories on the way to it. -/
structure Settings.Outside (s : Settings) (t t' : FileTree) : Prop where
  keeps : t.Keeps t'
  here : t'.here = t.here
  entries : ∀ q, ¬ s.buildRoot.names <+: q → ¬ q <+: s.buildRoot.names →
    t'.entryAt q = t.entryAt q

/-- What a host has to be like for slots to be apart. -/
structure Ground (s : Settings) (h : Host) (slots : List Text) : Prop where
  tidy : h.files.IsTidy
  fits : ∀ n ∈ s.buildRoot.names, Fits n
  straight : ∀ slot ∈ slots, ∀ name ∈ builtNames, h.files.IsStraight (s.slotFile slot name)
  /-- Whether the compiler starts depends on its arguments only. -/
  start : ∀ files, s.Outside h.files files → ∀ args,
    ({ h with files } : Host).start? s.compiler.command args = h.start? s.compiler.command args

variable {s : Settings}

theorem slotFile_inj {slot slot' name name' : Text}
    (h : s.slotFile slot name = s.slotFile slot' name') : slot = slot' ∧ name = name' := by
  obtain ⟨hinit, hname⟩ := List.append_inj' h rfl
  obtain ⟨-, hslot⟩ := List.append_inj' hinit rfl
  exact ⟨List.singleton_inj.1 hslot, List.singleton_inj.1 hname⟩

/-- The way to a slot holds no files of slots. -/
theorem ne_slotFile_of_above {q : Place} {slot : Text} (hq : q <+: s.buildRoot.names ++ [slot])
    (slot' name : Text) : q ≠ s.slotFile slot' name := by
  rintro rfl
  have hlength := hq.length_le
  simp [Settings.slotFile] at hlength

theorem isPlain_of_built {name : Text} (h : name ∈ builtNames) : Path.IsPlain name := by
  simp only [builtNames, List.mem_cons, List.not_mem_nil, or_false] at h
  rcases h with rfl | rfl | rfl
  · exact isPlain_goName
  · exact isPlain_wasmName
  · exact isPlain_declarationsName

theorem fits_of_built {name : Text} (h : name ∈ builtNames) : Fits name := by
  simp only [builtNames, List.mem_cons, List.not_mem_nil, or_false] at h
  rcases h with rfl | rfl | rfl
  · unfold Fits; decide
  · unfold Fits; decide
  · unfold Fits; decide

/-! ## §2 Hosts -/

/-- A way down that somebody opened or could open. -/
structure IsWay (s : Settings) (h₀ : Host) (way : Place) : Prop where
  free : h₀.files.IsFree way
  down : ∃ slot, way <+: s.buildRoot.names ++ [slot]

/-- What some transforms made of a host: directories on the ways to their slots, and files in these. -/
structure Grown (s : Settings) (h₀ : Host) (slots : List Text) (ways : List Place) (h : Host) :
    Prop where
  down : ∀ way ∈ ways, IsWay s h₀ way
  entries : ∀ q, (∀ slot name, q ≠ s.slotFile slot name) →
    h.files.entryAt q = if ∃ way ∈ ways, q <+: way then some .directory else h₀.files.entryAt q
  unlinked : ∀ slot ∈ slots, ∀ name ∈ builtNames, ∀ target,
    h.files.entryAt (s.slotFile slot name) ≠ some (.link target)
  keeps : h₀.files.Keeps h.files
  toolchain : h.toolchain = h₀.toolchain
  searched : h.searched = h₀.searched
  here : h.files.here = h₀.files.here

/-- The later host differs in the files of one slot only. -/
structure Beside (s : Settings) (slot : Text) (h h' : Host) : Prop where
  entries : ∀ q, (∀ name, q ≠ s.slotFile slot name) → h'.files.entryAt q = h.files.entryAt q
  unlinked : ∀ name target, h'.files.entryAt (s.slotFile slot name) = some (.link target) →
    h.files.entryAt (s.slotFile slot name) = some (.link target)
  keeps : h.files.Keeps h'.files
  toolchain : h'.toolchain = h.toolchain
  searched : h'.searched = h.searched
  here : h'.files.here = h.files.here

/-- The files of a slot are the same on both hosts. -/
def Alike (s : Settings) (slot : Text) (g h : Host) : Prop :=
  ∀ name, g.files.entryAt (s.slotFile slot name) = h.files.entryAt (s.slotFile slot name)

theorem Alike.refl (s : Settings) (slot : Text) (h : Host) : Alike s slot h h := fun _ => rfl

theorem Alike.symm {slot : Text} {g h : Host} (hgh : Alike s slot g h) : Alike s slot h g :=
  fun name => (hgh name).symm

theorem Alike.trans {slot : Text} {a b c : Host} (hab : Alike s slot a b) (hbc : Alike s slot b c) :
    Alike s slot a c :=
  fun name => (hab name).trans (hbc name)

theorem Beside.refl (s : Settings) (slot : Text) (h : Host) : Beside s slot h h :=
  ⟨fun _ _ => rfl, fun _ _ hl => hl, .refl _, rfl, rfl, rfl⟩

theorem Beside.trans {slot : Text} {a b c : Host} (hab : Beside s slot a b)
    (hbc : Beside s slot b c) : Beside s slot a c where
  entries := fun q hq => (hbc.entries q hq).trans (hab.entries q hq)
  unlinked := fun name target hl => hab.unlinked name target (hbc.unlinked name target hl)
  keeps := hab.keeps.trans hbc.keeps
  toolchain := hbc.toolchain.trans hab.toolchain
  searched := hbc.searched.trans hab.searched
  here := hbc.here.trans hab.here

/-- Other slots look as before. -/
theorem Beside.alike {slot other : Text} {h h' : Host} (hb : Beside s slot h h')
    (hne : other ≠ slot) : Alike s other h' h :=
  fun _ => hb.entries _ fun _ heq => hne (slotFile_inj heq).1

section Grown

variable {h₀ h h' : Host} {slots : List Text} {ways : List Place} {slot : Text}

theorem Grown.refl (hground : Ground s h₀ slots) : Grown s h₀ slots [] h₀ where
  down := by simp
  entries := by simp
  unlinked := fun slot hslot name hname => hground.straight slot hslot name hname _ (List.prefix_refl _)
  keeps := .refl _
  toolchain := rfl
  searched := rfl
  here := rfl

theorem Grown.beside (hg : Grown s h₀ slots ways h) (hb : Beside s slot h h') :
    Grown s h₀ slots ways h' where
  down := hg.down
  entries := fun q hq => by rw [hb.entries q (hq slot), hg.entries q hq]
  unlinked := by
    intro other hother name hname target hl
    by_cases hslot : other = slot
    · rw [hslot] at hl hother
      exact hg.unlinked slot hother name hname target (hb.unlinked name target hl)
    · exact hg.unlinked other hother name hname target (by rw [← hb.alike hslot name, hl])
  keeps := hg.keeps.trans hb.keeps
  toolchain := hb.toolchain.trans hg.toolchain
  searched := hb.searched.trans hg.searched
  here := hb.here.trans hg.here

theorem Grown.outside (hg : Grown s h₀ slots ways h) : s.Outside h₀.files h.files where
  keeps := hg.keeps
  here := hg.here
  entries := by
    intro q hbelow habove
    rw [hg.entries q, if_neg]
    · rintro ⟨way, hway, hq⟩
      obtain ⟨slot, hdown⟩ := (hg.down way hway).down
      rcases List.prefix_concat_iff.1 (hq.trans hdown) with rfl | hq
      · exact hbelow (List.prefix_append ..)
      · exact habove hq
    · rintro slot name rfl
      exact hbelow ⟨[slot] ++ [name], by rw [Settings.slotFile, List.append_assoc]⟩

end Grown

/-! ## §3 Confined actions -/

theorem start?_congr {g h : Host} (hf : g.files = h.files) (ht : g.toolchain = h.toolchain)
    (hs : g.searched = h.searched) (command : Text) (args : List Text) :
    g.start? command args = h.start? command args := by
  have hat : ∀ word, g.startAt word = h.startAt word := by
    intro word
    rw [Host.startAt, Host.startAt, hf, ht]
  have hfirst : ∀ words last, g.startFirst last words = h.startFirst last words := by
    intro words
    induction words with
    | nil => intro last; rfl
    | cons word words ih =>
      intro last
      rw [Host.startFirst, Host.startFirst, hat]
      simp only [ih]
  rw [Host.start?, Host.start?, hfirst, Host.candidates, Host.candidates, hs]

/-- A compiler that stands behind no link and beside the build root starts, or does not, whatever
transforms make. -/
theorem start?_of_keeps {h : Host} {names : List Text} {last : Text} {content : Bytes}
    (hn : ∀ n ∈ names ++ [last], Path.IsPlain n) (hf : ∀ n ∈ names ++ [last], Fits n)
    (hr : refused? (Path.ofNames (names ++ [last])) = none)
    (hcommand : s.compiler.command = (Path.ofNames (names ++ [last])).text)
    (hopen : h.files.IsOpen names)
    (hfile : h.files.entryAt (names ++ [last]) = some (.file content))
    {files : FileTree} (hkeeps : h.files.Keeps files) (args : List Text) :
    ({ h with files } : Host).start? s.compiler.command args = h.start? s.compiler.command args := by
  obtain ⟨content', hfile'⟩ := hkeeps.files _ _ hfile
  have hopen' : files.IsOpen names := fun q hq => hkeeps.directories q (hopen q hq)
  obtain ⟨m, hitem⟩ := entryAt_eq_some hfile
  obtain ⟨m', hitem'⟩ := entryAt_eq_some hfile'
  have hat : ({ h with files } : Host).startAt s.compiler.command =
      h.startAt s.compiler.command := by
    rw [Host.startAt, Host.startAt, hcommand, locateWord_text _ hn, locateWord_text _ hn,
      locate_open true hn hf hr hopen (by simp [hfile]),
      locate_open true hn hf hr hopen' (by simp [hfile']), hitem, hitem']
  have hslash : s.compiler.command.contains '/' = true := by
    rw [hcommand, Path.text_ofNames]
    rfl
  rw [Host.start?, Host.start?, Host.candidates, Host.candidates, if_pos hslash]
  simp only [Host.startFirst, hat]

/-- A host that a transform can work on that holds the slot. -/
structure Workable (s : Settings) (h₀ : Host) (slots : List Text) (slot : Text) (h : Host) :
    Prop where
  grown : ∃ ways, Grown s h₀ slots ways h
  opened : h.files.IsOpen (s.buildRoot.names ++ [slot])

theorem Workable.beside {h₀ h h' : Host} {slots : List Text} {slot : Text}
    (hw : Workable s h₀ slots slot h) (hb : Beside s slot h h') : Workable s h₀ slots slot h' where
  grown := hw.grown.imp fun _ hg => hg.beside hb
  opened := fun q hq => hb.keeps.directories q (hw.opened q hq)

/-- Whether what an action comes to depends on the files of the slot only, and it changes no others. -/
def Confined {α : Type} (s : Settings) (h₀ : Host) (slots : List Text) (slot : Text)
    (x : StateM Host α) : Prop :=
  ∀ g h, Workable s h₀ slots slot g → Workable s h₀ slots slot h → Alike s slot g h →
    (x.run g).1 = (x.run h).1 ∧ Alike s slot (x.run g).2 (x.run h).2 ∧ Beside s slot g (x.run g).2

section Confined

variable {α β : Type} {h₀ : Host} {slots : List Text} {slot : Text}

theorem Confined.pure (a : α) : Confined s h₀ slots slot (Pure.pure a) :=
  fun g _ _ _ halike => ⟨rfl, halike, .refl s slot g⟩

theorem Confined.bind {x : StateM Host α} {f : α → StateM Host β}
    (hx : Confined s h₀ slots slot x) (hf : ∀ a, Confined s h₀ slots slot (f a)) :
    Confined s h₀ slots slot (x >>= f) := by
  intro g h hg hh halike
  obtain ⟨hsame, halike', hbeside⟩ := hx g h hg hh halike
  have hbeside' := (hx h h hh hh (.refl s slot h)).2.2
  obtain ⟨hsame₂, halike₂, hbeside₂⟩ :=
    hf (x.run g).1 _ _ (hg.beside hbeside) (hh.beside hbeside') halike'
  refine ⟨?_, ?_, hbeside.trans hbeside₂⟩
  · show ((f (x.run g).1).run (x.run g).2).1 = ((f (x.run h).1).run (x.run h).2).1
    rw [hsame₂, hsame]
  · show Alike s slot ((f (x.run g).1).run (x.run g).2).2 ((f (x.run h).1).run (x.run h).2).2
    rw [hsame] at halike₂ ⊢
    exact halike₂

/-- The same of actions that can fail. -/
theorem Confined.bind_action {x : Action α} {f : α → Action β}
    (hx : Confined s h₀ slots slot x.run) (hf : ∀ a, Confined s h₀ slots slot (f a).run) :
    Confined s h₀ slots slot (x >>= f).run := by
  show Confined s h₀ slots slot (x.run >>= ExceptT.bindCont f)
  refine hx.bind fun a => ?_
  cases a with
  | ok a => exact hf a
  | error e => exact .pure _

theorem Confined.throw (e : Error) :
    Confined s h₀ slots slot (MonadExcept.throw e : Action α).run := .pure _

theorem Confined.tryCatch {x : Action α} {f : Error → Action α}
    (hx : Confined s h₀ slots slot x.run) (hf : ∀ e, Confined s h₀ slots slot (f e).run) :
    Confined s h₀ slots slot (MonadExcept.tryCatch x f).run := by
  simp only [MonadExcept.tryCatch, tryCatchThe, MonadExceptOf.tryCatch, ExceptT.tryCatch, ExceptT.run,
    ExceptT.mk]
  refine hx.bind fun a => ?_
  cases a with
  | ok a => exact .pure _
  | error e => exact hf e

/-- The working directory is the same on all hosts. -/
theorem confined_here :
    Confined s h₀ slots slot (do return (← get).files.here : Action (List Text)).run := by
  intro g h hg hh halike
  obtain ⟨_, hg⟩ := hg.grown
  obtain ⟨_, hh⟩ := hh.grown
  refine ⟨?_, halike, .refl s slot g⟩
  show Except.ok g.files.here = Except.ok h.files.here
  rw [hg.here, hh.here]

end Confined

/-! ## §4 Writing -/

section Writing

variable {h₀ g h : Host} {slots : List Text} {slot name : Text}

/-- What stands in the way of every path to a file of a slot, whatever the tree. -/
def Settings.refusedFile? (s : Settings) (slot name : Text) : Option Refusal :=
  refused? (Path.ofNames (s.slotFile slot name))

variable (hs : s.buildRoot.IsResolved) (hground : Ground s h₀ slots) (hslot : slot ∈ slots)
  (hplain : Path.IsPlain slot) (hfits : Fits slot) (hname : name ∈ builtNames)

include hs hplain hname in
theorem plain_of_mem_slotFile : ∀ n ∈ s.slotFile slot name, Path.IsPlain n := by
  intro n hn
  rcases List.mem_append.1 hn with hn | hn
  · rcases List.mem_append.1 hn with hn | hn
    · exact hs.plain n hn
    · exact List.mem_singleton.1 hn ▸ hplain
  · exact List.mem_singleton.1 hn ▸ isPlain_of_built hname

include hs hground hslot hplain hfits hname in
/-- The path of a file of a slot leads there. -/
theorem locate_slotFile (hw : Workable s h₀ slots slot h) :
    h.files.locate true (Path.ofNames (s.slotFile slot name)) =
      match s.refusedFile? slot name with
      | some e => .error e
      | none => .ok (s.slotFile slot name, h.files.get? (s.slotFile slot name)) := by
  have hn := plain_of_mem_slotFile hs hplain hname
  have hf : ∀ n ∈ s.slotFile slot name, Fits n := by
    intro n hn
    rcases List.mem_append.1 hn with hn | hn
    · rcases List.mem_append.1 hn with hn | hn
      · exact hground.fits n hn
      · exact List.mem_singleton.1 hn ▸ hfits
    · exact List.mem_singleton.1 hn ▸ fits_of_built hname
  obtain ⟨ways, hg⟩ := hw.grown
  unfold Settings.refusedFile?
  match hr : refused? (Path.ofNames (s.slotFile slot name)) with
  | some e => rw [locate_resolved h.files true ⟨rfl, hn⟩, hr]
  | none => exact locate_open true hn hf hr hw.opened (hg.unlinked slot hslot name hname)

include hs hground hslot hplain hfits hname in
theorem write_slotFile (hw : Workable s h₀ slots slot h) (content : Bytes) :
    h.files.write (Path.ofNames (s.slotFile slot name)) content =
      match s.refusedFile? slot name with
      | some e => .error { refusal := e, path := (Path.ofNames (s.slotFile slot name)).text }
      | none =>
        if CanHold (h.files.entryAt (s.slotFile slot name)) then
          .ok (h.files.putFile (s.slotFile slot name) content)
        else
          .error { refusal := .isDirectory, path := (Path.ofNames (s.slotFile slot name)).text } := by
  rw [write_eq, locate_slotFile hs hground hslot hplain hfits hname hw]
  cases s.refusedFile? slot name <;> rfl

theorem beside_of_putFile {h' : Host} {content : Bytes}
    (hcan : CanHold (h.files.entryAt (s.slotFile slot name)) = true)
    (hfiles : h'.files = h.files.putFile (s.slotFile slot name) content)
    (ht : h'.toolchain = h.toolchain) (hd : h'.searched = h.searched) : Beside s slot h h' := by
  have hp := ne_nil_of_canHold hcan
  refine ⟨fun q hq => ?_, fun name' target hl => ?_, ?_, ht, hd, ?_⟩
  · rw [hfiles, entryAt_putFile hp, if_neg (hq name)]
  · rw [hfiles, entryAt_putFile hp] at hl
    split at hl
    · cases hl
    · exact hl
  · rw [hfiles]
    exact keeps_putFile hcan content
  · rw [hfiles, here_putFile]

/-- The same file in both slots leaves them alike. -/
theorem alike_of_putFile {g' h' : Host} {content : Bytes} (halike : Alike s slot g h)
    (hcan : CanHold (h.files.entryAt (s.slotFile slot name)) = true)
    (hg : g'.files = g.files.putFile (s.slotFile slot name) content)
    (hh : h'.files = h.files.putFile (s.slotFile slot name) content) : Alike s slot g' h' := by
  intro name'
  have hp := ne_nil_of_canHold hcan
  rw [hg, hh, entryAt_putFile hp, entryAt_putFile hp, halike name']

include hs hground hslot hplain hfits hname in
theorem confined_write (content : Bytes) :
    Confined s h₀ slots slot
      (Host.writeBytes (Path.ofNames (s.slotFile slot name)) content).run := by
  intro g h hg hh halike
  show ((Host.change _).run.run g).1 = ((Host.change _).run.run h).1 ∧
    Alike s slot ((Host.change _).run.run g).2 ((Host.change _).run.run h).2 ∧
    Beside s slot g ((Host.change _).run.run g).2
  rw [Host.run_change, Host.run_change,
    write_slotFile hs hground hslot hplain hfits hname hg,
    write_slotFile hs hground hslot hplain hfits hname hh, halike name]
  cases s.refusedFile? slot name with
  | some e => exact ⟨rfl, halike, .refl s slot g⟩
  | none =>
    dsimp only
    by_cases hcan : CanHold (h.files.entryAt (s.slotFile slot name)) = true
    · rw [if_pos hcan, if_pos hcan]
      exact ⟨rfl, alike_of_putFile halike hcan rfl rfl,
        beside_of_putFile ((halike name).symm ▸ hcan) rfl rfl rfl⟩
    · rw [if_neg hcan, if_neg hcan]
      exact ⟨rfl, halike, .refl s slot g⟩

end Writing

/-! ## §5 Compiling -/

section Compiling

variable {h₀ g h : Host} {slots : List Text} {slot : Text}
  (hs : s.buildRoot.IsResolved) (hground : Ground s h₀ slots) (hslot : slot ∈ slots)
  (hplain : Path.IsPlain slot) (hfits : Fits slot)

/-- The command line that compiles the source of a slot. -/
def Settings.slotWords (s : Settings) (slot : Text) : List Text :=
  s.compiler.buildWords (Path.ofNames (s.slotFile slot BuildRoot.goName)).text
    (Path.ofNames (s.slotFile slot Wrapper.wasmName)).text

theorem goName_mem_built : BuildRoot.goName ∈ builtNames := by simp [builtNames]

theorem wasmName_mem_built : Wrapper.wasmName ∈ builtNames := by simp [builtNames]

theorem declarationsName_mem_built : BuildRoot.declarationsName ∈ builtNames := by
  simp [builtNames]

include hs hground hslot hplain hfits in
/-- The compiler reads the source of the slot. -/
theorem sourceOf_slotWords (hw : Workable s h₀ slots slot h) :
    h.sourceOf (s.slotWords slot) =
      match s.refusedFile? slot BuildRoot.goName,
          h.files.entryAt (s.slotFile slot BuildRoot.goName) with
      | none, some (.file content) => content
      | _, _ => [] := by
  have hlast : (s.slotWords slot).getLast?.getD [] =
      (Path.ofNames (s.slotFile slot BuildRoot.goName)).text := rfl
  rw [Host.sourceOf, hlast, Settings.slotFile,
    locateWord_text h.files (plain_of_mem_slotFile hs hplain goName_mem_built)]
  rw [show s.buildRoot.names ++ [slot] ++ [BuildRoot.goName] = s.slotFile slot BuildRoot.goName
    from rfl, locate_slotFile hs hground hslot hplain hfits goName_mem_built hw]
  cases s.refusedFile? slot BuildRoot.goName with
  | some e => rfl
  | none =>
    unfold entryAt
    match h.files.get? (s.slotFile slot BuildRoot.goName) with
    | none => rfl
    | some ⟨.file content, m⟩ => rfl
    | some ⟨.directory, m⟩ => rfl
    | some ⟨.link target, m⟩ => rfl

include hs hground hslot hplain hfits in
theorem writeWord_slotFile (hw : Workable s h₀ slots slot h) (content : Bytes) :
    h.files.writeWord (Path.ofNames (s.slotFile slot Wrapper.wasmName)).text content =
      match s.refusedFile? slot Wrapper.wasmName with
      | some e => .error e
      | none =>
        if CanHold (h.files.entryAt (s.slotFile slot Wrapper.wasmName)) then
          .ok (h.files.putFile (s.slotFile slot Wrapper.wasmName) content)
        else .error .isDirectory := by
  obtain ⟨ways, hg⟩ := hw.grown
  have hlink := hg.unlinked slot hslot _ wasmName_mem_built
  have hword : h.files.locateWord (Path.ofNames (s.slotFile slot Wrapper.wasmName)).text =
      h.files.locate true (Path.ofNames (s.slotFile slot Wrapper.wasmName)) :=
    locateWord_text h.files (plain_of_mem_slotFile hs hplain wasmName_mem_built)
  have hbare : withoutSlashes (Path.ofNames (s.slotFile slot Wrapper.wasmName)).text =
      (Path.ofNames (s.slotFile slot Wrapper.wasmName)).text :=
    withoutSlashes_text isPlain_wasmName
  rw [writeWord_eq h.files hbare, hword,
    locate_slotFile hs hground hslot hplain hfits wasmName_mem_built hw]
  cases s.refusedFile? slot Wrapper.wasmName with
  | some e => rfl
  | none =>
    dsimp only
    match he : h.files.entryAt (s.slotFile slot Wrapper.wasmName) with
    | none => simp [CanHold]
    | some (.file _) => simp [CanHold]
    | some .directory => simp [CanHold]
    | some (.link target) => exact absurd he (hlink target)

include hs hground hslot hplain hfits in
/-- A run of the compiler is confined to the slot, once the compiler was started. -/
theorem confined_ran (hg : Workable s h₀ slots slot g) (hh : Workable s h₀ slots slot h)
    (halike : Alike s slot g h) (program : Text) :
    (g.ran program (s.slotWords slot)).1 = (h.ran program (s.slotWords slot)).1 ∧
      Alike s slot (g.ran program (s.slotWords slot)).2 (h.ran program (s.slotWords slot)).2 ∧
      Beside s slot g (g.ran program (s.slotWords slot)).2 := by
  obtain ⟨_, hgrown⟩ := hg.grown
  obtain ⟨_, hgrown'⟩ := hh.grown
  have htoolchain : g.toolchain = h.toolchain := hgrown.toolchain.trans hgrown'.toolchain.symm
  have hsource : g.sourceOf (s.slotWords slot) = h.sourceOf (s.slotWords slot) := by
    rw [sourceOf_slotWords hs hground hslot hplain hfits hg,
      sourceOf_slotWords hs hground hslot hplain hfits hh, halike]
  have houtput : Host.outputOf (s.slotWords slot) =
      some (Path.ofNames (s.slotFile slot Wrapper.wasmName)).text :=
    s.compiler.outputOf_buildWords ..
  simp only [Host.ran, Host.writeOutput, hsource, htoolchain, houtput]
  cases (h.toolchain.answer (s.slotWords slot) (h.sourceOf (s.slotWords slot))).written with
  | none => exact ⟨rfl, halike, fun _ _ => rfl, fun _ _ hl => hl, .refl _, htoolchain ▸ rfl, rfl, rfl⟩
  | some content =>
    dsimp only
    rw [writeWord_slotFile hs hground hslot hplain hfits hg,
      writeWord_slotFile hs hground hslot hplain hfits hh, halike]
    cases s.refusedFile? slot Wrapper.wasmName with
    | some e =>
      exact ⟨rfl, halike, fun _ _ => rfl, fun _ _ hl => hl, .refl _, htoolchain ▸ rfl, rfl, rfl⟩
    | none =>
      dsimp only
      by_cases hcan : CanHold (h.files.entryAt (s.slotFile slot Wrapper.wasmName)) = true
      · rw [if_pos hcan, if_pos hcan]
        exact ⟨rfl, alike_of_putFile halike hcan rfl rfl,
          beside_of_putFile ((halike _).symm ▸ hcan) rfl (htoolchain ▸ rfl) rfl⟩
      · rw [if_neg hcan, if_neg hcan]
        exact ⟨rfl, halike, fun _ _ => rfl, fun _ _ hl => hl, .refl _, htoolchain ▸ rfl, rfl, rfl⟩

include hground in
/-- Whether the compiler starts is the same on all hosts. -/
theorem start?_workable (hw : Workable s h₀ slots slot h) (args : List Text) :
    h.start? s.compiler.command args = h₀.start? s.compiler.command args := by
  obtain ⟨_, hg⟩ := hw.grown
  rw [← hground.start h.files hg.outside args]
  exact start?_congr (g := h) (h := { h₀ with files := h.files }) rfl hg.toolchain hg.searched _ _

include hs hground hslot hplain hfits in
theorem confined_run : Confined s h₀ slots slot (s.compiler.run (s.slotWords slot)).run := by
  intro g h hg hh halike
  rw [s.compiler.run_run, s.compiler.run_run, start?_workable hground hg, start?_workable hground hh]
  cases h₀.start? s.compiler.command (s.slotWords slot) with
  | ok program => 
    obtain ⟨hsame, halike', hbeside⟩ := confined_ran hs hground hslot hplain hfits hg hh halike program
    exact ⟨congrArg Except.ok hsame, halike', hbeside⟩
  | error e =>
    cases e with
    | _ => exact ⟨rfl, halike, .refl s slot g⟩

include hs hground hslot hplain hfits in
theorem confined_compile :
    Confined s h₀ slots slot
      (s.compiler.compile (Path.ofNames (s.slotFile slot BuildRoot.goName)).text
        (Path.ofNames (s.slotFile slot Wrapper.wasmName)).text).run := by
  refine .bind_action (confined_run hs hground hslot hplain hfits) fun a => ?_
  split
  · exact .pure _
  · exact .throw _

end Compiling

end Transform
end EmbeddedGo
