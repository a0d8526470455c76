/-
EmbeddedGo.Proofs.Sequence — transforms one after the other.

What a transform comes to that goes on alone is the same before each of its phases and behind it
(`rest_step`), so it can be said of a transform in the middle. A transform that never gets to its
slot ends in a way that was clear from the start (`early?`), and one that does comes to what the
files of its slot make of it. So of all that came before it, only the transforms in its own slot
count (`agrees_sequence`).

  §1 what is left of a transform
  §2 the way to a slot
  §3 the first phase
  §4 the phases in a slot
  §5 one transform
  §6 several transforms
-/
import EmbeddedGo.Proofs.SlotFiles

namespace EmbeddedGo.Transform

open FileTree

/-! ## §1 What is left -/

/-- A failure that names the module it came from. -/
def naming {α : Type} (id : Text) (x : Action α) : Action α :=
  tryCatch x fun e => throw (.transform id e)

/-- What a transform has still to do. -/
def Stage.rest (s : Settings) : Stage → Action (Option Result)
  | ready code id => transform s code id
  | waiting j | holding j => naming j.id do
      writeSource j
      let warnings ← compile s j
      writeDeclarations s j
      return some (j.result s (← get).files.here warnings)
  | written j => naming j.id do
      let warnings ← compile s j
      writeDeclarations s j
      return some (j.result s (← get).files.here warnings)
  | compiled j warnings => naming j.id do
      writeDeclarations s j
      return some (j.result s (← get).files.here warnings)
  | leaving _ outcome | ended outcome => ExceptT.mk (pure outcome)

variable {s : Settings}

theorem run_naming {α : Type} (id : Text) (x : Action α) (h : Host) :
    (naming id x).run.run h =
      match x.run.run h with
      | (.ok a, h') => (.ok a, h')
      | (.error e, h') => (.error (.transform id e), h') := by
  rw [naming, run_tryCatch]
  rcases x.run.run h with ⟨e | a, h'⟩ <;> rfl

theorem run_act {α : Type} (phase : Action α) (next : Except Error α → Stage) (d : Shared) :
    (Shared.act phase next).run d =
      (next (phase.run.run d.host).1, { d with host := (phase.run.run d.host).2 }) := rfl

theorem run_step_waiting (j : Job) (d : Shared) :
    ((Stage.waiting j).step s).run d =
      if d.isHeld j.slot then (.waiting j, d) else (.holding j, d.setHeld j.slot true) := rfl

theorem transform_of_not_present {code : Text} (h : Directive.isPresent code = false)
    (id : Text) : transform s code id = return none := by
  rw [transform, h, if_neg (by simp)]

/-- A transform is its first phase and then the others. -/
theorem run_transform_of_present {code : Text} (hp : Directive.isPresent code = true) (id : Text)
    (h : Host) :
    (transform s code id).run.run h =
      match (prepare s code id).run.run h with
      | (.ok j, h') => ((Stage.waiting j).rest s).run.run h'
      | (.error e, h') => (.error (.transform id e), h') := by
  rw [transform, if_pos hp, run_tryCatch, run_bind, build, run_bind]
  rcases hrun : (prepare s code id).run.run h with ⟨e | j, h'⟩
  · rfl
  · obtain ⟨unit, -, rfl⟩ := eq_jobOf_of_prepare hrun
    dsimp only
    rw [Stage.rest, run_naming]
    simp only [run_bind]
    rcases (writeSource (jobOf s id unit)).run.run h' with ⟨e | u, h₁⟩
    · rfl
    · dsimp only
      rcases (compile s (jobOf s id unit)).run.run h₁ with ⟨e | w, h₂⟩
      · rfl
      · dsimp only
        rcases (writeDeclarations s (jobOf s id unit)).run.run h₂ with ⟨e | u, h₃⟩ <;> rfl

/-- A phase more or less, what a transform comes to alone is the same. -/
theorem rest_step (st : Stage) (d : Shared) :
    ((((st.step s).run d).1).rest s).run.run ((st.step s).run d).2.host =
      (st.rest s).run.run d.host := by
  cases st with
  | ready code id =>
    by_cases hp : Directive.isPresent code = true
    · rw [Stage.step, if_pos hp, run_act, Stage.rest, run_transform_of_present hp]
      rcases (prepare s code id).run.run d.host with ⟨e | j, h'⟩ <;> rfl
    · rw [Stage.step, if_neg hp, Stage.rest, transform_of_not_present (by simpa using hp)]
      rfl
  | waiting j =>
    rw [run_step_waiting]
    split <;> rfl
  | holding j =>
    rw [Stage.step, run_act, Stage.rest, run_naming, run_bind]
    rcases (writeSource j).run.run d.host with ⟨e | u, h'⟩
    · rfl
    · dsimp only
      rw [Stage.rest, run_naming]
  | written j =>
    rw [Stage.step, run_act, Stage.rest, run_naming, run_bind]
    rcases (compile s j).run.run d.host with ⟨e | w, h'⟩
    · rfl
    · dsimp only
      rw [Stage.rest, run_naming]
  | compiled j warnings =>
    rw [Stage.step, run_act, Stage.rest, run_naming, run_bind, run_bind]
    rcases (writeDeclarations s j).run.run d.host with ⟨e | u, h'⟩ <;> rfl
  | leaving slot outcome => rfl
  | ended outcome => rfl

/-! ## §2 The way to a slot -/

section Ways

variable {h₀ h h' : Host} {slots : List Text} {ways : List Place} {slot : Text} {way : Place}

theorem Ground.straight_slot (hground : Ground s h₀ slots) (hslot : slot ∈ slots) :
    h₀.files.IsStraight (s.buildRoot.names ++ [slot]) :=
  (hground.straight slot hslot _ goName_mem_built).above (List.prefix_append ..)

theorem Grown.entries_above (hg : Grown s h₀ slots ways h) {q : Place}
    (hq : q <+: s.buildRoot.names ++ [slot]) :
    h.files.entryAt q = if ∃ way ∈ ways, q <+: way then some .directory else h₀.files.entryAt q :=
  hg.entries q (ne_slotFile_of_above hq)

/-- Files are where they were on the way to a slot. -/
theorem Grown.wayDown (hg : Grown s h₀ slots ways h) :
    h.files.wayDown s.buildRoot.names slot = h₀.files.wayDown s.buildRoot.names slot := by
  refine wayDown_congr fun q hq => ?_
  unfold isFileAt
  rw [hg.entries_above hq]
  by_cases hway : ∃ way ∈ ways, q <+: way
  · rw [if_pos hway]
    obtain ⟨way, hmem, hpre⟩ := hway
    rcases (hg.down way hmem).free q hpre with h | h
    · rw [h]
    · rw [h]
  · rw [if_neg hway]

theorem Grown.isTidyTo (hg : Grown s h₀ slots ways h) (hground : Ground s h₀ slots) :
    h.files.IsTidyTo (s.buildRoot.names ++ [slot]) := by
  intro q name hq he
  have hq' : q <+: s.buildRoot.names ++ [slot] := (List.prefix_append ..).trans hq
  rw [hg.entries_above hq] at he
  rw [hg.entries_above hq']
  by_cases hway : ∃ way ∈ ways, q <+: way
  · rw [if_pos hway]
  · rw [if_neg hway]
    rw [if_neg fun ⟨way, hmem, hpre⟩ => hway ⟨way, hmem, (List.prefix_append ..).trans hpre⟩] at he
    exact hground.tidy _ q name hq he

theorem Grown.isFree (hg : Grown s h₀ slots ways h) (hw : IsWay s h₀ way) : h.files.IsFree way := by
  intro q hq
  obtain ⟨slot, hdown⟩ := hw.down
  rw [hg.entries_above (hq.trans hdown)]
  split
  · exact .inr rfl
  · exact hw.free q hq

theorem Grown.isStraight (hg : Grown s h₀ slots ways h) (hground : Ground s h₀ slots)
    (hslot : slot ∈ slots) : h.files.IsStraight (s.buildRoot.names ++ [slot]) := by
  intro q hq target
  rw [hg.entries_above hq]
  split
  · simp
  · exact hground.straight_slot hslot q hq target

/-- The later host has directories on a way down, and is the same otherwise. -/
structure Opened (way : Place) (h h' : Host) : Prop where
  opens : h.files.Opens way h'.files
  toolchain : h'.toolchain = h.toolchain
  searched : h'.searched = h.searched

theorem Opened.refl (h : Host) : Opened [] h h := ⟨.refl (isOpen_nil _), rfl, rfl⟩

/-- Opening a way touches no files of slots. -/
theorem Opened.alike (ho : Opened way h h') (hw : IsWay s h₀ way) : Alike s slot h' h := by
  intro name
  obtain ⟨other, hdown⟩ := hw.down
  rw [ho.opens.entries, if_neg]
  exact fun hpre => ne_slotFile_of_above (hpre.trans hdown) slot name rfl

theorem Grown.opened (hg : Grown s h₀ slots ways h) (hw : IsWay s h₀ way) (ho : Opened way h h') :
    Grown s h₀ slots (ways ++ [way]) h' where
  down := by
    intro w hmem
    rcases List.mem_append.1 hmem with hmem | hmem
    · exact hg.down w hmem
    · exact List.mem_singleton.1 hmem ▸ hw
  entries := by
    intro q hq
    rw [ho.opens.entries, hg.entries q hq]
    by_cases hpre : q <+: way
    · rw [if_pos hpre, if_pos ⟨way, by simp, hpre⟩]
    · rw [if_neg hpre]
      refine if_congr ?_ rfl rfl
      simp [or_and_right, exists_or, hpre]
  unlinked := by
    intro slot hslot name hname target
    rw [ho.alike hw name]
    exact hg.unlinked slot hslot name hname target
  keeps := by
    have hfree := hg.isFree hw
    refine hg.keeps.trans ⟨fun q hq => ?_, fun q target hq => ?_, fun q content hq => ?_⟩
    · rw [ho.opens.entries]
      split
      · rfl
      · exact hq
    · rw [ho.opens.entries, if_neg, hq]
      intro hpre
      rcases hfree q hpre with h | h <;> simp [h] at hq
    · refine ⟨content, ?_⟩
      rw [ho.opens.entries, if_neg, hq]
      intro hpre
      rcases hfree q hpre with h | h <;> simp [h] at hq
  toolchain := ho.toolchain.trans hg.toolchain
  searched := ho.searched.trans hg.searched
  here := ho.opens.here.trans hg.here

end Ways

/-! ## §3 The first phase -/

section First

variable {h₀ h : Host} {slots : List Text} {ways : List Place} {m : Text × Text}

/-- How the transform of a module ends before it asks for its slot, if it does. -/
def early? (s : Settings) (h : Host) (m : Text × Text) : Option (Except Error (Option Result)) :=
  if Directive.isPresent m.1 then
    match Directive.extract m.1 with
    | .error e => some (.error (.transform m.2 e))
    | .ok unit =>
      match (h.files.wayDown s.buildRoot.names (Slot.name m.2)).2 with
      | none => none
      | some refusal =>
        some (.error (.transform m.2 (.fault { refusal, path := (jobOf s m.2 unit).directory.text })))
  else some (.ok none)

/-- How far down it makes directories. -/
def wayOf (s : Settings) (h : Host) (m : Text × Text) : Place :=
  if Directive.isPresent m.1 then
    match Directive.extract m.1 with
    | .error _ => []
    | .ok _ => (h.files.wayDown s.buildRoot.names (Slot.name m.2)).1
  else []

theorem isWay_wayOf (hground : Ground s h₀ slots) (hslot : Slot.name m.2 ∈ slots) :
    IsWay s h₀ (wayOf s h₀ m) := by
  have htop : IsWay s h₀ [] := ⟨(isOpen_nil _).isFree, [], List.nil_prefix⟩
  unfold wayOf
  split
  · split
    · exact htop
    · obtain ⟨hfree, hway⟩ := wayDown_free (hground.straight_slot hslot)
      refine ⟨hfree, Slot.name m.2, ?_⟩
      rcases hway with h | h | h
      · rw [h]
        exact List.nil_prefix
      · rw [h]
        exact List.prefix_append ..
      · rw [h]
  · exact htop

/-- The first phase comes to the same at any time. -/
theorem run_prepare_grown (hs : s.buildRoot.IsResolved) (hground : Ground s h₀ slots)
    (hslot : Slot.name m.2 ∈ slots) (hg : Grown s h₀ slots ways h) {unit : Text}
    (hunit : Directive.extract m.1 = .ok unit) :
    ∃ h', (prepare s m.1 m.2).run.run h =
        (match (h₀.files.wayDown s.buildRoot.names (Slot.name m.2)).2 with
          | none => .ok (jobOf s m.2 unit)
          | some refusal =>
            .error (.fault { refusal, path := (jobOf s m.2 unit).directory.text }), h') ∧
      Opened (h₀.files.wayDown s.buildRoot.names (Slot.name m.2)).1 h h' := by
  obtain ⟨files, hmake, hopens⟩ := makePath_eq (hg.isTidyTo hground)
    (hg.isStraight hground hslot) (plain_of_mem_slot hs m.2) hground.fits
  rw [hg.wayDown] at hmake hopens
  refine ⟨{ h with files }, ?_, hopens, rfl, rfl⟩
  rw [run_prepare, hunit]
  dsimp only
  rw [directory_jobOf hs, hmake]
  cases (h₀.files.wayDown s.buildRoot.names (Slot.name m.2)).2 <;> rfl

/-- The first phase of a transform leads to its slot, or to an end that was clear from the start. -/
theorem step_ready (hs : s.buildRoot.IsResolved) (hground : Ground s h₀ slots)
    (hslot : Slot.name m.2 ∈ slots) {d : Shared} (hg : Grown s h₀ slots ways d.host) :
    ∃ st host, ((Stage.ready m.1 m.2).step s).run d = (st, { d with host }) ∧
      Opened (wayOf s h₀ m) d.host host ∧
      match early? s h₀ m with
      | some outcome => st = .ended outcome
      | none => ∃ unit, Directive.extract m.1 = .ok unit ∧ st = .waiting (jobOf s m.2 unit) := by
  unfold early? wayOf
  by_cases hp : Directive.isPresent m.1 = true
  · rw [Stage.step, if_pos hp, if_pos hp, if_pos hp, run_act]
    match hunit : Directive.extract m.1 with
    | .error e =>
      rw [run_prepare, hunit]
      exact ⟨_, _, rfl, .refl _, rfl⟩
    | .ok unit =>
      obtain ⟨h', hrun, hopened⟩ := run_prepare_grown hs hground hslot hg hunit
      rw [hrun]
      refine ⟨_, _, rfl, hopened, ?_⟩
      cases (h₀.files.wayDown s.buildRoot.names (Slot.name m.2)).2 with
      | none => exact ⟨unit, rfl, rfl⟩
      | some refusal => rfl
  · rw [Stage.step, if_neg hp, if_neg hp, if_neg hp]
    exact ⟨_, _, rfl, .refl _, rfl⟩

/-- Behind the first phase the slot of a transform is open. -/
theorem wayOf_of_not_early (h : early? s h₀ m = none) :
    wayOf s h₀ m = s.buildRoot.names ++ [Slot.name m.2] ∧ Fits (Slot.name m.2) := by
  unfold early? at h
  unfold wayOf
  by_cases hp : Directive.isPresent m.1 = true
  · rw [if_pos hp] at h ⊢
    cases hunit : Directive.extract m.1 with
    | error e =>
      rw [hunit] at h
      cases h
    | ok unit =>
      rw [hunit] at h
      dsimp only at h ⊢
      cases hway : (h₀.files.wayDown s.buildRoot.names (Slot.name m.2)).2 with
      | none =>
        obtain ⟨hplace, hfits, -⟩ := wayDown_of_none hway
        exact ⟨hplace, hfits⟩
      | some refusal =>
        rw [hway] at h
        cases h
  · rw [if_neg hp] at h
    cases h

end First

/-! ## §4 The phases in a slot -/

section Phases

variable {h₀ : Host} {slots : List Text} {id unit : Text}
  (hs : s.buildRoot.IsResolved) (hground : Ground s h₀ slots) (hslot : Slot.name id ∈ slots)
  (hfits : Fits (Slot.name id))

theorem goFile_jobOf (hs : s.buildRoot.IsResolved) (id unit : Text) :
    (jobOf s id unit).goFile = Path.ofNames (s.slotFile (Slot.name id) BuildRoot.goName) :=
  child_directory_jobOf hs id unit isPlain_goName

theorem wasmFile_jobOf (hs : s.buildRoot.IsResolved) (id unit : Text) :
    (jobOf s id unit).wasmFile = Path.ofNames (s.slotFile (Slot.name id) Wrapper.wasmName) :=
  child_directory_jobOf hs id unit isPlain_wasmName

theorem declarations_jobOf (hs : s.buildRoot.IsResolved) (id unit : Text) :
    (jobOf s id unit).declarations =
      Path.ofNames (s.slotFile (Slot.name id) BuildRoot.declarationsName) :=
  child_directory_jobOf hs id unit isPlain_declarationsName

include hs hground hslot hfits

theorem confined_writeSource (unit : Text) :
    Confined s h₀ slots (Slot.name id) (writeSource (jobOf s id unit)).run := by
  rw [writeSource, Host.writeText, goFile_jobOf hs]
  exact confined_write hs hground hslot (Slot.isPlain_name id) hfits goName_mem_built _

theorem confined_compileJob (unit : Text) :
    Confined s h₀ slots (Slot.name id) (compile s (jobOf s id unit)).run := by
  rw [compile, goFile_jobOf hs, wasmFile_jobOf hs]
  exact confined_compile hs hground hslot (Slot.isPlain_name id) hfits

theorem confined_writeDeclarations (unit : Text) :
    Confined s h₀ slots (Slot.name id) (writeDeclarations s (jobOf s id unit)).run := by
  unfold writeDeclarations
  split
  · rw [Host.writeText, declarations_jobOf hs]
    exact confined_write hs hground hslot (Slot.isPlain_name id) hfits declarationsName_mem_built _
  · exact .pure _

omit hs hground hslot hfits in
theorem Confined.naming {α : Type} {slot : Text} {x : Action α}
    (hx : Confined s h₀ slots slot x.run) (id : Text) :
    Confined s h₀ slots slot (naming id x).run :=
  hx.tryCatch fun _ => .throw _

/-- What follows the compiler. -/
theorem confined_end (warnings : List Text) :
    Confined s h₀ slots (Slot.name id)
      (do writeDeclarations s (jobOf s id unit)
          return some ((jobOf s id unit).result s (← get).files.here warnings) :
            Action (Option Result)).run := by
  refine .bind_action (confined_writeDeclarations hs hground hslot hfits unit) fun _ => ?_
  have hhere : (do return some ((jobOf s id unit).result s (← get).files.here warnings) :
      Action (Option Result)) =
      (do return (← get).files.here : Action (List Text)) >>= fun here =>
        return some ((jobOf s id unit).result s here warnings) := by
    simp only [bind_assoc, pure_bind]
  rw [hhere]
  exact .bind_action confined_here fun _ => .pure _

/-- Stages that a transform of a module comes through behind its first phase. -/
inductive Working (s : Settings) (id unit : Text) : Stage → Prop where
  | waiting : Working s id unit (.waiting (jobOf s id unit))
  | holding : Working s id unit (.holding (jobOf s id unit))
  | written : Working s id unit (.written (jobOf s id unit))
  | compiled (warnings : List Text) : Working s id unit (.compiled (jobOf s id unit) warnings)
  | leaving (outcome : Except Error (Option Result)) :
    Working s id unit (.leaving (Slot.name id) outcome)

/-- All that is left of a transform is confined to its slot. -/
theorem confined_rest {st : Stage} (hw : Working s id unit st) :
    Confined s h₀ slots (Slot.name id) (st.rest s).run := by
  have hbehind : ∀ w, Confined s h₀ slots (Slot.name id)
      (do writeDeclarations s (jobOf s id unit)
          return some ((jobOf s id unit).result s (← get).files.here w) :
            Action (Option Result)).run :=
    confined_end hs hground hslot hfits
  have hcompile : Confined s h₀ slots (Slot.name id) (compile s (jobOf s id unit)).run :=
    confined_compileJob hs hground hslot hfits unit
  cases hw with
  | waiting =>
    refine .naming ?_ _
    exact .bind_action (confined_writeSource hs hground hslot hfits unit) fun _ =>
      .bind_action hcompile hbehind
  | holding =>
    refine .naming ?_ _
    exact .bind_action (confined_writeSource hs hground hslot hfits unit) fun _ =>
      .bind_action hcompile hbehind
  | written => exact .naming (.bind_action hcompile hbehind) _
  | compiled warnings => exact .naming (hbehind warnings) _
  | leaving outcome => exact .pure _

end Phases

/-! ## §5 One transform -/

/-- Two runs come to the same and leave the files of a slot alike. -/
structure Agrees {α : Type} (s : Settings) (slot : Text) (x y : α × Host) : Prop where
  outcome : x.1 = y.1
  alike : Alike s slot x.2 y.2

section One

variable {h₀ g h : Host} {slots : List Text} {ways ways' : List Place} {m : Text × Text}
  (hs : s.buildRoot.IsResolved) (hground : Ground s h₀ slots) (hslot : Slot.name m.2 ∈ slots)

include hs hground hslot

/-- A transform opens the way to its slot, and ends as was clear from the start or goes on there. -/
theorem run_transform_grown (hg : Grown s h₀ slots ways h) :
    ∃ h', Opened (wayOf s h₀ m) h h' ∧
      match early? s h₀ m with
      | some outcome => (transform s m.1 m.2).run.run h = (outcome, h')
      | none => ∃ unit, Directive.extract m.1 = .ok unit ∧
          (transform s m.1 m.2).run.run h =
            ((Stage.waiting (jobOf s m.2 unit)).rest s).run.run h' := by
  obtain ⟨st, h', hstep, hopened, hearly⟩ := step_ready hs hground hslot (d := { host := h }) hg
  have hrest := rest_step (s := s) (.ready m.1 m.2) { host := h }
  rw [hstep] at hrest
  refine ⟨h', hopened, ?_⟩
  split at hearly
  · next outcome _ =>
    rw [hearly] at hrest
    exact hrest.symm
  · obtain ⟨unit, hunit, rfl⟩ := hearly
    exact ⟨unit, hunit, hrest.symm⟩

omit hs in
theorem workable_of_opened (hg : Grown s h₀ slots ways h) (ho : Opened (wayOf s h₀ m) h g)
    (hearly : early? s h₀ m = none) : Workable s h₀ slots (Slot.name m.2) g where
  grown := ⟨_, hg.opened (isWay_wayOf hground hslot) ho⟩
  opened := (wayOf_of_not_early hearly).1 ▸ ho.opens.isOpen

theorem grown_transform (hg : Grown s h₀ slots ways h) :
    Grown s h₀ slots (ways ++ [wayOf s h₀ m]) ((transform s m.1 m.2).run.run h).2 := by
  obtain ⟨h', hopened, hrun⟩ := run_transform_grown hs hground hslot hg
  have hgrown := hg.opened (isWay_wayOf hground hslot) hopened
  cases hearly : early? s h₀ m with
  | some outcome =>
    rw [hearly] at hrun
    rwa [hrun]
  | none =>
    rw [hearly] at hrun
    obtain ⟨unit, -, hrun⟩ := hrun
    have hwork := workable_of_opened hground hslot hg hopened hearly
    rw [hrun]
    exact hgrown.beside (confined_rest hs hground hslot (wayOf_of_not_early hearly).2 .waiting
      h' h' hwork hwork (.refl s _ h')).2.2

/-- Slots that a transform does not get to look as before. -/
theorem alike_transform (hg : Grown s h₀ slots ways h) {slot : Text}
    (hother : early? s h₀ m = none → slot ≠ Slot.name m.2) :
    Alike s slot ((transform s m.1 m.2).run.run h).2 h := by
  obtain ⟨h', hopened, hrun⟩ := run_transform_grown hs hground hslot hg
  have halike : Alike s slot h' h := hopened.alike (isWay_wayOf hground hslot)
  cases hearly : early? s h₀ m with
  | some outcome =>
    rw [hearly] at hrun
    rwa [hrun]
  | none =>
    rw [hearly] at hrun
    obtain ⟨unit, -, hrun⟩ := hrun
    have hwork := workable_of_opened hground hslot hg hopened hearly
    rw [hrun]
    exact ((confined_rest hs hground hslot (wayOf_of_not_early hearly).2 .waiting
      h' h' hwork hwork (.refl s _ h')).2.2.alike (hother hearly)).trans halike

/-- What a transform comes to depends on the files of its slot only. -/
theorem agrees_transform (hg : Grown s h₀ slots ways g) (hh : Grown s h₀ slots ways' h)
    (halike : Alike s (Slot.name m.2) g h) :
    Agrees s (Slot.name m.2) ((transform s m.1 m.2).run.run g)
      ((transform s m.1 m.2).run.run h) := by
  obtain ⟨g', hopened, hrun⟩ := run_transform_grown hs hground hslot hg
  obtain ⟨h', hopened', hrun'⟩ := run_transform_grown hs hground hslot hh
  have hway := isWay_wayOf hground hslot
  have halike' : Alike s (Slot.name m.2) g' h' :=
    (hopened.alike hway).trans (halike.trans (hopened'.alike hway).symm)
  cases hearly : early? s h₀ m with
  | some outcome =>
    rw [hearly] at hrun hrun'
    rw [hrun, hrun']
    exact ⟨rfl, halike'⟩
  | none =>
    rw [hearly] at hrun hrun'
    obtain ⟨unit, hunit, hrun⟩ := hrun
    obtain ⟨unit', hunit', hrun'⟩ := hrun'
    obtain rfl : unit = unit' := Except.ok.inj (hunit.symm.trans hunit')
    obtain ⟨hsame, hend, -⟩ := confined_rest hs hground hslot (wayOf_of_not_early hearly).2 .waiting
      g' h' (workable_of_opened hground hslot hg hopened hearly)
      (workable_of_opened hground hslot hh hopened' hearly) halike'
    rw [hrun, hrun']
    exact ⟨hsame, hend⟩

end One

/-! ## §6 Several transforms -/

/-- Transforms one after the other: the outcome of each. -/
def sequence (s : Settings) :
    List (Text × Text) → StateM Host (List (Except Error (Option Result)))
  | [] => return []
  | m :: modules => do
    let outcome ← (transform s m.1 m.2).run
    return outcome :: (← sequence s modules)

/-- The host behind them all. -/
def hostAfter (s : Settings) (h : Host) (modules : List (Text × Text)) : Host :=
  modules.foldl (fun h m => ((transform s m.1 m.2).run.run h).2) h

theorem hostAfter_append (h : Host) (before behind : List (Text × Text)) :
    hostAfter s h (before ++ behind) = hostAfter s (hostAfter s h before) behind :=
  List.foldl_append ..

theorem hostAfter_concat (h : Host) (before : List (Text × Text)) (m : Text × Text) :
    hostAfter s h (before ++ [m]) =
      ((transform s m.1 m.2).run.run (hostAfter s h before)).2 :=
  hostAfter_append h before [m]

theorem run_sequence_cons (h : Host) (m : Text × Text) (modules : List (Text × Text)) :
    (sequence s (m :: modules)).run h =
      (((transform s m.1 m.2).run.run h).1 ::
          ((sequence s modules).run ((transform s m.1 m.2).run.run h).2).1,
        ((sequence s modules).run ((transform s m.1 m.2).run.run h).2).2) := rfl

theorem host_sequence (h : Host) (modules : List (Text × Text)) :
    ((sequence s modules).run h).2 = hostAfter s h modules := by
  induction modules generalizing h with
  | nil => rfl
  | cons m modules ih =>
    rw [run_sequence_cons, ih]
    rfl

theorem outcomes_sequence_concat (h : Host) (modules : List (Text × Text)) (m : Text × Text) :
    ((sequence s (modules ++ [m])).run h).1 =
      ((sequence s modules).run h).1 ++
        [((transform s m.1 m.2).run.run (hostAfter s h modules)).1] := by
  induction modules generalizing h with
  | nil => rfl
  | cons first modules ih =>
    rw [List.cons_append, run_sequence_cons, run_sequence_cons, ih]
    rfl

/-- Whether the transform of a module gets to a slot. -/
def enters (s : Settings) (h₀ : Host) (slot : Text) (m : Text × Text) : Bool :=
  (early? s h₀ m).isNone && Slot.name m.2 == slot

theorem enters_iff {h₀ : Host} {slot : Text} {m : Text × Text} :
    enters s h₀ slot m = true ↔ early? s h₀ m = none ∧ Slot.name m.2 = slot := by
  simp [enters]

/-- Those of several modules whose transforms get to a slot. -/
def inSlot (s : Settings) (h₀ : Host) (slot : Text) (modules : List (Text × Text)) :
    List (Text × Text) :=
  modules.filter (enters s h₀ slot)

section Several

variable {h₀ : Host} {slots : List Text} {modules : List (Text × Text)} {slot : Text}
  (hs : s.buildRoot.IsResolved) (hground : Ground s h₀ slots)
  (hslots : ∀ m ∈ modules, Slot.name m.2 ∈ slots)

include hs hground

theorem grown_hostAfter (hslots : ∀ m ∈ modules, Slot.name m.2 ∈ slots) :
    Grown s h₀ slots (modules.map (wayOf s h₀)) (hostAfter s h₀ modules) := by
  induction modules using List.reverseRecOn with
  | nil => exact .refl hground
  | append_singleton modules m ih =>
    rw [hostAfter_concat, List.map_append]
    exact grown_transform hs hground (hslots m (by simp))
      (ih fun m hm => hslots m (List.mem_append_left _ hm))

/-- The files of a slot are what those transforms make of them that get to it. -/
theorem alike_hostAfter (hslots : ∀ m ∈ modules, Slot.name m.2 ∈ slots) :
    Alike s slot (hostAfter s h₀ modules) (hostAfter s h₀ (inSlot s h₀ slot modules)) := by
  induction modules using List.reverseRecOn with
  | nil => exact .refl s slot h₀
  | append_singleton modules m ih =>
    have hbefore : ∀ m ∈ modules, Slot.name m.2 ∈ slots :=
      fun m hm => hslots m (List.mem_append_left _ hm)
    have hgrown := grown_hostAfter hs hground hbefore
    have hslot : Slot.name m.2 ∈ slots := hslots m (by simp)
    rw [hostAfter_concat, inSlot, List.filter_append]
    by_cases hm : enters s h₀ slot m = true
    · rw [List.filter_cons_of_pos hm, List.filter_nil, hostAfter_concat]
      obtain ⟨-, rfl⟩ := enters_iff.1 hm
      exact (agrees_transform hs hground hslot hgrown
        (grown_hostAfter hs hground fun m hm => hbefore m (List.mem_of_mem_filter hm))
        (ih hbefore)).alike
    · rw [List.filter_cons_of_neg hm, List.filter_nil, List.append_nil]
      refine .trans (alike_transform hs hground hslot hgrown ?_) (ih hbefore)
      rintro hearly rfl
      exact hm (enters_iff.2 ⟨hearly, rfl⟩)

/-- Of all that came before a transform, only what got to its slot counts. -/
theorem agrees_sequence (hslots : ∀ m ∈ modules, Slot.name m.2 ∈ slots) {m : Text × Text}
    (hslot : Slot.name m.2 ∈ slots) :
    Agrees s (Slot.name m.2) ((transform s m.1 m.2).run.run (hostAfter s h₀ modules))
      ((transform s m.1 m.2).run.run
        (hostAfter s h₀ (inSlot s h₀ (Slot.name m.2) modules))) :=
  agrees_transform hs hground hslot (grown_hostAfter hs hground hslots)
    (grown_hostAfter hs hground fun m hm => hslots m (List.mem_of_mem_filter hm))
    (alike_hostAfter hs hground hslots)

end Several

end EmbeddedGo.Transform
