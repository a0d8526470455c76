/-
EmbeddedGo.Proofs.TransformEffects — what one transform does to the host.

Whatever becomes of a transform, all that it writes are `main.go`, `main.wasm` and `types.d.ts` in the
slot of the module, directly below the directory that the build root leads to; besides it only makes the
directories on the way there. Without a directive, and with an empty unit, it does nothing at all. How
much of the rest is done depends on the stage that it comes to, and that is said for the two that
matter: the compiler fails, or everything succeeds (`transform_effects`).

Links may stand on the way to the build root, but none below it.

  §1 what one phase writes
  §2 the phases
  §3 the whole transform
  §4 an example
-/
import EmbeddedGo.Proofs.BinaryUrl
import EmbeddedGo.Proofs.Interleaving
import EmbeddedGo.Proofs.MadeDirectories

namespace EmbeddedGo

open FileTree

/-! ## §1 Writing -/

namespace FileTree

/-- Entries differ at certain places only, where no link is new and nothing was taken away. -/
structure OnlyAt (places : Place → Prop) (t t' : FileTree) : Prop where
  entries : ∀ q, ¬ places q → t'.entryAt q = t.entryAt q
  keeps : t.Keeps t'
  links : Transform.LinksOf t t'

variable {places places' : Place → Prop} {t t' : FileTree}

theorem OnlyAt.refl (places : Place → Prop) (t : FileTree) : OnlyAt places t t :=
  ⟨fun _ _ => rfl, .refl t, .refl t⟩

theorem OnlyAt.trans {a b c : FileTree} (h : OnlyAt places a b) (h' : OnlyAt places b c) :
    OnlyAt places a c :=
  ⟨fun q hq => (h'.entries q hq).trans (h.entries q hq), h.keeps.trans h'.keeps,
    h.links.trans h'.links⟩

theorem OnlyAt.mono (h : OnlyAt places t t') (hle : ∀ q, places q → places' q) :
    OnlyAt places' t t' :=
  ⟨fun q hq => h.entries q fun hp => hq (hle q hp), h.keeps, h.links⟩

theorem onlyAt_putFile {place : Place} (hplace : places place)
    (hcan : CanHold (t.entryAt place) = true) (content : Bytes) :
    OnlyAt places t (t.putFile place content) where
  entries := fun q hq => by
    have hne : q ≠ place := fun heq => hq (heq ▸ hplace)
    rw [entryAt_putFile (ne_nil_of_canHold hcan), if_neg hne]
  keeps := keeps_putFile hcan content
  links := (changesAt_putFile hplace hcan content).links

end FileTree

namespace Transform

open Host

/-- The path of a file in the slot of a module. -/
def Settings.slotPath (s : Settings) (id name : Text) : Path :=
  (s.buildRoot.child (Slot.name id)).child name

/-- Of the slot of a module, if it stands in a directory, only the files of some names are written. -/
def Writes (s : Settings) (id : Text) (names : List Text) (h h' : Host) : Prop :=
  ∀ dir, h.files.StandsIn s.buildRoot (Slot.name id) dir →
    h'.files.StandsIn s.buildRoot (Slot.name id) dir ∧
      h.files.OnlyAt (fun q => ∃ name ∈ names, q = dir ++ [Slot.name id] ++ [name]) h'.files

variable {s : Settings} {id : Text} {names names' : List Text}

instance : Lasting (Writes s id names) where
  refl := fun h _ hstands => ⟨hstands, .refl _ h.files⟩
  trans := fun hab hbc dir hstands =>
    have hb := hab dir hstands
    have hc := hbc dir hb.1
    ⟨hc.1, hb.2.trans hc.2⟩

theorem Writes.mono {h h' : Host} (hw : Writes s id names h h') (hle : ∀ n ∈ names, n ∈ names') :
    Writes s id names' h h' := fun dir hstands =>
  have hboth := hw dir hstands
  ⟨hboth.1, hboth.2.mono fun _ ⟨name, hname, hq⟩ => ⟨name, hle name hname, hq⟩⟩


variable (hs : s.buildRoot.IsResolved)

include hs in
theorem writes_putFile {name : Text} (hname : Path.IsPlain name) (hmem : name ∈ names)
    {h : Host} {place : Place} {found : Option Item} {content : Bytes} {runs : List (List Text)}
    (hl : h.files.locate true (s.slotPath id name) = .ok (place, found))
    (hcan : CanHold (h.files.entryAt place) = true) :
    Writes s id names h { h with files := h.files.putFile place content, runs } := by
  intro dir hstands
  obtain rfl := hstands.place_eq hs (Slot.isPlain_name id) hname hl
  have honly : h.files.OnlyAt (fun q => ∃ name ∈ names, q = dir ++ [Slot.name id] ++ [name])
      (h.files.putFile (dir ++ [Slot.name id] ++ [name]) content) :=
    onlyAt_putFile ⟨name, hmem, rfl⟩ hcan content
  exact ⟨hstands.later hs honly.keeps honly.links, honly⟩

/-! ## §2 Phases -/

include hs in
theorem slotPath_eq {name : Text} (hname : Path.IsPlain name) (id : Text) :
    s.slotPath id name = Path.ofNames (s.buildRoot.names ++ [Slot.name id] ++ [name]) := by
  have hchild : (s.buildRoot.child (Slot.name id)).names = s.buildRoot.names ++ [Slot.name id] := by
    rw [hs.child_eq (Slot.isPlain_name id)]
    rfl
  rw [Settings.slotPath, (hs.child (Slot.isPlain_name id)).child_eq hname, hchild]

include hs in
theorem writes_writeText {name : Text} (hname : Path.IsPlain name) (hmem : name ∈ names)
    (content : Text) : Stays (Writes s id names) (writeText (s.slotPath id name) content) := by
  intro h
  rw [writeText, writeBytes, run_change]
  cases hfiles : h.files.write (s.slotPath id name) (Utf8.encode content) with
  | error e => exact Lasting.refl h
  | ok files =>
    rw [write_eq] at hfiles
    split at hfiles
    · cases hfiles
    · next place found hl =>
      split at hfiles
      · next hcan =>
        cases hfiles
        exact writes_putFile hs hname hmem hl hcan
      · cases hfiles

include hs in
/-- The compiler writes the binary of the slot, if anything. -/
theorem writes_run (unit : Text) : Stays (Writes s id [Wrapper.wasmName])
    (s.compiler.run (s.compiler.buildWords (jobOf s id unit).goFile.text
      (jobOf s id unit).wasmFile.text)) := by
  intro h
  have hsame : ∀ runs, Writes s id [Wrapper.wasmName] h { h with runs } :=
    fun runs dir hstands => ⟨hstands, .refl _ h.files⟩
  rw [s.compiler.run_run]
  split
  · exact Lasting.refl h
  · exact Lasting.refl h
  · simp only [ran, writeOutput, s.compiler.outputOf_buildWords]
    split
    · next output content houtput hcontent =>
      cases houtput
      split
      · next files hfiles =>
        have hpath : (jobOf s id unit).wasmFile = _ := slotPath_eq hs isPlain_wasmName id
        rw [hpath] at hfiles
        obtain ⟨place, found, hl, hcan, rfl⟩ :=
          writeWord_text (plain_of_mem_file hs id isPlain_wasmName) hfiles
        rw [← slotPath_eq hs isPlain_wasmName] at hl
        exact writes_putFile hs isPlain_wasmName (List.mem_singleton_self _) hl hcan
      · exact hsame _
    · exact hsame _

include hs in
theorem writes_writeSource (unit : Text) :
    Stays (Writes s id [BuildRoot.goName]) (writeSource (jobOf s id unit)) :=
  writes_writeText hs isPlain_goName (List.mem_singleton_self _) _

include hs in
/-- What was written is there. -/
theorem read_of_writeText {name : Text} (hname : Path.IsPlain name) {content : Text} {h h' : Host}
    (hrun : (writeText (s.slotPath id name) content).run.run h = (.ok (), h')) :
    h'.files.read (s.slotPath id name) = .ok (Utf8.encode content) := by
  rw [writeText, writeBytes, run_change] at hrun
  split at hrun
  · next files hfiles =>
    cases hrun
    exact read_of_write ((hs.child (Slot.isPlain_name id)).child hname) hfiles
  · cases hrun

include hs in
theorem writes_compile (unit : Text) :
    Stays (Writes s id [Wrapper.wasmName]) (compile s (jobOf s id unit)) := by
  refine .bind (writes_run hs unit) fun a => ?_
  split
  · exact .pure _
  · exact .throw _

include hs in
theorem writes_writeDeclarations (unit : Text) :
    Stays (Writes s id [BuildRoot.declarationsName]) (writeDeclarations s (jobOf s id unit)) := by
  unfold writeDeclarations
  split
  · exact writes_writeText hs isPlain_declarationsName (List.mem_singleton_self _) _
  · exact .pure _

include hs in
/-- All that comes behind the first phase writes the three files of the slot. -/
theorem writes_rest (unit : Text) :
    Stays (Writes s id builtNames) ((Stage.waiting (jobOf s id unit)).rest s) := by
  have hmono : ∀ {α : Type} {x : Action α} {name : Text}, name ∈ builtNames →
      Stays (Writes s id [name]) x → Stays (Writes s id builtNames) x :=
    fun hname hx h => (hx h).mono fun n hn => List.mem_singleton.1 hn ▸ hname
  refine .tryCatch ?_ fun e => .throw _
  refine .bind (hmono goName_mem_built (writes_writeSource hs unit)) fun _ => ?_
  refine .bind (hmono wasmName_mem_built (writes_compile hs unit)) fun _ => ?_
  refine .bind (hmono declarationsName_mem_built (writes_writeDeclarations hs unit)) fun _ => ?_
  exact .bind .get fun _ => .pure _

include hs in
/-- A file of the slot is read as before if another one was written. -/
theorem Writes.read {name : Text} {h h' : Host} (hw : Writes s id names h h') {dir : Place}
    (hstands : h.files.StandsIn s.buildRoot (Slot.name id) dir) (hname : Path.IsPlain name)
    (hother : name ∉ names) {content : Bytes}
    (hread : h.files.read (s.slotPath id name) = .ok content) :
    h'.files.read (s.slotPath id name) = .ok content := by
  obtain ⟨place, m, hl⟩ := read_eq_ok_iff.1 hread
  have hfile : h.files.entryAt place = some (.file content) :=
    entryAt_of_get? (locate_found hl).symm
  obtain rfl := hstands.place_eq hs (Slot.isPlain_name id) hname hl
  obtain ⟨-, honly⟩ := hw dir hstands
  have hsame := honly.entries (dir ++ [Slot.name id] ++ [name]) fun ⟨other, hmem, heq⟩ => by
    obtain ⟨-, hlast⟩ := List.append_inj' heq rfl
    exact hother (List.singleton_inj.1 hlast ▸ hmem)
  exact read_of_keeps honly.keeps ((hs.child (Slot.isPlain_name id)).child hname) hl
    (hsame.trans hfile)

/-! ## §3 The whole -/

/-- A module whose unit is extracted, or found empty, has the directive. -/
theorem isPresent_of_extract {code : Text}
    (h : Directive.extract code ≠ .error .directiveNotFound) : Directive.isPresent code = true := by
  unfold Directive.extract at h
  unfold Directive.isPresent
  split at h
  · exact absurd rfl h
  · next hbody =>
    rw [hbody]
    rfl

/-- What is said of a run of a transform from one host to another. -/
structure Effects (s : Settings) (code id : Text) (h : Host)
    (outcome : Except Error (Option Result)) (h' : Host) : Prop where
  /-- Besides the three files there are only new directories, where nothing stood, to which the path
  of the slot leads or one above it. -/
  elsewhere : ∀ q, h'.files.entryAt q = h.files.entryAt q ∨
    (h.files.entryAt q = none ∧ h'.files.entryAt q = some .directory ∧
      ∃ above, above <+: s.buildRoot.names ++ [Slot.name id] ∧
        h'.files.LeadsTo (Path.ofNames above) q) ∨
    ∃ dir, h'.files.LeadsTo s.buildRoot dir ∧
      ∃ name ∈ builtNames, q = dir ++ [Slot.name id] ++ [name]
  /-- A module without the directive comes to nothing. -/
  absent : Directive.isPresent code = false → outcome = .ok none ∧ h' = h
  /-- An empty unit fails before anything is done. -/
  empty : Directive.extract code = .error .emptyGuestCode →
    outcome = .error (.transform id .emptyGuestCode) ∧ h' = h
  /-- A failure of the compiler is wrapped. The source is there, and the declarations are as they
  were. -/
  failed : ∀ j h₁ h₂ h₃ e, (prepare s code id).run.run h = (.ok j, h₁) →
    (writeSource j).run.run h₁ = (.ok (), h₂) → (compile s j).run.run h₂ = (.error e, h₃) →
    outcome = .error (.transform id e) ∧ ∃ unit, Directive.extract code = .ok unit ∧
      h'.files.read (s.slotPath id BuildRoot.goName) = .ok (Utf8.encode (Go.wrap unit)) ∧
      ∀ dir, h'.files.LeadsTo s.buildRoot dir →
        h'.files.entryAt (dir ++ [Slot.name id] ++ [BuildRoot.declarationsName]) =
          h.files.entryAt (dir ++ [Slot.name id] ++ [BuildRoot.declarationsName])
  /-- A success has run the compiler once. The source is there, and so are the declarations if they
  are wanted; if not, they are as they were. -/
  succeeded : ∀ r, outcome = .ok (some r) → ∃ unit, Directive.extract code = .ok unit ∧
    h'.runs = h.runs ++ [s.compiler.buildWords (s.slotPath id BuildRoot.goName).text
      (s.slotPath id Wrapper.wasmName).text] ∧
    h'.files.read (s.slotPath id BuildRoot.goName) = .ok (Utf8.encode (Go.wrap unit)) ∧
    if s.generateTypes then
      h'.files.read (s.slotPath id BuildRoot.declarationsName) =
        .ok (Utf8.encode (Declarations.render (Go.exported (Go.wrap unit))))
    else
      ∀ dir, h'.files.LeadsTo s.buildRoot dir →
        h'.files.entryAt (dir ++ [Slot.name id] ++ [BuildRoot.declarationsName]) =
          h.files.entryAt (dir ++ [Slot.name id] ++ [BuildRoot.declarationsName])

variable {code : Text} {h h₁ h' : Host}

include hs in
theorem made_prepare {r : Except Error Job} (hrun : (prepare s code id).run.run h = (r, h₁)) :
    Made (s.buildRoot.names ++ [Slot.name id]) h.files h₁.files := by
  rw [run_prepare] at hrun
  cases hunit : Directive.extract code with
  | error e =>
    rw [hunit] at hrun
    cases hrun
    exact .refl _ _
  | ok unit =>
    have hmade : Made (s.buildRoot.names ++ [Slot.name id]) h.files
        (h.files.makePath (jobOf s id unit).directory).2 := by
      rw [directory_jobOf hs]
      exact made_ensurePath (plain_of_mem_slot hs id) _ _
    rw [hunit] at hrun
    dsimp only at hrun
    split at hrun
    · next files hfiles =>
      cases hrun
      rwa [hfiles] at hmade
    · next e files hfiles =>
      cases hrun
      rwa [hfiles] at hmade

/-- Behind the first phase the slot stands in the build root, and only the way to it is new. -/
structure Prepared (s : Settings) (id : Text) (h h₁ : Host) (dir : Place) : Prop where
  stands : h₁.files.StandsIn s.buildRoot (Slot.name id) dir
  entries : ∀ q, h₁.files.entryAt q = h.files.entryAt q ∨
    h.files.entryAt q = none ∧ h₁.files.entryAt q = some .directory ∧ q <+: dir ++ [Slot.name id]
  runs : h₁.runs = h.runs

include hs in
theorem prepared_of_prepare (htidy : h.files.IsTidy) (hlinks : h.files.NoLinksBelow s.buildRoot)
    {j : Job} (hrun : (prepare s code id).run.run h = (.ok j, h₁)) :
    ∃ unit, Directive.extract code = .ok unit ∧ j = jobOf s id unit ∧
      ∃ dir, Prepared s id h h₁ dir := by
  obtain ⟨unit, hunit, rfl⟩ := eq_jobOf_of_prepare hrun
  refine ⟨unit, hunit, rfl, ?_⟩
  rw [run_prepare, hunit] at hrun
  dsimp only at hrun
  split at hrun
  · next files hfiles =>
    cases hrun
    obtain ⟨dir, hstands, hentries⟩ :=
      standsIn_of_makePath htidy hs hlinks (Slot.isPlain_name id) hfiles
    exact ⟨dir, hstands, hentries, rfl⟩
  · cases hrun

/-- A file of the slot that is not written after the first phase is as it was before it. -/
theorem Prepared.untouched {dir : Place} (hp : Prepared s id h h₁ dir)
    (hw : Writes s id names h₁ h') {name : Text} (hother : name ∉ names) {dir' : Place}
    (hdir : h'.files.LeadsTo s.buildRoot dir') :
    h'.files.entryAt (dir' ++ [Slot.name id] ++ [name]) =
      h.files.entryAt (dir' ++ [Slot.name id] ++ [name]) := by
  obtain ⟨hstands, honly⟩ := hw dir hp.stands
  obtain rfl := hdir.unique hstands.leads
  rw [honly.entries _ fun ⟨other, hmem, heq⟩ => by
    obtain ⟨-, hlast⟩ := List.append_inj' heq rfl
    exact hother (List.singleton_inj.1 hlast ▸ hmem)]
  rcases hp.entries (dir' ++ [Slot.name id] ++ [name]) with hsame | ⟨-, -, hprefix⟩
  · exact hsame
  · simpa using hprefix.length_le

include hs in
/-- What a transform changes besides the files of the slot. -/
theorem elsewhere_transform (htidy : h.files.IsTidy) (hlinks : h.files.NoLinksBelow s.buildRoot)
    {outcome : Except Error (Option Result)}
    (hrun : (transform s code id).run.run h = (outcome, h')) (q : Place) :
    h'.files.entryAt q = h.files.entryAt q ∨
      (h.files.entryAt q = none ∧ h'.files.entryAt q = some .directory ∧
        ∃ above, above <+: s.buildRoot.names ++ [Slot.name id] ∧
          h'.files.LeadsTo (Path.ofNames above) q) ∨
      ∃ dir, h'.files.LeadsTo s.buildRoot dir ∧
        ∃ name ∈ builtNames, q = dir ++ [Slot.name id] ++ [name] := by
  by_cases hpresent : Directive.isPresent code = true
  · rw [run_transform_of_present hpresent] at hrun
    rcases hprepare : (prepare s code id).run.run h with ⟨e | j, h₁⟩
    · rw [hprepare] at hrun
      cases hrun
      exact (made_prepare hs hprepare q).imp_right .inl
    · rw [hprepare] at hrun
      obtain ⟨unit, -, rfl, dir, hprepared⟩ := prepared_of_prepare hs htidy hlinks hprepare
      obtain ⟨hstands, honly⟩ := (writes_rest hs unit).of_run hrun dir hprepared.stands
      by_cases hq : ∃ name ∈ builtNames, q = dir ++ [Slot.name id] ++ [name]
      · exact .inr (.inr ⟨dir, hstands.leads, hq⟩)
      · rw [honly.entries q hq]
        rcases made_prepare hs hprepare q with hsame | ⟨hnone, hdir, above, habove, hleads⟩
        · exact .inl hsame
        · have hplain : ∀ n ∈ above, Path.IsPlain n := fun n hn =>
            plain_of_mem_slot hs id n (habove.subset hn)
          exact .inr (.inl ⟨hnone, hdir, above, habove, hleads.keeps ⟨rfl, hplain⟩ honly.keeps⟩)
  · rw [transform_of_not_present (by simpa using hpresent)] at hrun
    cases hrun
    exact .inl rfl

include hs in
/-- A transform whose compiler fails wraps the failure, and leaves the source behind. -/
theorem failed_transform (htidy : h.files.IsTidy) (hlinks : h.files.NoLinksBelow s.buildRoot)
    {outcome : Except Error (Option Result)}
    (hrun : (transform s code id).run.run h = (outcome, h')) {j : Job} {h₂ h₃ : Host} {e : Error}
    (hprepare : (prepare s code id).run.run h = (.ok j, h₁))
    (hwrite : (writeSource j).run.run h₁ = (.ok (), h₂))
    (hcompile : (compile s j).run.run h₂ = (.error e, h₃)) :
    outcome = .error (.transform id e) ∧ ∃ unit, Directive.extract code = .ok unit ∧
      h'.files.read (s.slotPath id BuildRoot.goName) = .ok (Utf8.encode (Go.wrap unit)) ∧
      ∀ dir, h'.files.LeadsTo s.buildRoot dir →
        h'.files.entryAt (dir ++ [Slot.name id] ++ [BuildRoot.declarationsName]) =
          h.files.entryAt (dir ++ [Slot.name id] ++ [BuildRoot.declarationsName]) := by
  obtain ⟨unit, hunit, rfl, dir, hprepared⟩ := prepared_of_prepare hs htidy hlinks hprepare
  have hends : (outcome, h') = (.error (.transform id e), h₃) := by
    rw [← hrun, run_transform_of_present (isPresent_of_extract (by simp [hunit])), hprepare]
    dsimp only
    rw [Stage.rest, run_naming, run_bind, hwrite]
    dsimp only
    rw [run_bind, hcompile]
    rfl
  obtain ⟨rfl, rfl⟩ := Prod.mk.inj hends
  have hsource := (writes_writeSource hs unit).of_run hwrite
  have hbinary := (writes_compile hs unit).of_run hcompile
  refine ⟨rfl, unit, hunit, ?_, fun dir' hdir' => ?_⟩
  · have hread : h₂.files.read (s.slotPath id BuildRoot.goName) =
        .ok (Utf8.encode (Go.wrap unit)) := read_of_writeText hs isPlain_goName hwrite
    exact hbinary.read hs (hsource dir hprepared.stands).1 isPlain_goName (by decide) hread
  · have hboth : Writes s id [BuildRoot.goName, Wrapper.wasmName] h₁ h' :=
      Lasting.trans (hsource.mono (by simp)) (hbinary.mono (by simp))
    exact hprepared.untouched hboth (by decide) hdir'

include hs in
/-- A transform that succeeds has run the compiler once, and leaves behind the source, and the
declarations if they are wanted. -/
theorem succeeded_transform (htidy : h.files.IsTidy) (hlinks : h.files.NoLinksBelow s.buildRoot)
    {r : Result} (hrun : (transform s code id).run.run h = (.ok (some r), h')) :
    ∃ unit, Directive.extract code = .ok unit ∧
      h'.runs = h.runs ++ [s.compiler.buildWords (s.slotPath id BuildRoot.goName).text
        (s.slotPath id Wrapper.wasmName).text] ∧
      h'.files.read (s.slotPath id BuildRoot.goName) = .ok (Utf8.encode (Go.wrap unit)) ∧
      if s.generateTypes then
        h'.files.read (s.slotPath id BuildRoot.declarationsName) =
          .ok (Utf8.encode (Declarations.render (Go.exported (Go.wrap unit))))
      else
        ∀ dir, h'.files.LeadsTo s.buildRoot dir →
          h'.files.entryAt (dir ++ [Slot.name id] ++ [BuildRoot.declarationsName]) =
            h.files.entryAt (dir ++ [Slot.name id] ++ [BuildRoot.declarationsName]) := by
  obtain ⟨unit, warnings, h₁, h₂, h₃, hunit, hprepare, hwrite, hcompile, hdecl, rfl⟩ :=
    phases_of_build (build_of_transform hrun)
  obtain ⟨-, -, -, dir, hprepared⟩ := prepared_of_prepare hs htidy hlinks hprepare
  have hsource := (writes_writeSource hs unit).of_run hwrite
  have hbinary := (writes_compile hs unit).of_run hcompile
  have hdeclared := (writes_writeDeclarations hs unit).of_run hdecl
  have hstands₂ : h₂.files.StandsIn s.buildRoot (Slot.name id) dir :=
    (hsource dir hprepared.stands).1
  have hstands₃ : h₃.files.StandsIn s.buildRoot (Slot.name id) dir := (hbinary dir hstands₂).1
  have hread₂ : h₂.files.read (s.slotPath id BuildRoot.goName) = .ok (Utf8.encode (Go.wrap unit)) :=
    read_of_writeText hs isPlain_goName hwrite
  have hread₃ := hbinary.read hs hstands₂ isPlain_goName (by decide) hread₂
  refine ⟨unit, hunit, (runs_of_transform hrun).2.2,
    hdeclared.read hs hstands₃ isPlain_goName (by decide) hread₃, ?_⟩
  unfold writeDeclarations at hdecl
  split at hdecl
  · next htypes =>
    have hfunctions : (jobOf s id unit).functions s = Go.exported (Go.wrap unit) := by
      simp [Job.functions, htypes, jobOf]
    rw [if_pos htypes, ← hfunctions]
    exact read_of_writeText hs isPlain_declarationsName hdecl
  · next htypes =>
    cases hdecl
    rw [if_neg htypes]
    have hboth : Writes s id [BuildRoot.goName, Wrapper.wasmName] h₁ h' :=
      Lasting.trans (hsource.mono (by simp)) (hbinary.mono (by simp))
    exact fun dir' hdir' => hprepared.untouched hboth (by decide) hdir'

/-- What a transform does to a host where no link stands below the build root. The build root is a
resolved path, as that of a plugin is. -/
theorem transform_effects (hs : s.buildRoot.IsResolved) (htidy : h.files.IsTidy)
    (hlinks : h.files.NoLinksBelow s.buildRoot) {outcome : Except Error (Option Result)}
    (hrun : (transform s code id).run.run h = (outcome, h')) :
    Effects s code id h outcome h' where
  elsewhere := elsewhere_transform hs htidy hlinks hrun
  absent := fun habsent => by
    rw [transform_of_not_present habsent] at hrun
    cases hrun
    exact ⟨rfl, rfl⟩
  empty := fun hempty => by
    rw [run_transform_of_present (isPresent_of_extract (by simp [hempty])), run_prepare, hempty] at hrun
    cases hrun
    exact ⟨rfl, rfl⟩
  failed := fun _ _ _ _ _ hprepare hwrite hcompile =>
    failed_transform hs htidy hlinks hrun hprepare hwrite hcompile
  succeeded := fun r hsucceeded => succeeded_transform hs htidy hlinks (r := r) (hsucceeded ▸ hrun)

/-! ## §4 An example -/

/-- A module whose name holds a quote and a percent sign, in a tree where the build root has yet to be
made. -/
theorem transform_effects_tool :
    Plugin.toolPlugin.settings.buildRoot.IsResolved ∧ (Plugin.toolHost []).files.IsTidy ∧
      (Plugin.toolHost []).files.NoLinksBelow Plugin.toolPlugin.settings.buildRoot ∧
      ∃ r h', (transform Plugin.toolPlugin.settings "\"use golang\"\nA" "/\"%").run.run
          (Plugin.toolHost []) = (.ok (some r), h') ∧
        Effects Plugin.toolPlugin.settings "\"use golang\"\nA" "/\"%" (Plugin.toolHost [])
          (.ok (some r)) h' := by
  have hresolved : Plugin.toolPlugin.settings.buildRoot.IsResolved := ⟨rfl, by decide⟩
  have htidy : (Plugin.toolHost []).files.IsTidy := (ground_small []).tidy
  have hlinks : (Plugin.toolHost []).files.NoLinksBelow Plugin.toolPlugin.settings.buildRoot := by
    intro dir _ rest _ target
    rw [show (Plugin.toolHost []).files = smallTree [] from rfl, entryAt_smallTree]
    split
    · simp
    · split <;> simp
  obtain ⟨r, h', hrun⟩ := Plugin.run_transform_tool
  exact ⟨hresolved, htidy, hlinks, r, h', hrun, transform_effects hresolved htidy hlinks hrun⟩

end Transform
end EmbeddedGo
