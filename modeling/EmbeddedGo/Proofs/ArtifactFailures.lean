/-
EmbeddedGo.Proofs.ArtifactFailures — what reading an artifact comes to, and how it can fail.

An id leads to a file, to nothing, or to a path with something in it that is too long for the file
system. The last is told apart from nothing, and is no failure of the library's own. Nobody is refused
access here, so what there is can be read. `Reads` says which of them it is, and everything that reads
artifacts is compared with it: a request for one, and the finishing of a code that refers to some
(`artifact_failures`).

  §1 names that are too long
  §2 `Reads`: what reading comes to
  §3 requests
  §4 finishing
  §5 all of it, and a slot whose name is too long
-/
import EmbeddedGo.Proofs.Finishing
import EmbeddedGo.Proofs.LoadFailures
import EmbeddedGo.Proofs.ServedArtifact
import EmbeddedGo.Proofs.SlotNames

namespace EmbeddedGo

/-! ## §1 Names -/

namespace FileTree

variable {t : FileTree} {p : Path}

/-- No link leads through a name that is too long for an entry. -/
def LinksFit (t : FileTree) : Prop :=
  ∀ place target, t.entryAt place = some (.link target) → ∀ n ∈ targetSteps target, Fits n

theorem walk_ne_nameTooLong (hlinks : t.LinksFit) {follow : Bool} {links : Nat} {names : List Text}
    {here : Place} (hn : ∀ n ∈ names, Fits n) :
    t.walk follow links names here ≠ .error .nameTooLong := by
  fun_induction walk t follow links names here with
  | case2 links rest here ih => exact ih fun n h => hn n (List.mem_cons_of_mem _ h)
  | case3 links rest here hdots ih => exact ih fun n h => hn n (List.mem_cons_of_mem _ h)
  | case4 links name rest here hdots hdot hlong =>
    exact absurd (hn name List.mem_cons_self) (Nat.not_le.2 hlong)
  | case7 links name rest here hdots hdot hf m hitem ih =>
    exact ih fun n h => hn n (List.mem_cons_of_mem _ h)
  | case12 name rest here hdots hdot hf target m hitem hr links ih =>
    refine ih fun n h => ?_
    rcases List.mem_append.1 h with h | h
    · exact hlinks _ _ (entryAt_of_get? hitem) n h
    · exact hn n (List.mem_cons_of_mem _ h)
  | _ => simp

/-- A short path with short names is never too long, wherever its links lead. -/
theorem locate_ne_nameTooLong (hlinks : t.LinksFit) (hn : ∀ n ∈ p.names, Fits n)
    (hshort : (Utf8.encode p.text).length < pathLimit) :
    t.locate true p ≠ .error .nameTooLong := by
  rw [locate]
  split
  · simp
  · rw [if_neg (Nat.not_le.2 hshort)]
    exact walk_ne_nameTooLong hlinks hn

/-- A path through too long a name below a directory is too long. -/
theorem LeadsTo.locate_through_tooLong {dir : Place} {slot file : Text} (h : t.LeadsTo p dir)
    (hslot : Path.IsPlain slot) (hfile : Path.IsPlain file)
    (hnul : '\x00' ∉ slot ∧ '\x00' ∉ file) (hlong : ¬ Fits slot) :
    t.locate true ((p.child slot).child file) = .error .nameTooLong := by
  have hpath : (p.child slot).child file = p.below [slot, file] := by
    rw [Path.child_of_plain _ hfile, Path.child_of_plain _ hslot, List.append_assoc]
    rfl
  obtain ⟨left, hleft⟩ := h.locate_below (List.cons_ne_nil slot [file]) (by simpa using hnul) true
  rw [hpath, hleft]
  split
  · rfl
  · exact walk_cons_tooLong hslot hlong

/-- The path leads to no file, and nothing in it is too long. -/
structure HasNoFile (t : FileTree) (p : Path) : Prop where
  short : t.locate true p ≠ .error .nameTooLong
  absent : ∀ place content modified,
    t.locate true p ≠ .ok (place, some ⟨.file content, modified⟩)

theorem hasNoFile_of_locate {e : Refusal} (h : t.locate true p = .error e) (he : e ≠ .nameTooLong) :
    t.HasNoFile p where
  short := fun hlong => he (Except.error.inj (h.symm.trans hlong))
  absent := fun _ _ _ hl => by cases h.symm.trans hl

theorem HasNoFile.isFile_eq (h : t.HasNoFile p) : t.isFile p = .ok false := by
  have hshort : t.find p ≠ .error .nameTooLong := by
    have := h.short
    unfold find
    split <;> simp_all
  cases hfile : t.isFile p with
  | ok b =>
    cases b with
    | false => rfl
    | true =>
      obtain ⟨place, content, modified, hl⟩ := isFile_eq_true_iff.1 hfile
      exact absurd hl (h.absent place content modified)
  | error f =>
    unfold isFile test at hfile
    split at hfile
    · cases hfile
    · next e hfind =>
      have habsent := (refusal_of_find hfind).resolve_right fun he => hshort (he ▸ hfind)
      rw [if_pos habsent] at hfile
      cases hfile

theorem isFile_of_tooLong (h : t.locate true p = .error .nameTooLong) :
    t.isFile p = .error { refusal := .nameTooLong, path := p.text } := by
  simp [isFile, test, find, h, Refusal.meansAbsent]

end FileTree

/-! ## §2 Reading -/

namespace Session

/-- What reading the artifact with an id comes to. -/
inductive Reads (t : FileTree) (buildRoot : Path) (id : Text) : Except Error Bytes → Prop where
  /-- The id leads to a file. -/
  | file {p : Path} {place : Place} {content : Bytes} {modified : Int}
      (resolves : VirtualId.resolve buildRoot id = some (.file p))
      (leads : t.locate true p = .ok (place, some ⟨.file content, modified⟩)) :
      Reads t buildRoot id (.ok content)
  /-- It is not the id of an artifact. -/
  | unresolved (resolves : ∀ p, VirtualId.resolve buildRoot id ≠ some (.file p)) :
      Reads t buildRoot id (.error (.artifactNotFound id none))
  /-- There is no file. -/
  | missing {p : Path} (resolves : VirtualId.resolve buildRoot id = some (.file p))
      (absent : t.HasNoFile p) :
      Reads t buildRoot id (.error (.artifactNotFound id (some p.text)))
  /-- The file system takes no path with so long a name, or so long a path. -/
  | tooLong {p : Path} (resolves : VirtualId.resolve buildRoot id = some (.file p))
      (long : t.locate true p = .error .nameTooLong) :
      Reads t buildRoot id (.error (.fault { refusal := .nameTooLong, path := p.text }))

variable {t : FileTree} {buildRoot : Path} {id : Text} {r r' : Except Error Bytes} {h h' : Host}

theorem exists_reads (t : FileTree) (buildRoot : Path) (id : Text) : ∃ r, Reads t buildRoot id r := by
  by_cases hresolve : ∃ p, VirtualId.resolve buildRoot id = some (.file p)
  · obtain ⟨p, hresolve⟩ := hresolve
    by_cases hlong : t.locate true p = .error .nameTooLong
    · exact ⟨_, .tooLong hresolve hlong⟩
    · by_cases hfile : ∃ place content modified,
        t.locate true p = .ok (place, some ⟨.file content, modified⟩)
      · obtain ⟨place, content, modified, hl⟩ := hfile
        exact ⟨_, .file hresolve hl⟩
      · refine ⟨_, .missing hresolve ⟨hlong, fun place content modified hl => ?_⟩⟩
        exact hfile ⟨place, content, modified, hl⟩
  · exact ⟨_, .unresolved fun p hp => hresolve ⟨p, hp⟩⟩

/-- Reading does what it comes to, and changes nothing. -/
theorem Reads.run_readArtifact (hreads : Reads h.files buildRoot id r) :
    (readArtifact buildRoot id).run.run h = (r, h) := by
  cases hreads with
  | file hresolve hl =>
    exact Session.run_readArtifact hresolve (FileTree.read_eq_ok_iff.2 ⟨_, _, hl⟩)
  | unresolved hresolve =>
    have hpath : (artifactPath buildRoot id).run.run h = (.error (.artifactNotFound id none), h) := by
      unfold artifactPath
      split
      · next p hp => exact absurd hp (hresolve p)
      · rfl
    rw [readArtifact, run_bind, hpath]
  | missing hresolve habsent =>
    rw [readArtifact, run_bind, artifactPath, hresolve]
    dsimp only
    rw [run_bind, Host.run_look, habsent.isFile_eq]
    rfl
  | tooLong hresolve hlong =>
    rw [readArtifact, run_bind, artifactPath, hresolve]
    dsimp only
    rw [run_bind, Host.run_look, FileTree.isFile_of_tooLong hlong]

theorem run_readArtifact_iff :
    (readArtifact buildRoot id).run.run h = (r, h') ↔ Reads h.files buildRoot id r ∧ h' = h := by
  constructor
  · intro hrun
    obtain ⟨r', hreads⟩ := exists_reads h.files buildRoot id
    rw [hreads.run_readArtifact] at hrun
    cases hrun
    exact ⟨hreads, rfl⟩
  · rintro ⟨hreads, rfl⟩
    exact hreads.run_readArtifact

theorem Reads.unique (hreads : Reads h.files buildRoot id r) (hreads' : Reads h.files buildRoot id r') :
    r = r' :=
  (Prod.mk.inj (hreads.run_readArtifact.symm.trans hreads'.run_readArtifact)).1

end Session

/-! ## §3 Requests -/

namespace Server

open Session

/-- The answer to a request for an artifact, by what reading it comes to: the binary, or that there
is none. Only for what the file system does not take there is neither. -/
def artifactAnswer : Except Error Bytes → Response
  | .ok content => .wasm content
  | .error (.artifactNotFound id path) => .plain 404 (Error.artifactNotFound id path).message
  | .error e => .failed e

theorem respond_artifact {plugin : Plugin} {r : Request} {s : ServerState}
    (hserves : plugin.servesArtifacts = true) (hartifact : isArtifact r.path = true)
    {outcome : Except Error Bytes} (hreads : Reads (files s) plugin.buildRoot r.path outcome) :
    (respond plugin r).run s = (artifactAnswer outcome, s) := by
  rw [run_respond_handler, handler, hserves, hartifact, if_pos (by rfl), serveArtifact, run_bind,
    run_step, Session.run_act, hreads.run_readArtifact]
  cases hreads <;> rfl

end Server

/-! ## §4 Finishing -/

namespace Bundle

open Session

variable {c : Compiler} {buildRoot : Path} {base : Text} {s : Session} {id : Text} {e : Error}

/-- Why nothing stands behind an id: the glue is not known and cannot be read, or the artifact cannot. -/
def FailsFor (c : Compiler) (buildRoot : Path) (s : Session) (id : Text) (e : Error) : Prop :=
  if id = VirtualId.glue then s.glue = none ∧ ((readGlue c).run.run s.host).1 = .error e
  else Reads s.host.files buildRoot id (.error e)

theorem behind_eq_error_iff :
    (∃ s', (behind c buildRoot id).run.run s = (.error e, s')) ↔ FailsFor c buildRoot s id e := by
  rw [behind, FailsFor]
  split
  · rw [run_bind]
    cases hglue : s.glue with
    | some glue =>
      rw [loadGlue_of_known hglue]
      refine iff_of_false ?_ fun h => by cases h.1
      rintro ⟨s', hrun⟩
      cases hrun
    | none =>
      rw [loadGlue_of_unknown hglue]
      rcases (readGlue c).run.run s.host with ⟨e' | glue, host⟩
      · constructor
        · rintro ⟨s', hrun⟩
          cases hrun
          exact ⟨rfl, rfl⟩
        · rintro ⟨-, he⟩
          cases he
          exact ⟨_, rfl⟩
      · refine iff_of_false ?_ fun h => by cases h.2
        rintro ⟨s', hrun⟩
        cases hrun
  · rw [run_act]
    constructor
    · rintro ⟨s', hrun⟩
      exact (run_readArtifact_iff.1 (Prod.ext (Prod.mk.inj hrun).1 rfl)).1
    · exact fun hreads => ⟨_, by rw [hreads.run_readArtifact]⟩

/-- An id fails as before once others were asked for, unless there was no glue. -/
theorem failsFor_visited {ids : List Text} {assets : Assets}
    (hglue : VirtualId.glue ∈ ids → ∃ glue, GlueIs c s glue) :
    FailsFor c buildRoot { visited c ids s with assets } id e ↔ FailsFor c buildRoot s id e := by
  rw [visited_eq]
  split
  · next hin =>
    obtain ⟨glue, hglue⟩ := hglue hin
    simp only [FailsFor, files_loaded]
    split
    · refine iff_of_false (fun h => ?_) fun ⟨hnone, hread⟩ => ?_
      · cases hglue.known.symm.trans h.1
      · rcases hglue with hknown | ⟨-, hread'⟩
        · cases hknown.symm.trans hnone
        · cases hread'.symm.trans hread
    · exact Iff.rfl
  · exact Iff.rfl

/-- Emitting fails for the first reference that nothing stands behind, as reading what is behind it
does. -/
theorem emitAll_eq_error_iff (base : Text) {references : List Text} :
    (∃ s', (emitAll c buildRoot base references).run.run s = (.error e, s')) ↔
      ∃ before r after, references = before ++ r :: after ∧
        (∀ q ∈ before, ∃ content, StandsFor c buildRoot s (Percent.decode q) content) ∧
        FailsFor c buildRoot s (Percent.decode r) e := by
  induction references generalizing s with
  | nil =>
    refine iff_of_false ?_ ?_
    · rintro ⟨s', hrun⟩
      cases hrun
    · rintro ⟨before, r, after, hsplit, -⟩
      simp at hsplit
  | cons first rest ih =>
    rw [emitAll, run_bind, run_emitTarget]
    rcases hbehind : (behind c buildRoot (Percent.decode first)).run.run s with ⟨e' | content, s₁⟩
    · have hfails := behind_eq_error_iff.1 ⟨s₁, hbehind⟩
      constructor
      · rintro ⟨s', hrun⟩
        cases hrun
        exact ⟨[], first, rest, rfl, by simp, hfails⟩
      · rintro ⟨before, r, after, hsplit, hbefore, hr⟩
        cases before with
        | nil =>
          obtain ⟨rfl, -⟩ := List.cons.inj hsplit
          obtain ⟨s', hrun⟩ := behind_eq_error_iff.2 hr
          rw [hrun] at hbehind
          cases hbehind
          exact ⟨_, rfl⟩
        | cons q before =>
          obtain ⟨rfl, -⟩ := List.cons.inj hsplit
          obtain ⟨content, hstands⟩ := hbefore _ List.mem_cons_self
          cases (run_behind hstands).symm.trans hbehind
    · have hstands := standsFor_of_behind hbehind
      rw [run_behind hstands] at hbehind
      cases hbehind
      dsimp only
      rw [run_bind]
      -- what follows is asked in a session where the first was visited
      have hrest := @ih { visited c [Percent.decode first] s with
          assets := (visited c [Percent.decode first] s).assets.add (made (fun _ => content) first) }
      simp only [failsFor_visited hstands.exists_glue, standsFor_visited hstands.exists_glue] at hrest
      have hstate : addEmission (visited c [Percent.decode first] s)
            (emittedName (Percent.decode first), content) =
          { visited c [Percent.decode first] s with
            assets := (visited c [Percent.decode first] s).assets.add
              (made (fun _ => content) first) } := rfl
      rw [hstate]
      constructor
      · rintro ⟨s', hrun⟩
        split at hrun
        · cases hrun
        · next e' s₂ hall =>
          cases hrun
          obtain ⟨before, r, after, rfl, hbefore, hr⟩ := hrest.1 ⟨_, hall⟩
          exact ⟨first :: before, r, after, rfl, List.forall_mem_cons.2 ⟨⟨content, hstands⟩, hbefore⟩, hr⟩
      · rintro ⟨before, r, after, hsplit, hbefore, hr⟩
        cases before with
        | nil =>
          obtain ⟨rfl, -⟩ := List.cons.inj hsplit
          obtain ⟨s', hrun⟩ := behind_eq_error_iff.2 hr
          cases (run_behind hstands).symm.trans hrun
        | cons q before =>
          obtain ⟨rfl, rfl⟩ := List.cons.inj hsplit
          obtain ⟨s', hrun⟩ :=
            hrest.2 ⟨before, r, after, rfl, (List.forall_mem_cons.1 hbefore).2, hr⟩
          rw [hrun]
          exact ⟨_, rfl⟩

/-- Finishing a code fails just where emitting its references does. -/
theorem finalize_eq_error_iff {code : Text} :
    (∃ s', (finalize c buildRoot base code).run.run s = (.error e, s')) ↔
      ∃ before r after, references code = before ++ r :: after ∧
        (∀ q ∈ before, ∃ content, StandsFor c buildRoot s (Percent.decode q) content) ∧
        FailsFor c buildRoot s (Percent.decode r) e := by
  rw [← emitAll_eq_error_iff base, finalize, run_bind]
  rcases (emitAll c buildRoot base (references code)).run.run s with ⟨e' | urls, s₁⟩
  · constructor
    · rintro ⟨_, h⟩
      cases h
      exact ⟨_, rfl⟩
    · rintro ⟨_, h⟩
      cases h
      exact ⟨_, rfl⟩
  · refine iff_of_false ?_ ?_ <;> rintro ⟨_, h⟩ <;> cases h

/-- A code that is a reference refers to its id. -/
theorem references_text_of_isWritten {r : Reference} (h : r.IsWritten) : references r.text = [r.id] := by
  have hcut : (Cut.piece [] r (.tail [])).IsLeftmost :=
    ⟨h, passes_iff.1 trivial, passes_iff.1 trivial⟩
  simpa [Cut.text, Cut.render, Cut.ids, Reference.text, List.eraseDups_cons] using
    Cut.references_text hcut

/-- The quoted id of an artifact. -/
def quotedArtifact (slot : Text) : Reference := ⟨'\'', VirtualId.artifact slot Wrapper.wasmName⟩

theorem isWritten_quotedArtifact (slot : Text) (h : slot.all isReferenceChar = true) :
    (quotedArtifact slot).IsWritten := by
  refine ⟨.inr rfl, slot ++ "/" ++ Wrapper.wasmName, by simp [quotedArtifact, VirtualId.artifact],
    by simp, fun c hc => isReferenceChar_iff.1 ?_⟩
  have hrest : ("/" ++ Wrapper.wasmName : Text).all isReferenceChar = true := by decide
  rw [List.append_assoc] at hc
  rcases List.mem_append.1 hc with hc | hc
  · exact List.all_eq_true.1 h c hc
  · exact List.all_eq_true.1 hrest c hc

end Bundle

/-! ## §5 All failures -/

open Session

/-- What becomes of an id, wherever it comes from, on a file system that refuses nobody access: every
directory on the way can be searched, and every file be read. Reading its artifact changes nothing and
comes to the bytes of the file that it leads to, to the library's own failure if it leads to none, or
to a failure of the file system's, which takes no path that is too long. That never happens where the
path is short, the names in it and in the targets of links too, and always where a slot in a directory
has too long a name. A server answers with what reading comes to, and finishing a code fails for the
first of its references that nothing can be read for. -/
theorem artifact_failures (buildRoot : Path) :
    (∀ (h h' : Host) (id : Text) (r : Except Error Bytes),
      (readArtifact buildRoot id).run.run h = (r, h') ↔ Reads h.files buildRoot id r ∧ h' = h) ∧
    (∀ (t : FileTree) (id : Text) (p : Path), VirtualId.resolve buildRoot id = some (.file p) →
      t.LinksFit → (∀ n ∈ p.names, FileTree.Fits n) →
      (Utf8.encode p.text).length < FileTree.pathLimit →
      ∀ f, ¬ Reads t buildRoot id (.error (.fault f))) ∧
    (∀ (t : FileTree) (dir : Place) (slot : Text), t.LeadsTo buildRoot dir → Path.IsPlain slot →
      '\x00' ∉ slot → ¬ FileTree.Fits slot →
      Reads t buildRoot (VirtualId.artifact slot Wrapper.wasmName)
        (.error (.fault { refusal := .nameTooLong
                          path := ((buildRoot.child slot).child Wrapper.wasmName).text }))) ∧
    (∀ (plugin : Plugin) (r : Request) (s : ServerState), plugin.buildRoot = buildRoot →
      plugin.servesArtifacts = true → Server.isArtifact r.path = true →
      ∃ outcome, Reads s.session.host.files buildRoot r.path outcome ∧
        (Server.respond plugin r).run s = (Server.artifactAnswer outcome, s)) ∧
    ∀ (c : Compiler) (base code : Text) (s : Session) (e : Error),
      (∃ s', (Bundle.finalize c buildRoot base code).run.run s = (.error e, s')) ↔
        ∃ before r after, Bundle.references code = before ++ r :: after ∧
          (∀ q ∈ before, ∃ content, Bundle.StandsFor c buildRoot s (Percent.decode q) content) ∧
          Bundle.FailsFor c buildRoot s (Percent.decode r) e := by
  refine ⟨fun h h' id r => run_readArtifact_iff, fun t id p hresolve hlinks hfits hshort f hreads => ?_,
    fun t dir slot hdir hplain hnul hlong => ?_, fun plugin r s hroot hserves hartifact => ?_,
    fun c base code s e => Bundle.finalize_eq_error_iff⟩
  · cases hreads with
    | tooLong hresolve' hlong =>
      obtain rfl := VirtualId.Target.file.inj (Option.some.inj (hresolve.symm.trans hresolve'))
      exact FileTree.locate_ne_nameTooLong hlinks hfits hshort hlong
  · have hwasm : Path.IsPlain Wrapper.wasmName := Transform.isPlain_wasmName
    exact .tooLong (VirtualId.resolve_artifact buildRoot hplain hwasm (by decide))
      (hdir.locate_through_tooLong hplain hwasm ⟨hnul, by decide⟩ hlong)
  · obtain ⟨outcome, hreads⟩ := exists_reads s.session.host.files buildRoot r.path
    exact ⟨outcome, hreads, Server.respond_artifact hserves hartifact (hroot ▸ hreads)⟩

/-- A build root with one binary. -/
def oneBinary : Host where
  files := { items := [(["b".toList], ⟨.directory, 0⟩), (["b".toList, "s".toList], ⟨.directory, 0⟩),
    (["b".toList, "s".toList, "main.wasm".toList], ⟨.file [7], 0⟩)] }
  toolchain := { place := [] }

theorem linksFit_oneBinary : oneBinary.files.LinksFit := by
  intro place target h
  obtain ⟨m, hitem⟩ := FileTree.entryAt_eq_some h
  unfold FileTree.get? at hitem
  split at hitem
  · cases hitem
  · obtain ⟨before, after, hitems, -⟩ := List.lookup_eq_some_iff.1 hitem
    have hmem : (place, (⟨.link target, m⟩ : Item)) ∈ oneBinary.files.items := by
      rw [hitems]
      simp
    simp [oneBinary] at hmem

/-- A slot with a name of 256 bytes. -/
def longSlot : Text := List.replicate 256 'a'

theorem isPlain_longSlot : Path.IsPlain longSlot := by decide +kernel

/-- The id of the binary never fails, and the server sends the binary; a code that refers to another
one is not finished. That of a slot with a long name always fails. -/
theorem artifact_failures_oneBinary :
    (∀ f, ¬ Reads oneBinary.files (Path.ofNames ["b".toList])
        (VirtualId.artifact "s" Wrapper.wasmName) (.error (.fault f))) ∧
      (Server.respond Server.pagePlugin { path := VirtualId.artifact "s" Wrapper.wasmName }).run
          { session := { host := oneBinary } } =
        (.wasm [7], { session := { host := oneBinary } }) ∧
      (∃ s, (Bundle.finalize {} (Path.ofNames ["b".toList]) "/"
          (Bundle.quotedArtifact "x").text).run.run { host := oneBinary } =
        (.error (.artifactNotFound (VirtualId.artifact "x" Wrapper.wasmName)
          (some "/b/x/main.wasm")), s)) ∧
      Reads Slot.emptyRoot.files (Path.ofNames ["b".toList])
        (VirtualId.artifact longSlot Wrapper.wasmName)
        (.error (.fault
          { refusal := .nameTooLong
            path := (((Path.ofNames ["b".toList]).child longSlot).child Wrapper.wasmName).text })) := by
  have hresolve : ∀ slot : Text, Path.IsPlain slot →
      VirtualId.resolve (Path.ofNames ["b".toList]) (VirtualId.artifact slot Wrapper.wasmName) =
        some (.file (((Path.ofNames ["b".toList]).child slot).child Wrapper.wasmName)) :=
    fun slot hslot => VirtualId.resolve_artifact _ hslot Transform.isPlain_wasmName (by decide)
  have hlocate : oneBinary.files.locate true
      (((Path.ofNames ["b".toList]).child "s").child Wrapper.wasmName) =
        .ok (["b".toList, "s".toList, "main.wasm".toList], some ⟨.file [7], 0⟩) := by cbv
  obtain ⟨-, hshort, hlong, hserver, hcode⟩ := artifact_failures (Path.ofNames ["b".toList])
  refine ⟨hshort _ _ _ (hresolve "s" (by decide)) linksFit_oneBinary (by decide) (by decide), ?_, ?_,
    hlong _ _ _ Slot.leadsTo_emptyRoot isPlain_longSlot (by decide +kernel) (by decide +kernel)⟩
  · obtain ⟨outcome, hreads, hrun⟩ := hserver Server.pagePlugin
      { path := VirtualId.artifact "s" Wrapper.wasmName } { session := { host := oneBinary } }
      rfl rfl (by decide)
    obtain rfl := hreads.unique (h := oneBinary) (.file (hresolve "s" (by decide)) hlocate)
    exact hrun
  · have hreferences := Bundle.references_text_of_isWritten
      (Bundle.isWritten_quotedArtifact "x" (by decide))
    have hdecode : Percent.decode (Bundle.quotedArtifact "x").id = (Bundle.quotedArtifact "x").id :=
      Percent.decode_of_not_mem (by decide)
    have hnone : oneBinary.files.locate true
        (((Path.ofNames ["b".toList]).child "x").child Wrapper.wasmName) = .error .notFound := by cbv
    refine (hcode {} "/" _ { host := oneBinary } _).2 ⟨[], _, [], hreferences, by simp, ?_⟩
    rw [hdecode, Bundle.FailsFor, if_neg (by decide)]
    exact .missing (hresolve "x" (by decide)) (FileTree.hasNoFile_of_locate hnone (by decide))

/-- The slot with the long name has an id, and of course there is no binary in it. Reading that is
not the library's own failure for a missing artifact. The server answers neither with a binary nor
that there is none, and no code that refers to it is finished, for a reason that is not the
library's own. -/
theorem readArtifact_longSlot :
    let id := VirtualId.artifact longSlot Wrapper.wasmName
    let p := Path.ofNames ["b".toList, longSlot, Wrapper.wasmName]
    let e : Error := .fault { refusal := .nameTooLong, path := p.text }
    VirtualId.resolve (Path.ofNames ["b"]) id = some (.file p) ∧
      (∀ content, Slot.emptyRoot.files.read p ≠ .ok content) ∧
      (readArtifact (Path.ofNames ["b"]) id).run.run Slot.emptyRoot = (.error e, Slot.emptyRoot) ∧
      e.isOwn = false ∧
      ((Server.respond Server.pagePlugin { path := id }).run
        { session := { host := Slot.emptyRoot } }).1.status = 500 ∧
      ∃ s, (Bundle.finalize {} (Path.ofNames ["b"]) "/" (Bundle.quotedArtifact longSlot).text).run.run
        { host := Slot.emptyRoot } = (.error e, s) := by
  intro id p e
  have hwasm : Path.IsPlain Wrapper.wasmName := Transform.isPlain_wasmName
  have hpath : ((Path.ofNames ["b".toList]).child longSlot).child Wrapper.wasmName = p := by
    rw [Path.child_of_plain _ hwasm, Path.child_of_plain _ isPlain_longSlot]
    rfl
  have hresolve : VirtualId.resolve (Path.ofNames ["b".toList]) id = some (.file p) := by
    rw [← hpath]
    exact VirtualId.resolve_artifact _ isPlain_longSlot hwasm (by decide)
  have hlocate : Slot.emptyRoot.files.locate true p = .error .nameTooLong := by
    rw [← hpath]
    exact Slot.leadsTo_emptyRoot.locate_through_tooLong isPlain_longSlot hwasm
      ⟨by decide +kernel, by decide⟩
      (by decide +kernel)
  have hreads : Reads Slot.emptyRoot.files (Path.ofNames ["b".toList]) id (.error e) :=
    .tooLong hresolve hlocate
  have hartifact : Server.isArtifact id = true := by decide +kernel
  refine ⟨hresolve, fun content hread => ?_, hreads.run_readArtifact, rfl, ?_, ?_⟩
  · obtain ⟨place, m, hl⟩ := FileTree.read_eq_ok_iff.1 hread
    cases hlocate.symm.trans hl
  · rw [Server.respond_artifact rfl hartifact hreads]
    rfl
  · have hreferences := Bundle.references_text_of_isWritten
      (Bundle.isWritten_quotedArtifact longSlot (by decide +kernel))
    have hdecode : Percent.decode id = id := Percent.decode_of_not_mem (by decide +kernel)
    refine Bundle.finalize_eq_error_iff.2 ⟨[], id, [], hreferences, by simp, ?_⟩
    rw [hdecode, Bundle.FailsFor, if_neg (by decide +kernel)]
    exact hreads

end EmbeddedGo
