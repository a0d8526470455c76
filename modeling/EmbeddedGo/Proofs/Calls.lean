/-
EmbeddedGo.Proofs.Calls — what the calls of a build tool do to the files.

No call takes anything away: directories and links stay as they are, and where a file was there is a
file (`keeps_after`). Writing goes through links, and the compiler writes to no file but the one it is
told to, which the library names by a resolved path. So what one call built is found at the same place
however many calls come after it.

  §1 runs of the compiler
  §2 phases of a transform
  §3 the glue, artifacts and assets
  §4 calls
-/
import EmbeddedGo.Proofs.Action
import EmbeddedGo.Proofs.Walk

namespace EmbeddedGo

/-! ## §1 Runs -/

namespace FileTree

theorem keeps_write {t t' : FileTree} {p : Path} {content : Bytes}
    (h : t.write p content = .ok t') : Keeps t t' := by
  rw [write_eq] at h
  split at h
  · simp at h
  · split at h
    · next hcan =>
      cases h
      exact keeps_putFile hcan content
    · simp at h

/-- What can be written through a resolved path, and where. -/
theorem writeWord_text {t t' : FileTree} {names : List Text} {last : Text} {content : Bytes}
    (hn : ∀ n ∈ names ++ [last], Path.IsPlain n)
    (h : t.writeWord (Path.ofNames (names ++ [last])).text content = .ok t') :
    ∃ place found, t.locate true (Path.ofNames (names ++ [last])) = .ok (place, found) ∧
      CanHold (t.entryAt place) = true ∧ t' = t.putFile place content := by
  have hp : (Path.ofNames (names ++ [last])).IsResolved := ⟨rfl, hn⟩
  rw [writeWord_eq t (withoutSlashes_text (hn last (by simp))), locateWord_text t hn] at h
  split at h
  · simp at h
  · next place found hl =>
    split at h
    · simp at h
    · next hdir =>
      cases h
      refine ⟨place, found, hl, ?_, rfl⟩
      rw [locate_resolved t true hp] at hl
      have hlink : ∀ target, t.entryAt place ≠ some (.link target) := by
        split at hl
        · simp at hl
        · exact (walk_lands (isOpen_nil t) hl).2
      match he : t.entryAt place with
      | none => rfl
      | some (.file _) => rfl
      | some .directory => exact absurd he hdir
      | some (.link target) => exact absurd he (hlink target)

end FileTree

namespace Host

theorem run_run (command : Text) (args : List Text) (h : Host) :
    (run command args).run.run h =
      match h.start? command args with
      | .error refusal => (.error (.fault { refusal, path := command }), h)
      | .ok program => (.ok (h.ran program args).1, (h.ran program args).2) := by
  rw [run, run_bind, run_get]
  dsimp only
  cases h.start? command args <;> rfl

/-- A run that is told no output file writes none. -/
theorem files_ran_of_none {args : List Text} (ho : outputOf args = none) (h : Host)
    (program : Text) : (h.ran program args).2.files = h.files := by
  simp [ran, writeOutput, ho]

theorem keeps_ran {args : List Text} {names : List Text} {last : Text}
    (hn : ∀ n ∈ names ++ [last], Path.IsPlain n)
    (ho : outputOf args = some (Path.ofNames (names ++ [last])).text) (h : Host) (program : Text) :
    h.files.Keeps (h.ran program args).2.files := by
  simp only [ran, writeOutput, ho]
  split
  · next output content houtput hcontent =>
    cases houtput
    split
    · next files hfiles =>
      obtain ⟨place, _, -, hcan, rfl⟩ := FileTree.writeWord_text hn hfiles
      exact FileTree.keeps_putFile hcan content
    · exact .refl _
  · exact .refl _

/-- Nothing was taken away from the files. -/
def KeepsFiles (h h' : Host) : Prop := h.files.Keeps h'.files

/-- The files are the same. -/
def SameFiles (h h' : Host) : Prop := h'.files = h.files

instance : Lasting KeepsFiles := ⟨fun h => .refl h.files, fun hab hbc => hab.trans hbc⟩

instance : Lasting SameFiles := ⟨fun _ => rfl, fun hab hbc => hbc.trans hab⟩

theorem SameFiles.keeps {h h' : Host} (hs : SameFiles h h') : KeepsFiles h h' := by
  rw [KeepsFiles, show h'.files = h.files from hs]
  exact .refl _

theorem looks_look {α : Type} (f : FileTree → Except Fault α) : Stays SameFiles (look f) := by
  intro h
  rw [run_look]
  cases f h.files <;> rfl

theorem careful_change {f : FileTree → Except Fault FileTree}
    (hf : ∀ t t', f t = .ok t' → FileTree.Keeps t t') : Stays KeepsFiles (change f) := by
  intro h
  rw [run_change]
  match hfiles : f h.files with
  | .ok files => exact hf _ _ hfiles
  | .error e => exact .refl _

theorem careful_makePath (p : Path) : Stays KeepsFiles (makePath p) := by
  intro h
  have hk : h.files.Keeps (h.files.makePath p).2 := (FileTree.makes_ensurePath _ _ _).keeps
  rw [run_makePath]
  match hfiles : h.files.makePath p with
  | (.ok (), files) => rwa [hfiles] at hk
  | (.error e, files) => rwa [hfiles] at hk

theorem careful_writeText (p : Path) (s : Text) : Stays KeepsFiles (writeText p s) :=
  careful_change fun _ _ h => FileTree.keeps_write h

theorem looks_readText (p : Path) : Stays SameFiles (readText p) := by
  intro h
  rw [SameFiles, host_readText]

theorem looks_run {args : List Text} (ho : outputOf args = none) (command : Text) :
    Stays SameFiles (run command args) := by
  intro h
  rw [run_run]
  cases h.start? command args with
  | error e => rfl
  | ok program => exact files_ran_of_none ho h program

end Host

namespace Compiler

open Host

variable (c : Compiler)

theorem run_run (args : List Text) (h : Host) :
    (c.run args).run.run h =
      match h.start? c.command args with
      | .error .nulCharacter => (.error (.fault ⟨.nulCharacter, c.command, false⟩), h)
      | .error refusal =>
        (.error (.toolchainNotFound c.command
          (some (Error.fault { refusal, path := c.command }).message)), h)
      | .ok program => (.ok (h.ran program args).1, (h.ran program args).2) := by
  rw [Compiler.run, run_tryCatch, Host.run_run]
  match h.start? c.command args with
  | .ok program => rfl
  | .error refusal => cases refusal <;> rfl

theorem looks_run {args : List Text} (ho : outputOf args = none) : Stays SameFiles (c.run args) := by
  refine .tryCatch (Host.looks_run ho _) fun e => ?_
  split
  · exact .throw _
  · exact .throw _

theorem looks_root : Stays SameFiles c.root := by
  refine .bind (c.looks_run (by decide)) fun a => ?_
  split
  · exact .pure _
  · exact .throw _

theorem looks_version : Stays SameFiles c.version := by
  refine .bind (c.looks_run (by decide)) fun a => ?_
  split
  · exact .pure _
  · exact .throw _

theorem looks_isInstalled : Stays SameFiles c.isInstalled := by
  refine .tryCatch ?_ fun e => ?_
  · exact .bind (Host.looks_run (by decide) _)
      fun a => .pure _
  · split
    · exact .pure _
    · exact .throw _

theorem outputOf_buildWords (goFile wasmFile : Text) :
    outputOf (c.buildWords goFile wasmFile) = some wasmFile := by
  cases hopt : c.optimization <;>
    simp [buildWords, outputOf, hopt, Optimization.text]

/-- What building a binary comes to, once the compiler has been started. -/
theorem run_compile {goFile wasmFile program : Text} {h : Host}
    (hstart : h.start? c.command (c.buildWords goFile wasmFile) = .ok program) :
    (c.compile goFile wasmFile).run.run h =
      (if (h.ran program (c.buildWords goFile wasmFile)).1.succeeded then
          .ok (said? (h.ran program (c.buildWords goFile wasmFile)).1.stderr).toList
        else .error (.compilation (diagnostics (h.ran program (c.buildWords goFile wasmFile)).1)),
        (h.ran program (c.buildWords goFile wasmFile)).2) := by
  rw [compile, run_bind, c.run_run, hstart]
  dsimp only
  split <;> rfl

/-- Building a binary takes nothing away. -/
theorem careful_compile {names : List Text} {last : Text}
    (hn : ∀ n ∈ names ++ [last], Path.IsPlain n) (goFile : Text) :
    Stays KeepsFiles (c.compile goFile (Path.ofNames (names ++ [last])).text) := by
  refine .bind (fun h => ?_) fun a => ?_
  · rw [c.run_run]
    split
    · exact .refl _
    · exact .refl _
    · exact keeps_ran hn (c.outputOf_buildWords ..) h _
  · split
    · exact .pure _
    · exact .throw _

end Compiler

/-! ## §2 Phases -/

namespace Transform

open Host

/-- The job that a unit makes. -/
def jobOf (s : Settings) (id unit : Text) : Job :=
  { id, source := Go.wrap unit, slot := Slot.name id,
    directory := s.buildRoot.child (Slot.name id) }

theorem run_prepare (s : Settings) (code id : Text) (h : Host) :
    (prepare s code id).run.run h =
      match Directive.extract code with
      | .error e => (.error e, h)
      | .ok unit =>
        match h.files.makePath (jobOf s id unit).directory with
        | (.ok (), files) => (.ok (jobOf s id unit), { h with files })
        | (.error e, files) => (.error (.fault e), { h with files }) := by
  unfold prepare
  match Directive.extract code with
  | .error e => rfl
  | .ok unit =>
    simp only [BuildRoot.slot, bind_assoc, pure_bind, run_bind, run_makePath, jobOf]
    rcases h.files.makePath (s.buildRoot.child (Slot.name id)) with ⟨e | u, files⟩ <;> rfl

theorem run_prepare_of_makePath {s : Settings} {code id unit : Text} {h : Host} {files : FileTree}
    (hunit : Directive.extract code = .ok unit)
    (hmake : h.files.makePath (jobOf s id unit).directory = (.ok (), files)) :
    (prepare s code id).run.run h = (.ok (jobOf s id unit), { h with files }) := by
  rw [run_prepare, hunit]
  dsimp only
  rw [hmake]

theorem run_writeSource (j : Job) (h : Host) :
    (writeSource j).run.run h =
      match h.files.write j.goFile (Utf8.encode j.source) with
      | .ok files => (.ok (), { h with files })
      | .error e => (.error (.fault e), h) :=
  run_change (·.write j.goFile (Utf8.encode j.source)) h

/-- A job that was prepared is that of the unit. -/
theorem eq_jobOf_of_prepare {s : Settings} {code id : Text} {h h' : Host} {j : Job}
    (hrun : (prepare s code id).run.run h = (.ok j, h')) :
    ∃ unit, Directive.extract code = .ok unit ∧ j = jobOf s id unit := by
  rw [run_prepare] at hrun
  cases hunit : Directive.extract code with
  | error e =>
    rw [hunit] at hrun
    cases hrun
  | ok unit =>
    rw [hunit] at hrun
    dsimp only at hrun
    split at hrun
    · cases hrun
      exact ⟨unit, rfl, rfl⟩
    · cases hrun

theorem isPlain_goName : Path.IsPlain BuildRoot.goName := by
  constructor <;> decide

theorem isPlain_declarationsName : Path.IsPlain BuildRoot.declarationsName := by
  constructor <;> decide

theorem isPlain_wasmName : Path.IsPlain Wrapper.wasmName := by
  constructor <;> decide

variable {s : Settings}

/-- The files of a job are called by plain names, one below the directory of its slot. -/
theorem directory_jobOf (hs : s.buildRoot.IsResolved) (id unit : Text) :
    (jobOf s id unit).directory = Path.ofNames (s.buildRoot.names ++ [Slot.name id]) :=
  hs.child_eq (Slot.isPlain_name id)

theorem child_directory_jobOf (hs : s.buildRoot.IsResolved) (id unit : Text) {name : Text}
    (hn : Path.IsPlain name) :
    (jobOf s id unit).directory.child name =
      Path.ofNames (s.buildRoot.names ++ [Slot.name id] ++ [name]) := by
  have hd : (jobOf s id unit).directory.IsResolved := hs.child (Slot.isPlain_name id)
  rw [hd.child_eq hn, directory_jobOf hs]
  rfl

theorem plain_of_mem_slot (hs : s.buildRoot.IsResolved) (id : Text) :
    ∀ n ∈ s.buildRoot.names ++ [Slot.name id], Path.IsPlain n := by
  intro n hn
  rcases List.mem_append.1 hn with hn | hn
  · exact hs.plain n hn
  · exact List.mem_singleton.1 hn ▸ Slot.isPlain_name id

theorem plain_of_mem_file (hs : s.buildRoot.IsResolved) (id : Text) {name : Text}
    (h : Path.IsPlain name) :
    ∀ n ∈ s.buildRoot.names ++ [Slot.name id] ++ [name], Path.IsPlain n := by
  intro n hn
  rcases List.mem_append.1 hn with hn | hn
  · exact plain_of_mem_slot hs id n hn
  · exact List.mem_singleton.1 hn ▸ h

theorem keeps_prepare (s : Settings) (code id : Text) : Stays KeepsFiles (prepare s code id) := by
  unfold prepare
  split
  · exact .throw _
  · exact .bind (.bind (careful_makePath _) fun _ => .pure _) fun _ => .pure _

theorem keeps_compile (hs : s.buildRoot.IsResolved) (id unit : Text) :
    Stays KeepsFiles (compile s (jobOf s id unit)) := by
  rw [compile, Job.wasmFile, child_directory_jobOf hs id unit isPlain_wasmName]
  exact s.compiler.careful_compile (plain_of_mem_file hs id isPlain_wasmName) _

theorem keeps_writeDeclarations (s : Settings) (j : Job) :
    Stays KeepsFiles (writeDeclarations s j) := by
  unfold writeDeclarations
  split
  · exact careful_writeText _ _
  · exact .pure _

/-- A transform takes nothing away, whatever it comes to. -/
theorem keeps_transform (hs : s.buildRoot.IsResolved) (code id : Text) :
    Stays KeepsFiles (transform s code id) := by
  have hbuild : Stays KeepsFiles (build s code id) := by
    refine .bind_of_run (keeps_prepare s code id) fun h j h' hrun => ?_
    obtain ⟨unit, -, rfl⟩ := eq_jobOf_of_prepare hrun
    refine Stays.bind (careful_writeText _ _) (fun _ => ?_) h'
    refine .bind (keeps_compile hs id unit) fun _ => ?_
    exact .bind (keeps_writeDeclarations s _) fun _ => .bind .get fun _ => .pure _
  unfold transform
  split
  · exact .tryCatch (.bind hbuild fun _ => .pure _) fun e => .throw _
  · exact .pure _

end Transform

/-! ## §3 Sessions -/

namespace Session

/-- Nothing was taken away from the files of a session. -/
def KeepsFiles (s s' : Session) : Prop := s.host.KeepsFiles s'.host

instance : Lasting KeepsFiles := ⟨fun s => .refl s.host.files, fun hab hbc => hab.trans hbc⟩

theorem keeps_act {α : Type} {f : Action α} (hf : Stays Host.KeepsFiles f) :
    Stays KeepsFiles (act f) := by
  intro s
  exact hf s.host

/-- The files are the same, and so are the assets. -/
def SameAssets (s s' : Session) : Prop :=
  s'.host.files = s.host.files ∧ s'.assets = s.assets

theorem sameFiles_readGlue (c : Compiler) : Stays Host.SameFiles (readGlue c) := by
  refine .bind (.tryCatch c.looks_root fun e => ?_) fun root => ?_
  · split
    · exact .throw _
    · exact .throw _
  · refine .tryCatch (Host.looks_readText _) fun e => ?_
    split
    · exact .throw _
    · exact .throw _
    · exact .throw _

/-- Reading the glue changes neither files nor assets. -/
theorem sameAssets_loadGlue (c : Compiler) : Stays SameAssets (loadGlue c) := by
  intro s
  rw [loadGlue, run_bind, run_get]
  dsimp only
  cases s.glue with
  | some glue => exact ⟨rfl, rfl⟩
  | none =>
    have hfiles : ((readGlue c).run.run s.host).2.files = s.host.files :=
      sameFiles_readGlue c s.host
    dsimp only
    rw [run_bind, run_act]
    match hrun : (readGlue c).run.run s.host with
    | (.ok glue, h) => exact ⟨by rwa [hrun] at hfiles, rfl⟩
    | (.error e, h) => exact ⟨by rwa [hrun] at hfiles, rfl⟩

theorem keeps_loadGlue (c : Compiler) : Stays KeepsFiles (loadGlue c) :=
  fun s => Host.SameFiles.keeps (sameAssets_loadGlue c s).1

theorem looks_artifactPath (buildRoot : Path) (id : Text) :
    Stays Host.SameFiles (artifactPath buildRoot id) := by
  unfold artifactPath
  split
  · refine .bind (Host.looks_look _) fun found => ?_
    split
    · exact .pure _
    · exact .throw _
  · exact .throw _

theorem looks_readArtifact (buildRoot : Path) (id : Text) :
    Stays Host.SameFiles (readArtifact buildRoot id) := by
  refine .bind (looks_artifactPath buildRoot id) fun p => ?_
  refine .tryCatch (Host.looks_look _) fun e => ?_
  split
  · exact .throw _
  · exact .throw _

end Session

namespace Bundle

open Session

theorem keeps_emit (name : Text) (content : Bytes) :
    Stays KeepsFiles (emit name content) := fun s => .refl s.host.files

theorem keeps_emitTarget (c : Compiler) (buildRoot : Path) (base id : Text) :
    Stays KeepsFiles (emitTarget c buildRoot base id) := by
  unfold emitTarget
  split
  · exact .bind (keeps_loadGlue c) fun _ => .bind (keeps_emit _ _) fun _ => .pure _
  · refine .bind (keeps_act ?_) fun _ => .bind (keeps_emit _ _) fun _ => .pure _
    exact fun h => (looks_readArtifact buildRoot id h).keeps

theorem keeps_emitAll (c : Compiler) (buildRoot : Path) (base : Text) (references : List Text) :
    Stays KeepsFiles (emitAll c buildRoot base references) := by
  induction references with
  | nil => exact .pure _
  | cons reference rest ih =>
    exact .bind (keeps_emitTarget _ _ _ _) fun _ => .bind ih fun _ => .pure _

theorem keeps_finalize (c : Compiler) (buildRoot : Path) (base code : Text) :
    Stays KeepsFiles (finalize c buildRoot base code) :=
  .bind (keeps_emitAll _ _ _ _) fun _ => .pure _

end Bundle

/-! ## §4 Calls -/

namespace Plugin

open Session

/-- What a build tool can ask of a plugin. -/
inductive Call where
  | buildStart
  | load (id : Text)
  | transform (code id : Text)
  | renderChunk (code : Text)

/-- The session after a call, whatever the answer is. -/
def after (p : Plugin) (s : Session) : Call → Session
  | .buildStart => ((act p.buildStart).run.run s).2
  | .load id => ((p.load id).run.run s).2
  | .transform code id => ((p.transform code id).run.run s).2
  | .renderChunk code => ((p.renderChunk code).run.run s).2

theorem keeps_buildStart (p : Plugin) : Stays KeepsFiles (act p.buildStart) := by
  refine keeps_act (.bind (Host.careful_makePath _) fun _ => ?_)
  refine .bind (fun h => (p.compiler.looks_isInstalled h).keeps) fun installed => ?_
  split
  · exact fun h => (p.compiler.looks_version h).keeps
  · exact .throw _

theorem keeps_load (p : Plugin) (id : Text) : Stays KeepsFiles (p.load id) := by
  unfold load
  split
  · exact .bind (keeps_loadGlue _) fun _ => .pure _
  · exact .pure _

theorem keeps_renderChunk (p : Plugin) (code : Text) : Stays KeepsFiles (p.renderChunk code) := by
  unfold renderChunk
  split
  · exact .pure _
  · exact Bundle.keeps_finalize _ _ _ _

theorem keeps_after {p : Plugin} (hp : p.buildRoot.IsResolved) (s : Session) (call : Call) :
    s.KeepsFiles (p.after s call) := by
  cases call with
  | buildStart => exact keeps_buildStart p s
  | load id => exact keeps_load p id s
  | transform code id => exact keeps_act (Transform.keeps_transform hp code id) s
  | renderChunk code => exact keeps_renderChunk p code s

/-- However many calls come, nothing is taken away. -/
theorem keeps_calls {p : Plugin} (hp : p.buildRoot.IsResolved) (s : Session) (calls : List Call) :
    s.KeepsFiles (calls.foldl p.after s) := by
  induction calls generalizing s with
  | nil => exact .refl _
  | cons call calls ih => exact Lasting.trans (keeps_after hp s call) (ih _)

end Plugin
end EmbeddedGo
