/-
EmbeddedGo.Proofs.BuildTurns — the turns of a build.

A build begins, gives each of its files a turn, and writes the assets at its end (`build_eq`). A turn
reads the file, bundles its code and writes what that comes to; it can also fail, which is counted, or
crash, which ends the build. Whatever it does, it changes no files but those of its module's slot and
its own output (`spares_buildFile`), and takes nothing away, so the path of a file leads to the same
place in its own turn as before the build (`realPath_reached`).

  §1 a build in three parts
  §2 one turn
  §3 what a turn changes
  §4 turns one after the other
  §5 the places of files
  §6 what turns change
  §7 what is emitted in them
  §8 the beginning and the end
-/
import EmbeddedGo.Proofs.Bundled
import EmbeddedGo.Proofs.RealPlace

namespace EmbeddedGo.Command

/-! ## §1 Three parts -/

/-- What a build does before its files: the plugin, and the directory of the bundle. -/
def start (c : Common) (root : Path) (files : List Text) (out : Text) : Doing (Plugin × Path) := do
  let o ← options c root
  let out ← ask (Host.realPath · (Path.ofText out))
  let p ← ask (Plugin.create · o root Mode.build.text)
  say (styled "bold blue"
    ("Building " ++ counted files.length "module" ++ " into " ++ out.text))
  match ← attempt (Session.act p.buildStart) with
  | .ok _ => return (p, out)
  | .error e =>
    if e.isOwn then
      say (failureLine "bold red" (Markup.escape e.message))
      throw (.exit 1)
    else throw (.crash (.error e))

/-- What it does behind them. -/
def finish (out : Path) (failures : Nat) : Doing Unit := do
  let written ← act (Plugin.writeAssets out (← get).session.assets)
  written.forM fun w => say ("  asset " ++ w.1)
  if failures = 0 then say (styled "bold green" "✓ Build successful!")
  else
    say (failureLine "bold red" ("Build failed for " ++ counted failures "module"))
    throw (.exit 1)

theorem throw_bind {α β : Type} (stop : Stop) (f : α → Doing β) :
    (throw stop >>= f : Doing β) = throw stop := rfl

theorem build_eq (c : Common) (root : Path) (files : List Text) (out : Text) :
    build c root files out = (start c root files out >>= fun begun =>
      buildAll begun.1 begun.2 files >>= finish begun.2) := by
  unfold build start finish
  simp only [bind_assoc]
  congr 1; funext o
  congr 1; funext out
  congr 1; funext p
  congr 1; funext _
  congr 1; funext r
  cases r with
  | ok v => simp only [pure_bind]
  | error e =>
    dsimp only
    split
    · simp only [bind_assoc, throw_bind]
    · simp only [throw_bind]

/-! ## §2 One turn -/

/-- The path of the output of a file. -/
def outputPath (p : Plugin) (out source : Path) : Path :=
  out / (relativeTo p.projectRoot source).withEnding scriptEnding

/-- What stands behind the word for a file on a host: its source and its code. -/
structure Reads (h : Host) (file : Text) (source : Path) (code : Text) : Prop where
  real : Host.realPath h.files (Path.ofText file) = .ok source
  read : (Host.readText source).run.run h = (.ok code, h)

/-- What a turn does that has read its file. -/
def turn (p : Plugin) (out source : Path) (code : Text) : Doing Bool := do
  match ← attempt (bundled p code source.text) with
  | .error e =>
    if e.isOwn then
      say (moduleFailure (relativeTo p.projectRoot source) e)
      return true
    else throw (.crash (.error e))
  | .ok (compiled, output) =>
    act (Host.makePath (outputPath p out source).parent)
    act (Host.writeText (outputPath p out source) output)
    let marker : Text := if compiled then "compiled" else "copied"
    say (styled "green" ("✓ " ++ (relativeTo p.projectRoot source).text ++ " → " ++
      ((relativeTo p.projectRoot source).withEnding scriptEnding).text ++ " (" ++ marker ++ ")"))
    return false

theorem run_modify (f : Progress → Progress) (d : Progress) :
    (modify f : Doing Unit).run.run d = (.ok (), f d) := rfl

/-- The line for the file that is being compiled. -/
def taskFor (p : Plugin) (source : Path) : Text :=
  "Compiling " ++ (relativeTo p.projectRoot source).text ++ "..."

theorem buildFile_eq (p : Plugin) (out : Path) (file : Text) :
    buildFile p out file = (do
      let source ← ask (Host.realPath · (Path.ofText file))
      modify fun done => { done with task := taskFor p source }
      turn p out source (← act (Host.readText source))) := rfl

variable {p : Plugin} {out source : Path} {file code : Text} {d d' : Progress}

theorem run_buildFile (h : Reads d.session.host file source code) :
    (buildFile p out file).run.run d =
      (turn p out source code).run.run { d with task := taskFor p source } := by
  rw [buildFile_eq, run_bind, run_ask, h.real]
  dsimp only
  rw [run_bind, run_modify]
  dsimp only
  rw [run_bind, run_act, h.read]

/-- Without a code there is a crash. -/
theorem run_buildFile_of_not_reads (p : Plugin) (out : Path)
    (h : ∀ source code, ¬ Reads d.session.host file source code) :
    ∃ stop d', (buildFile p out file).run.run d = (.error stop, d') ∧ SameSession d d' := by
  rw [buildFile_eq, run_bind, run_ask]
  match hreal : Host.realPath d.session.host.files (Path.ofText file) with
  | .error e => exact ⟨_, d, rfl, rfl⟩
  | .ok source =>
    have hhost := Host.host_readText source d.session.host
    dsimp only
    rw [run_bind, run_modify]
    dsimp only
    rw [run_bind, run_act]
    match hread : (Host.readText source).run.run d.session.host with
    | (.ok code, host) =>
      rw [hread] at hhost
      obtain rfl : host = d.session.host := hhost
      exact absurd ⟨hreal, hread⟩ (h source code)
    | (.error e, host) =>
      rw [hread] at hhost
      obtain rfl : host = d.session.host := hhost
      exact ⟨_, _, rfl, rfl⟩

/-- What a turn comes to that ends well: its module is bundled, and what that gives stands in the
output. -/
theorem built_of_turn (h : (turn p out source code).run.run d = (.ok false, d')) :
    ∃ compiled output s host host',
      (bundled p code source.text).run.run d.session = (.ok (compiled, output), s) ∧
      (Host.makePath (outputPath p out source).parent).run.run s.host = (.ok (), host) ∧
      (Host.writeText (outputPath p out source) output).run.run host = (.ok (), host') ∧
      d'.session = { s with host := host' } := by
  rw [turn, run_bind, run_attempt] at h
  dsimp only at h
  rcases hbundled : (bundled p code source.text).run.run d.session with ⟨e | ⟨compiled, output⟩, s⟩
  · rw [hbundled] at h
    dsimp only at h
    split at h
    · obtain ⟨_, _, -, hend⟩ := run_bind_ok h
      cases hend
    · cases h
  · rw [hbundled] at h
    dsimp only at h
    obtain ⟨⟨⟩, d₁, hmaking, h⟩ := run_bind_ok h
    obtain ⟨host, hmake, rfl⟩ := of_run_act hmaking
    obtain ⟨⟨⟩, d₂, hwriting, h⟩ := run_bind_ok h
    obtain ⟨host', hwrite, rfl⟩ := of_run_act hwriting
    obtain ⟨⟨⟩, d₃, hsay, hend⟩ := run_bind_ok h
    cases hend
    exact ⟨compiled, output, s, host, host', rfl, hmake, hwrite,
      session_of_run (quiet_say _) hsay⟩

/-- What a turn comes to that fails: the failure is one of the library's own, and what was done up to
it stays done. -/
theorem failed_of_turn (h : (turn p out source code).run.run d = (.ok true, d')) :
    ∃ e, (bundled p code source.text).run.run d.session = (.error e, d'.session) ∧
      e.isOwn = true := by
  rw [turn, run_bind, run_attempt] at h
  dsimp only at h
  rcases hbundled : (bundled p code source.text).run.run d.session with ⟨e | ⟨compiled, output⟩, s⟩
  · rw [hbundled] at h
    dsimp only at h
    split at h
    · next hown =>
      obtain ⟨⟨⟩, d₁, hsay, hend⟩ := run_bind_ok h
      cases hend
      exact ⟨e, by rw [session_of_run (quiet_say _) hsay], hown⟩
    · cases h
  · rw [hbundled] at h
    dsimp only at h
    obtain ⟨⟨⟩, d₁, -, h⟩ := run_bind_ok h
    obtain ⟨⟨⟩, d₂, -, h⟩ := run_bind_ok h
    obtain ⟨⟨⟩, d₃, -, hend⟩ := run_bind_ok h
    cases hend

/-- A turn that does not crash has read its file. -/
theorem reads_of_buildFile {failed : Bool} (h : (buildFile p out file).run.run d = (.ok failed, d')) :
    ∃ source code, Reads d.session.host file source code ∧
      (turn p out source code).run.run { d with task := taskFor p source } = (.ok failed, d') := by
  by_cases hreads : ∃ source code, Reads d.session.host file source code
  · obtain ⟨source, code, hreads⟩ := hreads
    exact ⟨source, code, hreads, by rw [← run_buildFile hreads, h]⟩
  · obtain ⟨stop, d₁, hrun, -⟩ := run_buildFile_of_not_reads p out
      fun source code hr => hreads ⟨source, code, hr⟩
    rw [hrun] at h
    cases h

/-! ## §3 Changes -/

/-- A relation between the hosts of two states. -/
def OnHost (related : Host → Host → Prop) (d d' : Progress) : Prop :=
  related d.session.host d'.session.host

instance {related : Host → Host → Prop} [Lasting related] : Lasting (OnHost related) :=
  ⟨fun d => Lasting.refl d.session.host, fun hab hbc => @Lasting.trans _ related _ _ _ _ hab hbc⟩

section OnHost

variable {α : Type} {related : Host → Host → Prop}

theorem onHost_act {f : Action α} (hf : Stays related f) : Stays (OnHost related) (act f) := by
  intro d
  rw [OnHost, session_act]
  exact hf d.session.host

variable [Lasting related]

theorem onHost_of_sameSession (h : SameSession d d') : OnHost related d d' := by
  rw [OnHost, show d'.session = d.session from h]
  exact Lasting.refl _

theorem onHost_quiet {x : Doing α} (hx : Quiet x) : Stays (OnHost related) x :=
  fun d => onHost_of_sameSession (hx d)

/-- A relation that holds between hosts with the same files and the same compiler. -/
def SeesWorld (related : Host → Host → Prop) : Prop :=
  ∀ h h' : Host, h'.files = h.files → h'.toolchain = h.toolchain → related h h'

/-- What the parts of a turn do to a host the turn does. -/
theorem onHost_turn (hworld : SeesWorld related)
    (htransform : Stays related (Transform.transform p.settings code source.text))
    (hmake : Stays related (Host.makePath (outputPath p out source).parent))
    (hwrite : ∀ output, Stays related (Host.writeText (outputPath p out source) output)) :
    Stays (OnHost related) (turn p out source code) := by
  have hbundled : Stays (OnHost related) (attempt (bundled p code source.text)) := by
    intro d
    have hstate := (run_bundled_state p code source.text d.session).2
    exact @Lasting.trans _ related _ _ _ _ (htransform d.session.host)
      (hworld _ _ hstate.files hstate.host.toolchain)
  refine .bind hbundled fun r => ?_
  split
  · split
    · exact .bind (onHost_quiet (quiet_say _)) fun _ => .pure _
    · exact .throw _
  · refine .bind (onHost_act hmake) fun _ => .bind (onHost_act (hwrite _)) fun _ => ?_
    exact .bind (onHost_quiet (quiet_say _)) fun _ => .pure _

/-- The same of the whole turn, where it is known which file is read. -/
theorem onHost_buildFile (d : Progress)
    (hturn : ∀ source code, Reads d.session.host file source code →
      Stays (OnHost related) (turn p out source code)) :
    OnHost related d ((buildFile p out file).run.run d).2 := by
  by_cases hreads : ∃ source code, Reads d.session.host file source code
  · obtain ⟨source, code, hreads⟩ := hreads
    rw [run_buildFile hreads]
    exact hturn source code hreads { d with task := taskFor p source }
  · obtain ⟨stop, d', hrun, hsame⟩ := run_buildFile_of_not_reads p out
      fun source code hr => hreads ⟨source, code, hr⟩
    rw [hrun]
    exact onHost_of_sameSession hsame

end OnHost

theorem seesWorld_keepsFiles : SeesWorld Host.KeepsFiles :=
  fun _ _ hfiles _ => Host.SameFiles.keeps hfiles

/-- Nothing is taken away. -/
theorem keeps_buildFile (hb : p.buildRoot.IsResolved) (out : Path) (file : Text) :
    Stays (OnHost Host.KeepsFiles) (buildFile p out file) :=
  fun d => onHost_buildFile d fun _ _ _ =>
    onHost_turn seesWorld_keepsFiles (Transform.keeps_transform hb _ _) (Host.careful_makePath _)
      fun _ => Host.careful_writeText _ _

/-- The working directory and the compiler stay the same. -/
theorem sameTools_buildFile (p : Plugin) (out : Path) (file : Text) :
    Stays (OnHost Host.SameTools) (buildFile p out file) :=
  fun d => onHost_buildFile d fun _ _ _ =>
    onHost_turn (fun _ _ hfiles htools => ⟨by rw [hfiles], htools⟩)
      (Transform.sameTools_transform _ _ _) (Host.sameTools_makePath _)
      fun _ => Host.sameTools_writeBytes _ _

/-- Besides the output and the slot nothing is changed. -/
theorem spares_buildFile {places : Place → Prop} (hb : p.buildRoot.IsResolved) (d : Progress)
    (hplaces : ∀ source, Host.realPath d.session.host.files (Path.ofText file) = .ok source →
      (outputPath p out source).IsResolved ∧ places (outputPath p out source).names ∧
        ∀ name ∈ Transform.builtNames,
          places (p.settings.slotFile (Slot.name source.text) name)) :
    OnHost (Host.Spares places) d ((buildFile p out file).run.run d).2 := by
  refine onHost_buildFile d fun source code hreads => ?_
  obtain ⟨hresolved, houtput, hslot⟩ := hplaces source hreads.real
  exact onHost_turn (fun _ _ hfiles _ => Host.SameFiles.spares hfiles)
    (Host.spares_transform hb code source.text hslot) (Host.spares_makePath _)
    fun _ => Host.spares_writeBytes hresolved houtput _

/-! ## §4 Turns -/

/-- What a build has done when some of its files have had their turns. -/
def reached (p : Plugin) (out : Path) (before : List Text) (d : Progress) : Progress :=
  ((buildFiles p out before).run.run d).2

theorem reached_cons {failed : Bool} (h : (buildFile p out file).run.run d = (.ok failed, d')) :
    reached p out (file :: before) d = reached p out before d' := by
  rw [reached, buildFiles, run_bind, h]
  dsimp only
  rw [run_bind]
  rcases hrest : (buildFiles p out before).run.run d' with ⟨stop | n, d₁⟩
  · rw [reached, hrest]
  · rw [reached, hrest]
    rfl

theorem stays_buildFiles {related : Progress → Progress → Prop} [Lasting related]
    (hturn : ∀ file, Stays related (buildFile p out file)) (files : List Text) :
    Stays related (buildFiles p out files) := by
  induction files with
  | nil => exact .pure _
  | cons file files ih => exact .bind (hturn file) fun _ => .bind ih fun _ => .pure _

/-- Turns that all end are those of the first files and then those of the others. -/
theorem of_buildFiles_append {before after : List Text} {n : Nat}
    (h : (buildFiles p out (before ++ after)).run.run d = (.ok n, d')) :
    ∃ k m, (buildFiles p out before).run.run d = (.ok k, reached p out before d) ∧
      (buildFiles p out after).run.run (reached p out before d) = (.ok m, d') ∧ n = k + m := by
  unfold reached
  induction before generalizing d n with
  | nil => exact ⟨0, n, rfl, h, by omega⟩
  | cons file before ih =>
    obtain ⟨failed, d₁, hfile, hrest⟩ := run_bind_ok h
    obtain ⟨more, d₂, hmore, hend⟩ := run_bind_ok hrest
    cases hend
    obtain ⟨k, m, hbefore, hafter, rfl⟩ := ih hmore
    have hcons : (buildFiles p out (file :: before)).run.run d =
        (.ok (if failed then k + 1 else k), ((buildFiles p out before).run.run d₁).2) := by
      rw [buildFiles, run_bind, hfile]
      dsimp only
      rw [run_bind, hbefore]
      rfl
    rw [hcons]
    refine ⟨_, m, rfl, hafter, ?_⟩
    split <;> omega

theorem of_buildFiles_cons {files : List Text} {n : Nat}
    (h : (buildFiles p out (file :: files)).run.run d = (.ok n, d')) :
    ∃ failed m d₁, (buildFile p out file).run.run d = (.ok failed, d₁) ∧
      (buildFiles p out files).run.run d₁ = (.ok m, d') ∧ n = if failed then m + 1 else m := by
  obtain ⟨failed, d₁, hfile, hrest⟩ := run_bind_ok h
  obtain ⟨m, d₂, hmore, hend⟩ := run_bind_ok hrest
  cases hend
  exact ⟨failed, m, d₁, hfile, hmore, rfl⟩

/-! ## §5 Files -/

/-- The place that the word for a file leads to. -/
def inputPlace (t : FileTree) (file : Text) : Place :=
  match t.locate true (Path.ofText file) with
  | .ok (place, _) => place
  | .error _ => []

/-- The id of the module in a file. -/
def moduleId (t : FileTree) (file : Text) : Text := (Path.ofNames (inputPlace t file)).text

/-- The place of the output for a file. -/
def outputPlace (p : Plugin) (out : Path) (t : FileTree) (file : Text) : Place :=
  (outputPath p out (Path.ofNames (inputPlace t file))).names

/-- The place of a file that a transform makes for a file. -/
def slotPlace (p : Plugin) (t : FileTree) (file name : Text) : Place :=
  p.settings.slotFile (Slot.name (moduleId t file)) name

/-- Words for files that are there, seen from a directory that is. -/
structure AreFiles (t : FileTree) (files : List Text) : Prop where
  here : ∀ n ∈ t.here, Path.IsPlain n
  isOpen : t.IsOpen t.here
  isFile : ∀ file ∈ files, t.isFile (Path.ofText file) = .ok true

/-- A later state, from which nothing was taken away. -/
structure Since (h : Host) (d : Progress) : Prop where
  keeps : h.KeepsFiles d.session.host
  tools : h.SameTools d.session.host

variable {files : List Text} {h : Host}

theorem Since.trans (hsince : Since h d) (hkeeps : OnHost Host.KeepsFiles d d')
    (htools : OnHost Host.SameTools d d') : Since h d' :=
  ⟨Lasting.trans hsince.keeps hkeeps, Lasting.trans hsince.tools htools⟩

/-- The path of a file leads later to where it led before. -/
theorem AreFiles.realPath_later (hfiles : AreFiles h.files files) (hsince : Since h d)
    (hfile : file ∈ files) :
    Host.realPath d.session.host.files (Path.ofText file) =
        .ok (Path.ofNames (inputPlace h.files file)) ∧
      d.session.host.files.IsStraight (inputPlace h.files file) ∧
      (Path.ofNames (inputPlace h.files file)).IsResolved := by
  obtain ⟨place, content, m, hlocate⟩ :=
    FileTree.isFile_eq_true_iff.1 (hfiles.isFile file hfile)
  have hplace : inputPlace h.files file = place := by rw [inputPlace, hlocate]
  obtain ⟨content', m', hlater⟩ := FileTree.Keeps.locate hsince.keeps hsince.tools.1 hlocate
  have hhere := hsince.tools.1
  obtain ⟨hreal, hstraight, hplain⟩ := FileTree.realPath_of_locate
    (fun n hn => Path.mem_names_ofText hn)
    (by rw [hhere]; exact fun q hq => hsince.keeps.directories q (hfiles.isOpen q hq))
    (by rw [hhere]; exact hfiles.here) hlater
  rw [hplace]
  exact ⟨Host.realPath_eq_ok_iff.2 hreal, hstraight, rfl, hplain⟩

/-- What stands for a source below the bundle: names of the source itself. -/
theorem relativeTo_cases (root source : Path) : (relativeTo root source).slashes = 0 ∧
    ((∀ n ∈ (relativeTo root source).names, n ∈ source.names) ∨
      (relativeTo root source).names = [source.name]) := by
  unfold relativeTo
  split
  · next p hbelow =>
    unfold Path.below? at hbelow
    split at hbelow
    · cases hbelow
      exact ⟨rfl, .inl fun n hn => List.mem_of_mem_drop hn⟩
    · cases hbelow
  · exact ⟨rfl, .inr rfl⟩

/-- The names of an output: those of the directory, of the way to the source, and a last one with the
ending of scripts. -/
theorem names_outputPath (p : Plugin) (out source : Path) :
    (outputPath p out source).slashes = out.slashes ∧
      (outputPath p out source).names = out.names ++
        ((relativeTo p.projectRoot source).names.dropLast ++
          [(relativeTo p.projectRoot source).stem ++ scriptEnding]) := by
  have habsolute : ((relativeTo p.projectRoot source).withEnding scriptEnding).isAbsolute = false := by
    simp [Path.withEnding, Path.isAbsolute, (relativeTo_cases p.projectRoot source).1]
  rw [outputPath, Path.join_of_not_absolute habsolute]
  exact ⟨rfl, rfl⟩

theorem isPlain_script {stem : Text} (h : '/' ∉ stem) : Path.IsPlain (stem ++ scriptEnding) := by
  have hlast : 's' ∈ stem ++ scriptEnding := by simp [scriptEnding]
  refine ⟨?_, ?_, ?_, ?_⟩
  · rintro heq
    simp [heq] at hlast
  · rintro heq
    simp [heq] at hlast
  · rintro heq
    simp [heq] at hlast
  · rw [List.mem_append, not_or]
    exact ⟨h, by decide⟩

theorem slash_not_mem_name {p : Path} (hp : ∀ n ∈ p.names, '/' ∉ n) : '/' ∉ p.name := by
  rw [Path.name]
  cases hlast : p.names.getLast? with
  | none => simp
  | some n => exact hp n (List.mem_of_getLast? hlast)

theorem isResolved_outputPath {source : Path} (hout : out.IsResolved) (hsource : source.IsResolved) :
    (outputPath p out source).IsResolved := by
  obtain ⟨hslashes, hnames⟩ := names_outputPath p out source
  refine ⟨hslashes.trans hout.slashes, fun n hn => ?_⟩
  have hslash : ∀ n ∈ (relativeTo p.projectRoot source).names, '/' ∉ n := by
    intro n hn
    rcases (relativeTo_cases p.projectRoot source).2 with hin | hone
    · exact (hsource.plain n (hin n hn)).noSlash
    · rw [hone, List.mem_singleton] at hn
      rw [hn]
      exact slash_not_mem_name fun n hn => (hsource.plain n hn).noSlash
  have hstem : '/' ∉ (relativeTo p.projectRoot source).stem := by
    have hname := slash_not_mem_name hslash
    rw [← Path.splitName_append (relativeTo p.projectRoot source).name, List.mem_append,
      not_or] at hname
    exact hname.1
  rw [hnames] at hn
  rcases List.mem_append.1 hn with hn | hn
  · exact hout.plain n hn
  rcases List.mem_append.1 hn with hn | hn
  · rcases (relativeTo_cases p.projectRoot source).2 with hin | hone
    · exact hsource.plain n (hin n (List.mem_of_mem_dropLast hn))
    · rw [hone] at hn
      cases hn
  · rw [List.mem_singleton.1 hn]
    exact isPlain_script hstem

/-- An output is a script, and no transform makes one. -/
theorem outputPlace_ne_slotPlace (t t' : FileTree) (file' name : Text)
    (hname : name ∈ Transform.builtNames) :
    outputPlace p out t file ≠ slotPlace p t' file' name := by
  intro heq
  have hscript : ∀ name ∈ Transform.builtNames, ¬ scriptEnding <:+ name := by decide
  rw [outputPlace, (names_outputPath p out _).2, ← List.append_assoc, slotPlace,
    Transform.Settings.slotFile] at heq
  obtain ⟨-, hlast⟩ := List.append_inj' heq rfl
  rw [List.singleton_inj] at hlast
  exact hscript name hname (hlast ▸ List.suffix_append ..)

/-- Two outputs are the same if the sources are called the same but for their endings. -/
theorem outputPlace_eq_iff (t : FileTree) (file file' : Text) :
    outputPlace p out t file = outputPlace p out t file' ↔
      (relativeTo p.projectRoot (Path.ofNames (inputPlace t file))).withEnding [] =
        (relativeTo p.projectRoot (Path.ofNames (inputPlace t file'))).withEnding [] := by
  rw [outputPlace, outputPlace, (names_outputPath p out _).2, (names_outputPath p out _).2,
    List.append_cancel_left_eq]
  constructor
  · intro h
    obtain ⟨hinit, hlast⟩ := List.append_inj' h rfl
    have hstem := List.append_cancel_right (List.singleton_inj.1 hlast)
    rw [Path.withEnding, Path.withEnding, hinit, hstem,
      (relativeTo_cases _ _).1, (relativeTo_cases _ _).1]
  · intro h
    have hnames := (Path.mk.inj h).2
    rw [List.append_nil, List.append_nil] at hnames
    obtain ⟨hinit, hlast⟩ := List.append_inj' hnames rfl
    rw [hinit, List.singleton_inj.1 hlast]

/-! ## §6 What turns change -/

/-- The places that the turns of files can change. -/
def turnPlaces (p : Plugin) (out : Path) (t : FileTree) (files : List Text) (q : Place) : Prop :=
  ∃ file ∈ files, q = outputPlace p out t file ∨
    ∃ name ∈ Transform.builtNames, q = slotPlace p t file name

theorem Since.buildFile (hb : p.buildRoot.IsResolved) (hsince : Since h d) (out : Path)
    (file : Text) : Since h ((buildFile p out file).run.run d).2 :=
  hsince.trans (keeps_buildFile hb out file d) (sameTools_buildFile p out file d)

theorem Since.reached (hb : p.buildRoot.IsResolved) (hsince : Since h d) (out : Path)
    (before : List Text) : Since h (reached p out before d) :=
  hsince.trans (stays_buildFiles (keeps_buildFile hb out) before d)
    (stays_buildFiles (sameTools_buildFile p out) before d)

/-- Besides the outputs and the slots of the files nothing is changed by their turns. -/
theorem spares_buildFiles (hb : p.buildRoot.IsResolved) (hout : out.IsResolved)
    (hfiles : AreFiles h.files files) (hsince : Since h d) {chosen : List Text}
    (hchosen : ∀ file ∈ chosen, file ∈ files) :
    OnHost (Host.Spares (turnPlaces p out h.files chosen)) d
      ((buildFiles p out chosen).run.run d).2 := by
  induction chosen generalizing d with
  | nil => exact Lasting.refl d
  | cons file chosen ih =>
    have hfile : OnHost (Host.Spares (turnPlaces p out h.files (file :: chosen))) d
        ((buildFile p out file).run.run d).2 := by
      refine spares_buildFile hb d fun source hreal => ?_
      obtain ⟨hlater, -, hresolved⟩ := hfiles.realPath_later hsince (hchosen file (by simp))
      obtain rfl := Except.ok.inj (hreal.symm.trans hlater)
      exact ⟨isResolved_outputPath hout hresolved, ⟨file, by simp, .inl rfl⟩,
        fun name hname => ⟨file, by simp, .inr ⟨name, hname, rfl⟩⟩⟩
    have hlater := hsince.buildFile hb out file
    rw [buildFiles, run_bind]
    rcases hrun : (buildFile p out file).run.run d with ⟨stop | failed, d₁⟩
    · rwa [hrun] at hfile
    · rw [hrun] at hfile hlater
      have hrest := ih hlater fun f hf => hchosen f (by simp [hf])
      refine Lasting.trans hfile ?_
      dsimp only
      rw [run_bind]
      have hmono : ∀ q, turnPlaces p out h.files chosen q →
          turnPlaces p out h.files (file :: chosen) q :=
        fun q ⟨f, hf, hq⟩ => ⟨f, by simp [hf], hq⟩
      rcases hmore : (buildFiles p out chosen).run.run d₁ with ⟨stop | more, d₂⟩
      · rw [hmore] at hrest
        exact hrest.mono hmono
      · rw [hmore] at hrest
        exact hrest.mono hmono

/-! ## §7 Emissions -/

/-- What is emitted in the turn of a file. -/
def turnEmissions (p : Plugin) (s : Session) (file : Text) : List Bundle.Emission :=
  match Host.realPath s.host.files (Path.ofText file) with
  | .error _ => []
  | .ok source =>
    match (Host.readText source).run.run s.host with
    | (.error _, _) => []
    | (.ok code, _) => p.moduleEmissions code source.text s

/-- What is emitted in turns, as long as none of them crashes. -/
def buildEmissions (p : Plugin) (out : Path) : List Text → Progress → List Bundle.Emission
  | [], _ => []
  | file :: files, d =>
    turnEmissions p d.session file ++
      match (buildFile p out file).run.run d with
      | (.ok _, d') => buildEmissions p out files d'
      | (.error _, _) => []

theorem turnEmissions_of_reads (hreads : Reads d.session.host file source code) :
    turnEmissions p d.session file = p.moduleEmissions code source.text d.session := by
  rw [turnEmissions, hreads.real]
  dsimp only
  rw [hreads.read]

theorem turnEmissions_of_not_reads (h : ∀ source code, ¬ Reads d.session.host file source code) :
    turnEmissions p d.session file = [] := by
  rw [turnEmissions]
  match hreal : Host.realPath d.session.host.files (Path.ofText file) with
  | .error e => rfl
  | .ok source =>
    have hhost := Host.host_readText source d.session.host
    dsimp only
    match hread : (Host.readText source).run.run d.session.host with
    | (.error e, host) => rfl
    | (.ok code, host) =>
      rw [hread] at hhost
      obtain rfl : host = d.session.host := hhost
      exact absurd ⟨hreal, hread⟩ (h source code)

/-- The glue, the assets and the compiler are the same. -/
def SameBundle (d d' : Progress) : Prop :=
  d'.session.glue = d.session.glue ∧ d'.session.assets = d.session.assets ∧
    d'.session.host.toolchain = d.session.host.toolchain

instance : Lasting SameBundle :=
  ⟨fun _ => ⟨rfl, rfl, rfl⟩, fun hab hbc =>
    ⟨hbc.1.trans hab.1, hbc.2.1.trans hab.2.1, hbc.2.2.trans hab.2.2⟩⟩

theorem sameBundle_quiet {α : Type} {x : Doing α} (hx : Quiet x) : Stays SameBundle x := by
  intro d
  have hsame : (x.run.run d).2.session = d.session := hx d
  rw [SameBundle, hsame]
  exact ⟨rfl, rfl, rfl⟩

theorem sameBundle_act {α : Type} {f : Action α} (hf : Stays Host.SameTools f) :
    Stays SameBundle (act f) := by
  intro d
  rw [SameBundle, session_act]
  exact ⟨rfl, rfl, (hf d.session.host).2⟩

/-- Only bundling changes the assets and the glue. -/
theorem sameBundle_turn (p : Plugin) (out source : Path) (code : Text) (d : Progress) :
    SameBundle { d with session := ((bundled p code source.text).run.run d.session).2 }
      ((turn p out source code).run.run d).2 := by
  rw [turn, run_bind, run_attempt]
  dsimp only
  split
  · split
    · exact Stays.bind (sameBundle_quiet (quiet_say _)) (fun _ => .pure _) _
    · exact Lasting.refl _
  · refine Stays.bind (sameBundle_act (Host.sameTools_makePath _)) (fun _ => ?_) _
    refine .bind (sameBundle_act (Host.sameTools_writeBytes _ _)) fun _ => ?_
    exact .bind (sameBundle_quiet (quiet_say _)) fun _ => .pure _

/-- The glue is read in a turn, which is behind the transform of its module. -/
def ReadsGlue (p : Plugin) (s : Session) (file glue : Text) : Prop :=
  ∃ source code, Reads s.host file source code ∧
    ((Session.readGlue p.compiler).run.run (p.transformed code source.text s).host).1 = .ok glue

/-- A turn adds what is emitted in it to the assets. Glue that is known after it was known before, or is
read in it. -/
theorem assets_buildFile (p : Plugin) (out : Path) (file : Text) (d : Progress) :
    ((buildFile p out file).run.run d).2.session.assets =
        (turnEmissions p d.session file).foldl Bundle.Assets.add d.session.assets ∧
      Session.KeepsGlue d.session ((buildFile p out file).run.run d).2.session ∧
      ∀ glue, ((buildFile p out file).run.run d).2.session.glue = some glue →
        d.session.glue = some glue ∨ ReadsGlue p d.session file glue := by
  by_cases hreads : ∃ source code, Reads d.session.host file source code
  · obtain ⟨source, code, hreads⟩ := hreads
    obtain ⟨hassets, hworld⟩ := run_bundled_state p code source.text d.session
    have htransformed : Session.KeepsGlue d.session (p.transformed code source.text d.session) :=
      ⟨(Transform.sameTools_transform p.settings code source.text d.session.host).2, fun _ h => h⟩
    have hbundled := Lasting.trans htransformed hworld.keepsGlue
    obtain ⟨hglue, hsame, htool⟩ :=
      sameBundle_turn p out source code { d with task := taskFor p source }
    rw [run_buildFile hreads, turnEmissions_of_reads hreads]
    refine ⟨hsame.trans hassets, ⟨htool.trans hbundled.toolchain, fun glue h => ?_⟩, fun glue h => ?_⟩
    · rw [hglue]
      exact hbundled.glue glue h
    · rw [hglue] at h
      exact (hworld.origin glue h).imp_right fun hread => ⟨source, code, hreads, hread⟩
  · obtain ⟨stop, d', hrun, hsame⟩ := run_buildFile_of_not_reads p out
      fun source code hr => hreads ⟨source, code, hr⟩
    rw [turnEmissions_of_not_reads fun source code hr => hreads ⟨source, code, hr⟩, hrun]
    dsimp only
    rw [show d'.session = d.session from hsame]
    exact ⟨rfl, Lasting.refl _, fun _ h => .inl h⟩

/-- The glue is read in one of the turns. -/
def GlueRead (p : Plugin) (out : Path) (files : List Text) (d : Progress) (glue : Text) : Prop :=
  ∃ before file after, files = before ++ file :: after ∧
    ReadsGlue p (reached p out before d).session file glue

theorem GlueRead.cons {glue : Text} {failed : Bool}
    (hfile : (buildFile p out file).run.run d = (.ok failed, d'))
    (h : GlueRead p out files d' glue) : GlueRead p out (file :: files) d glue := by
  obtain ⟨before, other, after, rfl, hread⟩ := h
  exact ⟨file :: before, other, after, rfl, by rwa [reached_cons hfile]⟩

/-- The assets after turns are those before and what was emitted since. Glue that is known then was known
before, or is read in one of them. -/
theorem assets_buildFiles (p : Plugin) (out : Path) (files : List Text) (d : Progress) :
    ((buildFiles p out files).run.run d).2.session.assets =
        (buildEmissions p out files d).foldl Bundle.Assets.add d.session.assets ∧
      Session.KeepsGlue d.session ((buildFiles p out files).run.run d).2.session ∧
      ∀ glue, ((buildFiles p out files).run.run d).2.session.glue = some glue →
        d.session.glue = some glue ∨ GlueRead p out files d glue := by
  induction files generalizing d with
  | nil => exact ⟨rfl, Lasting.refl _, fun _ h => .inl h⟩
  | cons file files ih =>
    obtain ⟨hassets, hkeeps, horigin⟩ := assets_buildFile p out file d
    have hhere : ∀ glue, ReadsGlue p d.session file glue → GlueRead p out (file :: files) d glue :=
      fun glue h => ⟨[], file, files, rfl, h⟩
    rw [buildFiles, buildEmissions, run_bind, List.foldl_append]
    rcases hrun : (buildFile p out file).run.run d with ⟨stop | failed, d₁⟩
    · rw [hrun] at hassets hkeeps horigin
      exact ⟨hassets, hkeeps, fun glue h => (horigin glue h).imp_right (hhere glue)⟩
    · rw [hrun] at hassets hkeeps horigin
      obtain ⟨hrest, hlater, hsince⟩ := ih d₁
      have hall : ∀ glue, ((buildFiles p out files).run.run d₁).2.session.glue = some glue →
          d.session.glue = some glue ∨ GlueRead p out (file :: files) d glue := by
        intro glue h
        rcases hsince glue h with hknown | hread
        · exact (horigin glue hknown).imp_right (hhere glue)
        · exact .inr (hread.cons hrun)
      dsimp only at hassets hkeeps ⊢
      rw [← hassets, run_bind]
      rcases hmore : (buildFiles p out files).run.run d₁ with ⟨stop | more, d₂⟩
      all_goals
        rw [hmore] at hrest hlater hall
        exact ⟨hrest, Lasting.trans hkeeps hlater, hall⟩

/-- What is emitted in one of the turns is emitted in the build. -/
theorem mem_buildEmissions {before after : List Text} {k : Nat}
    (hbefore : (buildFiles p out before).run.run d = (.ok k, d')) {e : Bundle.Emission}
    (he : e ∈ turnEmissions p d'.session file) :
    e ∈ buildEmissions p out (before ++ file :: after) d := by
  induction before generalizing d k with
  | nil =>
    cases hbefore
    exact List.mem_append_left _ he
  | cons first before ih =>
    obtain ⟨failed, m, d₁, hfirst, hrest, -⟩ := of_buildFiles_cons hbefore
    rw [List.cons_append, buildEmissions, hfirst]
    exact List.mem_append_right _ (ih hrest)

/-! ## §8 Beginning and end -/

/-- What there is when the files of a build have their turns before them. -/
structure Begun (h : Host) (p : Plugin) (out : Path) (d : Progress) : Prop where
  projectRoot : p.projectRoot.IsResolved
  buildRoot : p.buildRoot.IsResolved
  mode : p.mode = .build
  out : out.IsResolved
  noAssets : d.session.assets = []
  noGlue : d.session.glue = none
  since : Since h d
  spares : ∀ places, h.Spares places d.session.host

theorem spares_buildStart (p : Plugin) (places : Place → Prop) :
    Stays (Host.Spares places) p.buildStart := by
  refine .bind (Host.spares_makePath _) fun _ => ?_
  refine .bind (fun h => (p.compiler.looks_isInstalled h).spares) fun installed => ?_
  split
  · exact fun h => (p.compiler.looks_version h).spares
  · exact .throw _

variable {c : Common} {root : Path} {word : Text}

/-- A build begins with the directories of the slots, and changes nothing before its files. -/
theorem begun_of_start (hhere : ∀ n ∈ h.files.here, Path.IsPlain n)
    (hroot : Host.realPath h.files (Path.ofText c.root) = .ok root)
    (hstart : (start c root files word).run.run { session := { host := h } } = (.ok (p, out), d)) :
    Begun h p out d := by
  obtain ⟨o, d₁, hoptions, hlooking⟩ := run_bind_ok hstart
  have hd₁ := session_of_run (quiet_options c root) hoptions
  obtain ⟨out', d₂, hout, hcreating⟩ := run_bind_ok hlooking
  obtain ⟨hreal, hd₂⟩ := of_run_ask hout
  obtain ⟨p', d₃, hplugin, hsaying⟩ := run_bind_ok hcreating
  obtain ⟨hcreate, hd₃⟩ := of_run_ask hplugin
  rw [hd₂] at hcreate hd₃
  obtain ⟨⟨⟩, d₄, hsay, hstarting⟩ := run_bind_ok hsaying
  have hd₄ := session_of_run (quiet_say _) hsay
  rw [hd₃, hd₁] at hd₄
  obtain ⟨r, d₅, hattempt, hend⟩ := run_bind_ok hstarting
  rw [run_attempt] at hattempt
  cases hattempt
  rw [hd₁] at hreal hcreate
  rw [hd₄] at hend
  cases hr : ((Session.act p'.buildStart).run.run { host := h }).1 with
  | error e =>
    rw [hr] at hend
    dsimp only at hend
    split at hend
    · obtain ⟨_, _, -, hend⟩ := run_bind_ok hend
      cases hend
    · cases hend
  | ok version =>
    rw [hr] at hend
    cases hend
    have hresolved := Plugin.isResolved_of_written hhere
      (fun n hn => FileTree.IsWritten.of_plain ((Host.isResolved_of_realPath (fun _ => hhere)
        (fun n hn => Path.mem_names_ofText hn) hroot).plain n hn)) hcreate
    exact {
      projectRoot := hresolved.1
      buildRoot := hresolved.2
      mode := (Except.ok.inj (Plugin.create_eq_ok_iff.1 hcreate).2.2.1).symm
      out := Host.isResolved_of_realPath (fun _ => hhere) (fun n hn => Path.mem_names_ofText hn) hreal
      noAssets := rfl
      noGlue := rfl
      since := ⟨p.keeps_buildStart { host := h }, p.sameTools_buildStart h⟩
      spares := fun places => spares_buildStart p places h }

theorem run_lift {α : Type} (x : StateM Progress α) (d : Progress) :
    (ExceptT.lift x : Doing α).run.run d = (.ok (x.run d).1, (x.run d).2) := rfl

theorem quiet_showTask : Quiet showTask :=
  .bind .get fun _ => .bind (quiet_rendered _) fun _ => quiet_put _

/-- What is shown at the end of the turns leaves what they came to. -/
theorem of_buildAll {n : Nat} (hrun : (buildAll p out files).run.run d = (.ok n, d')) :
    ∃ d₁, (buildFiles p out files).run.run d = (.ok n, d₁) ∧ SameSession d₁ d' := by
  obtain ⟨done, d₁, hlift, hrest⟩ := run_bind_ok hrun
  rw [run_lift] at hlift
  cases hlift
  obtain ⟨⟨⟩, d₂, hshow, hend⟩ := run_bind_ok hrest
  have hsame := session_of_run quiet_showTask hshow
  match hdone : (buildFiles p out files).run.run d with
  | (.error stop, d₁) =>
    rw [hdone] at hend
    cases hend
  | (.ok m, d₁) =>
    rw [hdone] at hend hsame
    cases hend
    exact ⟨d₁, rfl, hsame⟩

theorem quiet_forM {α : Type} {f : α → Doing Unit} (hf : ∀ a, Quiet (f a)) (items : List α) :
    Quiet (items.forM f) := by
  induction items with
  | nil => exact .pure _
  | cons a items ih => exact .bind (hf a) fun _ => ih

/-- A build that ends well has written the assets, and nothing has failed in it. -/
theorem of_finish {n : Nat} (hrun : (finish out n).run.run d = (.ok (), d')) :
    n = 0 ∧ ∃ written host,
      (Plugin.writeAssets out d.session.assets).run.run d.session.host = (.ok written, host) ∧
      d'.session = { d.session with host } := by
  rw [finish, run_bind, run_get] at hrun
  dsimp only at hrun
  obtain ⟨written, d₁, hact, hrest⟩ := run_bind_ok hrun
  obtain ⟨host, hwrite, rfl⟩ := of_run_act hact
  obtain ⟨⟨⟩, d₂, hforM, hrest⟩ := run_bind_ok hrest
  have hd₂ := session_of_run (quiet_forM (fun _ => quiet_say _) _) hforM
  split at hrest
  · next hn =>
    exact ⟨hn, written, host, hwrite, (session_of_run (quiet_say _) hrest).trans hd₂⟩
  · obtain ⟨⟨⟩, d₃, -, hend⟩ := run_bind_ok hrest
    cases hend

/-- A build that ends well has given all files their turns, without failures, and then written the
assets. -/
theorem of_build (hstart : (start c root files word).run.run d = (.ok (p, out), d'))
    {last : Progress} (hbuild : (build c root files word).run.run d = (.ok (), last)) :
    ∃ d₁ written host, (buildFiles p out files).run.run d' = (.ok 0, d₁) ∧
      (Plugin.writeAssets out d₁.session.assets).run.run d₁.session.host = (.ok written, host) ∧
      last.session = { d₁.session with host } := by
  rw [build_eq, run_bind, hstart] at hbuild
  dsimp only at hbuild
  obtain ⟨n, d₂, hall, hfinish⟩ := run_bind_ok hbuild
  obtain ⟨d₁, hfiles, hsame⟩ := of_buildAll hall
  obtain ⟨rfl, written, host, hwrite, hlast⟩ := of_finish hfinish
  rw [show d₂.session = d₁.session from hsame] at hwrite hlast
  exact ⟨d₁, written, host, hfiles, hwrite, hlast⟩

/-- A build of files from a host that has begun: its plugin and directory, and what it has done before
its files. -/
structure Begins (h : Host) (c : Common) (root : Path) (files : List Text) (word : Text)
    (p : Plugin) (out : Path) (first : Progress) : Prop where
  areFiles : AreFiles h.files files
  isRoot : Host.realPath h.files (Path.ofText c.root) = .ok root
  begins : (start c root files word).run.run { session := { host := h } } = (.ok (p, out), first)

/-- One that has given all files their turns, so many of them with a failure, and has written the
assets. -/
structure Works (h : Host) (c : Common) (root : Path) (files : List Text) (word : Text)
    (p : Plugin) (out : Path) (first : Progress) (n : Nat) (turned : Progress) (left : Session) : Prop
    extends Begins h c root files word p out first where
  turns : (buildFiles p out files).run.run first = (.ok n, turned)
  writes : ∃ written host,
    (Plugin.writeAssets out turned.session.assets).run.run turned.session.host =
      (.ok written, host) ∧ left = { turned.session with host }

/-- One that ends well. -/
structure Succeeds (h : Host) (c : Common) (root : Path) (files : List Text) (word : Text)
    (p : Plugin) (out : Path) (first last : Progress) : Prop
    extends Begins h c root files word p out first where
  ends : (build c root files word).run.run { session := { host := h } } = (.ok (), last)

variable {first last : Progress}

theorem Begins.begun (hb : Begins h c root files word p out first) : Begun h p out first :=
  begun_of_start hb.areFiles.here hb.isRoot hb.begins

/-- A build that ends well has given all files their turns without a failure. -/
theorem Succeeds.works (hs : Succeeds h c root files word p out first last) :
    ∃ turned, Works h c root files word p out first 0 turned last.session := by
  obtain ⟨turned, written, host, hturns, hwrite, hlast⟩ := of_build hs.begins hs.ends
  exact ⟨turned, { toBegins := hs.toBegins, turns := hturns, writes := ⟨written, host, hwrite, hlast⟩ }⟩

end EmbeddedGo.Command
