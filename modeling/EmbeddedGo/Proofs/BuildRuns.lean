/-
EmbeddedGo.Proofs.BuildRuns — what a build can be relied on to get through.

A turn of a build goes on to the next one whether its module is built or fails with a failure of the
library's own. Four things break it, and they end the build (`Breaks`): a file that cannot be read as a
text, a failure that is not the library's own, an output that cannot be written, and names that hold
what could begin a tag, since these are shown as they are. The words of a failure are escaped and break
nothing.

  §1 texts that are shown as they are
  §2 turns
  §3 the beginning and the end
  §4 modules without Go
  §5 modules with Go
  §6 a desk to try builds on
-/
import EmbeddedGo.Proofs.BuildTurns
import EmbeddedGo.Proofs.Escaped

namespace EmbeddedGo.Command

/-! ## §1 Texts -/

/-- A text without anything that can begin a tag. -/
structure Tagless (s : Text) : Prop where
  noBracket : '[' ∉ s
  noBackslash : '\\' ∉ s

instance (s : Text) : Decidable (Tagless s) :=
  decidable_of_iff ('[' ∉ s ∧ '\\' ∉ s)
    ⟨fun h => ⟨h.1, h.2⟩, fun h => ⟨h.noBracket, h.noBackslash⟩⟩

theorem tagless_append {s t : Text} : Tagless (s ++ t) ↔ Tagless s ∧ Tagless t := by
  constructor
  · rintro ⟨hopen, hback⟩
    rw [List.mem_append, not_or] at hopen hback
    exact ⟨⟨hopen.1, hback.1⟩, ⟨hopen.2, hback.2⟩⟩
  · rintro ⟨hs, ht⟩
    constructor
    · rw [List.mem_append, not_or]
      exact ⟨hs.noBracket, ht.noBracket⟩
    · rw [List.mem_append, not_or]
      exact ⟨hs.noBackslash, ht.noBackslash⟩

theorem tagless_join {names : List Text} (h : ∀ n ∈ names, Tagless n) :
    Tagless (Text.join "/" names) := by
  induction names with
  | nil => exact ⟨by decide, by decide⟩
  | cons n names ih =>
    have hrest := ih fun m hm => h m (List.mem_cons_of_mem _ hm)
    cases names with
    | nil =>
      have hone : Text.join "/" [n] = n := by simp [Text.join]
      rw [hone]
      exact h n (by simp)
    | cons m names =>
      rw [Text.join_cons_cons, tagless_append, tagless_append]
      exact ⟨⟨h n (by simp), by decide, by decide⟩, hrest⟩

theorem tagless_text {q : Path} (h : ∀ n ∈ q.names, Tagless n) : Tagless q.text := by
  rw [Path.text]
  split
  · exact ⟨by decide, by decide⟩
  · refine tagless_append.2 ⟨⟨fun hin => ?_, fun hin => ?_⟩, tagless_join h⟩
    · exact absurd (List.eq_of_mem_replicate hin) (by decide)
    · exact absurd (List.eq_of_mem_replicate hin) (by decide)

theorem tagless_ofNat (n : Nat) : Tagless (Text.ofNat n) := by
  have hdigit : ∀ c ∈ Text.ofNat n, c.isDigit = true := fun c hc =>
    Nat.isDigit_of_mem_toDigits (by decide) (by decide) hc
  exact ⟨fun h => absurd (hdigit _ h) (by decide), fun h => absurd (hdigit _ h) (by decide)⟩

theorem tagless_counted (n : Nat) : Tagless (counted n "module") := by
  unfold counted
  exact tagless_append.2 ⟨tagless_append.2 ⟨tagless_append.2 ⟨tagless_ofNat n, by decide, by decide⟩,
    by decide, by decide⟩, by decide, by decide⟩

/-- A script is shown as it is if the names on the way to its source are. -/
theorem tagless_withEnding {q : Path} (h : ∀ n ∈ q.names, Tagless n) :
    Tagless (q.withEnding scriptEnding).text := by
  refine tagless_text fun n hn => ?_
  rcases List.mem_append.1 hn with hn | hn
  · exact h n (List.mem_of_mem_dropLast hn)
  · have hname : Tagless q.name := by
      rw [Path.name]
      cases hlast : q.names.getLast? with
      | none => exact ⟨by simp, by simp⟩
      | some n => exact h n (List.mem_of_getLast? hlast)
    rw [← Path.splitName_append q.name, tagless_append] at hname
    rw [List.mem_singleton.1 hn]
    exact tagless_append.2 ⟨hname.1, by decide, by decide⟩

/-! ## §2 Turns -/

variable {p : Plugin} {out source : Path} {file code : Text} {d : Progress}

/-- A file with a text is read. -/
theorem reads_of_read {h : Host} (hreal : Host.realPath h.files (Path.ofText file) = .ok source)
    (hread : h.files.read source = .ok (Utf8.encode code)) (hbreaks : Text.unifyBreaks code = code) :
    Reads h file source code := by
  refine ⟨hreal, ?_⟩
  rw [Host.run_readText_of_decode hread (Utf8.decode?_encode code), hbreaks]

theorem Reads.unique {h : Host} {source' : Path} {code' : Text} (hreads : Reads h file source code)
    (hreads' : Reads h file source' code') : source' = source ∧ code' = code := by
  have hreal := hreads'.real
  rw [hreads.real] at hreal
  cases hreal
  have hread := hreads'.read
  rw [hreads.read] at hread
  cases hread
  exact ⟨rfl, rfl⟩

/-- What can be said of a module that failed. -/
theorem render_moduleFailure {relative : Path} (h : ∀ n ∈ relative.names, Tagless n) (e : Error) :
    ∃ s, Markup.render (moduleFailure relative e) = .ok s := by
  have hline : ∀ start, Tagless start →
      ∃ s, Markup.render (failureLine "red" (start ++ Markup.escape e.message)) = .ok s := by
    intro start hstart
    have hmark : Tagless ("✗ " ++ start) := tagless_append.2 ⟨⟨by decide, by decide⟩, hstart⟩
    have hshown := Markup.render_escaped isLineStyle_red hmark.noBracket hmark.noBackslash e.message
    rwa [List.append_assoc] at hshown
  unfold moduleFailure
  split
  · exact hline [] ⟨by simp, by simp⟩
  · exact hline (relative.text ++ ": ") (tagless_append.2 ⟨tagless_text h, by decide, by decide⟩)

/-- The transform of a module fails with a failure of the library's own. -/
theorem isOwn_of_transform {id : Text} {s s' : Session} {e : Error}
    (h : (p.transform code id).run.run s = (.error e, s')) : e.isOwn = true := by
  rw [Plugin.transform, Session.run_act] at h
  obtain ⟨herror, -⟩ := Prod.mk.inj h
  unfold Transform.transform at herror
  split at herror
  · rw [run_tryCatch] at herror
    split at herror
    · cases herror
    · cases herror
      rfl
  · cases herror

/-- Writes an output, with directories on the way to it. -/
def writeOutput (q : Path) (output : Text) : Action Unit := do
  Host.makePath q.parent
  Host.writeText q output

/-- A module that fails with a failure of the library's own is counted. -/
theorem run_turn_failed (out : Path) {e : Error} {s : Session}
    (hbundled : (bundled p code source.text).run.run d.session = (.error e, s))
    (hown : e.isOwn = true) (hnames : ∀ n ∈ (relativeTo p.projectRoot source).names, Tagless n) :
    ∃ shown, (turn p out source code).run.run d = (.ok true, { d with session := s, shown }) := by
  obtain ⟨shown, hsay⟩ := run_bind_say (render_moduleFailure hnames e) (fun _ => pure true)
    { d with session := s }
  refine ⟨shown, ?_⟩
  rw [turn, run_bind, run_attempt, hbundled]
  dsimp only
  rw [if_pos hown, hsay]
  rfl

/-- A module that is built has its output written. -/
theorem run_turn_built {compiled : Bool} {output : Text} {s : Session} {host : Host}
    (hbundled : (bundled p code source.text).run.run d.session = (.ok (compiled, output), s))
    (hwrite : (writeOutput (outputPath p out source) output).run.run s.host = (.ok (), host))
    (hnames : ∀ n ∈ (relativeTo p.projectRoot source).names, Tagless n) :
    ∃ shown, (turn p out source code).run.run d =
      (.ok false, { d with session := { s with host }, shown }) := by
  have hmarker : Tagless (if compiled then "compiled" else "copied" : Text) := by
    cases compiled <;> exact ⟨by decide, by decide⟩
  have hline : Tagless ("✓ " ++ (relativeTo p.projectRoot source).text ++ " → " ++
      ((relativeTo p.projectRoot source).withEnding scriptEnding).text ++ " (" ++
      (if compiled then "compiled" else "copied" : Text) ++ ")") := by
    simp only [tagless_append]
    exact ⟨⟨⟨⟨⟨⟨⟨by decide, by decide⟩, tagless_text hnames⟩, ⟨by decide, by decide⟩⟩,
      tagless_withEnding hnames⟩, ⟨by decide, by decide⟩⟩, hmarker⟩, ⟨by decide, by decide⟩⟩
  obtain ⟨shown, hsay⟩ := run_bind_say
    (Markup.render_styled isLineStyle_green hline.noBracket hline.noBackslash) (fun _ => pure false)
    { d with session := { s with host } }
  refine ⟨shown, ?_⟩
  obtain ⟨⟨⟩, host₁, hmake, hput⟩ := run_bind_ok hwrite
  rw [turn, run_bind, run_attempt, hbundled]
  dsimp only
  rw [run_bind, run_act, hmake]
  dsimp only
  rw [run_bind, run_act, hput]
  exact hsay

/-- What breaks a turn. -/
inductive Breaks (p : Plugin) (out : Path) (file : Text) (d : Progress) : Prop
  /-- The file cannot be read, or is no text. -/
  | unread (h : ∀ source code, ¬ Reads d.session.host file source code)
  /-- What fails is not the module. -/
  | refused {source : Path} {code : Text} {e : Error} {s : Session}
      (hreads : Reads d.session.host file source code)
      (hbundled : (bundled p code source.text).run.run d.session = (.error e, s))
      (hforeign : e.isOwn = false)
  /-- The output cannot be written. -/
  | unwritten {source : Path} {code output : Text} {compiled : Bool} {s : Session} {host : Host}
      {e : Error} (hreads : Reads d.session.host file source code)
      (hbundled : (bundled p code source.text).run.run d.session = (.ok (compiled, output), s))
      (hwrite : (writeOutput (outputPath p out source) output).run.run s.host = (.error e, host))
  /-- Its names cannot be shown as they are. -/
  | unshown {source : Path} {code : Text} (hreads : Reads d.session.host file source code)
      (hnames : ¬ ∀ n ∈ (relativeTo p.projectRoot source).names, Tagless n)

theorem tagless_taskFor (p : Plugin) {source : Path}
    (h : ∀ n ∈ (relativeTo p.projectRoot source).names, Tagless n) : Tagless (taskFor p source) := by
  unfold taskFor
  simp only [tagless_append]
  exact ⟨⟨⟨by decide, by decide⟩, tagless_text h⟩, by decide, by decide⟩

/-- A turn ends, with a line that can be shown for its file, or something breaks it. -/
theorem ends_or_breaks (p : Plugin) (out : Path) (file : Text) (d : Progress) :
    (∃ failed d', (buildFile p out file).run.run d = (.ok failed, d') ∧ Tagless d'.task) ∨
      Breaks p out file d := by
  by_cases hreads : ∃ source code, Reads d.session.host file source code
  rotate_left
  · exact .inr (.unread fun source code hr => hreads ⟨source, code, hr⟩)
  obtain ⟨source, code, hreads⟩ := hreads
  by_cases hnames : ∀ n ∈ (relativeTo p.projectRoot source).names, Tagless n
  rotate_left
  · exact .inr (.unshown hreads hnames)
  have htask := tagless_taskFor p hnames
  rw [run_buildFile hreads]
  rcases hbundled : (bundled p code source.text).run.run d.session with ⟨e | ⟨compiled, output⟩, s⟩
  · cases hown : e.isOwn with
    | true =>
      obtain ⟨shown, hturn⟩ := run_turn_failed out (d := { d with task := taskFor p source })
        hbundled hown hnames
      exact .inl ⟨_, _, hturn, htask⟩
    | false => exact .inr (.refused hreads hbundled hown)
  · rcases hwrite : (writeOutput (outputPath p out source) output).run.run s.host with
      ⟨e | u, host⟩
    · exact .inr (.unwritten hreads hbundled hwrite)
    · obtain ⟨shown, hturn⟩ := run_turn_built (d := { d with task := taskFor p source })
        hbundled hwrite hnames
      exact .inl ⟨_, _, hturn, htask⟩

/-! ## §3 Beginning and end -/

variable {h h' : Host} {c : Common} {root : Path} {files : List Text} {word : Text} {d' : Progress}

/-- A build begins if the project is in order and the compiler answers. -/
theorem run_start {o : Options} {version : Text}
    (hload : Config.load h.files (c.config.map Path.ofText) root = .ok o)
    (hreal : Host.realPath h.files (Path.ofText word) = .ok out)
    (hcreate : Plugin.create h.files o root Mode.build.text = .ok p)
    (hshown : ∀ n ∈ out.names, Tagless n)
    (hstarted : p.buildStart.run.run h = (.ok version, h')) :
    ∃ shown, (start c root files word).run.run { session := { host := h } } =
      (.ok (p, out), { session := { host := h' }, shown }) := by
  have hline : Tagless ("Building " ++ counted files.length "module" ++ " into " ++ out.text) := by
    simp only [tagless_append]
    exact ⟨⟨⟨⟨by decide, by decide⟩, tagless_counted _⟩, ⟨by decide, by decide⟩⟩,
      tagless_text hshown⟩
  rw [start, run_bind, run_options (d := { session := { host := h } }) hload]
  dsimp only
  rw [run_bind, run_ask, hreal]
  dsimp only
  rw [run_bind, run_ask, hcreate]
  dsimp only
  refine (run_bind_say (Markup.render_styled isLineStyle_boldBlue hline.noBracket hline.noBackslash)
    _ _).imp fun shown hsay => hsay.trans ?_
  rw [run_bind, run_attempt, Session.run_act, hstarted]
  rfl

/-- What was worked on last is shown when the work has ended. -/
theorem run_buildAll {n : Nat} (hfiles : (buildFiles p out files).run.run d = (.ok n, d'))
    (htask : Tagless d'.task) :
    ∃ shown, (buildAll p out files).run.run d = (.ok n, { d' with shown }) := by
  have hrender := Markup.render_opened isLineStyle_task htask.noBracket htask.noBackslash
  rw [show ("[" ++ "progress.description" ++ "]" : Text) = "[progress.description]" by decide]
    at hrender
  obtain ⟨t, ht⟩ := run_rendered hrender d'
  refine ⟨d'.shown ++ [.task t], ?_⟩
  rw [buildAll, run_bind, run_lift, show (buildFiles p out files).run.run d = _ from hfiles]
  dsimp only
  rw [run_bind, showTask, run_bind, run_get]
  dsimp only
  rw [run_bind, ht]
  rfl

/-- The names that were written are those of the assets. -/
theorem names_writeAssets {assets : Bundle.Assets} {written : List (Text × Path)}
    (hrun : (Plugin.writeAssets out assets).run.run h = (.ok written, h')) :
    written.map Prod.fst = assets.map Prod.fst := by
  rw [Plugin.written_writeAssets hrun, List.map_map]
  rfl

theorem run_forM_say {α : Type} (line : α → Text) {items : List α}
    (hlines : ∀ a ∈ items, ∃ s, Markup.render (line a) = .ok s) (d : Progress) :
    ∃ shown, (items.forM fun a => say (line a)).run.run d = (.ok (), { d with shown }) := by
  induction items generalizing d with
  | nil => exact ⟨d.shown, rfl⟩
  | cons a items ih =>
    obtain ⟨shown, hsay⟩ := run_bind_say (hlines a (by simp))
      (fun _ => items.forM fun a => say (line a)) d
    obtain ⟨shown', hrest⟩ := ih (fun b hb => hlines b (by simp [hb])) { d with shown }
    exact ⟨shown', hsay.trans hrest⟩

/-- A build whose assets are written ends well exactly if nothing has failed. -/
theorem run_finish {written : List (Text × Path)} {host : Host} (n : Nat)
    (hwrite : (Plugin.writeAssets out d.session.assets).run.run d.session.host =
      (.ok written, host))
    (hnames : ∀ asset ∈ d.session.assets, Tagless asset.1) :
    ∃ shown, (finish out n).run.run d =
      (if n = 0 then .ok () else .error (.exit 1),
        { d with session := { d.session with host }, shown }) := by
  have hlines : ∀ w ∈ written, ∃ s, Markup.render ("  asset " ++ w.1) = .ok s := by
    intro w hw
    have hname : w.1 ∈ d.session.assets.map Prod.fst := by
      rw [← names_writeAssets hwrite]
      exact List.mem_map_of_mem hw
    obtain ⟨asset, hasset, heq⟩ := List.mem_map.1 hname
    have hline : Tagless ("  asset " ++ w.1) :=
      tagless_append.2 ⟨⟨by decide, by decide⟩, heq ▸ hnames asset hasset⟩
    exact Markup.render_plain hline.noBracket hline.noBackslash
  obtain ⟨shown, hforM⟩ := run_forM_say (fun w : Text × Path => "  asset " ++ w.1) hlines
    { d with session := { d.session with host } }
  rw [finish, run_bind, run_get]
  dsimp only
  rw [run_bind, run_act, hwrite]
  dsimp only
  rw [run_bind, hforM]
  dsimp only
  split
  · exact run_say (Markup.render_styled isLineStyle_boldGreen (by decide) (by decide)) _
  · have hline : Tagless ("✗ " ++ ("Build failed for " ++ counted n "module")) := by
      simp only [tagless_append]
      exact ⟨⟨by decide, by decide⟩, ⟨by decide, by decide⟩, tagless_counted n⟩
    obtain ⟨shown', hsay⟩ := run_bind_say
      (Markup.render_styled isLineStyle_boldRed hline.noBracket hline.noBackslash)
      (fun _ => (throw (.exit 1) : Doing Unit))
      { d with session := { d.session with host }, shown := shown }
    exact ⟨shown', hsay⟩

/-- A build from its parts: it ends well exactly if nothing has failed. -/
theorem run_build {n : Nat} {first turned : Progress} {written : List (Text × Path)} {host : Host}
    (hstart : (start c root files word).run.run d = (.ok (p, out), first))
    (hturns : (buildFiles p out files).run.run first = (.ok n, turned))
    (htask : Tagless turned.task)
    (hwrite : (Plugin.writeAssets out turned.session.assets).run.run turned.session.host =
      (.ok written, host))
    (hnames : ∀ asset ∈ turned.session.assets, Tagless asset.1) :
    ∃ shown, (build c root files word).run.run d =
      (if n = 0 then .ok () else .error (.exit 1),
        { turned with session := { turned.session with host }, shown }) := by
  obtain ⟨shown, hall⟩ := run_buildAll hturns htask
  obtain ⟨shown', hfinish⟩ := run_finish (d := { turned with shown }) n hwrite hnames
  refine ⟨shown', ?_⟩
  rw [build_eq, run_bind, hstart]
  dsimp only
  rw [run_bind, hall]
  exact hfinish

/-- Turns one after the other. -/
theorem run_buildFiles_cons {failed : Bool} {n : Nat} {d₁ : Progress}
    (hfile : (buildFile p out file).run.run d = (.ok failed, d₁))
    (hrest : (buildFiles p out files).run.run d₁ = (.ok n, d')) :
    (buildFiles p out (file :: files)).run.run d = (.ok (if failed then n + 1 else n), d') := by
  rw [buildFiles, run_bind, hfile]
  dsimp only
  rw [run_bind, hrest]
  rfl

/-! ## §4 Modules without Go -/

/-- A code that is bundled as it is: without the directive, and without references. -/
structure IsInert (code : Text) : Prop where
  noDirective : Directive.isPresent code = false
  noReference : Bundle.references code = []

theorem run_transform_absent (h : Directive.isPresent code = false) (id : Text) (s : Session) :
    (p.transform code id).run.run s = (.ok none, s) := by
  have htransform : (Transform.transform p.settings code id).run.run s.host = (.ok none, s.host) := by
    rw [Transform.transform_of_not_present h]
    rfl
  rw [Plugin.transform, Session.run_act, htransform]

theorem run_bundled_inert (hmode : p.mode = .build) (hcode : IsInert code) (id : Text) (s : Session) :
    (bundled p code id).run.run s = (.ok (false, code), s) := by
  have hfound : Text.findAll Bundle.reference? code = [] := by
    have hreferences := hcode.noReference
    cases hall : Text.findAll Bundle.reference? code with
    | nil => rfl
    | cons r rest =>
      rw [Bundle.references, hall, List.map_cons, List.eraseDups_cons] at hreferences
      cases hreferences
  have hsame : ∀ url, Bundle.substitute url code = code := by
    intro url
    rw [Bundle.substitute, Text.scan_of_findAll_nil hfound, Bundle.flatMap_plain]
  rw [bundled, run_bind, run_transform_absent hcode.noDirective]
  dsimp only
  rw [run_bind, Plugin.renderChunk, hmode]
  dsimp only
  rw [Bundle.finalize, hcode.noReference, run_bind, Bundle.emitAll, run_pure]
  dsimp only
  rw [run_pure, hsame]
  rfl

theorem moduleEmissions_inert (hcode : IsInert code) (id : Text) (s : Session) :
    p.moduleEmissions code id s = [] := by
  rw [Plugin.moduleEmissions, run_transform_absent hcode.noDirective]
  dsimp only
  rw [Plugin.chunkEmissions, hcode.noReference]
  cases p.mode <;> rfl

/-- A turn for such a code. -/
theorem run_buildFile_inert (hmode : p.mode = .build) (hcode : IsInert code)
    (hreads : Reads d.session.host file source code) {host : Host}
    (hwrite : (writeOutput (outputPath p out source) code).run.run d.session.host = (.ok (), host))
    (hnames : ∀ n ∈ (relativeTo p.projectRoot source).names, Tagless n) :
    ∃ shown, (buildFile p out file).run.run d =
      (.ok false, { d with session := { d.session with host }, shown, task := taskFor p source }) := by
  obtain ⟨shown, hturn⟩ := run_turn_built (d := { d with task := taskFor p source })
    (run_bundled_inert hmode hcode source.text d.session) hwrite hnames
  exact ⟨shown, (run_buildFile hreads).trans hturn⟩

/-! ## §5 Modules with Go -/

end EmbeddedGo.Command

namespace EmbeddedGo.Session

/-- The words that ask a compiler where it is installed. -/
def rootWords : List Text := ["env", "TINYGOROOT"]

/-- The glue is loaded if the compiler says where it is installed, and its file stands there. -/
theorem run_loadGlue {c : Compiler} {s : Session} {program root glue : Text} {said : Bytes}
    {written : Option Bytes} (hnone : s.glue = none)
    (hstart : s.host.start? c.command rootWords = .ok program)
    (hanswer : s.host.toolchain.answer rootWords (s.host.sourceOf rootWords) =
      { succeeded := true, stdout := said, written })
    (hsaid : Compiler.said? said = some root)
    (hread : s.host.files.read (gluePath (Path.ofText root)) = .ok (Utf8.encode glue))
    (hbreaks : Text.unifyBreaks glue = glue) :
    (loadGlue c).run.run s =
      (.ok glue,
        { s with
          host := { s.host with runs := s.host.runs ++ [rootWords] }
          glue := some glue }) := by
  have hran : s.host.ran program rootWords =
      ({ succeeded := true, stdout := said, written },
        { s.host with runs := s.host.runs ++ [rootWords] }) := by
    rw [Host.ran, hanswer, Host.writeOutput, show Host.outputOf rootWords = none by decide]
    rfl
  have hroot : c.root.run.run s.host = (.ok (Path.ofText root),
      { s.host with runs := s.host.runs ++ [rootWords] }) := by
    have hrun : (c.run rootWords).run.run s.host =
        (.ok { succeeded := true, stdout := said, written },
          { s.host with runs := s.host.runs ++ [rootWords] }) := by
      rw [c.run_run, hstart]
      dsimp only
      rw [hran]
    rw [Compiler.root, run_bind, show (c.run ["env", "TINYGOROOT"]).run.run s.host = _ from hrun]
    dsimp only
    rw [hsaid]
    rfl
  have hglue : (readGlue c).run.run s.host = (.ok glue,
      { s.host with runs := s.host.runs ++ [rootWords] }) := by
    rw [run_readGlue hroot hread (Utf8.decode?_encode glue), hbreaks]
  rw [loadGlue, run_bind, run_get]
  dsimp only
  rw [hnone]
  dsimp only
  rw [run_bind, Session.run_act, hglue]
  rfl

end EmbeddedGo.Session

namespace EmbeddedGo.Transform

variable {s : Settings} {h : Host} {code id unit program : Text} {said wasm : Bytes}
  {t₁ t' : FileTree}

/-- What a transform needs that goes through all of its phases: a slot, a source that can be written
there, a compiler that starts and answers with a binary, and room for that. -/
structure GoesThrough (s : Settings) (h : Host) (code id unit program : Text) (said wasm : Bytes)
    (t₁ t' : FileTree) : Prop where
  present : Directive.isPresent code = true
  extract : Directive.extract code = .ok unit
  make : h.files.makePath (s.buildRoot.child (Slot.name id)) = (.ok (), h.files)
  write : h.files.write (Path.ofNames (s.slotFile (Slot.name id) BuildRoot.goName))
    (Utf8.encode (Go.wrap unit)) = .ok t₁
  start : ({ h with files := t₁ } : Host).start? s.compiler.command (s.slotWords (Slot.name id)) =
    .ok program
  answer : h.toolchain.answer (s.slotWords (Slot.name id)) (Utf8.encode (Go.wrap unit)) =
    { succeeded := true, stdout := said, written := some wasm }
  binary : t₁.writeWord (s.binary (Slot.name id)).text wasm = .ok t'

namespace GoesThrough

variable (hb : s.buildRoot.IsResolved) (hg : GoesThrough s h code id unit program said wasm t₁ t')

include hg in
theorem run_prepare : (prepare s code id).run.run h = (.ok (jobOf s id unit), h) :=
  run_prepare_of_makePath hg.extract hg.make

include hb hg in
theorem run_writeSource :
    (writeSource (jobOf s id unit)).run.run h = (.ok (), { h with files := t₁ }) := by
  have hsource : (jobOf s id unit).source = Go.wrap unit := rfl
  rw [Transform.run_writeSource, goFile_jobOf hb, hsource, hg.write]

include hb hg in
theorem sourceOf :
    ({ h with files := t₁ } : Host).sourceOf (s.slotWords (Slot.name id)) =
      Utf8.encode (Go.wrap unit) :=
  sourceOf_of_read hb (Slot.isPlain_name id)
    (FileTree.read_of_write (isResolved_slotFile hb (Slot.isPlain_name id) goName_mem_built) hg.write)

include hb hg in
theorem delivers : Delivers s code id h := by
  intro j h₁ h₂ hprepare hsave
  rw [hg.run_prepare] at hprepare
  cases hprepare
  rw [hg.run_writeSource hb] at hsave
  cases hsave
  rw [goFile_jobOf hb, wasmFile_jobOf hb]
  refine fun _ => ⟨_, wasm, t', Compiler.outputOf_buildWords .., ?_, hg.binary⟩
  show (h.toolchain.answer _ (Host.sourceOf _ (s.slotWords (Slot.name id)))).written = _
  rw [hg.sourceOf hb]
  exact congrArg Answer.written hg.answer

include hb hg in
/-- The binary stands in the slot then, and the compiler was run once. -/
theorem run_transform (hquiet : s.generateTypes = false) :
    ∃ r, (transform s code id).run.run h =
      (.ok (some r), { h with files := t', runs := h.runs ++ [s.slotWords (Slot.name id)] }) := by
  have houtput : Host.outputOf (s.slotWords (Slot.name id)) =
      some (s.binary (Slot.name id)).text := Compiler.outputOf_buildWords ..
  have hran : ({ h with files := t₁ } : Host).ran program (s.slotWords (Slot.name id)) =
      ({ succeeded := true, stdout := said, written := some wasm },
        { h with files := t', runs := h.runs ++ [s.slotWords (Slot.name id)] }) := by
    rw [Host.ran, hg.sourceOf hb, show Toolchain.answer _ _ _ = _ from hg.answer, Host.writeOutput,
      houtput]
    dsimp only
    rw [hg.binary]
    rfl
  have hcompile : ∃ warnings, (compile s (jobOf s id unit)).run.run { h with files := t₁ } =
      (.ok warnings, { h with files := t', runs := h.runs ++ [s.slotWords (Slot.name id)] }) := by
    have hstart := hg.start
    rw [compile, goFile_jobOf hb, wasmFile_jobOf hb]
    unfold Settings.slotWords at hran hstart ⊢
    rw [Compiler.run_compile _ hstart, hran]
    exact ⟨_, rfl⟩
  obtain ⟨warnings, hcompile⟩ := hcompile
  have hdeclarations : (writeDeclarations s (jobOf s id unit)).run.run
      { h with files := t', runs := h.runs ++ [s.slotWords (Slot.name id)] } =
        (.ok (), { h with files := t', runs := h.runs ++ [s.slotWords (Slot.name id)] }) := by
    rw [writeDeclarations, hquiet]
    rfl
  exact ⟨_, Transform.run_transform hg.present hg.run_prepare (hg.run_writeSource hb) hcompile
    hdeclarations⟩

end GoesThrough
end EmbeddedGo.Transform

namespace EmbeddedGo.Command

open EmbeddedGo.Bundle

variable {p : Plugin} {code id glue : Text} {wasm : Bytes} {s s' : Session} {host : Host}
  {r : Transform.Result}

/-- A module with Go is bundled if it was transformed, the glue can be loaded and the binary read. -/
theorem run_bundled_go (hb : p.buildRoot.IsResolved) (hmode : p.mode = .build)
    (hroot : "@vite-golang".toList ∉ p.buildRoot.names)
    (htransform : (Transform.transform p.settings code id).run.run s.host = (.ok (some r), host))
    (hglue : (Session.loadGlue p.compiler).run.run { s with host } = (.ok glue, s'))
    (hwasm : s'.host.files.read ((p.buildRoot.child (Slot.name id)).child Wrapper.wasmName) =
      .ok wasm) :
    ∃ unit, Directive.extract code = .ok unit ∧
      (bundled p code id).run.run s = (.ok (true, p.goCode s.host.files.here id unit glue wasm),
        { s' with assets := withBoth glue wasm s'.assets }) ∧
      p.moduleEmissions code id s =
        [(VirtualId.glueName, Utf8.encode glue), (Wrapper.wasmName, wasm)] := by
  obtain ⟨unit, hunit, hcode⟩ := Transform.code_of_transform htransform
  have hwhole : (p.transform code id).run.run s = (.ok (some r), { s with host }) := by
    rw [Plugin.transform, Session.run_act, htransform]
  have hshown : ¬ VirtualId.start <:+: Wrapper.shownSlot s.host.files.here p.settings.projectRoot
      (some p.settings.buildRoot) (Slot.name id) ++ Wrapper.notice :=
    Wrapper.not_infix_shownSlot _ _ hb hroot id
  obtain ⟨hfinalize, hemissions⟩ := run_finalize_module p.options.base hshown
    (Slot.isPlain_name id) (p.settings.slash_not_mem_exportNames id unit) hglue hwasm
  refine ⟨unit, hunit, ?_, ?_⟩
  · rw [bundled, run_bind, hwhole]
    dsimp only
    rw [run_bind, Plugin.renderChunk, hmode, hcode]
    dsimp only
    rw [Transform.Settings.wrapper, Wrapper.render, hfinalize]
    rfl
  · rw [Plugin.moduleEmissions, hwhole]
    dsimp only
    rw [Plugin.chunkEmissions, hmode, hcode]
    exact hemissions

/-! ## §6 A desk to try builds on -/

/-- A project with a compiler at its top, which says and writes the same whatever it is asked, after
some runs of it. -/
def desk (items : List (Place × Item)) (runs : List (List Text)) : Host where
  files :=
    { items := [
        (["t".toList], ⟨.file [], 0⟩),
        (["c.json".toList],
          ⟨.file (Utf8.encode "\x7b\"tinygo_path\":\"/t\",\"build_dir\":\"b\"\x7d"), 0⟩),
        (["b".toList], ⟨.directory, 0⟩),
        (["d".toList], ⟨.directory, 0⟩)] ++ items }
  toolchain :=
    { place := ["t".toList]
      presence := .executable
      answer := fun _ _ =>
        { succeeded := true, stdout := Utf8.encode "/g", written := some (Utf8.encode "ab") } }
  runs

/-- What is asked for in it. -/
def deskCommon : Common := { debug := false, config := some "/c.json", root := "/" }

/-- The runs of the compiler at the beginning of a build. -/
def versionRuns : List (List Text) := [["version"], ["version"]]

-- What a build begins with is found in front of the other entries, whatever these are.
section Desk

variable (items : List (Place × Item))

theorem load_desk : Config.load (desk items []).files (deskCommon.config.map Path.ofText)
    (Path.ofNames []) = .ok Plugin.toolPlugin.options := by cbv

theorem root_desk : Host.realPath (desk items []).files (Path.ofText deskCommon.root) =
    .ok (Path.ofNames []) := by cbv

theorem create_desk : Plugin.create (desk items []).files Plugin.toolPlugin.options
    (Path.ofNames []) Mode.build.text = .ok Plugin.toolPlugin := by cbv

theorem started_desk : Plugin.toolPlugin.buildStart.run.run (desk items []) =
    (.ok "/g", desk items versionRuns) := by cbv

theorem leads_desk : Host.realPath (desk items []).files (Path.ofText "d") =
    .ok (Path.ofNames ["d".toList]) := by cbv

end Desk

/-- A desk where a build can begin. -/
structure IsDesk (items : List (Place × Item)) (files : List Text) (word : Text) (out : Path) :
    Prop where
  load : Config.load (desk items []).files (deskCommon.config.map Path.ofText) (Path.ofNames []) =
    .ok Plugin.toolPlugin.options
  root : Host.realPath (desk items []).files (Path.ofText deskCommon.root) = .ok (Path.ofNames [])
  create : Plugin.create (desk items []).files Plugin.toolPlugin.options (Path.ofNames [])
    Mode.build.text = .ok Plugin.toolPlugin
  started : Plugin.toolPlugin.buildStart.run.run (desk items []) = (.ok "/g", desk items versionRuns)
  leads : Host.realPath (desk items []).files (Path.ofText word) = .ok out
  isFile : ∀ file ∈ files, (desk items []).files.isFile (Path.ofText file) = .ok true
  shown : ∀ n ∈ out.names, Tagless n

theorem IsDesk.begins {items : List (Place × Item)} {files : List Text} {word : Text} {out : Path}
    (hd : IsDesk items files word out) :
    ∃ shown, Begins (desk items []) deskCommon (Path.ofNames []) files word Plugin.toolPlugin out
      { session := { host := desk items versionRuns }, shown } := by
  obtain ⟨shown, hstart⟩ : ∃ shown, (start deskCommon (Path.ofNames []) files word).run.run
      { session := { host := desk items [] } } = (.ok (Plugin.toolPlugin, out),
        { session := { host := desk items versionRuns }, shown }) :=
    run_start hd.load hd.leads hd.create hd.shown hd.started
  exact ⟨shown, ⟨by simp [desk], FileTree.isOpen_nil _, hd.isFile⟩, hd.root, hstart⟩

/-- A file at the top. -/
def topFile (name code : Text) : Place × Item := ([name], ⟨.file (Utf8.encode code), 0⟩)

/-- An entry in the directory of the bundle. -/
def bundleItem (name : Text) (entry : Entry) : Place × Item := (["d", name], ⟨entry, 0⟩)

/-- Two files have two turns. -/
theorem split_pair {a b file : Text} {before after : List Text}
    (h : [a, b] = before ++ file :: after) : before = [] ∧ file = a ∨ before = [a] ∧ file = b := by
  match before, h with
  | [], h => exact .inl ⟨rfl, (List.cons.inj h).1.symm⟩
  | [_], h =>
    obtain ⟨hhead, htail⟩ := List.cons.inj h
    exact .inr ⟨by rw [hhead], (List.cons.inj htail).1.symm⟩
  | _ :: _ :: before, h =>
    have hlength := congrArg List.length h
    simp at hlength

theorem isInert_A : IsInert "A" := ⟨by cbv, by cbv⟩

theorem isInert_B : IsInert "B" := ⟨by cbv, by cbv⟩

/-- Two modules that are bundled as they are, on a desk. -/
structure IsPair (items : List (Place × Item)) (out : Path) (file file' : Text) (source source' : Path)
    (code code' : Text) (host host' : Host) : Prop where
  inert : IsInert code
  inert' : IsInert code'
  reads : Reads (desk items versionRuns) file source code
  writes : (writeOutput (outputPath Plugin.toolPlugin out source) code).run.run
    (desk items versionRuns) = (.ok (), host)
  reads' : Reads host file' source' code'
  writes' : (writeOutput (outputPath Plugin.toolPlugin out source') code').run.run host =
    (.ok (), host')
  tagless : ∀ n ∈ (relativeTo Plugin.toolPlugin.projectRoot source).names, Tagless n
  tagless' : ∀ n ∈ (relativeTo Plugin.toolPlugin.projectRoot source').names, Tagless n

theorem IsPair.succeeds {items : List (Place × Item)} {word file file' code code' : Text}
    {out source source' : Path} {host host' : Host} (hd : IsDesk items [file, file'] word out)
    (hp : IsPair items out file file' source source' code code' host host') :
    ∃ first last, Succeeds (desk items []) deskCommon (Path.ofNames []) [file, file'] word
        Plugin.toolPlugin out first last ∧
      first.session = { host := desk items versionRuns } ∧ last.session = { host := host' } := by
  obtain ⟨shown, hbegins⟩ := hd.begins
  obtain ⟨shown₁, hfirst⟩ := run_buildFile_inert (p := Plugin.toolPlugin) rfl hp.inert
    (d := { session := { host := desk items versionRuns }, shown }) hp.reads hp.writes hp.tagless
  obtain ⟨shown₂, hsecond⟩ := run_buildFile_inert (p := Plugin.toolPlugin) rfl hp.inert'
    (d := { session := { host }, shown := shown₁, task := taskFor Plugin.toolPlugin source })
    hp.reads' hp.writes' hp.tagless'
  have hturns : (buildFiles Plugin.toolPlugin out [file, file']).run.run
      { session := { host := desk items versionRuns }, shown } =
        (.ok 0, { session := { host := host' }, shown := shown₂, task := taskFor _ source' }) :=
    run_buildFiles_cons hfirst (run_buildFiles_cons hsecond rfl)
  obtain ⟨shown₃, hbuild⟩ := run_build hbegins.begins hturns
    (tagless_taskFor Plugin.toolPlugin hp.tagless') rfl (fun _ h => nomatch h)
  exact ⟨_, _, { toBegins := hbegins, ends := hbuild }, rfl, rfl⟩

end EmbeddedGo.Command
