/-
EmbeddedGo.Proofs.ServedArtifact — the binary that a server sends for a module.

A script with Go is answered with a wrapper, and the wrapper fetches a binary by its URL. The two
requests meet at one file: the first has the compiler write it, and the second, whose path is the
decoded URL, reads it. In between there can be any other visits. Of all that a server does only
transforms change files (`files_respond`), and a transform for another slot leaves the binary, if that
slot is straight. So until its slot is built again the binary is what the compiler wrote.

  §1 scripts
  §2 what leaves the files
  §3 which requests transform
  §4 visits
  §5 the request for a module
  §6 the request for a binary
  §7 a project with two modules
  §8 both requests, and a link by which one module's binary is lost to another's
-/
import EmbeddedGo.Proofs.Interleaving
import EmbeddedGo.Proofs.ServedFile
import EmbeddedGo.Proofs.SlotFrame

namespace EmbeddedGo

namespace Session

/-- The files of the host are the same. -/
def SameFiles (s s' : Session) : Prop := s.host.SameFiles s'.host

instance : Lasting SameFiles := ⟨fun _ => rfl, fun hab hbc => hbc.trans hab⟩

theorem sameFiles_act {α : Type} {f : Action α} (hf : Stays Host.SameFiles f) :
    Stays SameFiles (act f) :=
  fun s => hf s.host

theorem sameFiles_loadGlue (c : Compiler) : Stays SameFiles (loadGlue c) :=
  fun s => (sameAssets_loadGlue c s).1

end Session

namespace Server

variable {α : Type} {plugin : Plugin} {s : ServerState} {p : Path} {code requested : Text}

/-! ## §1 Scripts -/

/-- The state with another host. -/
def withHost (s : ServerState) (host : Host) : ServerState :=
  { s with session := { s.session with host } }

/-- A script that can be read as a text is transformed, and sent as what comes of that. -/
theorem run_serveScript
    (hread : (Host.readText p).run.run s.session.host = (.ok code, s.session.host)) :
    (serveScript plugin p).run.run s =
      match (Transform.transform plugin.settings code p.text).run.run s.session.host with
      | (.ok (some result), host) => (.ok (.script result.code), withHost s host)
      | (.ok none, host) => (.ok (.script code), withHost s host)
      | (.error e, host) => (.error ((transformFailure e).getD (.failed e)), withHost s host) := by
  rw [serveScript, run_bind, run_sure, hread]
  dsimp only
  rw [run_bind, run_step, Plugin.transform, Session.run_act]
  rcases (Transform.transform plugin.settings code p.text).run.run s.session.host with
    ⟨e | result, host⟩
  · rfl
  · cases result <;> rfl

/-- A text that cannot be read is not sent. -/
theorem run_serveScript_error {e : Error}
    (hread : (Host.readText p).run.run s.session.host = (.error e, s.session.host)) :
    (serveScript plugin p).run.run s = (.error (.failed e), s) := by
  rw [serveScript, run_bind, run_sure, hread]

/-! ## §2 What leaves the files -/

/-- The files are the same. -/
def SameFiles (s s' : ServerState) : Prop := files s' = files s

instance : Lasting SameFiles := ⟨fun _ => rfl, fun hab hbc => hbc.trans hab⟩

theorem sameFiles_step {f : Step α} (hf : Stays Session.SameFiles f)
    (handle : Error → Option Response) : Stays SameFiles (step f handle) := by
  intro s
  have hs := hf s.session
  rw [run_step]
  rcases hrun : f.run.run s.session with ⟨e | a, session⟩
  · rwa [hrun] at hs
  · rwa [hrun] at hs

theorem sameFiles_sure {f : Action α} (hf : Stays Host.SameFiles f) : Stays SameFiles (sure f) :=
  sameFiles_step (Session.sameFiles_act hf) _

theorem sameFiles_projectFile (root : Path) (wanted : Text) :
    Stays SameFiles (projectFile root wanted) := by
  intro s
  rw [run_projectFile]
  split
  · rfl
  · split <;> rfl

theorem sameFiles_noticeChange (plugin : Plugin) (body : Bytes) :
    Stays SameFiles (noticeChange plugin body) := by
  have hasked : ∀ p, Stays Host.SameFiles (Reload.isAskedBy p) := by
    intro p
    unfold Reload.isAskedBy
    split
    · exact .bind (Host.looks_readText p) fun _ => .pure _
    · exact .pure _
  have hsend : Stays SameFiles (ExceptT.lift sendReload : Handler Unit) := fun _ => rfl
  refine .bind (fun _ => rfl) fun file => .bind (sameFiles_projectFile _ _) fun p => ?_
  refine .bind (sameFiles_sure (Host.looks_look _)) fun found => ?_
  split
  · refine .bind (sameFiles_sure (hasked p)) fun reloaded => ?_
    split
    · exact .bind hsend fun _ => .bind .get fun _ => .pure _
    · exact .bind .get fun _ => .pure _
  · exact .throw _

theorem sameFiles_serveArtifact (plugin : Plugin) (path : Text) :
    Stays SameFiles (serveArtifact plugin path) :=
  .bind (sameFiles_step (Session.sameFiles_act (Session.looks_readArtifact _ _)) _) fun _ => .pure _

theorem sameFiles_disconnect (client : Nat) (s : ServerState) :
    SameFiles s ((disconnect client).run s).2 := by
  rw [disconnect, StateT.run_modify]
  show files _ = _
  split <;> rfl

/-! ## §3 Transforming -/

/-- What a request asks for is a script of the project, and the code of that begins with the
directive. -/
structure IsModule (plugin : Plugin) (s : ServerState) (requested : Text) (p : Path) (code : Text) :
    Prop where
  real : (files s).realPath (plugin.projectRoot.child (wantedFile requested)) = .ok p
  inside : isInside plugin.projectRoot p = true
  script : Reload.isScript p.name = true
  read : (Host.readText p).run.run s.session.host = (.ok code, s.session.host)
  present : Directive.isPresent code = true

/-- A request that has a module transformed, for its code and under its id. -/
inductive Transforms (plugin : Plugin) (s : ServerState) (r : Request) : (code id : Text) → Prop where
  | module {requested code : Text} {p : Path} (hget : r.method = "GET".toList)
    (hartifact : (plugin.servesArtifacts && isArtifact r.path) = false)
    (hroute : route? r.path = some (.file requested))
    (hmodule : IsModule plugin s requested p code) : Transforms plugin s r code p.text

/-- The files after a transform. -/
def transformed (plugin : Plugin) (s : ServerState) (code id : Text) : FileTree :=
  ((Transform.transform plugin.settings code id).run.run s.session.host).2.files

theorem files_serveScript (plugin : Plugin) (p : Path) (s : ServerState) :
    SameFiles s ((serveScript plugin p).run.run s).2 ∨
      ∃ code, (Host.readText p).run.run s.session.host = (.ok code, s.session.host) ∧
        Directive.isPresent code = true ∧
        files ((serveScript plugin p).run.run s).2 = transformed plugin s code p.text := by
  have hhost := Host.host_readText p s.session.host
  rcases hread : (Host.readText p).run.run s.session.host with ⟨e | code, host⟩
  · rw [hread] at hhost
    cases hhost
    rw [run_serveScript_error hread]
    exact .inl rfl
  · rw [hread] at hhost
    cases hhost
    rw [run_serveScript hread]
    by_cases hpresent : Directive.isPresent code = true
    · refine .inr ⟨code, rfl, hpresent, ?_⟩
      unfold transformed
      rcases (Transform.transform plugin.settings code p.text).run.run s.session.host with
        ⟨e | result, host⟩
      · rfl
      · cases result <;> rfl
    · rw [Transform.transform, if_neg hpresent]
      exact .inl rfl

theorem files_serveAt (plugin : Plugin) (requested : Text) (p : Path) (s : ServerState) :
    SameFiles s ((serveAt plugin requested p).run.run s).2 ∨
      Reload.isScript p.name = true ∧
        ∃ code, (Host.readText p).run.run s.session.host = (.ok code, s.session.host) ∧
          Directive.isPresent code = true ∧
          files ((serveAt plugin requested p).run.run s).2 = transformed plugin s code p.text := by
  rw [serveAt, run_bind, run_sure_look]
  cases s.session.host.files.isFile p with
  | error e => exact .inl rfl
  | ok found =>
    cases found with
    | false => exact .inl rfl
    | true =>
      dsimp only
      rw [if_pos rfl]
      by_cases hscript : Reload.isScript p.name = true
      · rw [if_pos hscript]
        exact (files_serveScript plugin p s).imp_right fun h => ⟨hscript, h⟩
      · rw [if_neg hscript]
        exact .inl ((Stays.bind (sameFiles_sure (Host.looks_look _)) fun _ => .pure _) s)

theorem files_serveFile (hroot : plugin.projectRoot.IsResolved) (requested : Text)
    (s : ServerState) :
    SameFiles s ((serveFile plugin requested).run.run s).2 ∨
      ∃ p code, IsModule plugin s requested p code ∧
        files ((serveFile plugin requested).run.run s).2 = transformed plugin s code p.text := by
  rw [run_serveFile]
  match hreal : Host.realPath (files s) (plugin.projectRoot.child (wantedFile requested)) with
  | .error e => exact .inl rfl
  | .ok p =>
    have hreal' := Host.realPath_eq_ok_iff.1 hreal
    dsimp only
    split
    · next hin =>
      match (files s).isDirectory p with
      | .error e => exact .inl rfl
      | .ok false =>
        rcases files_serveAt plugin requested p s with
          hsame | ⟨hscript, code, hread, hpresent, hfiles⟩
        · exact .inl hsame
        · exact .inr ⟨p, code, ⟨hreal', hin, hscript, hread, hpresent⟩, hfiles⟩
      | .ok true =>
        rcases files_serveAt plugin requested (p.child indexName) s with hsame | ⟨hscript, -⟩
        · exact .inl hsame
        · -- the index of a directory is no script
          have hname : (p.child indexName).name = indexName := by
            rw [(isResolved_of_child hroot hreal').child_eq isPlain_indexName]
            simp [Path.name, Path.ofNames]
          rw [hname] at hscript
          exact absurd hscript (by decide)
    · exact .inl rfl

/-- A request changes files only by a transform. -/
theorem files_respond (hroot : plugin.projectRoot.IsResolved) (r : Request) (s : ServerState) :
    SameFiles s ((respond plugin r).run s).2 ∨
      ∃ code id, Transforms plugin s r code id ∧
        files ((respond plugin r).run s).2 = transformed plugin s code id := by
  rw [run_respond_handler, handler]
  by_cases hartifact : (plugin.servesArtifacts && isArtifact r.path) = true
  · rw [if_pos hartifact]
    exact .inl (sameFiles_serveArtifact plugin r.path s)
  · rw [if_neg hartifact, serve]
    cases hroute : route? r.path with
    | none => exact .inl rfl
    | some route =>
      dsimp only
      split
      · exact .inl (sameFiles_noticeChange plugin r.body s)
      · split
        · next htakes =>
          cases route with
          | page _ | health => exact .inl rfl
          | glue =>
            exact .inl ((Stays.bind (sameFiles_step (Session.sameFiles_loadGlue _) _)
              fun _ => .pure _) s)
          | events => exact .inl rfl
          | file requested =>
            refine (files_serveFile hroot requested s).imp_right ?_
            rintro ⟨p, code, hmodule, hfiles⟩
            exact ⟨code, _, .module (by simpa [Route.takes] using htakes) (by simpa using hartifact)
              hroute hmodule, hfiles⟩
        · exact .inl rfl

/-! ## §4 Visits -/

/-- What can happen to a server: a request, and a client that begins or stops to wait for events. -/
inductive Visit where
  | ask (r : Request)
  | connect
  | leave (client : Nat)

/-- The state after a visit. -/
def visit (plugin : Plugin) (s : ServerState) : Visit → ServerState
  | .ask r => ((respond plugin r).run s).2
  | .connect => (connect.run s).2
  | .leave client => ((disconnect client).run s).2

/-- No visit transforms a module of the slot, nor one whose own slot was not straight in a tree. -/
def Leaves (plugin : Plugin) (slot : Text) (t : FileTree) : List Visit → ServerState → Prop
  | [], _ => True
  | .ask r :: visits, s =>
    (∀ code id, Transforms plugin s r code id →
      Slot.name id ≠ slot ∧ plugin.settings.Straight (Slot.name id) t) ∧
    Leaves plugin slot t visits (visit plugin s (.ask r))
  | v :: visits, s => Leaves plugin slot t visits (visit plugin s v)

section Visits

open Transform

variable {slot : Text} {t : FileTree} {wasm : Bytes}

/-- The binary of a slot is there, and no link is that was not there in a tree. -/
structure Offers (plugin : Plugin) (slot : Text) (t : FileTree) (wasm : Bytes) (s : ServerState) :
    Prop where
  links : LinksOf t (files s)
  read : (files s).read (plugin.settings.binary slot) = .ok wasm

theorem Offers.of_sameFiles {s' : ServerState} (h : Offers plugin slot t wasm s)
    (hsame : SameFiles s s') : Offers plugin slot t wasm s' where
  links := by rw [hsame]; exact h.links
  read := by rw [hsame]; exact h.read

variable (hbuild : plugin.settings.buildRoot.IsResolved) (hplain : Path.IsPlain slot)
  (hstraight : plugin.settings.Straight slot t)

include hbuild hplain hstraight in
/-- A transform for another slot leaves the binary. -/
theorem Offers.of_transformed {id : Text} {s' : ServerState} (h : Offers plugin slot t wasm s)
    (hne : Slot.name id ≠ slot) (hother : plugin.settings.Straight (Slot.name id) t)
    (hfiles : files s' = transformed plugin s code id) : Offers plugin slot t wasm s' := by
  have hwithin : Within plugin.settings (Slot.name id) (files s) (files s') := by
    rw [hfiles]
    exact spares_transform hbuild id code s.session.host (h.links.straight hother)
  have hkeeps : (files s).Keeps (files s') := by
    rw [hfiles]
    exact keeps_transform hbuild code id s.session.host
  exact ⟨h.links.trans hwithin.links, read_of_within hbuild hplain (Ne.symm hne)
    (h.links.straight hstraight) hwithin hkeeps h.read⟩

include hbuild hplain hstraight in
theorem Offers.visits (hroot : plugin.projectRoot.IsResolved) {visits : List Visit}
    (h : Offers plugin slot t wasm s) (hvisits : Leaves plugin slot t visits s) :
    Offers plugin slot t wasm (visits.foldl (visit plugin) s) := by
  induction visits generalizing s with
  | nil => exact h
  | cons v visits ih =>
    cases v with
    | ask r =>
      refine ih ?_ hvisits.2
      rcases files_respond hroot r s with hsame | ⟨code, id, htransforms, hfiles⟩
      · exact h.of_sameFiles hsame
      · obtain ⟨hne, hother⟩ := hvisits.1 code id htransforms
        exact h.of_transformed hbuild hplain hstraight hne hother hfiles
    | connect => exact ih (h.of_sameFiles rfl) hvisits
    | leave client => exact ih (h.of_sameFiles (sameFiles_disconnect client s)) hvisits

end Visits

/-! ## §5 The request for a module -/

section Module

variable {rel : Text}

theorem withoutFinalBreak_append (name : Text) (c : Char) :
    Reload.withoutFinalBreak (name ++ [c]) = if c = '\n' then name else name ++ [c] := by
  unfold Reload.withoutFinalBreak
  rw [List.reverse_concat]
  split
  · next rest h =>
    obtain ⟨rfl, rfl⟩ := List.cons.inj h
    rw [if_pos rfl, List.reverse_reverse]
  · next h => rw [if_neg fun hc => h _ (congrArg (· :: name.reverse) hc)]

theorem withoutFinalBreak_prefix (name : Text) : Reload.withoutFinalBreak name <+: name := by
  rcases List.eq_nil_or_concat name with rfl | ⟨init, last, rfl⟩
  · exact List.prefix_refl _
  · rw [List.concat_eq_append, withoutFinalBreak_append]
    split
    · exact List.prefix_append _ _
    · exact List.prefix_refl _

theorem withoutFinalBreak_cons (c : Char) {name : Text} (h : name ≠ []) :
    Reload.withoutFinalBreak (c :: name) = c :: Reload.withoutFinalBreak name := by
  obtain ⟨init, last, rfl⟩ := (List.eq_nil_or_concat name).resolve_left h
  rw [List.concat_eq_append, ← List.cons_append, withoutFinalBreak_append, withoutFinalBreak_append]
  split <;> rfl

/-- The path of a script is that of a file, or nothing's. A line feed at its end does not count. -/
theorem route?_script (hscript : Reload.isScript rel = true)
    (hvirtual : VirtualId.isVirtual ('/' :: rel) = false) :
    route? ('/' :: rel) = some (.file (Reload.withoutFinalBreak rel)) ∨
      route? ('/' :: rel) = none := by
  have hne : rel ≠ [] := by
    rintro rfl
    exact absurd hscript (by decide)
  -- no other route leads to a script, except that of the glue
  have hother : ∀ fixed ∈ fixedRoutes.map Prod.fst,
      fixed = VirtualId.glue ∨ Reload.scriptEndings.any (Text.endsWith (fixed.drop 1)) = false := by
    decide
  have hfixed : Reload.withoutFinalBreak ('/' :: rel) ∉ fixedRoutes.map Prod.fst := by
    intro hmem
    rcases hother _ hmem with hglue | hending
    · have hprefix := withoutFinalBreak_prefix ('/' :: rel)
      rw [hglue] at hprefix
      rw [← Bool.not_eq_true, VirtualId.isVirtual, Text.startsWith_iff] at hvirtual
      exact hvirtual ((by decide : VirtualId.start <+: VirtualId.glue).trans hprefix)
    · rw [withoutFinalBreak_cons _ hne, List.drop_one, List.tail_cons] at hending
      rw [Reload.isScript, hending] at hscript
      cases hscript
  rw [route?_of_not_fixed hfixed, requestedFile?]
  split
  · exact .inr rfl
  · exact .inl rfl

/-- A request for a module goes on to its script. -/
theorem IsModule.run_serveFile (h : IsModule plugin s requested p code) :
    (serveFile plugin requested).run.run s = (serveScript plugin p).run.run s := by
  obtain ⟨content, hread⟩ : ∃ content, (files s).read p = .ok content := by
    have hread := h.read
    rw [Host.run_readText] at hread
    split at hread
    · cases hread
    · next content hread' => exact ⟨content, hread'⟩
  have hfile := FileTree.isFile_of_read hread
  rw [run_serveFile_of_not_directory h.real h.inside (.inl (FileTree.isDirectory_of_isFile hfile)),
    run_serveAt_script hfile h.script]

/-- The wrapper of a module fetches the binary of its slot. -/
theorem fill_of_transform {settings : Transform.Settings} {id : Text} {h h' : Host}
    {r : Transform.Result} (hs : settings.buildRoot.IsResolved)
    (hrun : (Transform.transform settings code id).run.run h = (.ok (some r), h'))
    (hdeliver : Transform.Delivers settings code id h) :
    ∃ shown names, r.code = Wrapper.fill shown VirtualId.glue
      (VirtualId.artifactUrl (Slot.name id) Wrapper.wasmName) names := by
  obtain ⟨-, -, -, here, names, -, hcode⟩ := Transform.wrapper_of_transform hs hrun hdeliver
  rw [hcode, Wrapper.render, Wrapper.module_eq_fill]
  exact ⟨_, names, rfl⟩

/-- The request for a module is answered by way of its script. -/
theorem run_respond_script (hvirtual : VirtualId.isVirtual ('/' :: rel) = false)
    (hroute : route? ('/' :: rel) = some (.file requested))
    (hmodule : IsModule plugin s requested p code) :
    (respond plugin { path := '/' :: rel }).run s =
      (answer ((serveScript plugin p).run.run s).1, ((serveScript plugin p).run.run s).2) := by
  have hartifact : (plugin.servesArtifacts && isArtifact ('/' :: rel)) = false := by
    rw [isArtifact, hvirtual, Bool.false_and, Bool.and_false]
  rw [run_respond { path := '/' :: rel } rfl hroute hartifact, hmodule.run_serveFile]

/-- A module that is sent was transformed. -/
theorem run_respond_module (hscript : Reload.isScript rel = true)
    (hvirtual : VirtualId.isVirtual ('/' :: rel) = false)
    (hmodule : IsModule plugin s (Reload.withoutFinalBreak rel) p code) {response : Response}
    {s' : ServerState} (hrun : (respond plugin { path := '/' :: rel }).run s = (response, s'))
    (h200 : response.status = 200) :
    ∃ result host, (Transform.transform plugin.settings code p.text).run.run s.session.host =
        (.ok (some result), host) ∧
      response = .script result.code ∧ s' = withHost s host := by
  rcases route?_script hscript hvirtual with hroute | hroute
  · rw [run_respond_script hvirtual hroute hmodule, run_serveScript hmodule.read] at hrun
    rcases htransform : (Transform.transform plugin.settings code p.text).run.run s.session.host with
      ⟨e | result, host⟩
    · rw [htransform] at hrun
      cases hrun
      simp [answer, status_transformFailure] at h200
    · cases result with
      | none => exact absurd htransform (Transform.run_transform_ne_none hmodule.present)
      | some result =>
        rw [htransform] at hrun
        cases hrun
        exact ⟨result, host, rfl, rfl, rfl⟩
  · rw [run_respond_handler, handler, isArtifact, hvirtual, Bool.false_and, Bool.and_false, serve,
      hroute] at hrun
    cases hrun
    have hunknown : (unknownPath ('/' :: rel)).status ≠ 200 := by
      unfold unknownPath
      split <;> decide
    exact absurd h200 hunknown

end Module

/-! ## §6 The request for a binary -/

/-- The path that the URL of a binary stands for is answered with the binary. -/
theorem run_respond_artifact (hbuild : plugin.settings.buildRoot.IsResolved)
    (hmode : plugin.mode = .serve) {slot : Text} (hplain : Path.IsPlain slot) {wasm : Bytes}
    (hread : (files s).read (plugin.settings.binary slot) = .ok wasm) :
    (respond plugin { path := Percent.decode (VirtualId.artifactUrl slot Wrapper.wasmName) }).run s =
      (.wasm wasm, s) := by
  have hartifact : isArtifact (VirtualId.artifact slot Wrapper.wasmName) = true := by
    rw [isArtifact, Bool.and_eq_true, VirtualId.isVirtual, Text.startsWith_iff, Text.endsWith_iff]
    refine ⟨⟨slot ++ "/" ++ Wrapper.wasmName, ?_⟩, ?_⟩
    · simp only [VirtualId.artifact, List.append_assoc]
    · exact List.IsSuffix.trans (by decide) (List.suffix_append _ _)
  have hresolve : VirtualId.resolve plugin.buildRoot (VirtualId.artifact slot Wrapper.wasmName) =
      some (.file (plugin.settings.binary slot)) := by
    rw [Transform.binary_eq hbuild hplain]
    exact VirtualId.resolve_artifact _ hplain Transform.isPlain_wasmName (by decide)
  have hserves : plugin.servesArtifacts = true := by
    rw [Plugin.servesArtifacts, hmode]
    rfl
  rw [VirtualId.decode_artifactUrl, run_respond_handler, handler, hserves, hartifact,
    if_pos (by rfl), serveArtifact, run_bind, run_step, Session.run_act,
    Session.run_readArtifact hresolve hread]
  rfl

/-! ## §7 A project with two modules -/

/-- A plugin of a server for a project at the top. -/
def pagePlugin : Plugin := { Transform.smallPlugin with mode := .serve }

/-- A file in the slot of a module. -/
def slotItem (slot name : Text) (content : Bytes) : Place × Item :=
  (["b".toList, slot, name], ⟨.file content, 0⟩)

/-- A project with two modules whose slots are there. -/
def pageTree (a b : Bytes) (more : List (Place × Item)) : FileTree :=
  Transform.smallTree ([
    (["a.js".toList], ⟨.file a, 0⟩),
    (["b.js".toList], ⟨.file b, 0⟩),
    (["b".toList], ⟨.directory, 0⟩),
    (["b".toList, "a_js_29e70e18".toList], ⟨.directory, 0⟩),
    (["b".toList, "b_js_773b31e9".toList], ⟨.directory, 0⟩)] ++ more)

/-- The binary of the second module as a link to that of the first. -/
def pageLink : Place × Item :=
  (["b".toList, "b_js_773b31e9".toList, "main.wasm".toList],
    ⟨.link "/b/a_js_29e70e18/main.wasm", 0⟩)

/-- A server for a tree, with a compiler that gives its source back. -/
def pageServer (t : FileTree) (runs : List (List Text)) : ServerState :=
  { session := { host := { Transform.echoHost t with runs } } }

/-- What a tree and the tree after it have to be for a module to be built. -/
structure Builds (name slot : Text) (content source : Bytes) (t t' : FileTree) : Prop where
  real : t.realPath (pagePlugin.projectRoot.child (wantedFile name)) = .ok (Path.ofNames [name])
  read : t.read (Path.ofNames [name]) = .ok content
  make : t.makePath (pagePlugin.buildRoot.child slot) = (.ok (), t)
  build : ∃ t₁,
    t.write (Path.ofNames (pagePlugin.settings.slotFile slot BuildRoot.goName)) source = .ok t₁ ∧
    (Transform.echoHost t₁).start? "/t" (pagePlugin.settings.slotWords slot) = .ok "/t".toList ∧
    t₁.writeWord (pagePlugin.settings.binary slot).text source = .ok t'

/-- What makes a file of the project a module of one line. -/
structure IsPage (name code unit slot : Text) : Prop where
  script : Reload.isScript name = true
  route : route? ('/' :: name) = some (.file name)
  ordinary : VirtualId.isVirtual ('/' :: name) = false
  slot : Slot.name (Path.ofNames [name]).text = slot
  breaks : Text.unifyBreaks code = code
  present : Directive.isPresent code = true
  unit : Directive.extract code = .ok unit

theorem isPage_a : IsPage "a.js" "\"use golang\"\nA" "A" "a_js_29e70e18" where
  script := by decide
  route := by rfl
  ordinary := by decide
  slot := by cbv
  breaks := by rfl
  present := by cbv
  unit := by cbv

theorem isPage_b : IsPage "b.js" "\"use golang\"\nB" "B" "b_js_773b31e9" where
  script := by decide
  route := by rfl
  ordinary := by decide
  slot := by cbv
  breaks := by rfl
  present := by cbv
  unit := by cbv

theorem slots_ne : Slot.name "/b.js" ≠ Slot.name "/a.js" := by
  rw [show Slot.name "/b.js" = _ from isPage_b.slot, show Slot.name "/a.js" = _ from isPage_a.slot]
  decide

theorem create_pagePlugin (a b : Bytes) {links : List (Place × Item)}
    (hlinks : links = [] ∨ links = [pageLink]) :
    Plugin.create (pageTree a b links) pagePlugin.options (Path.ofText "/") "serve" =
      .ok pagePlugin := by
  rcases hlinks with rfl | rfl <;> exact Plugin.create_eq_ok_iff.2 ⟨by cbv, by cbv, rfl, rfl⟩

section Trees

variable (a b source : Bytes)

theorem builds_a {links : List (Place × Item)} (hlinks : links = [] ∨ links = [pageLink]) :
    Builds "a.js" "a_js_29e70e18" a source (pageTree a b links) (pageTree a b (links ++
      [slotItem "a_js_29e70e18" "main.go" source,
        slotItem "a_js_29e70e18" "main.wasm" source])) where
  real := by rcases hlinks with rfl | rfl <;> cbv
  read := by rcases hlinks with rfl | rfl <;> cbv
  make := by rcases hlinks with rfl | rfl <;> cbv
  build := by
    refine ⟨pageTree a b (links ++ [slotItem "a_js_29e70e18" "main.go" source]), ?_⟩
    rcases hlinks with rfl | rfl <;> exact ⟨by cbv, by cbv, by cbv⟩

theorem builds_b (first : Bytes) :
    Builds "b.js" "b_js_773b31e9" b source
      (pageTree a b [pageLink, slotItem "a_js_29e70e18" "main.go" first,
        slotItem "a_js_29e70e18" "main.wasm" first])
      (pageTree a b [pageLink, slotItem "a_js_29e70e18" "main.go" first,
        slotItem "a_js_29e70e18" "main.wasm" source,
        slotItem "b_js_773b31e9" "main.go" source]) where
  real := by cbv
  read := by cbv
  make := by cbv
  build := ⟨pageTree a b [pageLink, slotItem "a_js_29e70e18" "main.go" first,
    slotItem "a_js_29e70e18" "main.wasm" first,
    slotItem "b_js_773b31e9" "main.go" source], by cbv, by cbv, by cbv⟩

theorem read_linked (first : Bytes) :
    (pageTree a b [pageLink, slotItem "a_js_29e70e18" "main.go" first,
      slotItem "a_js_29e70e18" "main.wasm" source,
      slotItem "b_js_773b31e9" "main.go" source]).read
        (pagePlugin.settings.binary (Slot.name "/a.js")) = .ok source := by
  rw [show Slot.name "/a.js" = _ from isPage_a.slot]
  cbv

theorem straight_pageTree (slot : Text) :
    pagePlugin.settings.Straight slot (pageTree a b []) := by
  intro name _ q _ target hq
  obtain ⟨modified, hitem⟩ := FileTree.entryAt_eq_some hq
  unfold FileTree.get? at hitem
  split at hitem
  · cases hitem
  · obtain ⟨before, after, hitems, -⟩ := List.lookup_eq_some_iff.1 hitem
    have hmem : (q, (⟨.link target, modified⟩ : Item)) ∈ (pageTree a b []).items := by
      rw [hitems]
      simp
    simp [pageTree, Transform.smallTree] at hmem

end Trees

section Phases

open Transform

variable {t t₁ t' : FileTree} (runs : List (List Text)) {id slot unit : Text} {source : Bytes}
  (hunit : Directive.extract code = .ok unit) (hslot : Slot.name id = slot)
  (hsource : Utf8.encode (Go.wrap unit) = source)
  (hmake : t.makePath (pagePlugin.buildRoot.child slot) = (.ok (), t))
  (hwrite : t.write (Path.ofNames (pagePlugin.settings.slotFile slot BuildRoot.goName)) source =
    .ok t₁)
  (hbinary : t₁.writeWord (pagePlugin.settings.binary slot).text source = .ok t')

theorem isResolved_pageRoot : pagePlugin.settings.buildRoot.IsResolved := by
  refine ⟨rfl, fun n hn => ?_⟩
  obtain rfl := List.mem_singleton.1 hn
  constructor <;> decide

include hunit hslot hmake in
theorem run_prepare_page :
    (prepare pagePlugin.settings code id).run.run (pageServer t runs).session.host =
      (.ok (jobOf pagePlugin.settings id unit), (pageServer t runs).session.host) := by
  have hdir : (jobOf pagePlugin.settings id unit).directory = pagePlugin.buildRoot.child slot :=
    congrArg pagePlugin.buildRoot.child hslot
  rw [← hdir] at hmake
  exact run_prepare_of_makePath hunit hmake

include hslot hsource hwrite in
theorem run_writeSource_page :
    (writeSource (jobOf pagePlugin.settings id unit)).run.run (pageServer t runs).session.host =
      (.ok (), (pageServer t₁ runs).session.host) := by
  have hencoded : Utf8.encode (jobOf pagePlugin.settings id unit).source = source := hsource
  rw [run_writeSource, goFile_jobOf isResolved_pageRoot, hslot, hencoded,
    show (pageServer t runs).session.host.files.write _ _ = _ from hwrite]
  rfl

include hslot hwrite in
theorem sourceOf_page :
    (pageServer t₁ runs).session.host.sourceOf (pagePlugin.settings.slotWords slot) = source := by
  have hplain : Path.IsPlain slot := hslot ▸ Slot.isPlain_name id
  exact sourceOf_of_read isResolved_pageRoot hplain
    (FileTree.read_of_write (isResolved_slotFile isResolved_pageRoot hplain goName_mem_built) hwrite)

include hunit hslot hsource hmake hwrite hbinary in
theorem delivers_page :
    Delivers pagePlugin.settings code id (pageServer t runs).session.host := by
  intro j h₁ h₂ hprepare hsave
  rw [run_prepare_page runs hunit hslot hmake] at hprepare
  cases hprepare
  rw [run_writeSource_page runs hslot hsource hwrite] at hsave
  cases hsave
  rw [goFile_jobOf isResolved_pageRoot, wasmFile_jobOf isResolved_pageRoot, hslot]
  refine fun _ => ⟨_, source, t', Compiler.outputOf_buildWords .., ?_, hbinary⟩
  exact congrArg some (sourceOf_page runs hslot hwrite)

include hslot hwrite hbinary in
theorem ran_page :
    (pageServer t₁ runs).session.host.ran "/t" (pagePlugin.settings.slotWords slot) =
      ({ succeeded := true, written := some source },
        (pageServer t' (runs ++ [pagePlugin.settings.slotWords slot])).session.host) := by
  have houtput : Host.outputOf (pagePlugin.settings.slotWords slot) =
      some (pagePlugin.settings.binary slot).text := Compiler.outputOf_buildWords ..
  have hanswer : (pageServer t₁ runs).session.host.toolchain.answer
      (pagePlugin.settings.slotWords slot) source =
        { succeeded := true, written := some source } := rfl
  rw [Host.ran, sourceOf_page runs hslot hwrite, hanswer, Host.writeOutput, houtput]
  dsimp only
  rw [show (pageServer t₁ runs).session.host.files.writeWord _ _ = _ from hbinary]
  rfl

include hunit hslot hsource hmake hwrite hbinary in
theorem run_transform_page (hpresent : Directive.isPresent code = true)
    (hstart : (echoHost t₁).start? "/t" (pagePlugin.settings.slotWords slot) = .ok "/t".toList) :
    ∃ r, (transform pagePlugin.settings code id).run.run (pageServer t runs).session.host =
      (.ok (some r), (pageServer t' (runs ++ [pagePlugin.settings.slotWords slot])).session.host) := by
  have hcompile : ∃ warnings,
      (compile pagePlugin.settings (jobOf pagePlugin.settings id unit)).run.run
        (pageServer t₁ runs).session.host = (.ok warnings,
          (pageServer t' (runs ++ [pagePlugin.settings.slotWords slot])).session.host) := by
    have hran := ran_page runs hslot hwrite hbinary
    rw [compile, goFile_jobOf isResolved_pageRoot, wasmFile_jobOf isResolved_pageRoot, hslot]
    unfold Settings.slotWords at hran hstart ⊢
    rw [Compiler.run_compile _ hstart, hran]
    exact ⟨_, rfl⟩
  obtain ⟨warnings, hcompile⟩ := hcompile
  exact ⟨_, run_transform hpresent (run_prepare_page runs hunit hslot hmake)
    (run_writeSource_page runs hslot hsource hwrite) hcompile rfl⟩

end Phases

section Page

variable {t t' : FileTree} {name slot unit : Text} (hpage : IsPage name code unit slot)
  (hbuilds : Builds name slot (Utf8.encode code) (Utf8.encode (Go.wrap unit)) t t')
  (runs : List (List Text))

include hpage hbuilds

theorem isModule_page :
    IsModule pagePlugin (pageServer t runs) name (Path.ofNames [name]) code where
  real := hbuilds.real
  inside := rfl
  script := hpage.script
  read := by
    have hread : (pageServer t runs).session.host.files.read (Path.ofNames [name]) = _ := hbuilds.read
    rw [Host.run_readText_of_decode hread (Utf8.decode?_encode code), hpage.breaks]
  present := hpage.present

/-- The module is built in its slot and sent. -/
theorem respond_page :
    Transform.Delivers pagePlugin.settings code (Path.ofNames [name]).text
        (pageServer t runs).session.host ∧
      ∃ r, (Transform.transform pagePlugin.settings code (Path.ofNames [name]).text).run.run
          (pageServer t runs).session.host = (.ok (some r),
            (pageServer t' (runs ++ [pagePlugin.settings.slotWords slot])).session.host) ∧
        (respond pagePlugin { path := '/' :: name }).run (pageServer t runs) =
          (.script r.code, pageServer t' (runs ++ [pagePlugin.settings.slotWords slot])) := by
  obtain ⟨t₁, hwrite, hstart, hbinary⟩ := hbuilds.build
  obtain ⟨r, hrun⟩ := run_transform_page runs hpage.unit hpage.slot rfl hbuilds.make hwrite hbinary
    hpage.present hstart
  have hmodule := isModule_page hpage hbuilds runs
  refine ⟨delivers_page runs hpage.unit hpage.slot rfl hbuilds.make hwrite hbinary, r, hrun, ?_⟩
  rw [run_respond_script hpage.ordinary hpage.route hmodule, run_serveScript hmodule.read, hrun]
  rfl

end Page

/-- The server before any request. -/
def pageStart (links : List (Place × Item)) : ServerState :=
  pageServer (pageTree (Utf8.encode "\"use golang\"\nA") (Utf8.encode "\"use golang\"\nB") links) []

/-- The server when the first module was sent. -/
def pageSent (links : List (Place × Item)) : ServerState :=
  pageServer (pageTree (Utf8.encode "\"use golang\"\nA") (Utf8.encode "\"use golang\"\nB") (links ++
    [slotItem "a_js_29e70e18" "main.go" (Utf8.encode (Go.wrap "A")),
      slotItem "a_js_29e70e18" "main.wasm" (Utf8.encode (Go.wrap "A"))]))
    [pagePlugin.settings.slotWords "a_js_29e70e18"]

/-- A request for the second module transforms nothing else. -/
theorem eq_of_transforms_b {s : ServerState} {id : Text}
    (h : Transforms pagePlugin s { path := "/b.js" } code id)
    (hreal : (files s).realPath (pagePlugin.projectRoot.child (wantedFile "b.js")) =
      .ok (Path.ofNames ["b.js".toList])) : id = "/b.js".toList := by
  obtain ⟨-, -, hroute, hmodule⟩ := h
  have hrequested := Option.some.inj (isPage_b.route.symm.trans hroute)
  cases hrequested
  have hp := Except.ok.inj (hreal.symm.trans hmodule.real)
  rw [← hp]
  rfl

/-! ## §8 Both requests -/

/-- A module that is sent with status 200 is a wrapper, which fetches a URL. What the compiler wrote
for this request, in its one run, is what the path of that URL is answered with, after any further
visits of which none transforms a module of the same slot. No link stands in this slot, nor in the
slots of modules that are transformed later. A line feed at the end of a path does not count, so the
module is the one that the rest of the path leads to. -/
theorem respond_binary {tree : FileTree} (hhere : ∀ n ∈ tree.here, Path.IsPlain n)
    {options : Options} {root : Text} {plugin : Plugin}
    (hcreate : Plugin.create tree options (Path.ofText root) "serve" = .ok plugin)
    {s s₁ s₂ : ServerState} {rel code unit : Text} {p : Path}
    (hscript : Reload.isScript rel = true) (hvirtual : VirtualId.isVirtual ('/' :: rel) = false)
    (hmodule : IsModule plugin s (Reload.withoutFinalBreak rel) p code)
    (hunit : Directive.extract code = .ok unit)
    (hstraight : plugin.settings.Straight (Slot.name p.text) (files s))
    (hdeliver : Transform.Delivers plugin.settings code p.text s.session.host)
    {first : Response} (hfirst : (respond plugin { path := '/' :: rel }).run s = (first, s₁))
    (h200 : first.status = 200) {visits : List Visit}
    (hvisits : Leaves plugin (Slot.name p.text) (files s) visits s₁)
    (hlater : s₂ = visits.foldl (visit plugin) s₁) :
    ∃ shown names wasm response,
      first = .script (Wrapper.fill shown VirtualId.glue
        (VirtualId.artifactUrl (Slot.name p.text) Wrapper.wasmName) names) ∧
      s₁.session.host.runs =
        s.session.host.runs ++ [plugin.settings.slotWords (Slot.name p.text)] ∧
      (s.session.host.toolchain.answer (plugin.settings.slotWords (Slot.name p.text))
        (Utf8.encode (Go.wrap unit))).written = some wasm ∧
      (respond plugin
        { path := Percent.decode (VirtualId.artifactUrl (Slot.name p.text) Wrapper.wasmName) }).run
          s₂ = (response, s₂) ∧
      response.status = 200 ∧ response.contentType = some ("application/wasm" : Text) ∧
      response.content = wasm := by
  obtain ⟨hroot, hbuild⟩ : _ ∧ plugin.settings.buildRoot.IsResolved :=
    Plugin.isResolved_of_create hhere hcreate
  have hmode : plugin.mode = .serve := by
    have := (Plugin.create_eq_ok_iff.1 hcreate).2.2.1
    rw [show Mode.ofText "serve" = .ok .serve from rfl] at this
    exact (Except.ok.inj this).symm
  have hplain := Slot.isPlain_name p.text
  obtain ⟨result, host, hrun, rfl, rfl⟩ :=
    run_respond_module hscript hvirtual hmodule hfirst h200
  -- what the transform left
  obtain ⟨wasm, hwritten, hread⟩ :=
    Transform.binary_of_transform hbuild p.text unit hstraight hunit hrun hdeliver
  obtain ⟨shown, names, hcode⟩ := fill_of_transform hbuild hrun hdeliver
  obtain ⟨-, hfile, hruns⟩ := Transform.runs_of_transform hrun
  have hlinks : Transform.LinksOf (files s) (files (withHost s host)) := by
    have hspares := Transform.spares_transform hbuild p.text code s.session.host hstraight
    rw [hrun] at hspares
    exact hspares.links
  -- and what is there later
  have hoffers : Offers plugin (Slot.name p.text) (files s) wasm (withHost s host) :=
    ⟨hlinks, hread⟩
  have hlast := (hoffers.visits hbuild hplain hstraight hroot hvisits).read
  rw [← hlater] at hlast
  refine ⟨shown, names, wasm, _, congrArg Response.script hcode, ?_, hwritten,
    run_respond_artifact hbuild hmode hplain hlast, rfl, rfl, rfl⟩
  rw [Transform.slotWords_eq hbuild hplain, ← hfile]
  exact hruns

/-- The second module is sent before the binary of the first is asked for. -/
theorem respond_binary_page :
    ∃ first shown names response,
      (respond pagePlugin { path := "/a.js" }).run (pageStart []) = (first, pageSent []) ∧
      first = .script (Wrapper.fill shown VirtualId.glue
        (VirtualId.artifactUrl (Slot.name "/a.js") Wrapper.wasmName) names) ∧
      (respond pagePlugin
        { path := Percent.decode (VirtualId.artifactUrl (Slot.name "/a.js") Wrapper.wasmName) }).run
          ([.ask { path := "/b.js" }, .connect].foldl (visit pagePlugin) (pageSent [])) =
        (response, [.ask { path := "/b.js" }, .connect].foldl (visit pagePlugin) (pageSent [])) ∧
      response.status = 200 ∧ response.content = Utf8.encode (Go.wrap "A") := by
  have hbuilds := builds_a (Utf8.encode "\"use golang\"\nA") (Utf8.encode "\"use golang\"\nB")
    (Utf8.encode (Go.wrap "A")) (.inl rfl)
  obtain ⟨hdeliver, r, -, hfirst⟩ := respond_page isPage_a hbuilds []
  have hvisits : Leaves pagePlugin (Slot.name "/a.js") (files (pageStart []))
      [.ask { path := "/b.js" }, .connect] (pageSent []) := by
    refine ⟨fun code id htransforms => ?_, trivial⟩
    have hreal : (files (pageSent [])).realPath
        (pagePlugin.projectRoot.child (wantedFile "b.js")) = .ok (Path.ofNames ["b.js".toList]) := by
      unfold pageSent
      generalize Utf8.encode "\"use golang\"\nA" = a
      generalize Utf8.encode "\"use golang\"\nB" = b
      generalize Utf8.encode (Go.wrap "A") = source
      cbv
    obtain rfl := eq_of_transforms_b htransforms hreal
    exact ⟨slots_ne, straight_pageTree _ _ _⟩
  obtain ⟨shown, names, wasm, response, hscript, -, hwritten, hrun, h200, -, hcontent⟩ :=
    respond_binary (by simp [pageTree, Transform.smallTree]) (create_pagePlugin [] [] (.inl rfl))
      isPage_a.script isPage_a.ordinary (isModule_page isPage_a hbuilds []) isPage_a.unit
      (straight_pageTree _ _ _) hdeliver hfirst rfl hvisits rfl
  refine ⟨_, shown, names, response, hfirst, hscript, hrun, h200, ?_⟩
  rw [hcontent]
  exact (Option.some.inj hwritten).symm

/-- Where the binary of another slot is a link to that of a module, the module's is lost when the other
is built. -/
theorem respond_binary_shared :
    ∃ first s₁ second s₂ shown names,
      (Plugin.create (files (pageStart [pageLink])) pagePlugin.options (Path.ofText "/") "serve" =
        .ok pagePlugin) ∧
      (respond pagePlugin { path := "/a.js" }).run (pageStart [pageLink]) = (first, s₁) ∧
      first = .script (Wrapper.fill shown VirtualId.glue
        (VirtualId.artifactUrl (Slot.name "/a.js") Wrapper.wasmName) names) ∧
      s₁.session.host.runs = [pagePlugin.settings.slotWords (Slot.name "/a.js")] ∧
      s₁.session.host.toolchain.answer (pagePlugin.settings.slotWords (Slot.name "/a.js"))
        (Utf8.encode (Go.wrap "A")) =
          { succeeded := true, written := some (Utf8.encode (Go.wrap "A")) } ∧
      (∀ code id, Transforms pagePlugin s₁ { path := "/b.js" } code id →
        Slot.name id ≠ Slot.name "/a.js") ∧
      (respond pagePlugin { path := "/b.js" }).run s₁ = (second, s₂) ∧
      (respond pagePlugin
        { path := Percent.decode (VirtualId.artifactUrl (Slot.name "/a.js") Wrapper.wasmName) }).run
          s₂ = (.wasm (Utf8.encode (Go.wrap "B")), s₂) ∧
      Utf8.encode (Go.wrap "B") ≠ Utf8.encode (Go.wrap "A") := by
  have hbuilds := builds_a (Utf8.encode "\"use golang\"\nA") (Utf8.encode "\"use golang\"\nB")
    (Utf8.encode (Go.wrap "A")) (.inr rfl)
  have hbuilds' := builds_b (Utf8.encode "\"use golang\"\nA") (Utf8.encode "\"use golang\"\nB")
    (Utf8.encode (Go.wrap "B")) (Utf8.encode (Go.wrap "A"))
  obtain ⟨hdeliver, r, hrun, hfirst⟩ := respond_page isPage_a hbuilds []
  obtain ⟨-, r', -, hsecond⟩ := respond_page isPage_b hbuilds'
    [pagePlugin.settings.slotWords "a_js_29e70e18"]
  obtain ⟨shown, names, hcode⟩ := fill_of_transform isResolved_pageRoot hrun hdeliver
  have hread := read_linked (Utf8.encode "\"use golang\"\nA") (Utf8.encode "\"use golang\"\nB")
    (Utf8.encode (Go.wrap "B")) (Utf8.encode (Go.wrap "A"))
  refine ⟨_, _, _, _, shown, names, create_pagePlugin _ _ (.inr rfl), hfirst,
    congrArg Response.script hcode, ?_, rfl, ?_, hsecond,
    run_respond_artifact isResolved_pageRoot rfl (Slot.isPlain_name _) hread, ?_⟩
  · rw [show Slot.name "/a.js" = _ from isPage_a.slot]
    rfl
  · intro code id htransforms
    obtain rfl := eq_of_transforms_b htransforms hbuilds'.real
    exact slots_ne
  · intro heq
    have hwrap := Utf8.decode?_encode (Go.wrap "B")
    rw [heq, Utf8.decode?_encode] at hwrap
    exact absurd (Option.some.inj hwrap) (by decide)

end Server
end EmbeddedGo
