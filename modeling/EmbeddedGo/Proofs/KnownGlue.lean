/-
EmbeddedGo.Proofs.KnownGlue — the glue, between the calls that ask for it.

A plugin reads the glue once. Whoever asks for it then gets the same text, whatever has become of
the compiler and of the files, and nothing is run for it (`glue_kept`). As long as reading has
failed nothing is remembered, so what comes of the next try is up to the compiler and the file then.

A finished code gets its glue only if it gets that far. Where an artifact that it refers to before
cannot be read, finishing stops there, and no glue is emitted (`finalize_stops`).

  §1 reading
  §2 finishing while the glue is known
  §3 finishing up to the glue
  §4 requests
  §5 what happens to a plugin
  §6 all that happens
  §7 a code that is not finished
-/
import EmbeddedGo.Proofs.ArtifactFailures
import EmbeddedGo.Proofs.CompilerFailures
import EmbeddedGo.Proofs.PassedText

namespace EmbeddedGo

/-! ## §1 Reading -/

namespace Session

variable {c : Compiler} {s s' : Session} {h h' : Host} {glue : Text}

/-- What comes of asking for the glue while it is not known. -/
theorem loadGlue_outcome (hnone : s.glue = none) :
    ((loadGlue c).run.run s).1 = ((readGlue c).run.run s.host).1 := by
  rw [loadGlue_of_unknown hnone]
  rcases (readGlue c).run.run s.host with ⟨e | glue, host⟩ <;> rfl

/-- Asking in vain leaves nothing behind. -/
theorem glue_of_loadGlue_error {e : Error} (hrun : (loadGlue c).run.run s = (.error e, s')) :
    s'.glue = none := by
  cases hglue : s.glue with
  | some glue =>
    rw [loadGlue_of_known hglue] at hrun
    cases hrun
  | none =>
    rw [loadGlue_of_unknown hglue] at hrun
    rcases hread : (readGlue c).run.run s.host with ⟨e' | glue, host⟩
    · rw [hread] at hrun
      cases hrun
      exact hglue
    · rw [hread] at hrun
      cases hrun

theorem loaded_of_known (hknown : s.glue = some glue) : s.loaded c = s := by
  rw [loaded, loadGlue_of_known hknown]

end Session

/-! ## §2 While the glue is known -/

namespace Session

/-- If the glue is known it stays so, and the host is left alone. -/
def Steady (s s' : Session) : Prop := ∀ glue, s.glue = some glue → s'.glue = some glue ∧ s'.host = s.host

instance : Lasting Steady where
  refl := fun _ _ hknown => ⟨hknown, rfl⟩
  trans := fun hab hbc glue hknown =>
    have ⟨hmiddle, hhost⟩ := hab glue hknown
    have ⟨hlast, hhost'⟩ := hbc glue hmiddle
    ⟨hlast, hhost'.trans hhost⟩

theorem steady_loadGlue (c : Compiler) : Stays Steady (loadGlue c) := by
  intro s glue hknown
  rw [loadGlue_of_known hknown]
  exact ⟨hknown, rfl⟩

theorem steady_readArtifact (buildRoot : Path) (id : Text) :
    Stays Steady (act (readArtifact buildRoot id)) := by
  intro s glue hknown
  obtain ⟨r, hreads⟩ := exists_reads s.host.files buildRoot id
  rw [run_act, hreads.run_readArtifact]
  exact ⟨hknown, rfl⟩

end Session

namespace Bundle

open Session

variable (c : Compiler) (buildRoot : Path) (base : Text)

theorem steady_emit (name : Text) (content : Bytes) : Stays Steady (emit name content) :=
  fun _ _ hknown => ⟨hknown, rfl⟩

theorem steady_emitTarget (id : Text) : Stays Steady (emitTarget c buildRoot base id) := by
  unfold emitTarget
  split
  · exact .bind (steady_loadGlue c) fun _ => .bind (steady_emit _ _) fun _ => .pure _
  · exact .bind (steady_readArtifact buildRoot id) fun _ => .bind (steady_emit _ _) fun _ => .pure _

theorem steady_emitAll (references : List Text) : Stays Steady (emitAll c buildRoot base references) := by
  induction references with
  | nil => exact .pure _
  | cons r rest ih =>
    exact .bind (steady_emitTarget c buildRoot base _) fun _ => .bind ih fun _ => .pure _

theorem steady_finalize (code : Text) : Stays Steady (finalize c buildRoot base code) :=
  .bind (steady_emitAll c buildRoot base _) fun _ => .pure _

/-! ## §3 Up to the glue -/

/-- Some references get as far as the glue: whatever stands before it can be read. -/
inductive Reaches (t : FileTree) (buildRoot : Path) : List Text → Prop where
  | here {r : Text} {rest : List Text} (glue : Percent.decode r = VirtualId.glue) :
      Reaches t buildRoot (r :: rest)
  | later {r : Text} {rest : List Text} {content : Bytes} (other : Percent.decode r ≠ VirtualId.glue)
      (reads : Reads t buildRoot (Percent.decode r) (.ok content)) (reaches : Reaches t buildRoot rest) :
      Reaches t buildRoot (r :: rest)

variable {c buildRoot base} {s s' : Session} {refs rest : List Text} {r glue : Text} {content : Bytes}

theorem run_behind_artifact {outcome : Except Error Bytes} (hother : Percent.decode r ≠ VirtualId.glue)
    (hreads : Reads s.host.files buildRoot (Percent.decode r) outcome) :
    (behind c buildRoot (Percent.decode r)).run.run s = (outcome, s) := by
  rw [behind, if_neg hother, run_act, hreads.run_readArtifact]

/-- What stands behind the first reference is emitted, and then the rest. -/
theorem run_emitAll_cons
    (hbehind : (behind c buildRoot (Percent.decode r)).run.run s = (.ok content, s')) :
    ((emitAll c buildRoot base (r :: rest)).run.run s).2 =
        ((emitAll c buildRoot base rest).run.run
          (addEmission s' (emittedName (Percent.decode r), content))).2 ∧
      ∀ e, ((emitAll c buildRoot base rest).run.run
          (addEmission s' (emittedName (Percent.decode r), content))).1 = .error e →
        ((emitAll c buildRoot base (r :: rest)).run.run s).1 = .error e := by
  rw [emitAll, run_bind, run_emitTarget, hbehind]
  dsimp only
  rw [run_bind]
  rcases (emitAll c buildRoot base rest).run.run
    (addEmission s' (emittedName (Percent.decode r), content)) with ⟨e | urls, s''⟩
  · exact ⟨rfl, fun _ h => h⟩
  · exact ⟨rfl, fun _ h => by cases h⟩

/-- Where nothing can be read, it ends. -/
theorem run_emitAll_error {e : Error}
    (hbehind : (behind c buildRoot (Percent.decode r)).run.run s = (.error e, s')) :
    (emitAll c buildRoot base (r :: rest)).run.run s = (.error e, s') := by
  rw [emitAll, run_bind, run_emitTarget, hbehind]

/-- What gets as far as the glue asks for it. -/
theorem Reaches.glue_emitAll {t : FileTree} (h : Reaches t buildRoot refs) (ht : s.host.files = t) :
    ((emitAll c buildRoot base refs).run.run s).2.glue = (s.loaded c).glue := by
  induction h generalizing s with
  | @here r rest hglue =>
    rw [loaded]
    rcases hload : (loadGlue c).run.run s with ⟨e | glue, s'⟩
    · have hbehind : (behind c buildRoot (Percent.decode r)).run.run s = (.error e, s') := by
        rw [behind, if_pos hglue, run_bind, hload]
      rw [run_emitAll_error hbehind]
    · have hbehind : (behind c buildRoot (Percent.decode r)).run.run s =
          (.ok (Utf8.encode glue), s') := by
        rw [behind, if_pos hglue, run_bind, hload]
        rfl
      have hknown := glue_of_loadGlue hload
      rw [(run_emitAll_cons hbehind).1, hknown]
      exact (steady_emitAll c buildRoot base rest (addEmission s' _) glue hknown).1
  | later hother hreads _ ih =>
    have hsame : ∀ e, (loaded c (addEmission s e)).glue = (s.loaded c).glue := fun e => by
      rw [addEmission, loaded_assets]
    rw [(run_emitAll_cons (run_behind_artifact hother (ht ▸ hreads))).1]
    exact (ih (s := addEmission s _) ht).trans (hsame _)

/-- What does not, leaves it as it is. -/
theorem glue_emitAll_of_not_reaches (h : ¬ Reaches s.host.files buildRoot refs) :
    ((emitAll c buildRoot base refs).run.run s).2.glue = s.glue := by
  induction refs generalizing s with
  | nil => rfl
  | cons r rest ih =>
    have hother : Percent.decode r ≠ VirtualId.glue := fun hglue => h (.here hglue)
    obtain ⟨outcome, hreads⟩ := exists_reads s.host.files buildRoot (Percent.decode r)
    cases outcome with
    | error e => rw [run_emitAll_error (run_behind_artifact hother hreads)]
    | ok content =>
      rw [(run_emitAll_cons (run_behind_artifact hother hreads)).1]
      exact ih fun hrest => h (.later hother hreads hrest)

/-- References to the glue that do not get there end at an artifact that cannot be read. -/
theorem reaches_or_stops (c : Compiler) (buildRoot : Path) (base : Text) (s : Session)
    (h : ∃ r ∈ refs, Percent.decode r = VirtualId.glue) :
    Reaches s.host.files buildRoot refs ∨
      ∃ q ∈ refs, Percent.decode q ≠ VirtualId.glue ∧
        ∃ e, Reads s.host.files buildRoot (Percent.decode q) (.error e) ∧
          ((emitAll c buildRoot base refs).run.run s).1 = .error e := by
  induction refs generalizing s with
  | nil => simp at h
  | cons r rest ih =>
    by_cases hglue : Percent.decode r = VirtualId.glue
    · exact .inl (.here hglue)
    · have hrest : ∃ r ∈ rest, Percent.decode r = VirtualId.glue := by simpa [hglue] using h
      obtain ⟨outcome, hreads⟩ := exists_reads s.host.files buildRoot (Percent.decode r)
      have hbehind := run_behind_artifact (c := c) hglue hreads
      cases outcome with
      | error e =>
        refine .inr ⟨r, List.mem_cons_self, hglue, e, hreads, ?_⟩
        rw [run_emitAll_error hbehind]
      | ok content =>
        refine (ih (addEmission s (emittedName (Percent.decode r), content)) hrest).imp
          (.later hglue hreads) ?_
        rintro ⟨q, hq, hother, e, hfails, hend⟩
        exact ⟨q, List.mem_cons_of_mem _ hq, hother, e, hfails, (run_emitAll_cons hbehind).2 e hend⟩

/-- Known glue is emitted where it is reached. -/
theorem Reaches.mem_emissions {t : FileTree} (h : Reaches t buildRoot refs) (ht : s.host.files = t)
    (hknown : s.glue = some glue) :
    (VirtualId.glueName, Utf8.encode glue) ∈ emissions c buildRoot refs s := by
  induction h generalizing s with
  | @here r rest hglue =>
    have hbehind : (behind c buildRoot (Percent.decode r)).run.run s = (.ok (Utf8.encode glue), s) := by
      rw [behind, if_pos hglue, run_bind, loadGlue_of_known hknown]
      rfl
    have hname : emittedName (Percent.decode r) = VirtualId.glueName := if_pos hglue
    simp only [emissions, hbehind, hname]
    exact List.mem_cons_self
  | later hother hreads _ ih =>
    simp only [emissions, run_behind_artifact hother (ht ▸ hreads)]
    exact List.mem_cons_of_mem _ (ih ht hknown)

/-- How a code is finished while the glue is known. Nothing is run for it. If it refers to the glue
that is emitted, unless an artifact in front of it cannot be read. -/
structure Finishes (buildRoot : Path) (code glue : Text) (s : Session) (outcome : Except Error Text)
    (s' : Session) : Prop where
  host : s'.host = s.host
  known : s'.glue = some glue
  emitted : Reaches s.host.files buildRoot (references code) →
    s'.assets.lookup (glueAsset glue) = some (Utf8.encode glue)
  stopped : (∃ r ∈ references code, Percent.decode r = VirtualId.glue) →
    Reaches s.host.files buildRoot (references code) ∨
      ∃ q ∈ references code, Percent.decode q ≠ VirtualId.glue ∧
        ∃ e, Reads s.host.files buildRoot (Percent.decode q) (.error e) ∧ outcome = .error e

theorem finishes_of_known (hknown : s.glue = some glue) {code : Text} {outcome : Except Error Text}
    (hrun : (finalize c buildRoot base code).run.run s = (outcome, s')) :
    Finishes buildRoot code glue s outcome s' := by
  have hsteady := steady_finalize c buildRoot base code s glue hknown
  have hstate := (run_finalize_state c buildRoot base code s).1
  rw [hrun] at hsteady hstate
  refine ⟨hsteady.2, hsteady.1, fun hreaches => ?_, fun hrefers => ?_⟩
  · have hmem := hreaches.mem_emissions (c := c) rfl hknown
    have hlookup := lookup_foldl_add _ _ s.assets hmem fun e he hasset =>
      eq_glue_of_mem_emissions hknown he ((asset_glueName glue) ▸ hasset)
    rwa [asset_glueName, ← hstate] at hlookup
  · refine (reaches_or_stops c buildRoot base s hrefers).imp_right ?_
    rintro ⟨q, hq, hother, e, hreads, hend⟩
    refine ⟨q, hq, hother, e, hreads, ?_⟩
    rw [finalize, run_bind] at hrun
    rcases hall : (emitAll c buildRoot base (references code)).run.run s with ⟨e' | urls, s''⟩
    · rw [hall] at hrun hend
      cases hrun
      cases hend
      rfl
    · rw [hall] at hend
      cases hend

theorem glue_finalize (code : Text) :
    ((finalize c buildRoot base code).run.run s).2.glue =
      ((emitAll c buildRoot base (references code)).run.run s).2.glue := by
  rw [finalize, run_bind]
  rcases (emitAll c buildRoot base (references code)).run.run s with ⟨e | urls, s'⟩ <;> rfl

end Bundle

/-! ## §4 Requests -/

namespace Server

open Session

variable {α : Type} {plugin : Plugin} {s : ServerState} {r : Request}

/-- What is known of the glue is the same. -/
def SameGlue (s s' : ServerState) : Prop := s'.session.glue = s.session.glue

instance : Lasting SameGlue := ⟨fun _ => rfl, fun hab hbc => hbc.trans hab⟩

/-- An action on the host of the session has nothing to do with the glue. -/
theorem sameGlue_act (f : Action α) (handle : Error → Option Response) :
    Stays SameGlue (step (act f) handle) := by
  intro s
  rw [run_step, Session.run_act]
  rcases f.run.run s.session.host with ⟨e | a, host⟩ <;> rfl

theorem sameGlue_sure (f : Action α) : Stays SameGlue (sure f) := sameGlue_act f _

theorem sameGlue_projectFile (root : Path) (wanted : Text) :
    Stays SameGlue (projectFile root wanted) := by
  refine .bind (sameGlue_sure _) fun p => ?_
  split
  · exact .pure _
  · exact .throw _

theorem sameGlue_serveScript (plugin : Plugin) (p : Path) : Stays SameGlue (serveScript plugin p) := by
  refine .bind (sameGlue_sure _) fun code => .bind (sameGlue_act _ _) fun result => ?_
  split
  · exact .pure _
  · exact .pure _

theorem sameGlue_serveAt (plugin : Plugin) (requested : Text) (p : Path) :
    Stays SameGlue (serveAt plugin requested p) := by
  refine .bind (sameGlue_sure _) fun found => ?_
  split
  · split
    · exact sameGlue_serveScript plugin p
    · exact .bind (sameGlue_sure _) fun _ => .pure _
  · exact .throw _

theorem sameGlue_serveFile (plugin : Plugin) (requested : Text) :
    Stays SameGlue (serveFile plugin requested) := by
  intro s
  rw [run_serveFile]
  split
  · rfl
  · split
    · split
      · rfl
      · exact sameGlue_serveAt plugin requested _ s
    · rfl

theorem sameGlue_noticeChange (plugin : Plugin) (body : Bytes) :
    Stays SameGlue (noticeChange plugin body) := by
  have hsend : Stays SameGlue (ExceptT.lift sendReload : Handler Unit) := fun _ => rfl
  refine .bind (fun _ => rfl) fun file => .bind (sameGlue_projectFile _ _) fun p => ?_
  refine .bind (sameGlue_sure _) fun found => ?_
  split
  · refine .bind (sameGlue_sure _) fun reloaded => ?_
    split
    · exact .bind hsend fun _ => .bind .get fun _ => .pure _
    · exact .bind .get fun _ => .pure _
  · exact .throw _

/-- A request for the glue. -/
structure AsksGlue (plugin : Plugin) (r : Request) : Prop where
  ordinary : (plugin.servesArtifacts && isArtifact r.path) = false
  route : route? r.path = some .glue
  get : r.method = "GET".toList

theorem run_respond_asksGlue (h : AsksGlue plugin r) (s : ServerState) :
    ((respond plugin r).run s).2 = { s with session := s.session.loaded plugin.compiler } := by
  have hpost : ¬ (r.method = "POST".toList ∧ Reload.withoutFinalBreak r.path = noticePath) := by
    rw [h.get]
    exact fun hboth => absurd hboth.1 (by decide)
  rw [run_respond_handler, handler, h.ordinary, if_neg Bool.false_ne_true, serve, h.route]
  dsimp only
  rw [if_neg hpost, h.get, if_pos (by rfl), serveRoute, run_bind, run_step, loaded]
  rcases (loadGlue plugin.compiler).run.run s.session with ⟨e | glue, session⟩ <;> rfl

/-- No other request has to do with it. -/
theorem sameGlue_respond (h : ¬ AsksGlue plugin r) (s : ServerState) :
    SameGlue s ((respond plugin r).run s).2 := by
  rw [run_respond_handler, handler]
  by_cases hartifact : (plugin.servesArtifacts && isArtifact r.path) = true
  · rw [if_pos hartifact]
    exact (Stays.bind (sameGlue_act _ _) fun _ => .pure _) s
  · rw [if_neg hartifact, serve]
    cases hroute : route? r.path with
    | none => rfl
    | some route =>
      dsimp only
      split
      · exact sameGlue_noticeChange plugin r.body s
      · split
        · next htakes =>
          cases route with
          | page _ | health => rfl
          | glue =>
            have hget : r.method = "GET".toList := by simpa [Route.takes] using htakes
            exact absurd ⟨by simpa using hartifact, hroute, hget⟩ h
          | events => rfl
          | file requested => exact sameGlue_serveFile plugin requested s
        · rfl

theorem sameGlue_disconnect (client : Nat) (s : ServerState) :
    SameGlue s ((disconnect client).run s).2 := by
  rw [SameGlue, disconnect, StateT.run_modify]
  split <;> rfl

end Server

/-! ## §5 Happenings -/

namespace Plugin

open Session Server EmbeddedGo.Bundle

/-- What can happen to a plugin: something outside changes, in whatever way, or the plugin is asked
for the glue, called by a build tool or visited as a server. -/
inductive Happening where
  | change (host : Host)
  | glue
  | call (c : Call)
  | visit (v : Visit)

/-- The state after it. -/
def happen (p : Plugin) (s : ServerState) : Happening → ServerState
  | .change host => withHost s host
  | .glue => { s with session := s.session.loaded p.compiler }
  | .call c => { s with session := p.after s.session c }
  | .visit v => visit p s v

/-- The state after several things, one at a time. -/
def runOf (p : Plugin) (s : ServerState) (es : List Happening) : ServerState := es.foldl p.happen s

/-- What happens asks for the glue. -/
inductive Asks (p : Plugin) (s : ServerState) : Happening → Prop where
  | glue : Asks p s .glue
  | load : Asks p s (.call (.load VirtualId.glue))
  | renderChunk {code : Text} (bundles : p.mode = .build)
      (reaches : Reaches (files s) p.buildRoot (references code)) : Asks p s (.call (.renderChunk code))
  | request {r : Request} (asks : AsksGlue p r) : Asks p s (.visit (.ask r))

variable {p : Plugin} {s : ServerState} {e : Happening} {glue : Text}

theorem Asks.glue_happen (h : p.Asks s e) :
    (p.happen s e).session.glue = (s.session.loaded p.compiler).glue := by
  cases h with
  | glue => rfl
  | load =>
    rw [happen, after, Plugin.load, if_pos rfl, run_bind, loaded]
    rcases (loadGlue p.compiler).run.run s.session with ⟨e | glue, s'⟩ <;> rfl
  | renderChunk hmode hreaches =>
    rw [happen, after, Plugin.renderChunk, hmode]
    exact glue_finalize _ |>.trans (hreaches.glue_emitAll rfl)
  | request hasks => rw [happen, visit, run_respond_asksGlue hasks]

theorem glue_happen_of_not_asks (h : ¬ p.Asks s e) :
    (p.happen s e).session.glue = s.session.glue := by
  cases e with
  | change host => rfl
  | glue => exact absurd .glue h
  | call c =>
    cases c with
    | buildStart => rfl
    | load id =>
      have hid : id ≠ VirtualId.glue := fun hid => h (hid ▸ .load)
      rw [happen, after, Plugin.load, if_neg hid]
      rfl
    | transform code id => rfl
    | renderChunk code =>
      rw [happen, after, Plugin.renderChunk]
      cases hmode : p.mode with
      | serve => rfl
      | build =>
        exact glue_finalize _ |>.trans
          (glue_emitAll_of_not_reaches fun hreaches => h (.renderChunk hmode hreaches))
  | visit v =>
    cases v with
    | ask r => exact sameGlue_respond (fun hasks => h (.request hasks)) s
    | connect => rfl
    | leave client => exact sameGlue_disconnect client s

/-! ## §6 All that happens -/

theorem glue_happen_known (hknown : s.session.glue = some glue) (e : Happening) :
    (p.happen s e).session.glue = some glue := by
  by_cases h : p.Asks s e
  · rw [h.glue_happen, loaded_of_known hknown]
    exact hknown
  · rw [glue_happen_of_not_asks h]
    exact hknown

theorem glue_runOf_known (hknown : s.session.glue = some glue) (es : List Happening) :
    (p.runOf s es).session.glue = some glue := by
  induction es generalizing s with
  | nil => exact hknown
  | cons e es ih => exact ih (glue_happen_known hknown e)

/-- What is known when the glue was asked for: what came of it, if anything did. -/
theorem loaded_glue (c : Compiler) (s : Session) :
    (s.loaded c).glue = ((loadGlue c).run.run s).1.toOption := by
  rw [loaded]
  rcases hrun : (loadGlue c).run.run s with ⟨e | glue, s'⟩
  · exact glue_of_loadGlue_error hrun
  · exact glue_of_loadGlue hrun

/-- Whatever of several things asks for the glue, asks in vain. -/
def IsFruitless (p : Plugin) : List Happening → ServerState → Prop
  | [], _ => True
  | e :: es, s =>
    (p.Asks s e → ∀ glue, ((loadGlue p.compiler).run.run s.session).1 ≠ .ok glue) ∧
      IsFruitless p es (p.happen s e)

theorem glue_runOf_fruitless {es : List Happening} (hnone : s.session.glue = none)
    (hes : IsFruitless p es s) : (p.runOf s es).session.glue = none := by
  induction es generalizing s with
  | nil => exact hnone
  | cons e es ih =>
    refine ih ?_ hes.2
    by_cases h : p.Asks s e
    · rw [h.glue_happen, loaded_glue]
      cases hrun : ((loadGlue p.compiler).run.run s.session).1 with
      | error _ => rfl
      | ok glue => exact absurd hrun (hes.1 h glue)
    · rw [glue_happen_of_not_asks h]
      exact hnone

/-- Whatever asks for the glue leaves behind what came of it, and nothing else changes what is
known. Once it is known it is what everyone gets who asks for it later, whatever happens in between,
and nothing is run for them. Until then all that counts is what the compiler says and which file
there is. -/
theorem glue_kept (p : Plugin) :
    (∀ (s : ServerState) (e : Happening), p.Asks s e →
      (p.happen s e).session.glue = ((loadGlue p.compiler).run.run s.session).1.toOption) ∧
    (∀ (s : ServerState) (e : Happening), ¬ p.Asks s e →
      (p.happen s e).session.glue = s.session.glue) ∧
    (∀ (s : ServerState) (glue : Text) (es : List Happening), s.session.glue = some glue →
      let later := p.runOf s es
      (loadGlue p.compiler).run.run later.session = (.ok glue, later.session) ∧
      (p.load VirtualId.glue).run.run later.session = (.ok (some glue), later.session) ∧
      (respond p { path := VirtualId.glue }).run later = (.script glue, later) ∧
      ∀ base code outcome s',
        (finalize p.compiler p.buildRoot base code).run.run later.session = (outcome, s') →
        Finishes p.buildRoot code glue later.session outcome s') ∧
    (∀ (s : ServerState) (es : List Happening), s.session.glue = none → IsFruitless p es s →
      (p.runOf s es).session.glue = none) ∧
    ∀ s s' : Session, s.glue = none → s'.glue = none → SameGlueSource p.compiler s.host s'.host →
      ((loadGlue p.compiler).run.run s).1 = ((loadGlue p.compiler).run.run s').1 := by
  refine ⟨fun s e h => ?_, fun s e h => glue_happen_of_not_asks h, fun s glue es hknown => ?_,
    fun s es hnone hes => glue_runOf_fruitless hnone hes, fun s s' hnone hnone' hsame => ?_⟩
  · rw [h.glue_happen, loaded_glue]
  · intro later
    have hlater : later.session.glue = some glue := glue_runOf_known hknown es
    have hloaded : later.session.loaded p.compiler = later.session := loaded_of_known hlater
    refine ⟨loadGlue_of_known hlater, ?_, ?_, fun base code outcome s' => finishes_of_known hlater⟩
    · rw [run_load_glue (.inl hlater), hloaded]
    · rw [run_respond_glue (.inl hlater), hloaded]
  · rw [loadGlue_outcome hnone, loadGlue_outcome hnone', readGlue_congr hsame]

/-- A directory of a compiler, with glue that has no bytes. -/
def emptyGlue : List (Place × Item) :=
  [(["g".toList], ⟨.directory, 0⟩), (["g".toList, "targets".toList], ⟨.directory, 0⟩),
    (["g".toList, "targets".toList, VirtualId.glueName], ⟨.file [], 0⟩)]

/-- A host without files or a compiler. -/
def nowhere : Host where
  files := {}
  toolchain := { place := [] }

theorem readGlue_nowhere :
    ∃ e, (readGlue toolPlugin.compiler).run.run nowhere = (.error e, nowhere) := by
  have hstart : nowhere.start? toolPlugin.compiler.command ["env", "TINYGOROOT"] =
      .error .notFound := by cbv
  rw [readGlue, run_bind, run_tryCatch, Compiler.root, run_bind, Compiler.run, run_tryCatch,
    Host.run_run, hstart]
  exact ⟨_, rfl⟩

/-- Empty glue is remembered when all is gone, and emitted. Where there is nothing nothing is
remembered. -/
theorem glue_kept_empty :
    let s : ServerState := { session := { host := Command.desk emptyGlue [] } }
    let later := toolPlugin.runOf (toolPlugin.happen s .glue) [.change nowhere, .call .buildStart]
    (loadGlue toolPlugin.compiler).run.run later.session = (.ok [], later.session) ∧
      ((finalize toolPlugin.compiler toolPlugin.buildRoot [] glueChunk).run.run
        later.session).2.assets.lookup (glueAsset []) = some [] ∧
      (toolPlugin.runOf { session := { host := nowhere } }
        [.glue, .change (Command.desk emptyGlue [])]).session.glue = none ∧
      ((loadGlue toolPlugin.compiler).run.run { host := Command.desk emptyGlue [["version"]] }).1 =
        .ok [] := by
  intro s later
  obtain ⟨hasked, -, hknown, hfruitless, hsource⟩ := glue_kept toolPlugin
  have hread : ((loadGlue toolPlugin.compiler).run.run s.session).1 = .ok [] := by cbv
  have hglue : (toolPlugin.happen s .glue).session.glue = some [] := by
    rw [hasked s .glue .glue, hread]
    rfl
  obtain ⟨hload, -, -, hfinish⟩ := hknown _ _ [.change nowhere, .call .buildStart] hglue
  refine ⟨hload, (hfinish [] glueChunk _ _ rfl).emitted ?_, hfruitless _ _ rfl ⟨?_, ?_, trivial⟩, ?_⟩
  · rw [references_glueChunk]
    exact .here (by cbv)
  · intro _ glue hok
    obtain ⟨e, hvain⟩ := readGlue_nowhere
    rw [loadGlue_outcome rfl, hvain] at hok
    cases hok
  · rintro ⟨⟩
  · rw [← hread]
    exact hsource { host := Command.desk emptyGlue [["version"]] } s.session rfl rfl
      ⟨by cbv, fun root _ => rfl⟩

/-! ## §7 A code that is not finished -/

/-- The id of a binary that was never built. -/
def missingId : Text := VirtualId.artifact "s" Wrapper.wasmName

/-- A code that refers to the binary, and then to the glue. -/
def brokenChunk : Text := '"' :: missingId ++ '"' :: '"' :: VirtualId.glue ++ ['"']

theorem session_nowhere :
    (toolPlugin.runOf { session := { host := Command.desk emptyGlue [] } }
      [.glue, .change nowhere]).session = { host := nowhere, glue := some [] } := by cbv

/-- The glue was loaded and the code refers to it, but finishing ends at the binary, and nothing is
emitted. -/
theorem finalize_stops :
    let s := (toolPlugin.runOf { session := { host := Command.desk emptyGlue [] } }
      [.glue, .change nowhere]).session
    let p := (toolPlugin.buildRoot.child "s").child Wrapper.wasmName
    (loadGlue toolPlugin.compiler).run.run s = (.ok [], s) ∧
      (∃ r ∈ references brokenChunk, Percent.decode r = VirtualId.glue) ∧
      (finalize toolPlugin.compiler toolPlugin.buildRoot [] brokenChunk).run.run s =
        (.error (.artifactNotFound missingId (some p.text)), s) ∧
      s.assets.lookup (glueAsset []) = none := by
  intro s p
  have hs : s = { host := nowhere, glue := some [] } := session_nowhere
  rw [hs]
  have hreferences : references brokenChunk = [missingId, VirtualId.glue] := by cbv
  have hdecode : Percent.decode missingId = missingId := Percent.decode_of_not_mem (by decide)
  have hresolve : VirtualId.resolve toolPlugin.buildRoot missingId = some (.file p) :=
    VirtualId.resolve_artifact _ (by decide) (by decide) (by decide)
  have hlocate : nowhere.files.locate true ((toolPlugin.buildRoot.child "s").child Wrapper.wasmName) =
      .error .notFound := by cbv
  have hother : Percent.decode missingId ≠ VirtualId.glue := by
    rw [hdecode]
    exact artifact_ne_glue "s" Wrapper.wasmName
  have hbehind : (behind toolPlugin.compiler toolPlugin.buildRoot (Percent.decode missingId)).run.run
      { host := nowhere, glue := some [] } =
        (.error (.artifactNotFound missingId (some p.text)), { host := nowhere, glue := some [] }) := by
    refine run_behind_artifact hother ?_
    rw [hdecode]
    exact .missing hresolve (FileTree.hasNoFile_of_locate hlocate (by decide))
  refine ⟨loadGlue_of_known rfl, ⟨VirtualId.glue, by simp [hreferences], by cbv⟩, ?_, rfl⟩
  rw [finalize, run_bind, hreferences, run_emitAll_error hbehind]

end Plugin
end EmbeddedGo
