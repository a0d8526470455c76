/-
EmbeddedGo.Proofs.Finishing — what finishing does to a code.

A code is read from left to right as texts with references between them. What a reference is can be
said without a reader: a quote, an id, and the same quote. So there is one way to cut a code such
that no reference begins earlier than where the cut has one (`Cut.existsUnique`), and that is the
way it is scanned both times, when ids are emitted and when URLs take their places.

Finishing succeeds exactly if something stands behind every id, and everything else about it can then be
said at once: the code, the assets and what was loaded (`finalize_cut`). What stands behind an id does not
change on the way, since files stay as they are and glue that is known stays known.

  §1 cutting a code at its references
  §2 what stands behind ids
  §3 one reference after the other
  §4 finishing
-/
import EmbeddedGo.Proofs.Bundled

namespace EmbeddedGo.Bundle

open Text

/-! ## §1 Cuts -/

/-- A reference with its quotes. -/
def Reference.text (r : Reference) : Text := r.quote :: (r.id ++ [r.quote])

/-- What can be a reference: one of two quotes, and an id with something behind the prefix, without
quotes, backslashes and blanks there. -/
structure Reference.IsWritten (r : Reference) : Prop where
  quote : r.quote = '"' ∨ r.quote = '\''
  id : ∃ name, r.id = VirtualId.start ++ name ∧ name ≠ [] ∧
    ∀ c ∈ name, c ≠ '"' ∧ c ≠ '\'' ∧ c ≠ '\\' ∧ isBlank c = false

theorem isReferenceChar_iff {c : Char} :
    isReferenceChar c = true ↔ c ≠ '"' ∧ c ≠ '\'' ∧ c ≠ '\\' ∧ isBlank c = false := by
  simp [isReferenceChar, and_assoc]

/-- A reader finds a reference exactly if the text begins with one. -/
theorem reference?_eq_some_iff {s rest : Text} {r : Reference} :
    reference? s = some (r, rest) ↔ r.IsWritten ∧ s = r.text ++ rest := by
  constructor
  · intro h
    unfold reference? at h
    split at h
    · cases h
    next quote s =>
    split at h
    · next hquote =>
      split at h
      · cases h
      next behind hbehind =>
      have hs := after?_eq_some_iff.1 hbehind
      have hwhole := List.takeWhile_append_dropWhile (p := isReferenceChar) (l := behind)
      have hall := List.all_eq_true.1 (List.all_takeWhile (p := isReferenceChar) (l := behind))
      split at h
      · cases h
      · cases h
      next _ _ c after hdrop hne =>
      rw [hdrop] at hwhole
      split at h
      · next hc =>
        cases h
        subst hc
        refine ⟨⟨hquote, _, rfl, hne, fun c hc => isReferenceChar_iff.1 (hall c hc)⟩, ?_⟩
        simpa [hs, Reference.text] using hwhole.symm
      · cases h
    · cases h
  · rintro ⟨⟨hquote, name, hid, hne, hname⟩, rfl⟩
    obtain ⟨quote, id⟩ := r
    subst hid
    have h := reference?_quoted (by simpa [isQuote] using hquote) hne
      (fun c hc => isReferenceChar_iff.2 (hname c hc)) rest
    simpa [Reference.text] using h

/-- No reference begins in the first text, if the second comes behind it. -/
def Untouched (t rest : Text) : Prop :=
  ∀ a b, t = a ++ b → b ≠ [] → ∀ r : Reference, r.IsWritten → ¬ r.text <+: b ++ rest

theorem reference?_eq_none_iff {s : Text} :
    reference? s = none ↔ ∀ r : Reference, r.IsWritten → ¬ r.text <+: s := by
  constructor
  · rintro h r hr ⟨rest, rfl⟩
    rw [reference?_eq_some_iff.2 ⟨hr, rfl⟩] at h
    cases h
  · intro h
    match hread : reference? s with
    | none => rfl
    | some (r, rest) =>
      obtain ⟨hr, rfl⟩ := reference?_eq_some_iff.1 hread
      exact absurd (List.prefix_append ..) (h r hr)

theorem untouched_cons {c : Char} {t rest : Text} :
    Untouched (c :: t) rest ↔ reference? (c :: (t ++ rest)) = none ∧ Untouched t rest := by
  rw [reference?_eq_none_iff]
  constructor
  · intro h
    refine ⟨h [] (c :: t) rfl (List.cons_ne_nil c t), ?_⟩
    rintro a b rfl hb
    exact h (c :: a) b rfl hb
  · rintro ⟨hhead, htail⟩ a b hab hb
    cases a with
    | nil =>
      obtain rfl : c :: t = b := hab
      exact hhead
    | cons d a =>
      obtain ⟨rfl, rfl⟩ := List.cons.inj hab
      exact htail a b rfl hb

theorem passes_iff {t rest : Text} : Passes t rest ↔ Untouched t rest := by
  induction t with
  | nil =>
    refine ⟨fun _ a b hab hb => ?_, fun _ => trivial⟩
    exact absurd (List.append_eq_nil_iff.1 hab.symm).2 hb
  | cons c t ih => rw [untouched_cons, ← ih, Passes]

/-- A text, or a text in front of a reference, behind which it goes on. -/
inductive Cut where
  | tail (t : Text)
  | piece (t : Text) (r : Reference) (rest : Cut)

namespace Cut

/-- The code that was cut, with something in the place of each id. -/
def render (url : Text → Text) : Cut → Text
  | tail t => t
  | piece t r rest => t ++ r.quote :: (url r.id ++ r.quote :: rest.render url)

/-- The code that was cut. -/
def text (cut : Cut) : Text := cut.render id

/-- The ids of the references, in order. -/
def ids : Cut → List Text
  | tail _ => []
  | piece _ r rest => r.id :: rest.ids

/-- At every reference it is the first that begins behind the one before. -/
def IsLeftmost : Cut → Prop
  | tail t => Untouched t []
  | piece t r rest => r.IsWritten ∧ Untouched t (r.text ++ rest.text) ∧ rest.IsLeftmost

/-- The pieces that a scan would give. -/
def pieces : Cut → List (Piece Reference)
  | tail t => t.map .plain
  | piece t r rest => t.map .plain ++ .found r :: rest.pieces

theorem text_piece (t : Text) (r : Reference) (rest : Cut) :
    (piece t r rest).text = t ++ (r.text ++ rest.text) := by
  simp [text, render, Reference.text]

theorem scan_text {cut : Cut} (h : cut.IsLeftmost) : scan reference? cut.text = cut.pieces := by
  induction cut with
  | tail t =>
    have hscan := scan_passes (passes_iff.2 h)
    rw [List.append_nil, scan, List.append_nil] at hscan
    exact hscan
  | piece t r rest ih =>
    obtain ⟨hwritten, hbefore, hrest⟩ := h
    have hread : reference? (r.quote :: (r.id ++ [r.quote] ++ rest.text)) = some (r, rest.text) :=
      reference?_eq_some_iff.2 ⟨hwritten, rfl⟩
    rw [text_piece, scan_passes (passes_iff.2 hbefore), Reference.text, List.cons_append,
      scan_found hread (by simp; omega), ih hrest]
    rfl

/-- A cut with one character more in front. -/
def cons (c : Char) : Cut → Cut
  | tail t => tail (c :: t)
  | piece t r rest => piece (c :: t) r rest

/-- The cut that the pieces of a scan make. -/
def ofPieces : List (Piece Reference) → Cut
  | [] => tail []
  | .plain c :: rest => (ofPieces rest).cons c
  | .found r :: rest => piece [] r (ofPieces rest)

theorem ofPieces_map_append (t : Text) (rest : List (Piece Reference)) :
    ofPieces (t.map .plain ++ rest) = t.foldr cons (ofPieces rest) := by
  induction t with
  | nil => rfl
  | cons c t ih => rw [List.map_cons, List.cons_append, ofPieces, ih, List.foldr_cons]

theorem foldr_cons_tail (t s : Text) : t.foldr cons (tail s) = tail (t ++ s) := by
  induction t with
  | nil => rfl
  | cons c t ih => rw [List.foldr_cons, ih, cons, List.cons_append]

theorem foldr_cons_piece (t s : Text) (r : Reference) (rest : Cut) :
    t.foldr cons (piece s r rest) = piece (t ++ s) r rest := by
  induction t with
  | nil => rfl
  | cons c t ih => rw [List.foldr_cons, ih, cons, List.cons_append]

theorem ofPieces_pieces (cut : Cut) : ofPieces cut.pieces = cut := by
  induction cut with
  | tail t =>
    rw [pieces, ← List.append_nil (t.map _), ofPieces_map_append, ofPieces, foldr_cons_tail,
      List.append_nil]
  | piece t r rest ih =>
    rw [pieces, ofPieces_map_append, ofPieces, ih, foldr_cons_piece, List.append_nil]

theorem text_cons (c : Char) (cut : Cut) : (cut.cons c).text = c :: cut.text := by
  cases cut <;> rfl

theorem IsLeftmost.cons {c : Char} {cut : Cut} (h : cut.IsLeftmost)
    (hc : reference? (c :: cut.text) = none) : (cut.cons c).IsLeftmost := by
  cases cut with
  | tail t =>
    refine untouched_cons.2 ⟨?_, h⟩
    rw [List.append_nil]
    exact hc
  | piece t r rest =>
    rw [text_piece] at hc
    exact ⟨h.1, untouched_cons.2 ⟨hc, h.2.1⟩, h.2.2⟩

/-- The pieces of a scan are cut at the first references. -/
theorem isLeftmost_scan (code : Text) :
    (ofPieces (scan reference? code)).IsLeftmost ∧ (ofPieces (scan reference? code)).text = code := by
  fun_induction scan reference? code with
  | case1 => exact ⟨fun a b hab hb => absurd (List.append_eq_nil_iff.1 hab.symm).2 hb, rfl⟩
  | case2 c s hnone ih =>
    obtain ⟨hleftmost, htext⟩ := ih
    exact ⟨hleftmost.cons (htext.symm ▸ hnone), by rw [ofPieces, text_cons, htext]⟩
  | case3 c s r rest hread hle ih =>
    obtain ⟨hwritten, hs⟩ := reference?_eq_some_iff.1 hread
    obtain ⟨hleftmost, htext⟩ := ih
    refine ⟨⟨hwritten, ?_, hleftmost⟩, ?_⟩
    · exact fun a b hab hb => absurd (List.append_eq_nil_iff.1 hab.symm).2 hb
    · rw [ofPieces, text_piece, htext, List.nil_append, hs]
  | case4 c s r rest hread hle ih =>
    -- a reference leaves less than it was found in
    obtain ⟨-, hs⟩ := reference?_eq_some_iff.1 hread
    have hlength := congrArg List.length hs
    simp [Reference.text] at hlength
    omega

/-- A code can be cut at its first references in one way. -/
theorem existsUnique (code : Text) : ∃! cut : Cut, cut.IsLeftmost ∧ cut.text = code := by
  refine ⟨_, isLeftmost_scan code, ?_⟩
  rintro cut ⟨hleftmost, rfl⟩
  rw [scan_text hleftmost, ofPieces_pieces]

variable {cut : Cut}

theorem filterMap_found?_pieces (cut : Cut) :
    (cut.pieces.filterMap Piece.found?).map (·.id) = cut.ids := by
  induction cut with
  | tail t =>
    have hnone : (t.map Piece.plain).filterMap (Piece.found? (α := Reference)) = [] := by
      simp [List.filterMap_map, Function.comp_def, Piece.found?]
    rw [pieces, hnone, List.map_nil, ids]
  | piece t r rest ih =>
    have hnone : (t.map Piece.plain).filterMap (Piece.found? (α := Reference)) = [] := by
      simp [List.filterMap_map, Function.comp_def, Piece.found?]
    rw [pieces, List.filterMap_append, hnone, List.nil_append, List.filterMap_cons]
    dsimp only [Piece.found?]
    rw [List.map_cons, ih, ids]

theorem references_text (h : cut.IsLeftmost) : references cut.text = cut.ids.eraseDups := by
  rw [references, findAll, scan_text h, filterMap_found?_pieces]

theorem substitute_text (h : cut.IsLeftmost) (url : Text → Text) :
    substitute url cut.text = cut.render url := by
  rw [substitute, scan_text h]
  clear h
  induction cut with
  | tail t => exact flatMap_plain url t
  | piece t r rest ih =>
    rw [pieces, List.flatMap_append, flatMap_plain, List.flatMap_cons, ih, render, substitutePiece]
    simp

end Cut
end EmbeddedGo.Bundle

/-! ## §2 Behind ids -/

namespace EmbeddedGo.Session

variable {c : Compiler} {s : Session} {glue : Text}

/-- The glue that a session knows, or would read from the compiler's own files. -/
def GlueIs (c : Compiler) (s : Session) (glue : Text) : Prop :=
  s.glue = some glue ∨ s.glue = none ∧ ((readGlue c).run.run s.host).1 = .ok glue

/-- The session once it was asked for its glue. -/
def loaded (c : Compiler) (s : Session) : Session := ((loadGlue c).run.run s).2

theorem loadGlue_of_known (h : s.glue = some glue) :
    (loadGlue c).run.run s = (.ok glue, s) := by
  rw [loadGlue, run_bind, run_get]
  dsimp only
  rw [h]
  rfl

theorem loadGlue_of_unknown (h : s.glue = none) :
    (loadGlue c).run.run s =
      match (readGlue c).run.run s.host with
      | (.ok glue, host) => (.ok glue, { s with host, glue := some glue })
      | (.error e, host) => (.error e, { s with host }) := by
  rw [loadGlue, run_bind, run_get]
  dsimp only
  rw [h]
  dsimp only
  rw [run_bind, run_act]
  rcases (readGlue c).run.run s.host with ⟨e | glue, host⟩
  · rw [h]
  · rfl

/-- The glue is loaded exactly if there is one. -/
theorem run_loadGlue_iff : (loadGlue c).run.run s = (.ok glue, s.loaded c) ↔ GlueIs c s glue := by
  rw [loaded, GlueIs]
  cases hknown : s.glue with
  | some known =>
    rw [loadGlue_of_known hknown]
    constructor
    · rintro ⟨⟩
      exact .inl rfl
    · rintro (⟨⟨⟩⟩ | ⟨⟨⟩, -⟩)
      rfl
  | none =>
    rw [loadGlue_of_unknown hknown]
    rcases (readGlue c).run.run s.host with ⟨e | read, host⟩
    · constructor
      · rintro ⟨⟩
      · rintro (⟨⟨⟩⟩ | ⟨-, ⟨⟩⟩)
    · constructor
      · rintro ⟨⟩
        exact .inr ⟨rfl, rfl⟩
      · rintro (⟨⟨⟩⟩ | ⟨-, ⟨⟩⟩)
        rfl

theorem GlueIs.unique {glue' : Text} (h : GlueIs c s glue) (h' : GlueIs c s glue') : glue = glue' := by
  have hrun := run_loadGlue_iff.2 h
  rw [run_loadGlue_iff.2 h'] at hrun
  exact (Except.ok.inj (Prod.mk.inj hrun).1).symm

/-- Glue that was loaded is known. -/
theorem GlueIs.known (h : GlueIs c s glue) : (s.loaded c).glue = some glue :=
  glue_of_loadGlue (run_loadGlue_iff.2 h)

theorem GlueIs.loaded_loaded (h : GlueIs c s glue) : (s.loaded c).loaded c = s.loaded c := by
  rw [loaded, loadGlue_of_known h.known]

theorem files_loaded (c : Compiler) (s : Session) : (s.loaded c).host.files = s.host.files :=
  (sameWorld_loadGlue c s).files

/-- The assets have nothing to do with the glue. -/
theorem loaded_assets (c : Compiler) (s : Session) (assets : Bundle.Assets) :
    loaded c { s with assets } = { s.loaded c with assets } := by
  obtain ⟨host, known, old⟩ := s
  unfold loaded
  cases known with
  | some glue => rw [loadGlue_of_known rfl, loadGlue_of_known rfl]
  | none =>
    rw [loadGlue_of_unknown rfl, loadGlue_of_unknown rfl]
    dsimp only
    rcases (readGlue c).run.run host with ⟨e | glue, host'⟩
    · rfl
    · rfl

end EmbeddedGo.Session

namespace EmbeddedGo.Bundle

open Text Session

section Behind

variable {c : Compiler} {buildRoot : Path} {base : Text} {s : Session}

/-- What stands behind an id: glue behind that of the glue, and behind any other the file that it
resolves to. -/
def StandsFor (c : Compiler) (buildRoot : Path) (s : Session) (id : Text) (content : Bytes) : Prop :=
  if id = VirtualId.glue then ∃ glue, GlueIs c s glue ∧ content = Utf8.encode glue
  else ∃ p, VirtualId.resolve buildRoot id = some (.file p) ∧ s.host.files.read p = .ok content

/-- The session once some ids were asked for. -/
def visited (c : Compiler) (ids : List Text) (s : Session) : Session :=
  if ids.contains VirtualId.glue then s.loaded c else s

theorem visited_eq (ids : List Text) :
    visited c ids s = if VirtualId.glue ∈ ids then s.loaded c else s := by
  simp only [visited, List.contains_iff_mem]

theorem StandsFor.exists_glue {id : Text} {content : Bytes} (h : StandsFor c buildRoot s id content)
    (hid : VirtualId.glue ∈ [id]) : ∃ glue, GlueIs c s glue := by
  rw [StandsFor, if_pos (List.mem_singleton.1 hid).symm] at h
  obtain ⟨glue, hglue, -⟩ := h
  exact ⟨glue, hglue⟩

theorem run_behind {id : Text} {content : Bytes} (h : StandsFor c buildRoot s id content) :
    (behind c buildRoot id).run.run s = (.ok content, visited c [id] s) := by
  rw [StandsFor] at h
  split at h
  · next hid =>
    obtain ⟨glue, hglue, rfl⟩ := h
    rw [behind, if_pos hid, run_bind, run_loadGlue_iff.2 hglue, visited_eq, if_pos (by simp [hid])]
    rfl
  · next hid =>
    obtain ⟨p, hresolve, hread⟩ := h
    rw [behind, if_neg hid, run_act, run_readArtifact hresolve hread, visited_eq,
      if_neg (by simpa using Ne.symm hid)]

theorem standsFor_of_behind {id : Text} {content : Bytes} {s' : Session}
    (h : (behind c buildRoot id).run.run s = (.ok content, s')) :
    StandsFor c buildRoot s id content := by
  rw [behind] at h
  rw [StandsFor]
  split at h
  · next hid =>
    obtain ⟨glue, s₁, hload, hend⟩ := run_bind_ok h
    cases hend
    rw [if_pos hid]
    refine ⟨glue, run_loadGlue_iff.1 ?_, rfl⟩
    rw [loaded, hload]
  · next hid =>
    rw [if_neg hid]
    rw [run_act] at h
    exact of_run_readArtifact (Prod.ext (Prod.mk.inj h).1 rfl)

/-- What stands behind ids is the same once others were asked for, unless there is no glue. -/
theorem standsFor_visited {ids : List Text} {assets : Assets} {id : Text} {content : Bytes}
    (hglue : VirtualId.glue ∈ ids → ∃ glue, GlueIs c s glue) :
    StandsFor c buildRoot { visited c ids s with assets } id content ↔
      StandsFor c buildRoot s id content := by
  rw [visited_eq]
  split
  · next hin =>
    obtain ⟨glue, hglue⟩ := hglue hin
    have hsame : ∀ other, GlueIs c { s.loaded c with assets } other ↔ GlueIs c s other := by
      intro other
      constructor
      · rintro (hknown | ⟨hnone, -⟩)
        · obtain rfl : glue = other := Option.some.inj (hglue.known.symm.trans hknown)
          exact hglue
        · cases hglue.known.symm.trans hnone
      · intro hother
        exact .inl hother.known
    simp only [StandsFor, hsame, files_loaded]
  · exact Iff.rfl

/-! ## §3 One after the other -/

/-- What is emitted for a reference. -/
def made (content : Text → Bytes) (reference : Text) : Emission :=
  (emittedName (Percent.decode reference), content reference)

theorem visited_visited {ids ids' : List Text} {assets : Assets}
    (hglue : VirtualId.glue ∈ ids → ∃ glue, GlueIs c s glue) :
    visited c ids' { visited c ids s with assets } = { visited c (ids ++ ids') s with assets } := by
  simp only [visited_eq]
  by_cases hin : VirtualId.glue ∈ ids
  · obtain ⟨glue, hglue⟩ := hglue hin
    rw [if_pos hin, if_pos (List.mem_append.2 (.inl hin)), loaded_assets, hglue.loaded_loaded, ite_self]
  · rw [if_neg hin]
    by_cases hin' : VirtualId.glue ∈ ids'
    · rw [if_pos hin', if_pos (List.mem_append.2 (.inr hin')), loaded_assets]
    · rw [if_neg hin', if_neg fun h => (List.mem_append.1 h).elim hin hin']

/-- Where something stands behind every reference all of it is emitted, in order, and the glue is loaded
if it is one of them. -/
theorem run_emitAll {content : Text → Bytes} {references : List Text}
    (h : ∀ r ∈ references, StandsFor c buildRoot s (Percent.decode r) (content r)) :
    (emitAll c buildRoot base references).run.run s =
      (.ok (references.map fun r => (r, base ++ (made content r).asset)),
        { visited c (references.map Percent.decode) s with
          assets := (references.map (made content)).foldl Assets.add s.assets }) := by
  induction references generalizing s with
  | nil => rfl
  | cons r rest ih =>
    have hfirst := h r (by simp)
    have hassets := assets_behind c buildRoot (Percent.decode r) s
    rw [run_behind hfirst] at hassets
    have hrest := @ih { visited c [Percent.decode r] s with
        assets := (visited c [Percent.decode r] s).assets.add (made content r) }
      fun r' hr' => (standsFor_visited hfirst.exists_glue).2 (h r' (List.mem_cons_of_mem _ hr'))
    rw [emitAll, run_bind, run_emitTarget, run_behind hfirst]
    dsimp only
    rw [run_bind]
    have hstate : addEmission (visited c [Percent.decode r] s)
        (emittedName (Percent.decode r), content r) =
        { visited c [Percent.decode r] s with
          assets := (visited c [Percent.decode r] s).assets.add (made content r) } := rfl
    rw [hstate, hrest, visited_visited hfirst.exists_glue]
    dsimp only at hassets ⊢
    rw [hassets]
    rfl

/-- What was emitted for references stood behind them at the beginning. -/
theorem standsFor_of_emitAll {references : List Text} {s' : Session} {urls : List (Text × Text)}
    (h : (emitAll c buildRoot base references).run.run s = (.ok urls, s')) :
    ∀ r ∈ references, ∃ content, StandsFor c buildRoot s (Percent.decode r) content := by
  induction references generalizing s urls with
  | nil => simp
  | cons first rest ih =>
    obtain ⟨url, s₁, hfirst, hrest⟩ := run_bind_ok h
    obtain ⟨urls', s₂, hall, hend⟩ := run_bind_ok hrest
    cases hend
    rw [run_emitTarget] at hfirst
    match hbehind : (behind c buildRoot (Percent.decode first)).run.run s with
    | (.error e, s₀) =>
      rw [hbehind] at hfirst
      cases hfirst
    | (.ok content, s₀) =>
      have hstands := standsFor_of_behind hbehind
      rw [run_behind hstands] at hbehind hfirst
      cases hfirst
      intro r hr
      rcases List.mem_cons.1 hr with rfl | hr
      · exact ⟨content, hstands⟩
      · obtain ⟨content', hstands'⟩ := ih hall r hr
        exact ⟨content', (standsFor_visited hstands.exists_glue).1 hstands'⟩

end Behind

/-! ## §4 Finishing -/

theorem Cut.render_congr {cut : Cut} {url url' : Text → Text} (h : ∀ r ∈ cut.ids, url r = url' r) :
    cut.render url = cut.render url' := by
  induction cut with
  | tail t => rfl
  | piece t r rest ih =>
    rw [Cut.render, Cut.render, h r.id List.mem_cons_self,
      ih fun id hid => h id (List.mem_cons_of_mem _ hid)]

/-- Every code is cut in one way at its first references. Without any it is what finishing gives, and
nothing is done. Otherwise finishing succeeds exactly if something stands behind each of them, and then in
their places there are the URLs of the assets that were made of that: one for each id, in the order in
which the ids first come up. Besides that only the glue was loaded, if it is one of them. -/
theorem finalize_cut (c : Compiler) (buildRoot : Path) (base code : Text) (s : Session) :
    (∃! cut : Cut, cut.IsLeftmost ∧ cut.text = code) ∧
      ∀ cut : Cut, cut.IsLeftmost → cut.text = code →
        (cut.ids = [] → (finalize c buildRoot base code).run.run s = (.ok code, s)) ∧
        ((∃ output s', (finalize c buildRoot base code).run.run s = (.ok output, s')) ↔
          ∀ r ∈ cut.ids, ∃ content, StandsFor c buildRoot s (Percent.decode r) content) ∧
        ∀ content : Text → Bytes,
          (∀ r ∈ cut.ids, StandsFor c buildRoot s (Percent.decode r) (content r)) →
          (finalize c buildRoot base code).run.run s =
            (.ok (cut.render fun r => base ++ (made content r).asset),
              { visited c (cut.ids.map Percent.decode) s with
                assets := (cut.ids.eraseDups.map (made content)).foldl Assets.add s.assets }) := by
  refine ⟨Cut.existsUnique code, ?_⟩
  rintro cut hleftmost rfl
  have hreferences := Cut.references_text hleftmost
  have hfinished : ∀ content : Text → Bytes,
      (∀ r ∈ cut.ids, StandsFor c buildRoot s (Percent.decode r) (content r)) →
      (finalize c buildRoot base cut.text).run.run s =
        (.ok (cut.render fun r => base ++ (made content r).asset),
          { visited c (cut.ids.map Percent.decode) s with
            assets := (cut.ids.eraseDups.map (made content)).foldl Assets.add s.assets }) := by
    intro content hcontent
    have hvisited : visited c (cut.ids.eraseDups.map Percent.decode) s =
        visited c (cut.ids.map Percent.decode) s := by
      simp only [visited_eq, List.mem_map, List.mem_eraseDups]
    rw [finalize, run_bind, hreferences,
      run_emitAll fun r hr => hcontent r (List.mem_eraseDups.1 hr), hvisited]
    dsimp only
    rw [Cut.substitute_text hleftmost, run_pure]
    refine Prod.ext (congrArg Except.ok (Cut.render_congr fun r hr => ?_)) rfl
    rw [List.lookup_graph _ (List.mem_eraseDups.2 hr), Option.getD_some]
  refine ⟨fun hnone => ?_, ⟨?_, fun h => ?_⟩, hfinished⟩
  · rw [hfinished (fun _ => []) (by simp [hnone]), hnone]
    refine Prod.ext (congrArg Except.ok (Cut.render_congr (by simp [hnone]))) rfl
  · rintro ⟨output, s', hrun⟩ r hr
    obtain ⟨urls, s₁, hall, -⟩ := run_bind_ok hrun
    rw [hreferences] at hall
    exact standsFor_of_emitAll hall r (List.mem_eraseDups.2 hr)
  · choose! content hcontent using h
    exact ⟨_, _, hfinished content hcontent⟩

/-- The glue in two kinds of quotes, written in two ways, behind a quote that stands for nothing. -/
def quotedGlue : Cut :=
  .piece "'".toList ⟨'"', "/@vite-golang/wasm%5Fexec.js".toList⟩
    (.piece [] ⟨'\'', VirtualId.glue⟩ (.tail []))

/-- A session that knows the glue. -/
def knowingSession : Session :=
  { host := { files := {}, toolchain := { place := [] } }, glue := some "ab" }

theorem isLeftmost_quotedGlue : quotedGlue.IsLeftmost := by
  have hquote : Passes "'" (quotedGlue.text.drop 1) := ⟨by cbv, trivial⟩
  have hescaped : ("wasm%5Fexec.js".toList).all isReferenceChar = true := by decide
  have hplain : VirtualId.glueName.all isReferenceChar = true := by decide
  refine ⟨⟨.inl rfl, "wasm%5Fexec.js".toList, by decide, by decide, fun c hc => ?_⟩,
    passes_iff.1 hquote, ⟨.inr rfl, VirtualId.glueName, rfl, by decide, fun c hc => ?_⟩,
    passes_iff.1 trivial, passes_iff.1 trivial⟩
  · exact isReferenceChar_iff.1 (List.all_eq_true.1 hescaped c hc)
  · exact isReferenceChar_iff.1 (List.all_eq_true.1 hplain c hc)

/-- Both become the URL of one asset. -/
theorem finalize_cut_quotes :
    (finalize {} (Path.ofNames []) "/" quotedGlue.text).run.run knowingSession =
      (.ok ("'\"/".toList ++ glueAsset "ab" ++ "\"'/".toList ++ glueAsset "ab" ++ ['\'']),
        { knowingSession with assets := [(glueAsset "ab", Utf8.encode "ab")] }) := by
  have hdecode : ∀ r ∈ quotedGlue.ids, Percent.decode r = VirtualId.glue := by
    simp only [quotedGlue, Cut.ids, List.forall_mem_cons]
    exact ⟨by cbv, by cbv, by simp⟩
  have hstands : ∀ r ∈ quotedGlue.ids,
      StandsFor {} (Path.ofNames []) knowingSession (Percent.decode r) (Utf8.encode "ab") := by
    intro r hr
    rw [StandsFor, if_pos (hdecode r hr)]
    exact ⟨"ab", .inl rfl, rfl⟩
  have hmade : ∀ r ∈ quotedGlue.ids,
      made (fun _ => Utf8.encode "ab") r = (VirtualId.glueName, Utf8.encode "ab") := by
    intro r hr
    rw [made, hdecode r hr, emittedName, if_pos rfl]
  have hasset : Emission.asset (VirtualId.glueName, Utf8.encode "ab") = glueAsset "ab" :=
    assetName_glueName "ab"
  have hknown : ∀ ids, visited {} ids knowingSession = knowingSession := fun ids => by
    rw [visited_eq, loaded, loadGlue_of_known (show knowingSession.glue = some "ab".toList from rfl),
      ite_self]
  have hids : quotedGlue.ids.eraseDups = quotedGlue.ids := by decide
  obtain ⟨-, hall⟩ := finalize_cut {} (Path.ofNames []) "/" quotedGlue.text knowingSession
  obtain ⟨-, -, hfinished⟩ := hall quotedGlue isLeftmost_quotedGlue rfl
  have hrun := hfinished (fun _ => Utf8.encode "ab") hstands
  rw [hids, List.map_congr_left hmade, hknown,
    Cut.render_congr (fun r hr => by rw [hmade r hr, hasset])] at hrun
  have hfirst : Assets.add [] (VirtualId.glueName, Utf8.encode "ab") =
      [(glueAsset "ab", Utf8.encode "ab")] := by
    rw [Assets.add, hasset]
    rfl
  have hagain : Assets.add [(glueAsset "ab", Utf8.encode "ab")] (VirtualId.glueName, Utf8.encode "ab") =
      [(glueAsset "ab", Utf8.encode "ab")] := by
    rw [Assets.add, hasset]
    simp [Table.put]
  refine hrun.trans (Prod.ext ?_ ?_)
  · simp [quotedGlue, Cut.render]
  · rw [quotedGlue, Cut.ids, Cut.ids, Cut.ids, List.map_cons, List.map_cons, List.map_nil,
      show knowingSession.assets = [] from rfl, List.foldl_cons, List.foldl_cons, hfirst, hagain]
    rfl

end EmbeddedGo.Bundle
