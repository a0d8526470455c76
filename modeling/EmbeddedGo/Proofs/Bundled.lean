/-
EmbeddedGo.Proofs.Bundled — the code that a bundle has for one module.

A module with Go is transformed, and then the wrapper is finished: what stands behind its references is
emitted, and their URLs stand in the places. The comment in the first line of a wrapper shows a path,
and that can hold whatever can stand in a path, quoted ids too. But no reference reaches over a blank,
and a blank stands in front of the first quote that the wrapper sets (`scan_blank`). So behind the
comment the two ids are found, whatever the comment makes a scan find before them.

  §1 scans and blanks
  §2 what a wrapper becomes
  §3 what stands behind the two ids
  §4 transforming and finishing
-/
import EmbeddedGo.Proofs.Doing
import EmbeddedGo.Proofs.Emission

namespace EmbeddedGo

/-! ## §1 Blanks -/

namespace Bundle

open Text

variable {b : Char}

theorem not_mem_start_of_isBlank (hb : isBlank b = true) : b ∉ VirtualId.start := by
  have hall : VirtualId.start.all (fun c => !isBlank c) = true := by decide
  intro h
  have := List.all_eq_true.1 hall b h
  simp [hb] at this

theorem isReferenceChar_of_isBlank (hb : isBlank b = true) : isReferenceChar b = false := by
  simp [isReferenceChar, hb]

theorem isQuote_of_isBlank (hb : isBlank b = true) : isQuote b = false := by
  rw [← Bool.not_eq_true]
  intro h
  rcases (by simpa [isQuote] using h : b = '"' ∨ b = '\'') with rfl | rfl
  · exact absurd hb (by decide)
  · exact absurd hb (by decide)

/-- A reference that begins in front of a blank ends there, and does not depend on what comes behind
the blank. -/
theorem reference?_blank (hb : isBlank b = true) (quote : Char) (s : Text) :
    (∃ r s', s'.length ≤ s.length ∧
      ∀ rest, reference? (quote :: (s ++ b :: rest)) = some (r, s' ++ b :: rest)) ∨
    ∀ rest, reference? (quote :: (s ++ b :: rest)) = none := by
  by_cases hquote : quote = '"' ∨ quote = '\''
  rotate_left
  · exact .inr fun rest => by rw [reference?, if_neg hquote]
  by_cases hstart : VirtualId.start <+: s
  rotate_left
  · refine .inr fun rest => reference?_eq_none fun _ hpre => hstart ?_
    exact prefix_of_prefix_append_cons (not_mem_start_of_isBlank hb) hpre
  obtain ⟨name, rfl⟩ := hstart
  have hchar := isReferenceChar_of_isBlank hb
  have htaken := List.takeWhile_append_dropWhile (p := isReferenceChar) (l := name)
  have hall : ∀ c ∈ name.takeWhile isReferenceChar, isReferenceChar c = true :=
    List.all_eq_true.1 List.all_takeWhile
  have hread : ∀ rest, after? VirtualId.start (VirtualId.start ++ name ++ b :: rest) =
      some (name ++ b :: rest) := fun rest => by rw [List.append_assoc, after?_append]
  cases hdrop : name.dropWhile isReferenceChar with
  | nil =>
    -- the blank comes where the quote would have to
    have hne : b ≠ quote := by
      rintro rfl
      have hnot := isQuote_of_isBlank hb
      simp only [isQuote, Bool.or_eq_false_iff, beq_eq_false_iff_ne] at hnot
      exact hquote.elim hnot.1 hnot.2
    rw [hdrop, List.append_nil] at htaken
    rw [htaken] at hall
    refine .inr fun rest => ?_
    have htake : (name ++ b :: rest).takeWhile isReferenceChar = name := by
      rw [List.takeWhile_append_of_pos hall, List.takeWhile_cons_of_neg (by simp [hchar]),
        List.append_nil]
    have hbehind : (name ++ b :: rest).dropWhile isReferenceChar = b :: rest := by
      rw [List.dropWhile_append_of_pos hall, List.dropWhile_cons_of_neg (by simp [hchar])]
    simp only [reference?, if_pos hquote, hread, htake, hbehind]
    cases name with
    | nil => rfl
    | cons => exact if_neg hne
  | cons c s' =>
    have hc : isReferenceChar c = false := by
      have hhead := List.head_dropWhile_not (p := isReferenceChar) (l := name)
        (by rw [hdrop]; simp)
      simpa only [hdrop, List.head_cons] using hhead
    rw [hdrop] at htaken
    obtain ⟨taken, htake⟩ : ∃ taken, name.takeWhile isReferenceChar = taken := ⟨_, rfl⟩
    rw [htake] at htaken hall
    have hsplit : ∀ rest, name ++ b :: rest = taken ++ c :: (s' ++ b :: rest) := fun rest => by
      rw [← htaken, List.append_assoc, List.cons_append]
    have hfirst : ∀ rest, (name ++ b :: rest).takeWhile isReferenceChar = taken := fun rest => by
      rw [hsplit, List.takeWhile_append_of_pos hall, List.takeWhile_cons_of_neg (by simp [hc]),
        List.append_nil]
    have hbehind : ∀ rest, (name ++ b :: rest).dropWhile isReferenceChar = c :: (s' ++ b :: rest) :=
      fun rest => by
        rw [hsplit, List.dropWhile_append_of_pos hall, List.dropWhile_cons_of_neg (by simp [hc])]
    have hlength : s'.length ≤ (VirtualId.start ++ name).length := by
      rw [← htaken]
      simp
      omega
    simp only [reference?, if_pos hquote, hread, hfirst, hbehind]
    cases taken with
    | nil => exact .inr fun _ => rfl
    | cons d taken =>
      by_cases hcq : c = quote
      · exact .inl ⟨_, s', hlength, fun rest => if_pos hcq⟩
      · exact .inr fun rest => if_neg hcq

/-- A scan can be cut behind a blank. -/
theorem scan_blank (hb : isBlank b = true) (s rest : Text) :
    scan reference? (s ++ b :: rest) = scan reference? (s ++ [b]) ++ scan reference? rest := by
  induction h : s.length using Nat.strongRecOn generalizing s with
  | ind n ih =>
    cases s with
    | nil =>
      have hnone : ∀ rest, reference? (b :: rest) = none := fun rest =>
        reference?_eq_none fun hq => by simp [isQuote_of_isBlank hb] at hq
      rw [List.nil_append, List.nil_append, scan_none (hnone _), scan_none (hnone _), scan]
      rfl
    | cons c s =>
      simp only [List.length_cons] at h
      rcases reference?_blank hb c s with ⟨r, s', hle, hfound⟩ | hnone
      · have hcut := ih s'.length (by omega) s' rfl
        rw [List.cons_append, List.cons_append, scan_found (hfound rest) (by simp; omega),
          scan_found (hfound []) (by simp; omega), hcut]
        rfl
      · have hcut := ih s.length (by omega) s rfl
        rw [List.cons_append, List.cons_append, scan_none (hnone rest), scan_none (hnone []), hcut]
        rfl

end Bundle

/-! ## §2 Wrappers -/

namespace Wrapper

open EmbeddedGo.Bundle Text

/-- What a wrapper becomes behind its first line: two texts in the place of its ids. -/
def around (head glue url : Text) (names : List Text) : Text :=
  head ++ '"' :: (glue ++ '"' :: (middle ++ '"' :: (url ++ '"' :: closing names)))

/-- A blank stands in front of the id of the glue. -/
theorem opening_eq (shown : Text) : ∃ s, opening shown = s ++ [' '] := by
  obtain ⟨s, hs⟩ : ∃ s, notice = s ++ [' '] := ⟨". Do not edit.\n" ++ "import", by decide⟩
  delta opening
  generalize ("// Generated by use-golang from build slot " : Text) = comment
  exact ⟨comment ++ (shown ++ s), by rw [hs]; simp⟩

variable {shown slot : Text} {names : List Text}

/-- The two ids are found behind whatever is found in the comment. -/
theorem scan_module_behind (shown slot : Text) (hn : ∀ n ∈ names, '/' ∉ n) :
    scan reference? (module shown slot names) =
      scan reference? (opening shown) ++ .found ⟨'"', VirtualId.glue⟩ ::
        (middle.map .plain ++ .found ⟨'"', VirtualId.artifactUrl slot wasmName⟩ ::
          (closing names).map .plain) := by
  obtain ⟨s, hs⟩ := opening_eq shown
  have hne : VirtualId.urlName slot wasmName ≠ [] := by simp [VirtualId.urlName]
  have hbehind : scan reference? ([] ++ mention VirtualId.glueName
      (middle ++ mention (VirtualId.urlName slot wasmName) (closing names))) = _ :=
    scan_two trivial isClear_middle (isClear_closing hn) (by decide)
      isReferenceChar_of_mem_glueName hne (isReferenceChar_of_mem_urlName slot wasmName)
  rw [List.nil_append] at hbehind
  have hcode : module shown slot names = s ++ ' ' :: mention VirtualId.glueName
      (middle ++ mention (VirtualId.urlName slot wasmName) (closing names)) := by
    rw [module_eq_fill, fill, hs, VirtualId.artifactUrl_eq, VirtualId.glue]
    simp [mention]
  rw [hcode, scan_blank (by decide), hbehind, hs, VirtualId.artifactUrl_eq, VirtualId.glue]
  rfl

theorem mem_references_module (shown slot : Text) (hn : ∀ n ∈ names, '/' ∉ n) :
    VirtualId.glue ∈ references (module shown slot names) ∧
      VirtualId.artifactUrl slot wasmName ∈ references (module shown slot names) := by
  rw [references, findAll, scan_module_behind shown slot hn]
  simp [Piece.found?, List.mem_eraseDups]

/-- With URLs in the place of the ids only the first line can differ further. -/
theorem substitute_module_behind (shown slot : Text) (hn : ∀ n ∈ names, '/' ∉ n)
    (url : Text → Text) :
    substitute url (module shown slot names) =
      around (substitute url (opening shown)) (url VirtualId.glue)
        (url (VirtualId.artifactUrl slot wasmName)) names := by
  rw [substitute, scan_module_behind shown slot hn, List.flatMap_append, List.flatMap_cons,
    List.flatMap_append, flatMap_plain, List.flatMap_cons, flatMap_plain]
  simp [substitutePiece, around, substitute]

end Wrapper

/-! ## §3 Behind the ids -/

namespace Bundle

open Session

variable {c : Compiler} {buildRoot : Path} {base : Text}

theorem content_of_behind_glue {s s' : Session} {content : Bytes}
    (h : (behind c buildRoot VirtualId.glue).run.run s = (.ok content, s')) :
    ∃ glue, content = Utf8.encode glue ∧ s'.glue = some glue := by
  rw [behind, if_pos rfl] at h
  obtain ⟨glue, s₁, hload, hend⟩ := run_bind_ok h
  cases hend
  exact ⟨glue, rfl, glue_of_loadGlue hload⟩

theorem artifact_ne_glue (slot file : Text) : VirtualId.artifact slot file ≠ VirtualId.glue := by
  intro h
  rw [VirtualId.artifact, VirtualId.glue, List.append_assoc, List.append_assoc] at h
  have hname : '/' ∈ VirtualId.glueName := by
    rw [← List.append_cancel_left h]
    simp
  exact absurd hname (by decide)

theorem content_of_behind_artifact {slot : Text} (hslot : Path.IsPlain slot) {wasm : Bytes}
    {s s' : Session} {content : Bytes}
    (hwasm : s.host.files.read ((buildRoot.child slot).child Wrapper.wasmName) = .ok wasm)
    (h : (behind c buildRoot (VirtualId.artifact slot Wrapper.wasmName)).run.run s =
      (.ok content, s')) : content = wasm := by
  have hresolve := VirtualId.resolve_artifact buildRoot hslot Transform.isPlain_wasmName
    (show VirtualId.wasmEnding <:+ Wrapper.wasmName by decide)
  rw [behind, if_neg (artifact_ne_glue slot Wrapper.wasmName), Session.run_act,
    Session.run_readArtifact hresolve hwasm] at h
  cases h
  rfl

end Bundle

/-! ## §4 Transforming and finishing -/

namespace Transform

variable (s : Settings)

/-- The names that the wrapper for a unit of Go declares. -/
def Settings.exportNames (id unit : Text) : List Text :=
  if s.validateExports then ((jobOf s id unit).functions s).map (·.name) else []

/-- The wrapper for a unit of Go, seen from a working directory. -/
def Settings.wrapper (here : List Text) (id unit : Text) : Text :=
  Wrapper.render here s.projectRoot (some s.buildRoot) (Slot.name id) (s.exportNames id unit)

theorem Settings.slash_not_mem_exportNames (id unit : Text) :
    ∀ n ∈ s.exportNames id unit, '/' ∉ n := by
  intro n hn
  unfold exportNames at hn
  split at hn
  · obtain ⟨f, hf, rfl⟩ := List.mem_map.1 hn
    unfold Job.functions at hf
    split at hf
    · exact Go.slash_not_mem_of_exported hf
    · simp at hf
  · simp at hn

/-- What stands in for a module is the wrapper for its unit of Go. -/
theorem code_of_transform {s : Settings} {code id : Text} {h h' : Host} {r : Result}
    (hrun : (transform s code id).run.run h = (.ok (some r), h')) :
    ∃ unit, Directive.extract code = .ok unit ∧ r.code = s.wrapper h.files.here id unit := by
  have htools : h.SameTools _ := sameTools_transform s code id h
  rw [hrun] at htools
  obtain ⟨unit, warnings, h₁, h₂, h₃, hunit, -, -, -, -, rfl⟩ :=
    phases_of_build (build_of_transform hrun)
  refine ⟨unit, hunit, ?_⟩
  rw [← htools.1]
  rfl

end Transform

namespace Bundle

open Session

variable {c : Compiler} {buildRoot : Path} {base : Text}

/-- Finishing a code adds what it emits to the assets, and does nothing else. -/
theorem run_finalize_state (c : Compiler) (buildRoot : Path) (base code : Text) (s : Session) :
    ((finalize c buildRoot base code).run.run s).2.assets =
        (emissions c buildRoot (references code) s).foldl Assets.add s.assets ∧
      SameWorld c s ((finalize c buildRoot base code).run.run s).2 := by
  have hall := run_emitAll_state c buildRoot base (references code) s
  rw [finalize, run_bind]
  rcases hrun : (emitAll c buildRoot base (references code)).run.run s with ⟨e | urls, s'⟩
  · rwa [hrun] at hall
  · rwa [hrun] at hall

/-- A wrapper that is finished loads the glue and fetches the binary of its slot, both by the URLs of
what was emitted. -/
theorem finalize_module {shown slot output : Text} {names : List Text} {wasm : Bytes}
    {s s' : Session} (hslot : Path.IsPlain slot) (hn : ∀ n ∈ names, '/' ∉ n)
    (hwasm : s.host.files.read ((buildRoot.child slot).child Wrapper.wasmName) = .ok wasm)
    (h : (finalize c buildRoot base (Wrapper.module shown slot names)).run.run s =
      (.ok output, s')) :
    ∃ url glue, output = substitute url (Wrapper.module shown slot names) ∧
      url VirtualId.glue = base ++ glueAsset glue ∧
      url (VirtualId.artifactUrl slot Wrapper.wasmName) = base ++ wasmAsset wasm ∧
      s'.glue = some glue ∧
      (VirtualId.glueName, Utf8.encode glue) ∈
        emissions c buildRoot (references (Wrapper.module shown slot names)) s ∧
      (Wrapper.wasmName, wasm) ∈
        emissions c buildRoot (references (Wrapper.module shown slot names)) s := by
  obtain ⟨urls, s₁, hall, hend⟩ := run_bind_ok h
  cases hend
  obtain ⟨hglue, hurl⟩ := Wrapper.mem_references_module shown slot hn
  have hdecode : Percent.decode VirtualId.glue = VirtualId.glue :=
    Percent.decode_of_not_mem (by decide)
  obtain ⟨s₁, content, s₂, -, hbehind, hafter, hlookupGlue, hemittedGlue⟩ :=
    lookup_of_emitAll hall hglue
  rw [hdecode] at hbehind hlookupGlue hemittedGlue
  obtain ⟨glue, rfl, hknown⟩ := content_of_behind_glue hbehind
  obtain ⟨s₃, content, s₄, hbefore, hbehind, -, hlookup, hemitted⟩ := lookup_of_emitAll hall hurl
  rw [VirtualId.decode_artifactUrl] at hbehind hlookup hemitted
  obtain rfl := content_of_behind_artifact hslot (by rw [hbefore.files]; exact hwasm) hbehind
  have hglueName : emittedName VirtualId.glue = VirtualId.glueName := if_pos rfl
  have hwasmName : emittedName (VirtualId.artifact slot Wrapper.wasmName) = Wrapper.wasmName := by
    rw [emittedName, if_neg (artifact_ne_glue slot _), fileName_artifact hslot]
  rw [hglueName, Emission.asset, assetName_glueName] at hlookupGlue
  rw [hwasmName, Emission.asset, assetName_wasmName] at hlookup
  rw [hglueName] at hemittedGlue
  rw [hwasmName] at hemitted
  refine ⟨fun reference => (urls.lookup reference).getD [], glue, rfl, ?_, ?_,
    hafter.glue glue hknown, hemittedGlue, hemitted⟩
  · dsimp only
    rw [hlookupGlue, Option.getD_some]
  · dsimp only
    rw [hlookup, Option.getD_some]

/-- A wrapper can be finished if the glue can be loaded and the binary read. -/
theorem run_finalize_module (base : Text) {shown slot glue : Text} {names : List Text}
    {wasm : Bytes} {s s' : Session} (hshown : ¬ VirtualId.start <:+: shown ++ Wrapper.notice)
    (hslot : Path.IsPlain slot) (hn : ∀ n ∈ names, '/' ∉ n)
    (hglue : (Session.loadGlue c).run.run s = (.ok glue, s'))
    (hwasm : s'.host.files.read ((buildRoot.child slot).child Wrapper.wasmName) = .ok wasm) :
    (finalize c buildRoot base (Wrapper.module shown slot names)).run.run s =
        (.ok (Wrapper.fill shown (base ++ glueAsset glue) (base ++ wasmAsset wasm) names),
          { s' with assets := withBoth glue wasm s'.assets }) ∧
      emissions c buildRoot (references (Wrapper.module shown slot names)) s =
        [(VirtualId.glueName, Utf8.encode glue), (Wrapper.wasmName, wasm)] := by
  have hreferences : references (Wrapper.module shown slot names) =
      [VirtualId.glue, VirtualId.artifactUrl slot Wrapper.wasmName] :=
    Wrapper.references_module hshown hn
  have hdecode : Percent.decode VirtualId.glue = VirtualId.glue :=
    Percent.decode_of_not_mem (by decide)
  have hne := Wrapper.glue_ne_artifactUrl slot Wrapper.wasmName
  have hloaded : (behind c buildRoot VirtualId.glue).run.run s = (.ok (Utf8.encode glue), s') := by
    rw [behind, if_pos rfl, run_bind, hglue]
    rfl
  have hglueName : emittedName VirtualId.glue = VirtualId.glueName := if_pos rfl
  have hwasmName : emittedName (VirtualId.artifact slot Wrapper.wasmName) = Wrapper.wasmName := by
    rw [emittedName, if_neg (artifact_ne_glue slot _), fileName_artifact hslot]
  have hread : ∀ assets, (behind c buildRoot (VirtualId.artifact slot Wrapper.wasmName)).run.run
      { s' with assets } = (.ok wasm, { s' with assets }) := fun assets => by
    have hresolve := VirtualId.resolve_artifact buildRoot hslot Transform.isPlain_wasmName
      (show VirtualId.wasmEnding <:+ Wrapper.wasmName by decide)
    rw [behind, if_neg (artifact_ne_glue slot Wrapper.wasmName), Session.run_act,
      Session.run_readArtifact hresolve hwasm]
  constructor
  · have hbinary := run_emitTarget_artifact c base hslot
      { s' with assets := Table.put (glueAsset glue) (Utf8.encode glue) s'.assets } hwasm
    rw [finalize, run_bind, hreferences, emitAll, run_bind, hdecode,
      run_emitTarget_glue c base hglue]
    dsimp only
    rw [run_bind, emitAll, run_bind, VirtualId.decode_artifactUrl, hbinary]
    dsimp only
    rw [emitAll, run_bind, run_pure]
    dsimp only
    rw [run_pure]
    dsimp only
    rw [run_pure]
    dsimp only
    rw [run_pure, Wrapper.substitute_module hshown hn]
    simp [List.lookup_cons, beq_false_of_ne (Ne.symm hne), withBoth]
  · rw [hreferences, emissions, hdecode, hloaded]
    dsimp only
    rw [emissions, VirtualId.decode_artifactUrl, addEmission, hread]
    dsimp only
    rw [emissions, hglueName, hwasmName]

end Bundle

namespace Plugin

open EmbeddedGo.Bundle Session

variable (p : Plugin)

/-- The code that a bundle has for a unit of Go: the wrapper with the URLs of the glue and the binary,
seen from a working directory. -/
def goCode (here : List Text) (id unit glue : Text) (wasm : Bytes) : Text :=
  Wrapper.fill (Wrapper.shownSlot here p.projectRoot (some p.buildRoot) (Slot.name id))
    (p.options.base ++ glueAsset glue) (p.options.base ++ wasmAsset wasm)
    (p.settings.exportNames id unit)

/-- A wrapper has no ids but these two, unless a directory of the slots is called like their prefix. -/
theorem substitute_wrapper {p : Plugin} (hb : p.buildRoot.IsResolved)
    (hroot : "@vite-golang".toList ∉ p.buildRoot.names) (here : List Text) (id unit : Text)
    {url : Text → Text} {glue : Text} {wasm : Bytes}
    (hglue : url VirtualId.glue = p.options.base ++ glueAsset glue)
    (hwasm : url (VirtualId.artifactUrl (Slot.name id) Wrapper.wasmName) =
      p.options.base ++ wasmAsset wasm) :
    substitute url (p.settings.wrapper here id unit) = p.goCode here id unit glue wasm := by
  have hshown : ¬ VirtualId.start <:+: Wrapper.shownSlot here p.settings.projectRoot
      (some p.settings.buildRoot) (Slot.name id) ++ Wrapper.notice :=
    Wrapper.not_infix_shownSlot here _ hb hroot id
  rw [Transform.Settings.wrapper, Wrapper.render,
    Wrapper.substitute_module hshown (p.settings.slash_not_mem_exportNames id unit), hglue, hwasm]
  rfl

/-- What is emitted while a code is rendered. -/
def chunkEmissions (code : Text) (s : Session) : List Emission :=
  match p.mode with
  | .serve => []
  | .build => emissions p.compiler p.buildRoot (references code) s

theorem run_renderChunk_state (code : Text) (s : Session) :
    ((p.renderChunk code).run.run s).2.assets =
        (p.chunkEmissions code s).foldl Assets.add s.assets ∧
      SameWorld p.compiler s ((p.renderChunk code).run.run s).2 := by
  unfold renderChunk chunkEmissions
  cases p.mode with
  | serve => exact ⟨rfl, Lasting.refl s⟩
  | build => exact run_finalize_state p.compiler p.buildRoot p.options.base code s

/-- The session behind the transform of a module. -/
def transformed (code id : Text) (s : Session) : Session := ((p.transform code id).run.run s).2

/-- What is emitted for one module. -/
def moduleEmissions (code id : Text) (s : Session) : List Emission :=
  match (p.transform code id).run.run s with
  | (.ok (some r), s') => p.chunkEmissions r.code s'
  | (.ok none, s') => p.chunkEmissions code s'
  | (.error _, _) => []

end Plugin

namespace Command

open EmbeddedGo.Bundle Session

variable (p : Plugin)

/-- Of all that is done for a module only its transform changes files. -/
theorem run_bundled_state (code id : Text) (s : Session) :
    ((bundled p code id).run.run s).2.assets =
        (p.moduleEmissions code id s).foldl Assets.add s.assets ∧
      SameWorld p.compiler (p.transformed code id s) ((bundled p code id).run.run s).2 := by
  have hassets : (p.transformed code id s).assets = s.assets := rfl
  rw [bundled, run_bind, Plugin.moduleEmissions]
  unfold Plugin.transformed at hassets ⊢
  rcases hrun : (p.transform code id).run.run s with ⟨e | r, s'⟩
  · rw [hrun] at hassets
    exact ⟨hassets, Lasting.refl s'⟩
  · rw [hrun] at hassets
    cases r with
    | none =>
      have hchunk := p.run_renderChunk_state code s'
      dsimp only at hassets ⊢
      rw [← hassets, run_bind]
      rcases hrender : (p.renderChunk code).run.run s' with ⟨e | output, s''⟩
      · rwa [hrender] at hchunk
      · rwa [hrender] at hchunk
    | some r =>
      have hchunk := p.run_renderChunk_state r.code s'
      dsimp only at hassets ⊢
      rw [← hassets, run_bind]
      rcases hrender : (p.renderChunk r.code).run.run s' with ⟨e | output, s''⟩
      · rwa [hrender] at hchunk
      · rwa [hrender] at hchunk

/-- The code of a module with Go is the wrapper with the URLs of two assets in the place of its ids.
Both are emitted for it: the glue that the build has read, and what the compiler wrote for the module. -/
theorem bundled_module {p : Plugin} (hb : p.buildRoot.IsResolved) (hmode : p.mode = .build)
    {code id output : Text} {s s' : Session} {compiled : Bool}
    (hpresent : Directive.isPresent code = true)
    (hstraight : p.settings.Straight (Slot.name id) s.host.files)
    (hdeliver : Transform.Delivers p.settings code id s.host)
    (hrun : (bundled p code id).run.run s = (.ok (compiled, output), s')) :
    ∃ unit wasm url glue, Directive.extract code = .ok unit ∧
      (s.host.toolchain.answer (p.settings.slotWords (Slot.name id))
        (Utf8.encode (Go.wrap unit))).written = some wasm ∧
      output = substitute url (p.settings.wrapper s.host.files.here id unit) ∧
      url VirtualId.glue = p.options.base ++ glueAsset glue ∧
      url (VirtualId.artifactUrl (Slot.name id) Wrapper.wasmName) =
        p.options.base ++ wasmAsset wasm ∧
      s'.glue = some glue ∧
      (VirtualId.glueName, Utf8.encode glue) ∈ p.moduleEmissions code id s ∧
      (Wrapper.wasmName, wasm) ∈ p.moduleEmissions code id s := by
  obtain ⟨r, s₁, htransform, hrest⟩ := run_bind_ok hrun
  have hhost : (Transform.transform p.settings code id).run.run s.host = (.ok r, s₁.host) := by
    rw [Plugin.transform, Session.run_act] at htransform
    obtain ⟨hout, rfl⟩ := Prod.mk.inj htransform
    exact Prod.ext hout rfl
  cases r with
  | none => exact absurd hhost (Transform.run_transform_ne_none hpresent)
  | some r =>
    obtain ⟨code', s₂, hrender, hend⟩ := run_bind_ok hrest
    cases hend
    obtain ⟨unit, hunit, hcode⟩ := Transform.code_of_transform hhost
    obtain ⟨wasm, hwritten, hread⟩ :=
      Transform.binary_of_transform hb id unit hstraight hunit hhost hdeliver
    rw [Transform.binary_eq hb (Slot.isPlain_name id)] at hread
    rw [Plugin.renderChunk, hmode, hcode] at hrender
    obtain ⟨url, glue, houtput, hurls⟩ := finalize_module (Slot.isPlain_name id)
      (p.settings.slash_not_mem_exportNames id unit) hread hrender
    have hemissions : p.moduleEmissions code id s =
        emissions p.compiler p.buildRoot (references r.code) s₁ := by
      rw [Plugin.moduleEmissions, htransform]
      dsimp only
      rw [Plugin.chunkEmissions, hmode]
    rw [hemissions, hcode]
    exact ⟨unit, wasm, url, glue, hunit, hwritten, houtput, hurls⟩

end Command
end EmbeddedGo
