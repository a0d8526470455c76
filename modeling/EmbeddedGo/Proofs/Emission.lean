/-
EmbeddedGo.Proofs.Emission — what is emitted while codes are finished, and what becomes of it.

Finishing a code emits what stands behind its references, one after the other, also where a later one
fails. So the assets of a session are what was emitted in it, in order, each put under its name
(`assets_emitAll`). A name tells contents apart by the beginning of their digest only. What was emitted
is still there at the end if no other content with the same digest came after it (`lookup_of_mem_log`),
and what is there when the assets are written stands in its file (`entryAt_writeAssets`).

  §1 what stands behind an id
  §2 emissions
  §3 the names of assets
  §4 logs of emissions
  §5 assets as files
-/
import EmbeddedGo.Proofs.GlueSource

namespace EmbeddedGo

/-! ## §1 Behind an id -/

namespace Session

/-- The compiler is the same, and glue that was known stays known. -/
structure KeepsGlue (s s' : Session) : Prop where
  toolchain : s'.host.toolchain = s.host.toolchain
  glue : ∀ glue, s.glue = some glue → s'.glue = some glue

/-- The files are the same, the compiler and the way to it. Glue that was known stays known, and glue that
was not is what reading it comes to. -/
structure SameWorld (c : Compiler) (s s' : Session) : Prop where
  host : s.host.Alike s'.host
  glue : ∀ glue, s.glue = some glue → s'.glue = some glue
  origin : ∀ glue, s'.glue = some glue → s.glue = some glue ∨
    ((readGlue c).run.run s.host).1 = .ok glue

variable {c : Compiler} {s s' s'' : Session}

theorem SameWorld.files (h : SameWorld c s s') : s'.host.files = s.host.files := h.host.files

theorem SameWorld.keepsGlue (h : SameWorld c s s') : KeepsGlue s s' := ⟨h.host.toolchain, h.glue⟩

instance : Lasting KeepsGlue :=
  ⟨fun _ => ⟨rfl, fun _ h => h⟩,
    fun hab hbc => ⟨hbc.toolchain.trans hab.toolchain, fun glue h => hbc.glue glue (hab.glue glue h)⟩⟩

theorem SameWorld.refl (s : Session) : SameWorld c s s := ⟨.refl _, fun _ h => h, fun _ h => .inl h⟩

theorem SameWorld.trans (h : SameWorld c s s') (h' : SameWorld c s' s'') : SameWorld c s s'' where
  host := Lasting.trans h.host h'.host
  glue := fun glue hg => h'.glue glue (h.glue glue hg)
  origin := fun glue hg => by
    rcases h'.origin glue hg with hg | hread
    · exact h.origin glue hg
    · exact .inr ((readGlue_alike h.host).symm.trans hread)

instance : Lasting (SameWorld c) := ⟨.refl, .trans⟩

theorem sameWorld_act {α : Type} {f : Action α} (hf : Stays Host.Alike f) :
    Stays (SameWorld c) (act f) :=
  fun s => ⟨hf s.host, fun _ h => h, fun _ h => .inl h⟩

theorem sameWorld_loadGlue (c : Compiler) : Stays (SameWorld c) (loadGlue c) := by
  intro s
  rw [loadGlue, run_bind, run_get]
  dsimp only
  cases hglue : s.glue with
  | some glue => exact .refl s
  | none =>
    have hnone : ∀ glue, s.glue ≠ some glue := fun glue h => by
      rw [hglue] at h
      cases h
    have hact : SameWorld c s _ := sameWorld_act (alike_readGlue c) s
    dsimp only
    rw [run_bind]
    rcases hrun : (act (readGlue c)).run.run s with ⟨e | glue, s'⟩
    · rwa [hrun] at hact
    · have hread : ((readGlue c).run.run s.host).1 = .ok glue := congrArg Prod.fst hrun
      rw [hrun] at hact
      refine ⟨hact.host, fun g h => absurd h (hnone g), fun g h => .inr ?_⟩
      cases h
      exact hread

/-- The glue that was loaded is known. -/
theorem glue_of_loadGlue {glue : Text}
    (h : (loadGlue c).run.run s = (.ok glue, s')) : s'.glue = some glue := by
  rw [loadGlue, run_bind, run_get] at h
  dsimp only at h
  cases hglue : s.glue with
  | some known =>
    rw [hglue] at h
    cases h
    exact hglue
  | none =>
    rw [hglue] at h
    obtain ⟨_, _, -, h⟩ := run_bind_ok h
    cases h
    rfl

/-- An artifact that was read is the file that its id stands for. -/
theorem of_run_readArtifact {buildRoot : Path} {id : Text} {content : Bytes} {h h' : Host}
    (hrun : (readArtifact buildRoot id).run.run h = (.ok content, h')) :
    ∃ p, VirtualId.resolve buildRoot id = some (.file p) ∧ h.files.read p = .ok content := by
  obtain ⟨p, h₁, hpath, hread⟩ := run_bind_ok hrun
  have hfile : VirtualId.resolve buildRoot id = some (.file p) ∧ h₁ = h := by
    unfold artifactPath at hpath
    split at hpath
    · next p' hresolve =>
      rw [run_bind, Host.run_look] at hpath
      split at hpath
      · next b h₂ hlook =>
        split at hpath
        · cases hpath
          refine ⟨hresolve, ?_⟩
          split at hlook <;> cases hlook
          rfl
        · cases hpath
      · cases hpath
    · cases hpath
  obtain ⟨hresolve, rfl⟩ := hfile
  refine ⟨p, hresolve, ?_⟩
  rw [run_tryCatch, Host.readBytes, Host.run_look] at hread
  cases hbytes : h₁.files.read p with
  | ok bytes =>
    rw [hbytes] at hread
    cases hread
    rfl
  | error e =>
    rw [hbytes] at hread
    dsimp only at hread
    split at hread <;> cases hread

end Session

namespace Bundle

open Session

variable (c : Compiler) (buildRoot : Path) (base : Text)

/-- The bytes that stand behind an id. -/
def behind (id : Text) : Step Bytes := do
  if id = VirtualId.glue then return Utf8.encode (← loadGlue c)
  else act (readArtifact buildRoot id)

/-- The name under which they are emitted. -/
def emittedName (id : Text) : Text :=
  if id = VirtualId.glue then VirtualId.glueName else fileName id

theorem sameWorld_behind (id : Text) : Stays (SameWorld c) (behind c buildRoot id) := by
  unfold behind
  split
  · exact .bind (sameWorld_loadGlue c) fun _ => .pure _
  · exact sameWorld_act (alike_readArtifact _ _)

theorem assets_behind (id : Text) (s : Session) :
    ((behind c buildRoot id).run.run s).2.assets = s.assets := by
  unfold behind
  split
  · have hassets := (sameAssets_loadGlue c s).2
    rw [run_bind]
    match hrun : (loadGlue c).run.run s with
    | (.ok glue, s') => rwa [hrun] at hassets
    | (.error e, s') => rwa [hrun] at hassets
  · rfl

/-! ## §2 Emissions -/

/-- A name and the bytes that are emitted under it. -/
abbrev Emission := Text × Bytes

/-- The name of the asset that an emission makes. -/
def Emission.asset (e : Emission) : Text := assetName assetsDirectory e.1 e.2

/-- The assets with one emission more. -/
def Assets.add (assets : Assets) (e : Emission) : Assets := Table.put e.asset e.2 assets

/-- A session with one emission more. -/
def addEmission (s : Session) (e : Emission) : Session := { s with assets := s.assets.add e }

theorem sameWorld_addEmission {c : Compiler} {s s' : Session} (h : SameWorld c s s') (e : Emission) :
    SameWorld c s (addEmission s' e) :=
  ⟨h.host, h.glue, h.origin⟩

theorem sameWorld_of_addEmission {c : Compiler} {s s' : Session} {e : Emission}
    (h : SameWorld c (addEmission s e) s') : SameWorld c s s' :=
  ⟨h.host, h.glue, h.origin⟩

/-- Emitting what stands behind an id. -/
theorem run_emitTarget (id : Text) (s : Session) :
    (emitTarget c buildRoot base id).run.run s =
      match (behind c buildRoot id).run.run s with
      | (.ok content, s') =>
        (.ok (base ++ Emission.asset (emittedName id, content)),
          addEmission s' (emittedName id, content))
      | (.error e, s') => (.error e, s') := by
  unfold emitTarget behind
  by_cases hid : id = VirtualId.glue
  · rw [if_pos hid, if_pos hid, run_bind, run_bind]
    rcases (loadGlue c).run.run s with ⟨e | glue, s'⟩
    · rfl
    · dsimp only
      rw [run_bind, run_emit, emittedName, if_pos hid]
      rfl
  · rw [if_neg hid, if_neg hid, run_bind]
    rcases (act (readArtifact buildRoot id)).run.run s with ⟨e | content, s'⟩
    · rfl
    · dsimp only
      rw [run_bind, run_emit, emittedName, if_neg hid]
      rfl

/-- What is emitted for references, in order, as far as something stands behind them. -/
def emissions : List Text → Session → List Emission
  | [], _ => []
  | reference :: rest, s =>
    let id := Percent.decode reference
    match (behind c buildRoot id).run.run s with
    | (.ok content, s') =>
      (emittedName id, content) :: emissions rest (addEmission s' (emittedName id, content))
    | (.error _, _) => []

/-- Emitting adds the emissions to the assets, and does nothing else. -/
theorem run_emitAll_state (references : List Text) (s : Session) :
    ((emitAll c buildRoot base references).run.run s).2.assets =
        (emissions c buildRoot references s).foldl Assets.add s.assets ∧
      SameWorld c s ((emitAll c buildRoot base references).run.run s).2 := by
  induction references generalizing s with
  | nil => exact ⟨rfl, Lasting.refl s⟩
  | cons reference rest ih =>
    have hworld := sameWorld_behind c buildRoot (Percent.decode reference) s
    have hassets := assets_behind c buildRoot (Percent.decode reference) s
    rw [emitAll, run_bind, run_emitTarget, emissions]
    rcases hrun : (behind c buildRoot (Percent.decode reference)).run.run s with ⟨e | content, s'⟩
    · rw [hrun] at hworld hassets
      exact ⟨hassets, hworld⟩
    · rw [hrun] at hworld hassets
      obtain ⟨hrest, hlast⟩ :=
        ih (addEmission s' (emittedName (Percent.decode reference), content))
      have hadded := sameWorld_addEmission hworld (emittedName (Percent.decode reference), content)
      dsimp only
      rw [run_bind]
      rcases hall : (emitAll c buildRoot base rest).run.run
        (addEmission s' (emittedName (Percent.decode reference), content)) with ⟨e | urls, s''⟩
      · rw [hall] at hrest hlast
        refine ⟨hrest.trans ?_, Lasting.trans hadded hlast⟩
        rw [List.foldl_cons, addEmission, hassets]
      · rw [hall] at hrest hlast
        refine ⟨hrest.trans ?_, Lasting.trans hadded hlast⟩
        rw [List.foldl_cons, addEmission, hassets]

variable {c buildRoot base}

/-- When all references were emitted each has a URL, that of what stood behind it. -/
theorem lookup_of_emitAll {references : List Text} {s s' : Session} {urls : List (Text × Text)}
    (h : (emitAll c buildRoot base references).run.run s = (.ok urls, s')) {reference : Text}
    (hmem : reference ∈ references) :
    ∃ s₁ content s₂, SameWorld c s s₁ ∧
      (behind c buildRoot (Percent.decode reference)).run.run s₁ = (.ok content, s₂) ∧
      SameWorld c s₂ s' ∧
      urls.lookup reference =
        some (base ++ Emission.asset (emittedName (Percent.decode reference), content)) ∧
      (emittedName (Percent.decode reference), content) ∈
        emissions c buildRoot references s := by
  induction references generalizing s urls with
  | nil => cases hmem
  | cons first rest ih =>
    have hworld := sameWorld_behind c buildRoot (Percent.decode first) s
    obtain ⟨url, s₁, hfirst, hrest⟩ := run_bind_ok h
    obtain ⟨urls', s₂, hall, hend⟩ := run_bind_ok hrest
    cases hend
    rw [run_emitTarget] at hfirst
    match hbehind : (behind c buildRoot (Percent.decode first)).run.run s with
    | (.error e, s₀) =>
      rw [hbehind] at hfirst
      cases hfirst
    | (.ok content, s₀) =>
      rw [hbehind] at hfirst hworld
      cases hfirst
      have hadded := sameWorld_addEmission hworld (emittedName (Percent.decode first), content)
      have hlast := (run_emitAll_state c buildRoot base rest
        (addEmission s₀ (emittedName (Percent.decode first), content))).2
      rw [hall] at hlast
      simp only [emissions, hbehind]
      by_cases heq : reference = first
      · subst heq
        exact ⟨s, content, s₀, Lasting.refl s, hbehind,
          sameWorld_of_addEmission hlast, by simp, List.mem_cons_self⟩
      · have hin : reference ∈ rest := (List.mem_cons.1 hmem).resolve_left heq
        obtain ⟨s₁, content', s₂, hbefore, hrun, hafter, hlookup, hemitted⟩ := ih hall hin
        refine ⟨s₁, content', s₂, Lasting.trans hadded hbefore, hrun, hafter, ?_,
          List.mem_cons_of_mem _ hemitted⟩
        rw [List.lookup_cons, beq_false_of_ne heq]
        exact hlookup

end Bundle

/-! ## §3 Names -/

namespace Text

/-- Behind the last separator there is only one text. -/
theorem append_sep_inj {sep : Char} {a b c d : Text} (hb : sep ∉ b) (hd : sep ∉ d)
    (h : a ++ sep :: b = c ++ sep :: d) : a = c ∧ b = d := by
  have hreverse := congrArg List.reverse h
  simp only [List.reverse_append, List.reverse_cons, List.append_assoc, List.singleton_append]
    at hreverse
  have htake : ∀ s rest : Text, sep ∉ s →
      (s.reverse ++ sep :: rest).takeWhile (· ≠ sep) = s.reverse := by
    intro s rest hs
    have hall : ∀ x ∈ s.reverse, decide (x ≠ sep) = true := fun x hx =>
      decide_eq_true fun hxs => hs (hxs ▸ List.mem_reverse.1 hx)
    rw [List.takeWhile_append_of_pos hall]
    simp
  have hbd : b.reverse = d.reverse := by
    rw [← htake b a.reverse hb, hreverse, htake d c.reverse hd]
  obtain rfl := List.reverse_injective hbd
  have hac : a.reverse = c.reverse := by simpa using List.append_cancel_left hreverse
  exact ⟨List.reverse_injective hac, rfl⟩

end Text

namespace Path

theorem splitName_append (name : Text) : (splitName name).1 ++ (splitName name).2 = name := by
  unfold splitName
  dsimp only
  split
  · exact List.append_nil name
  · exact List.take_append_drop _ name

/-- An ending begins with a dot and holds no other. -/
theorem splitName_cases (name : Text) :
    (splitName name).2 = [] ∨ ∃ e, (splitName name).2 = '.' :: e ∧ '.' ∉ e := by
  unfold splitName
  dsimp only
  split
  · exact .inl rfl
  · next h =>
    rw [not_or] at h
    obtain ⟨e, he⟩ : ∃ e, e = name.reverse.takeWhile (· ≠ '.') := ⟨_, rfl⟩
    have hdot : '.' ∉ e := fun hmem => by
      have := List.all_eq_true.1 List.all_takeWhile '.' (he ▸ hmem)
      simp at this
    rw [← he] at h ⊢
    have hreverse := List.takeWhile_append_dropWhile (p := (· ≠ '.')) (l := name.reverse)
    rw [← he] at hreverse
    match hrest : name.reverse.dropWhile (· ≠ '.') with
    | [] =>
      rw [hrest, List.append_nil] at hreverse
      have hlength := congrArg List.length hreverse
      rw [List.length_reverse] at hlength
      omega
    | c :: before =>
      have hc : c = '.' := by
        have hhead := List.head_dropWhile_not (p := (· ≠ '.')) (l := name.reverse)
          (by rw [hrest]; simp)
        simp only [hrest, List.head_cons] at hhead
        simpa using hhead
      subst hc
      rw [hrest] at hreverse
      have hname : name = before.reverse ++ '.' :: e.reverse := by
        rw [← List.reverse_reverse name, ← hreverse]
        simp
      refine .inr ⟨e.reverse, ?_, by simpa using hdot⟩
      have hsize : name.length - e.length - 1 = before.reverse.length := by
        rw [hname]
        simp
        omega
      rw [hsize, hname, List.drop_left]

/-- The last name of a path that was read holds no slash. -/
theorem slash_not_mem_name_ofText (s : Text) : '/' ∉ (ofText s).name := by
  rw [name]
  match hlast : (ofText s).names.getLast? with
  | none => simp
  | some n => exact (mem_names_ofText (List.mem_of_getLast? hlast)).2.2

end Path

namespace Bundle

/-- A name of one part in the directory of assets. Its hyphen tells it apart from what a transform
makes. -/
def IsAssetName (name : Text) : Prop :=
  ∃ file, Path.IsPlain file ∧ '-' ∈ file ∧ name = assetsDirectory ++ '/' :: file

theorem isAlphanum_of_mem_contentDigest {content : Bytes} {c : Char}
    (hc : c ∈ contentDigest content) : c.isAlphanum = true :=
  Digest.isAlphanum_of_mem_hex _ c (List.mem_of_mem_take hc)

/-- The digest of a short text, for small runs. -/
theorem contentDigest_ab : contentDigest (Utf8.encode "ab") = "fb8e20fc".toList := by cbv

theorem not_mem_contentDigest {content : Bytes} {c : Char} (hc : c.isAlphanum = false) :
    c ∉ contentDigest content := by
  intro h
  rw [isAlphanum_of_mem_contentDigest h] at hc
  cases hc

/-- The name of an asset in its directory. -/
def assetFile (name : Text) (content : Bytes) : Text :=
  (Path.ofText name).stem ++ '-' :: (contentDigest content ++ (Path.ofText name).ending)

theorem assetName_eq (directory name : Text) (content : Bytes) :
    assetName directory name content = directory ++ '/' :: assetFile name content := by
  have hslash : ("/" : Text) = ['/'] := rfl
  have hhyphen : ("-" : Text) = ['-'] := rfl
  rw [assetName, assetFile, hslash, hhyphen]
  simp

theorem isPlain_assetFile (name : Text) (content : Bytes) : Path.IsPlain (assetFile name content) := by
  have hhyphen : '-' ∈ assetFile name content := by simp [assetFile]
  have hslash : '/' ∉ assetFile name content := by
    have hname := Path.slash_not_mem_name_ofText name
    rw [← Path.splitName_append (Path.ofText name).name, List.mem_append, not_or] at hname
    simp only [assetFile, List.mem_append, List.mem_cons, not_or]
    exact ⟨hname.1, by decide, not_mem_contentDigest (by decide), hname.2⟩
  refine ⟨?_, ?_, ?_, hslash⟩
  · rintro h
    simp [h] at hhyphen
  · rintro h
    simp [h] at hhyphen
  · rintro h
    simp [h] at hhyphen

theorem isAssetName_assetName (name : Text) (content : Bytes) :
    IsAssetName (assetName assetsDirectory name content) :=
  ⟨assetFile name content, isPlain_assetFile name content, by simp [assetFile], assetName_eq ..⟩

/-- A name whose ending is told apart from a digest. -/
def HasEnding (name : Text) : Prop := ∃ e, (Path.ofText name).ending = '.' :: e ∧ '.' ∉ e ∧ '-' ∉ e

theorem hasEnding_glueName : HasEnding VirtualId.glueName := ⟨"js", by decide, by decide, by decide⟩

theorem hasEnding_wasmName : HasEnding Wrapper.wasmName := ⟨"wasm", by decide, by decide, by decide⟩

/-- An asset whose name has an ending tells the digest of its contents. -/
theorem contentDigest_eq_of_assetName {name name' : Text} {content content' : Bytes}
    (hending : HasEnding name)
    (h : assetName assetsDirectory name content = assetName assetsDirectory name' content') :
    contentDigest content = contentDigest content' := by
  obtain ⟨e, he, hdot, hhyphen⟩ := hending
  have hdigest : ∀ content, '-' ∉ contentDigest content ∧ '.' ∉ contentDigest content :=
    fun content => ⟨not_mem_contentDigest (by decide), not_mem_contentDigest (by decide)⟩
  have hfile : assetFile name content = assetFile name' content' := by
    rw [assetName_eq, assetName_eq] at h
    exact (List.cons.inj (List.append_cancel_left h)).2
  have hleft : assetFile name content =
      ((Path.ofText name).stem ++ '-' :: contentDigest content) ++ '.' :: e := by
    simp [assetFile, he]
  rcases Path.splitName_cases (Path.ofText name').name with hnone | ⟨e', he', hdot'⟩
  · -- behind the last hyphen of the one name there is a dot, behind that of the other there is none
    have hright : assetFile name' content' =
        (Path.ofText name').stem ++ '-' :: contentDigest content' := by
      rw [assetFile, show (Path.ofText name').ending = [] from hnone, List.append_nil]
    rw [hright, assetFile, he] at hfile
    have hnot : '-' ∉ contentDigest content ++ '.' :: e := by
      simpa using ⟨(hdigest content).1, hhyphen⟩
    obtain ⟨-, hbehind⟩ := Text.append_sep_inj hnot (hdigest content').1 hfile
    exact absurd (hbehind ▸ by simp) (hdigest content').2
  · have hright : assetFile name' content' =
        ((Path.ofText name').stem ++ '-' :: contentDigest content') ++ '.' :: e' := by
      simp [assetFile, show (Path.ofText name').ending = '.' :: e' from he']
    rw [hleft, hright] at hfile
    obtain ⟨hstems, -⟩ := Text.append_sep_inj hdot hdot' hfile
    exact (Text.append_sep_inj (hdigest content).1 (hdigest content').1 hstems).2

end Bundle

/-! ## §4 Logs -/

/-- Under a key stands what was put there last. -/
theorem Table.lookup_foldl_put {κ β ε : Type} [BEq κ] [LawfulBEq κ] (key : ε → κ) (value : ε → β)
    {log : List ε} {e : ε} (hmem : e ∈ log)
    (hunique : ∀ e' ∈ log, key e' = key e → value e' = value e) (pairs : List (κ × β)) :
    (log.foldl (fun pairs e => put (key e) (value e) pairs) pairs).lookup (key e) =
      some (value e) := by
  induction log using List.reverseRecOn with
  | nil => cases hmem
  | append_singleton log last ih =>
    rw [List.foldl_append, List.foldl_cons, List.foldl_nil, lookup_put]
    split
    · next heq => rw [hunique last (by simp) (eq_of_beq heq).symm]
    · next hne =>
      refine ih ?_ fun e' he' => hunique e' (by simp [he'])
      rcases List.mem_append.1 hmem with h | h
      · exact h
      · rw [List.mem_singleton.1 h, beq_self_eq_true] at hne
        exact absurd rfl hne

namespace Bundle

/-- No two contents of a log have the same digest. -/
def NoCollision (log : List Emission) : Prop :=
  ∀ e ∈ log, ∀ e' ∈ log, contentDigest e.2 = contentDigest e'.2 → e.2 = e'.2

theorem lookup_foldl_add (log : List Emission) (e : Emission) (assets : Assets) (hmem : e ∈ log)
    (hunique : ∀ e' ∈ log, e'.asset = e.asset → e'.2 = e.2) :
    (log.foldl Assets.add assets).lookup e.asset = some e.2 :=
  Table.lookup_foldl_put Emission.asset Prod.snd hmem hunique assets

/-- What was emitted under a name with an ending is an asset as long as no digests collide. -/
theorem lookup_of_mem_log {log : List Emission} (hcollision : NoCollision log) {e : Emission}
    (hmem : e ∈ log) (hending : HasEnding e.1) (assets : Assets) :
    (log.foldl Assets.add assets).lookup e.asset = some e.2 := by
  refine lookup_foldl_add log e assets hmem fun e' he' hasset => ?_
  exact (hcollision e hmem e' he' (contentDigest_eq_of_assetName hending hasset.symm)).symm

end Bundle

namespace Table

variable {κ β : Type} [BEq κ]

theorem mem_put {key : κ} {value : β} {pairs : List (κ × β)} {pair : κ × β}
    (h : pair ∈ put key value pairs) : pair = (key, value) ∨ pair ∈ pairs := by
  unfold put at h
  split at h
  · obtain ⟨old, hold, rfl⟩ := List.mem_map.1 h
    split
    · exact .inl rfl
    · exact .inr hold
  · rcases List.mem_append.1 h with h | h
    · exact .inr h
    · exact .inl (List.mem_singleton.1 h)

/-- A pair that was put is one of those put, or it was there. -/
theorem mem_foldl_put {ε : Type} (key : ε → κ) (value : ε → β) {log : List ε}
    {pairs : List (κ × β)} {pair : κ × β}
    (h : pair ∈ log.foldl (fun pairs e => put (key e) (value e) pairs) pairs) :
    pair ∈ pairs ∨ ∃ e ∈ log, pair = (key e, value e) := by
  induction log generalizing pairs with
  | nil => exact .inl h
  | cons e log ih =>
    rcases ih h with hput | ⟨e', he', heq⟩
    · rcases mem_put hput with heq | hold
      · exact .inr ⟨e, by simp, heq⟩
      · exact .inl hold
    · exact .inr ⟨e', by simp [he'], heq⟩

variable [LawfulBEq κ]

theorem lookup_eq_none_iff {key : κ} {pairs : List (κ × β)} :
    pairs.lookup key = none ↔ key ∉ pairs.map Prod.fst := by
  rw [List.lookup_eq_none_iff]
  simp only [List.mem_map, not_exists, not_and, bne_iff_ne]
  exact ⟨fun h pair hpair heq => h pair hpair heq.symm, fun h pair hpair heq => h pair hpair heq.symm⟩

theorem nodup_put (key : κ) (value : β) {pairs : List (κ × β)}
    (h : (pairs.map Prod.fst).Nodup) : ((put key value pairs).map Prod.fst).Nodup := by
  unfold put
  split
  · have hkeys : (pairs.map fun old => if old.1 == key then (key, value) else old).map Prod.fst =
        pairs.map Prod.fst := by
      rw [List.map_map]
      refine List.map_congr_left fun old _ => ?_
      by_cases hold : old.1 = key
      · simp [hold]
      · simp [hold]
    rwa [hkeys]
  · next hnone =>
    rw [Option.not_isSome_iff_eq_none, lookup_eq_none_iff] at hnone
    rw [List.map_append, List.nodup_append]
    refine ⟨h, by simp, fun a ha b hb hab => ?_⟩
    rw [List.map_singleton, List.mem_singleton] at hb
    rw [hab, hb] at ha
    exact hnone ha

end Table

namespace Bundle

/-- Assets stand under names of assets, each under its own. -/
structure Assets.IsTidy (assets : Assets) : Prop where
  nodup : (assets.map Prod.fst).Nodup
  names : ∀ asset ∈ assets, IsAssetName asset.1

theorem Assets.isTidy_nil : Assets.IsTidy [] := ⟨by simp, by simp⟩

theorem Assets.IsTidy.foldl_add {assets : Assets} (h : assets.IsTidy) (log : List Emission) :
    Assets.IsTidy (log.foldl Assets.add assets) := by
  induction log generalizing assets with
  | nil => exact h
  | cons e log ih =>
    refine ih ⟨Table.nodup_put _ _ h.nodup, fun asset hasset => ?_⟩
    rcases Table.mem_put hasset with rfl | hold
    · exact isAssetName_assetName e.1 e.2
    · exact h.names asset hold

/-! ## §5 Files -/

/-- The place of an asset below the directory of a bundle. -/
def assetPlace (out : Path) (name : Text) : Place := (out.child name).names

end Bundle

namespace Path

variable {out : Path} {name : Text}

theorem child_assetName (out : Path) {file : Text} (hfile : IsPlain file) :
    out.child (Bundle.assetsDirectory ++ '/' :: file) =
      ⟨out.slashes, out.names ++ ["assets".toList, file]⟩ := by
  have hplain : IsPlain Bundle.assetsDirectory := by decide
  have hnot : ¬ ['/'] <+: Bundle.assetsDirectory ++ '/' :: file := by
    rintro ⟨t, ht⟩
    cases ht
  have habsolute : (ofText (Bundle.assetsDirectory ++ '/' :: file)).isAbsolute = false := by
    rw [← Bool.not_eq_true, isAbsolute_ofText_iff]
    exact hnot
  have hnames : (ofText (Bundle.assetsDirectory ++ '/' :: file)).names =
      ["assets".toList, file] := by
    rw [ofText, Text.splitOn_append_cons hplain.noSlash, Text.splitOn_of_not_mem hfile.noSlash,
      List.filter_cons, if_pos hplain.isName, List.filter_cons, if_pos hfile.isName]
    rfl
  rw [child, join_of_not_absolute habsolute, hnames]

theorem isResolved_child_assetName (hout : out.IsResolved) (hname : Bundle.IsAssetName name) :
    (out.child name).IsResolved := by
  obtain ⟨file, hfile, -, rfl⟩ := hname
  rw [child_assetName out hfile]
  refine ⟨hout.slashes, fun n hn => ?_⟩
  simp only [List.mem_append, List.mem_cons, List.not_mem_nil, or_false] at hn
  rcases hn with hn | rfl | rfl
  · exact hout.plain n hn
  · decide
  · exact hfile

theorem assetPlace_inj {other : Text} (hname : Bundle.IsAssetName name)
    (hother : Bundle.IsAssetName other)
    (h : Bundle.assetPlace out name = Bundle.assetPlace out other) : name = other := by
  obtain ⟨file, hfile, -, rfl⟩ := hname
  obtain ⟨file', hfile', -, rfl⟩ := hother
  rw [Bundle.assetPlace, Bundle.assetPlace, child_assetName out hfile,
    child_assetName out hfile'] at h
  simpa using h

end Path

namespace Plugin

open EmbeddedGo.Bundle Host FileTree

variable {out : Path} {assets : Assets}

/-- Writing assets changes their places only. -/
theorem spares_writeAssets (hout : out.IsResolved) {places : Place → Prop}
    (hnames : ∀ asset ∈ assets, IsAssetName asset.1)
    (hplaces : ∀ asset ∈ assets, places (assetPlace out asset.1)) :
    Stays (Spares places) (writeAssets out assets) := by
  induction assets with
  | nil => exact .pure _
  | cons asset rest ih =>
    obtain ⟨name, content⟩ := asset
    have hname := hnames (name, content) (by simp)
    refine .bind (spares_makePath _) fun _ => ?_
    refine .bind (spares_writeBytes (Path.isResolved_child_assetName hout hname)
      (hplaces (name, content) (by simp)) content) fun _ => ?_
    exact .bind (ih (fun a ha => hnames a (by simp [ha])) fun a ha => hplaces a (by simp [ha]))
      fun _ => .pure _

/-- Every asset is answered with the path that it was written to. -/
theorem written_writeAssets {h h' : Host} {written : List (Text × Path)}
    (hrun : (writeAssets out assets).run.run h = (.ok written, h')) :
    written = assets.map fun asset => (asset.1, out.child asset.1) := by
  induction assets generalizing h written with
  | nil =>
    cases hrun
    rfl
  | cons asset rest ih =>
    obtain ⟨name, content⟩ := asset
    obtain ⟨⟨⟩, h₁, -, hrun⟩ := run_bind_ok hrun
    obtain ⟨⟨⟩, h₂, -, hrun⟩ := run_bind_ok hrun
    obtain ⟨written', h₃, hall, hend⟩ := run_bind_ok hrun
    cases hend
    rw [List.map_cons, ih hall]

/-- Behind no link every asset stands in its file when all of them are written. -/
theorem entryAt_writeAssets (hout : out.IsResolved) (htidy : assets.IsTidy) {h h' : Host}
    (hstraight : ∀ asset ∈ assets, h.files.IsStraight (assetPlace out asset.1))
    {written : List (Text × Path)}
    (hrun : (writeAssets out assets).run.run h = (.ok written, h')) {name : Text} {content : Bytes}
    (hmem : (name, content) ∈ assets) :
    h'.files.entryAt (assetPlace out name) = some (.file content) := by
  induction assets generalizing h written with
  | nil => cases hmem
  | cons asset rest ih =>
    obtain ⟨first, bytes⟩ := asset
    have hfirst := htidy.names (first, bytes) (by simp)
    have hrest : Assets.IsTidy rest :=
      ⟨(List.nodup_cons.1 htidy.nodup).2, fun a ha => htidy.names a (by simp [ha])⟩
    obtain ⟨⟨⟩, h₁, hmake, hrun⟩ := run_bind_ok hrun
    obtain ⟨⟨⟩, h₂, hwrite, hrun⟩ := run_bind_ok hrun
    obtain ⟨written', h₃, hall, hend⟩ := run_bind_ok hrun
    cases hend
    let places : Place → Prop := fun q => ∃ asset ∈ (first, bytes) :: rest, q = assetPlace out asset.1
    have hplaces : ∀ q, places q → h.files.IsStraight q := by
      rintro q ⟨asset, hasset, rfl⟩
      exact hstraight asset hasset
    -- no link has come up before the first asset is written, nor after that
    have hmade : h.files.ChangesAt places h₁.files := by
      have hspares : Spares places h _ := spares_makePath (out.child first).parent h
      rw [hmake] at hspares
      exact hspares hplaces
    have hput : h.files.ChangesAt places h₂.files := by
      have hspares : Spares places h₁ _ :=
        spares_writeBytes (Path.isResolved_child_assetName hout hfirst)
          ⟨(first, bytes), by simp, rfl⟩ bytes h₁
      rw [hwrite] at hspares
      exact hmade.trans (hspares fun q hq => (hplaces q hq).of_linksOf hmade.links)
    have hstraight₂ : ∀ asset ∈ rest, h₂.files.IsStraight (assetPlace out asset.1) :=
      fun asset hasset => (hstraight asset (by simp [hasset])).of_linksOf hput.links
    rcases List.mem_cons.1 hmem with heq | hin
    · cases heq
      have hfile : h₂.files.entryAt (assetPlace out name) = some (.file content) := by
        rw [writeBytes, run_change] at hwrite
        split at hwrite
        · next files hfiles =>
          cases hwrite
          obtain ⟨hcan, rfl⟩ := eq_putFile_of_write (Path.isResolved_child_assetName hout hfirst)
            ((hplaces _ ⟨(name, content), by simp, rfl⟩).of_linksOf hmade.links) hfiles
          show (h₁.files.putFile _ _).entryAt (out.child name).names = _
          rw [entryAt_putFile (ne_nil_of_canHold hcan), if_pos rfl]
        · cases hwrite
      have hspares : Spares (fun q => ∃ asset ∈ rest, q = assetPlace out asset.1) h₂ _ :=
        spares_writeAssets hout hrest.names (fun asset hasset => ⟨asset, hasset, rfl⟩) h₂
      rw [hall] at hspares
      refine (hspares ?_).entryAt_eq ?_ hfile
      · rintro q ⟨asset, hasset, rfl⟩
        exact hstraight₂ asset hasset
      rintro ⟨asset, hasset, heq⟩
      have hsame := Path.assetPlace_inj hfirst (hrest.names asset hasset) heq
      exact (List.nodup_cons.1 htidy.nodup).1 (hsame ▸ List.mem_map_of_mem hasset)
    · exact ih hrest hstraight₂ hall hin

end Plugin
end EmbeddedGo
