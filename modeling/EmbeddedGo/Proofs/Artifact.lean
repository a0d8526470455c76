/-
EmbeddedGo.Proofs.Artifact — where the files behind virtual ids lie.

An id that stands for a file names it by two parts, and the file is meant to lie two names below the
build root. It does so for every id but some of one kind. The parts of a path include the slashes that
it begins with, so an id with one more slash behind its prefix has two parts as well, of which the
first is the top: such an id, and no other, leads away from the build root, to an entry of the top
directory.

  §1 a path of two parts
  §2 the ids of artifacts
  §3 where files lie
-/
import EmbeddedGo.Proofs.ResolvedPath

namespace EmbeddedGo

/-! ## §1 Two parts -/

namespace Path

/-- A path two plain names below another. -/
def IsGrandchild (root p : Path) : Prop :=
  ∃ slot file, IsPlain slot ∧ IsPlain file ∧ p = ⟨root.slashes, root.names ++ [slot, file]⟩

theorem IsGrandchild.below? {root p : Path} (h : IsGrandchild root p) :
    ∃ slot file, IsPlain slot ∧ IsPlain file ∧ p.below? root = some ⟨0, [slot, file]⟩ := by
  obtain ⟨slot, file, hslot, hfile, rfl⟩ := h
  refine ⟨slot, file, hslot, hfile, ?_⟩
  simp [Path.below?]

end Path

namespace VirtualId

theorem plain_of_hasTwoParts {s : Text} (h : hasTwoParts (Path.ofText s) = true) :
    ∀ name ∈ (Path.ofText s).names, Path.IsPlain name := by
  intro name hn
  obtain ⟨hempty, hdot, hslash⟩ := Path.mem_names_ofText hn
  refine ⟨hempty, hdot, ?_, hslash⟩
  rintro rfl
  simp [hasTwoParts, hn] at h

/-- Two parts are two names, or one name behind the slashes at the top. -/
theorem names_of_hasTwoParts {s : Text} (h : hasTwoParts (Path.ofText s) = true) :
    ((Path.ofText s).isAbsolute = false ∧ ∃ slot file, (Path.ofText s).names = [slot, file]) ∨
      ((Path.ofText s).isAbsolute = true ∧ ∃ file, (Path.ofText s).names = [file]) := by
  simp only [hasTwoParts, Bool.and_eq_true, decide_eq_true_eq] at h
  cases ha : (Path.ofText s).isAbsolute with
  | false =>
    refine .inl ⟨rfl, ?_⟩
    have hlen : (Path.ofText s).names.length = 2 := by simpa [ha] using h.1
    match hnames : (Path.ofText s).names, hlen with
    | [slot, file], _ => exact ⟨slot, file, rfl⟩
  | true =>
    refine .inr ⟨rfl, ?_⟩
    have hlen : (Path.ofText s).names.length = 1 := by simpa [ha] using h.1
    match hnames : (Path.ofText s).names, hlen with
    | [file], _ => exact ⟨file, rfl⟩

/-! ## §2 Artifacts -/

/-- The id of a file in a slot stands for that file. -/
theorem resolve_artifact (buildRoot : Path) {slot file : Text} (hslot : Path.IsPlain slot)
    (hfile : Path.IsPlain file) (hwasm : wasmEnding <:+ file) :
    resolve buildRoot (artifact slot file) = some (.file ((buildRoot.child slot).child file)) := by
  have hpath : Path.ofText (slot ++ '/' :: file) = ⟨0, [slot, file]⟩ := by
    have hroot : ¬ ['/'] <+: slot ++ '/' :: file := by
      cases hs : slot with
      | nil => exact absurd hs hslot.notEmpty
      | cons c rest =>
        have hc : c ≠ '/' := fun h => hslot.noSlash (by simp [hs, h])
        simp [Ne.symm hc]
    have habs : (Path.ofText (slot ++ '/' :: file)).slashes = 0 := by
      rw [← Path.isAbsolute_ofText_iff] at hroot
      simpa [Path.isAbsolute] using hroot
    have hnames : (Path.ofText (slot ++ '/' :: file)).names = [slot, file] := by
      simp [Path.ofText, Text.splitOn_append_cons hslot.noSlash,
        Text.splitOn_of_not_mem hfile.noSlash, hslot.isName, hfile.isName]
    cases hp : Path.ofText (slot ++ '/' :: file)
    simp_all
  have hglue : slot ++ '/' :: file ≠ glueName := by
    intro h
    have : '/' ∈ glueName := h ▸ by simp
    exact absurd this (by decide)
  have htwo : hasTwoParts ⟨0, [slot, file]⟩ = true := by
    simp [hasTwoParts, Path.isAbsolute, Ne.symm hslot.notDots, Ne.symm hfile.notDots]
  have hend : Text.endsWith (slot ++ '/' :: file) wasmEnding = true := by
    rw [Text.endsWith_iff]
    exact hwasm.trans ⟨slot ++ ['/'], by simp⟩
  rw [resolve, artifact, List.append_assoc, List.append_assoc, Text.after?_append]
  rw [Option.bind_some, resolveName, show (("/" : Text) ++ file) = '/' :: file from rfl,
    if_neg hglue, hpath, htwo, hend]
  rw [Bool.and_self, if_pos rfl, Path.child_of_plain _ hslot, Path.child_of_plain _ hfile,
    Path.join_of_not_absolute rfl]
  simp

/-! ## §3 Files -/

theorem eq_join_of_resolve {buildRoot p : Path} {id : Text}
    (h : resolve buildRoot id = some (.file p)) :
    ∃ s, id = start ++ s ∧ hasTwoParts (Path.ofText s) = true ∧ p = buildRoot / Path.ofText s := by
  obtain ⟨s, hs, h⟩ := Option.bind_eq_some_iff.1 h
  refine ⟨s, Text.after?_eq_some_iff.1 hs, ?_⟩
  unfold resolveName at h
  split at h
  · simp at h
  · split at h
    · next hcond =>
      simp only [Bool.and_eq_true] at hcond
      cases h
      exact ⟨hcond.1, rfl⟩
    · simp at h

/-- The file behind an id lies two plain names below the build root exactly if no slash follows the
prefix of the id. Behind a slash it is an entry of the top directory, wherever the build root is. -/
theorem resolve_file {buildRoot p : Path} {id : Text}
    (h : resolve buildRoot id = some (.file p)) :
    (buildRoot.IsGrandchild p ↔ ¬ start ++ ['/'] <+: id) ∧
      (start ++ ['/'] <+: id →
        p.isAbsolute = true ∧ ∃ file, Path.IsPlain file ∧ p.names = [file]) := by
  obtain ⟨s, rfl, htwo, rfl⟩ := eq_join_of_resolve h
  have hplain := plain_of_hasTwoParts htwo
  rw [List.prefix_append_right_inj, ← Path.isAbsolute_ofText_iff]
  rcases names_of_hasTwoParts htwo with ⟨habs, slot, file, hnames⟩ | ⟨habs, file, hnames⟩
  · rw [hnames] at hplain
    have hgrand : buildRoot.IsGrandchild (buildRoot / Path.ofText s) := by
      refine ⟨slot, file, hplain slot (by simp), hplain file (by simp), ?_⟩
      rw [Path.join_of_not_absolute habs, hnames]
    simp [habs, hgrand]
  · have hjoin : buildRoot / Path.ofText s = Path.ofText s := if_pos habs
    rw [hjoin]
    refine ⟨iff_of_false ?_ (by simp [habs]), fun _ => ⟨habs, file, ?_, hnames⟩⟩
    · rintro ⟨slot, file', -, -, hp⟩
      have := congrArg (fun p => p.names.length) hp
      simp [hnames] at this
    · exact hplain file (by simp [hnames])

/-- One more slash behind the prefix, and the build root is forgotten. -/
theorem resolve_slash_leads_out :
    resolve (Path.ofText "/srv/slots") "/@vite-golang//main.wasm" =
        some (.file (Path.ofText "/main.wasm")) ∧
      ¬ (Path.ofText "/srv/slots").IsGrandchild (Path.ofText "/main.wasm") ∧
      (Path.ofText "/main.wasm").below? (Path.ofText "/srv/slots") = none := by
  have hresolve : resolve (Path.ofText "/srv/slots") "/@vite-golang//main.wasm" =
      some (.file (Path.ofText "/main.wasm")) := by decide
  refine ⟨hresolve, ?_, by decide⟩
  rintro ⟨slot, file, -, -, h⟩
  have hroot : (Path.ofText "/srv/slots").names.length = 2 := by decide
  have hone : (Path.ofText "/main.wasm").names.length = 1 := by decide
  rw [h, List.length_append, hroot] at hone
  simp at hone

/-- Both kinds of ids: that of a file in a slot, and one with a slash behind the prefix. -/
theorem resolve_file_both_kinds :
    resolve (Path.ofText "/srv/slots") "/@vite-golang/./a//b.wasm" =
        some (.file (Path.ofText "/srv/slots/a/b.wasm")) ∧
      (Path.ofText "/srv/slots").IsGrandchild (Path.ofText "/srv/slots/a/b.wasm") ∧
      resolve (Path.ofText "/srv/slots") "/@vite-golang//etc.wasm" =
        some (.file (Path.ofText "/etc.wasm")) ∧
      ¬ (Path.ofText "/srv/slots").IsGrandchild (Path.ofText "/etc.wasm") := by
  have h : resolve (Path.ofText "/srv/slots") "/@vite-golang/./a//b.wasm" =
      some (.file (Path.ofText "/srv/slots/a/b.wasm")) := by decide
  have h' : resolve (Path.ofText "/srv/slots") "/@vite-golang//etc.wasm" =
      some (.file (Path.ofText "/etc.wasm")) := by decide
  exact ⟨h, (resolve_file h).1.2 (by decide), h', fun hg => (resolve_file h').1.1 hg (by decide)⟩

end VirtualId
end EmbeddedGo
