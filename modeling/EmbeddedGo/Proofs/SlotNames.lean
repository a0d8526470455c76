/-
EmbeddedGo.Proofs.SlotNames — which modules can have a slot.

The whole path of a module is folded into one name. Every character keeps the bytes it has and the slash
in front makes way for the mark before the digest, so the name of a slot has eight bytes more than the
path (`length_name`). Names end at 255 bytes and paths only at 4095, so a path that is fine can be too
long to be folded: from 248 bytes on no build root holds a slot for the module. Up to there every root
does that has room for it (`slot_of_hostPath`).

  §1 the bytes of a name
  §2 directories made in one that is there
  §3 slots in a build root
-/
import EmbeddedGo.Proofs.ArtifactUrl
import EmbeddedGo.Proofs.MadeDirectories

namespace EmbeddedGo

/-! ## §1 Bytes -/

theorem Utf8.length_encode (s : Text) : (encode s).length = (s.map Char.utf8Size).sum := by
  induction s with
  | nil => rfl
  | cons c s ih =>
    have hcons : encode (c :: s) = String.utf8EncodeChar c ++ encode s := by simp [encode]
    rw [hcons, List.length_append, String.length_utf8EncodeChar, ih, List.map_cons, List.sum_cons]

theorem Text.utf8Size_of_isAlphanum {c : Char} (h : c.isAlphanum = true) : c.utf8Size = 1 := by
  have hlt : c.toNat < 128 := lt_of_isAlphanum h
  rw [Char.utf8Size_eq_one_iff, UInt32.le_iff_toNat_le]
  exact Nat.le_of_lt_succ hlt

namespace Slot

theorem length_digest (path : Text) : (digest path).length = digestLength := by
  have hmd5 : (Digest.Md5.digest (Utf8.encode path)).length = 16 := by
    simp [Digest.Md5.digest, Digest.wordBytes, Digest.numberBytes, Digest.length_bytesLowFirst]
  rw [digest, List.length_take, Digest.length_hex, hmd5]
  rfl

theorem isAlphanum_of_mem_digest {path : Text} {c : Char} (h : c ∈ digest path) :
    c.isAlphanum = true :=
  Digest.isAlphanum_of_mem_hex _ c (List.mem_of_mem_take h)

/-- What stands for a character has as many bytes. -/
theorem utf8Size_safeChar (c : Char) : (safeChar c).utf8Size = c.utf8Size := by
  unfold safeChar isSlash
  split
  · next h =>
    have hc : (c = '/' ∨ c = '\\') ∨ c = '.' := by simpa using h
    rcases hc with (rfl | rfl) | rfl <;> rfl
  · rfl

/-- The slash in front of a path makes way for the mark, and the digest comes on top. -/
theorem length_name (path : Text) :
    (Utf8.encode (name ('/' :: path))).length = (Utf8.encode ('/' :: path)).length + digestLength := by
  have hdigest : ((digest ('/' :: path)).map Char.utf8Size).sum = digestLength := by
    have hone : (digest ('/' :: path)).map Char.utf8Size =
        List.replicate (digest ('/' :: path)).length 1 :=
      List.map_eq_replicate_iff.2 fun c hc => Text.utf8Size_of_isAlphanum (isAlphanum_of_mem_digest hc)
    rw [hone, List.sum_replicate_nat, length_digest]
    rfl
  have hsafe : (sanitize ('/' :: path)).map Char.utf8Size = path.map Char.utf8Size := by
    rw [sanitize, dropSlash, if_pos (by decide), List.map_map]
    exact List.map_congr_left fun c _ => utf8Size_safeChar c
  rw [Utf8.length_encode, Utf8.length_encode, name, List.map_append, List.map_append, List.sum_append,
    List.sum_append, hdigest, hsafe, List.map_cons, List.sum_cons]
  have hmark : (("_" : Text).map Char.utf8Size).sum = '/'.utf8Size := by decide
  omega

/-- The characters of a name are marks, letters and digits, or those of the path. -/
theorem forall_mem_name {path : Text} {P : Char → Prop} (hmark : P '_')
    (halnum : ∀ c : Char, c.isAlphanum = true → P c) (hpath : ∀ c ∈ path, P c) :
    ∀ c ∈ name path, P c := by
  have hrest : ∀ c ∈ dropSlash path, P c := by
    cases path with
    | nil => exact hpath
    | cons d path =>
      rw [dropSlash]
      split
      · exact fun c hc => hpath c (List.mem_cons_of_mem _ hc)
      · exact hpath
  intro c hc
  rw [name, List.mem_append, List.mem_append] at hc
  rcases hc with (hc | hc) | hc
  · obtain ⟨d, hd, rfl⟩ := List.mem_map.1 hc
    unfold safeChar
    split
    · exact hmark
    · exact hrest d hd
  · exact List.mem_singleton.1 hc ▸ hmark
  · exact halnum c (isAlphanum_of_mem_digest hc)

theorem nul_not_mem_name {path : Text} (h : '\x00' ∉ path) : '\x00' ∉ name path := by
  have hall : ∀ c ∈ name path, c ≠ '\x00' :=
    forall_mem_name (by decide) (fun c hc h0 => absurd (h0 ▸ hc) (by decide))
      fun c hc h0 => h (h0 ▸ hc)
  exact fun hmem => hall _ hmem rfl

end Slot

/-! ## §2 Directories -/

/-- The path of what stands in a directory, by the names on the way down to it. -/
def Path.below (p : Path) (names : List Text) : Path := ⟨p.slashes, p.names ++ names⟩

namespace FileTree

variable {t : FileTree} {p : Path} {dir : Place} {name : Text}

instance (name : Text) : Decidable (Fits name) :=
  inferInstanceAs (Decidable ((Utf8.encode name).length ≤ nameLimit))

theorem locate_eq (t : FileTree) (follow : Bool) (p : Path) :
    t.locate follow p =
      match refused? p with
      | some e => .error e
      | none => t.walk follow linkLimit p.names (if p.isAbsolute then [] else t.here) := by
  unfold locate refused?
  split
  · rfl
  · split <;> rfl

/-- A path that leads to a directory leads there for as long as nothing is taken away. -/
theorem LeadsTo.later {t' : FileTree} (h : t.LeadsTo p dir) (hkeeps : t.Keeps t')
    (hhere : t'.here = t.here) : t'.LeadsTo p dir := by
  obtain ⟨m, hl⟩ := h
  have hentry := hkeeps.directories _ (entryAt_of_get? (locate_found hl).symm)
  obtain ⟨m', hitem⟩ := entryAt_eq_some hentry
  refine ⟨m', ?_⟩
  rw [locate_eq] at hl ⊢
  split at hl
  · cases hl
  · rw [hhere, hkeeps.walk hl (by simp [hentry]), hitem]

/-- Where a path leads to a directory, more names are looked up in it, if the path does not get too
long. -/
theorem LeadsTo.locate_below (h : t.LeadsTo p dir) {rest : List Text} (hrest : rest ≠ [])
    (hnul : ∀ n ∈ rest, '\x00' ∉ n) (follow : Bool) :
    ∃ left, t.locate follow (p.below rest) =
      if pathLimit ≤ (Utf8.encode (p.below rest).text).length then .error .nameTooLong
      else t.walk follow left rest dir := by
  obtain ⟨m, hl⟩ := h
  have hwhole : '\x00' ∉ (p.below rest).text := by
    have hp : '\x00' ∉ p.text := by
      intro hmem
      simp [locate, hmem] at hl
    rw [Path.nul_mem_text_iff]
    rintro ⟨n, hmem, hin⟩
    rcases List.mem_append.1 hmem with hmem | hmem
    · exact hp (Path.nul_mem_text_iff.2 ⟨n, hmem, hin⟩)
    · exact hnul n hmem hin
  rw [locate_eq] at hl
  split at hl
  · cases hl
  · obtain ⟨left, hleft⟩ := @walk_append_of_directory t follow linkLimit p.names rest _ dir m hrest hl
    refine ⟨left, ?_⟩
    rw [locate, if_neg (by simpa using hwhole), ← hleft]
    rfl

theorem LeadsTo.locate_last (h : t.LeadsTo p dir) (hn : Path.IsPlain name) (hnul : '\x00' ∉ name)
    (follow : Bool) :
    ∃ left, t.locate follow (p.child name) =
      if pathLimit ≤ (Utf8.encode (p.child name).text).length then .error .nameTooLong
      else t.walk follow left [name] dir := by
  rw [Path.child_of_plain p hn]
  exact h.locate_below (by simp) (by simpa using hnul) follow

/-- The last name is looked up where it is if it is not to be followed. -/
theorem walk_unfollowed (hn : Path.IsPlain name) (hf : Fits name) (links : Nat) (here : Place) :
    t.walk false links [name] here = .ok (here ++ [name], t.get? (here ++ [name])) := by
  rw [walk_cons hn.notDots hn.notDot hf]
  match hitem : t.get? (here ++ [name]) with
  | none => rfl
  | some ⟨.directory, m⟩ => simp [walk, hitem]
  | some ⟨.file c, m⟩ => rfl
  | some ⟨.link target, m⟩ => rfl

/-- Too long a name, or one that makes the path too long, is no name of an entry. -/
theorem LeadsTo.locate_tooLong (h : t.LeadsTo p dir) (hn : Path.IsPlain name) (hnul : '\x00' ∉ name)
    (hlong : ¬ Fits name ∨ pathLimit ≤ (Utf8.encode (p.child name).text).length) (follow : Bool) :
    t.locate follow (p.child name) = .error .nameTooLong := by
  obtain ⟨left, hleft⟩ := h.locate_last hn hnul follow
  rw [hleft]
  split
  · rfl
  · next hshort => exact walk_cons_tooLong hn (hlong.resolve_right hshort)

theorem LeadsTo.makeDirectory_eq (h : t.LeadsTo p dir) (hn : Path.IsPlain name) (hnul : '\x00' ∉ name)
    (hf : Fits name) (hshort : (Utf8.encode (p.child name).text).length < pathLimit) :
    t.makeDirectory (p.child name) =
      if t.entryAt (dir ++ [name]) = none then .ok (t.insert (dir ++ [name]) .directory)
      else .error .alreadyExists := by
  obtain ⟨left, hleft⟩ := h.locate_last hn hnul false
  rw [if_neg (Nat.not_le.2 hshort), walk_unfollowed hn hf] at hleft
  rw [makeDirectory, hleft, FileTree.entryAt]
  cases t.get? (dir ++ [name]) with
  | none => simp
  | some item => simp

/-- Behind a path that leads to a directory only the last directory can be missing. -/
theorem LeadsTo.makePath_eq (h : t.LeadsTo p dir) (hn : Path.IsPlain name) (hnul : '\x00' ∉ name) :
    t.makePath (p.child name) =
      match t.ensureDirectory (p.child name) with
      | .ok t' => (.ok (), t')
      | .error f => (.error f, t) := by
  have hmissing : t.makeDirectory (p.child name) ≠ .error .notFound := by
    intro hmake
    by_cases hlong : ¬ Fits name ∨ pathLimit ≤ (Utf8.encode (p.child name).text).length
    · rw [makeDirectory_of_locate (h.locate_tooLong hn hnul hlong false)] at hmake
      cases hmake
    · rw [not_or, not_not, Nat.not_le] at hlong
      rw [h.makeDirectory_eq hn hnul hlong.1 hlong.2] at hmake
      split at hmake <;> cases hmake
  rw [makePath]
  unfold ensurePath
  cases hmake : t.makeDirectory (p.child name) with
  | ok t' => simp only [ensureDirectory, hmake]
  | error e =>
    cases e with
    | notFound => exact absurd hmake hmissing
    | _ => rfl

/-- A new directory is found behind the path it was made by. -/
theorem LeadsTo.insert_child (h : t.LeadsTo p dir) (hn : Path.IsPlain name) (hnul : '\x00' ∉ name)
    (hf : Fits name) (hshort : (Utf8.encode (p.child name).text).length < pathLimit)
    (hfree : t.entryAt (dir ++ [name]) = none) :
    (t.insert (dir ++ [name]) .directory).LeadsTo (p.child name) (dir ++ [name]) := by
  have hmade : t.makeDirectory (p.child name) = .ok (t.insert (dir ++ [name]) .directory) := by
    rw [h.makeDirectory_eq hn hnul hf hshort, if_pos hfree]
  have hentry : (t.insert (dir ++ [name]) .directory).entryAt (dir ++ [name]) = some .directory := by
    rw [entryAt_insert (by simp), if_pos rfl]
  have hdir : (t.insert (dir ++ [name]) .directory).LeadsTo p dir :=
    h.later (makes_makeDirectory hmade).keeps (here_makeDirectory hmade)
  obtain ⟨left, hleft⟩ := hdir.locate_last hn hnul true
  obtain ⟨m', hitem⟩ := entryAt_eq_some hentry
  refine ⟨m', ?_⟩
  rw [hleft, if_neg (Nat.not_le.2 hshort),
    walk_last hn.notDots hn.notDot hf (by simp [hentry]), hitem]

/-- What a directory needs besides a name: a path that is not too long, and a place where nothing stands
or which the path leads to a directory from. -/
structure HasRoom (t : FileTree) (p : Path) (dir : Place) (name : Text) : Prop where
  short : (Utf8.encode (p.child name).text).length < pathLimit
  free : t.entryAt (dir ++ [name]) = none ∨ ∃ place, t.LeadsTo (p.child name) place

/-- A directory that is in the way of nothing is there afterwards. -/
theorem HasRoom.ensureDirectory_eq (h : t.HasRoom p dir name) (hdir : t.LeadsTo p dir)
    (hn : Path.IsPlain name) (hnul : '\x00' ∉ name) (hf : Fits name) :
    ∃ t' place, t.ensureDirectory (p.child name) = .ok t' ∧ t'.LeadsTo (p.child name) place := by
  have hmake := hdir.makeDirectory_eq hn hnul hf h.short
  by_cases hnone : t.entryAt (dir ++ [name]) = none
  · rw [if_pos hnone] at hmake
    exact ⟨_, _, by rw [ensureDirectory, hmake], hdir.insert_child hn hnul hf h.short hnone⟩
  · rw [if_neg hnone] at hmake
    obtain ⟨place, hplace⟩ := h.free.resolve_left hnone
    obtain ⟨m, hl⟩ := hplace
    refine ⟨t, place, ?_, m, hl⟩
    rw [ensureDirectory, hmake]
    dsimp only
    rw [isDirectory_eq_true_iff.2 ⟨place, m, hl⟩]

/-- Where there is no room no directory is made. -/
theorem LeadsTo.ensureDirectory_error (h : t.LeadsTo p dir) (hn : Path.IsPlain name)
    (hnul : '\x00' ∉ name) (hroom : ¬ t.HasRoom p dir name) :
    ∃ f, t.ensureDirectory (p.child name) = .error f := by
  cases hensure : t.ensureDirectory (p.child name) with
  | error f => exact ⟨f, rfl⟩
  | ok t' =>
    have hfine : Fits name ∧ (Utf8.encode (p.child name).text).length < pathLimit := by
      by_contra hlong
      rw [not_and_or, Nat.not_lt] at hlong
      rw [ensureDirectory_of_locate (h.locate_tooLong hn hnul hlong)] at hensure
      cases hensure
    refine absurd ⟨hfine.2, ?_⟩ hroom
    rcases ensureDirectory_eq_ok hensure with hmake | ⟨-, hthere⟩
    · refine .inl ?_
      by_contra hnone
      rw [h.makeDirectory_eq hn hnul hfine.1 hfine.2, if_neg hnone] at hmake
      cases hmake
    · exact .inr hthere

end FileTree

/-! ## §3 Slots -/

namespace Slot

/-- A path from the top that the file system takes: no part of it is too long, and neither is the
whole. -/
structure IsHostPath (path : Text) : Prop where
  absolute : ['/'] <+: path
  noNul : '\x00' ∉ path
  fits : ∀ part ∈ Text.splitOn '/' path, FileTree.Fits part
  short : (Utf8.encode path).length < FileTree.pathLimit

/-- The most bytes that the path of a module can have, with a slot for the module. -/
def pathLimit : Nat := FileTree.nameLimit - digestLength

theorem fits_name_iff {path : Text} (h : ['/'] <+: path) :
    FileTree.Fits (name path) ↔ (Utf8.encode path).length ≤ pathLimit := by
  obtain ⟨rest, rfl⟩ := h
  rw [FileTree.Fits, List.singleton_append, length_name, pathLimit]
  exact Nat.le_sub_iff_add_le (by decide) |>.symm

theorem run_slot (root : Path) (name : Text) (h : Host) :
    (BuildRoot.slot root name).run.run h =
      match h.files.makePath (root.child name) with
      | (.ok (), files) => (.ok (root.child name), { h with files })
      | (.error e, files) => (.error (.fault e), { h with files }) := by
  rw [BuildRoot.slot, run_bind, Host.run_makePath]
  rcases h.files.makePath (root.child name) with ⟨e | u, files⟩ <;> rfl

/-- No build root holds a slot whose name is too long, and nothing is made in the attempt. -/
theorem run_slot_tooLong {path : Text} (hnul : '\x00' ∉ path) (hlong : ¬ FileTree.Fits (name path))
    {h : Host} {root : Path} {dir : Place} (hdir : h.files.LeadsTo root dir) :
    (BuildRoot.slot root (name path)).run.run h =
      (.error (.fault { refusal := .nameTooLong, path := (root.child (name path)).text }), h) := by
  have hn := isPlain_name path
  have hlocate := hdir.locate_tooLong hn (nul_not_mem_name hnul) (.inl hlong)
  rw [run_slot, hdir.makePath_eq hn (nul_not_mem_name hnul), FileTree.ensureDirectory_of_locate hlocate]

/-- The name of a slot is one name, without a slash. Where the path of the module has at most 247 bytes it
is short enough for a directory, and each directory with room for it gets a slot of that name. No slot
is made for a longer path, and nothing changes then. -/
theorem slot_of_hostPath {path : Text} (hpath : IsHostPath path) :
    (Path.IsPlain (name path) ∧ '\x00' ∉ name path ∧
      (FileTree.Fits (name path) ↔ (Utf8.encode path).length ≤ pathLimit)) ∧
    ∀ (h : Host) (root : Path) (dir : Place), h.files.LeadsTo root dir →
      (pathLimit < (Utf8.encode path).length →
        (BuildRoot.slot root (name path)).run.run h =
          (.error (.fault { refusal := .nameTooLong, path := (root.child (name path)).text }), h)) ∧
      ((Utf8.encode path).length ≤ pathLimit → h.files.HasRoom root dir (name path) →
        ∃ files place, (BuildRoot.slot root (name path)).run.run h =
            (.ok (root.child (name path)), { h with files }) ∧
          files.LeadsTo (root.child (name path)) place) ∧
      ((Utf8.encode path).length ≤ pathLimit → ¬ h.files.HasRoom root dir (name path) →
        ∃ fault, (BuildRoot.slot root (name path)).run.run h = (.error (.fault fault), h)) := by
  have hn := isPlain_name path
  have hnul := nul_not_mem_name hpath.noNul
  have hfits := fits_name_iff hpath.absolute
  refine ⟨⟨hn, hnul, hfits⟩, fun h root dir hdir => ?_⟩
  have hrun := run_slot root (name path) h
  rw [hdir.makePath_eq hn hnul] at hrun
  refine ⟨fun hlong => ?_, fun hshort hroom => ?_, fun _ hroom => ?_⟩
  · exact run_slot_tooLong hpath.noNul (fun hf => Nat.not_le.2 hlong (hfits.1 hf)) hdir
  · obtain ⟨files, place, hensure, hleads⟩ := hroom.ensureDirectory_eq hdir hn hnul (hfits.2 hshort)
    rw [hensure] at hrun
    exact ⟨files, place, hrun, hleads⟩
  · obtain ⟨fault, hensure⟩ := hdir.ensureDirectory_error hn hnul hroom
    rw [hensure] at hrun
    exact ⟨fault, hrun⟩

/-- A host with nothing but a directory. -/
def emptyRoot : Host where
  files := { items := [(["b"], ⟨.directory, 0⟩)] }
  toolchain := { place := [] }

theorem leadsTo_emptyRoot : emptyRoot.files.LeadsTo (Path.ofNames ["b"]) ["b"] := by
  have hplain : Path.IsPlain ("b" : Text) := by decide
  have htop := (FileTree.leadsTo_top emptyRoot.files).locate_child ⟨rfl, by simp [Path.ofNames]⟩ hplain
    ⟨by decide, by decide⟩ (by intro target; simp [FileTree.entryAt, FileTree.get?, emptyRoot])
  exact ⟨0, htop⟩

theorem slot_of_hostPath_script :
    IsHostPath "/a.js" ∧ emptyRoot.files.LeadsTo (Path.ofNames ["b"]) ["b"] ∧
      (Utf8.encode "/a.js").length ≤ pathLimit ∧
      emptyRoot.files.HasRoom (Path.ofNames ["b"]) ["b"] (name "/a.js") ∧
      ∃ files place, (BuildRoot.slot (Path.ofNames ["b"]) (name "/a.js")).run.run emptyRoot =
          (.ok ((Path.ofNames ["b"]).child (name "/a.js")), { emptyRoot with files }) ∧
        files.LeadsTo ((Path.ofNames ["b"]).child (name "/a.js")) place := by
  have hpath : IsHostPath "/a.js" :=
    { absolute := by decide, noNul := by decide, fits := by decide, short := by decide }
  have hshort : (Utf8.encode "/a.js").length ≤ pathLimit := by decide
  have hroom : emptyRoot.files.HasRoom (Path.ofNames ["b"]) ["b"] (name "/a.js") :=
    { short := by decide +kernel
      free := .inl (by decide +kernel) }
  exact ⟨hpath, leadsTo_emptyRoot, hshort, hroom,
    ((slot_of_hostPath hpath).2 emptyRoot _ _ leadsTo_emptyRoot).2.1 hshort hroom⟩

/-- A path of 248 bytes with one long name in it. -/
def longPath : Text := '/' :: List.replicate 247 'a'

/-- The name is short enough for the file system, that of the slot is not. -/
theorem hostPath_without_slot :
    IsHostPath longPath ∧ ¬ FileTree.Fits (name longPath) ∧
      emptyRoot.files.LeadsTo (Path.ofNames ["b"]) ["b"] ∧
      (BuildRoot.slot (Path.ofNames ["b"]) (name longPath)).run.run emptyRoot =
        (.error (.fault { refusal := .nameTooLong
                          path := ((Path.ofNames ["b"]).child (name longPath)).text }), emptyRoot) := by
  have hpath : IsHostPath longPath :=
    { absolute := by decide, noNul := by decide +kernel, fits := by decide +kernel
      short := by decide +kernel }
  have hlong : ¬ FileTree.Fits (name longPath) := by
    rw [fits_name_iff hpath.absolute]
    decide +kernel
  exact ⟨hpath, hlong, leadsTo_emptyRoot, run_slot_tooLong hpath.noNul hlong leadsTo_emptyRoot⟩

end Slot

end EmbeddedGo
