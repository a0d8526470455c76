/-
EmbeddedGo.Proofs.WrapperText — what a wrapper refers to.

A wrapper is a frame around two quoted ids (`module_eq_fill`): that of the glue and the URL of the
binary. The frame holds two things that come from outside, the directory of the slot in the first
comment and the names of the exported functions. Neither can be taken for a reference: the names hold
no slash, and in the directory the prefix of the ids could only stand as a directory of that name. So
the two ids are what a scan of the wrapper finds, and exchanging them leaves the frame.

  §1 literals without slashes
  §2 the frame
  §3 what is found in it
-/
import EmbeddedGo.Proofs.Calls
import EmbeddedGo.Proofs.Reference

namespace EmbeddedGo

/-! ## §1 Slashes -/

namespace Json

/-- A literal holds slashes only where its text does. -/
theorem slash_not_mem_literal {s : Text} (hs : '/' ∉ s) : '/' ∉ literal true s := by
  have hunit : ∀ n, '/' ∉ unitEscape n := by
    intro n h
    rcases List.mem_append.1 h with h | h
    · exact absurd h (by decide)
    · exact absurd (Text.isAlphanum_of_mem_hexPadded 4 n _ h) (by decide)
  have hchar : ∀ c ∈ s, '/' ∉ literalChar true c := by
    intro c hc
    have hne : '/' ≠ c := fun h => hs (h ▸ hc)
    unfold literalChar
    split
    · simp [hne]
    · split
      · decide
      · split
        · decide
        · split
          · decide
          · split
            · decide
            · split
              · decide
              · split
                · exact hunit _
                · split
                  · intro h
                    obtain ⟨n, -, h⟩ := List.mem_flatMap.1 h
                    exact hunit n h
                  · simp [hne]
  rw [literal, List.mem_append, List.mem_cons]
  rintro ((h | h) | h)
  · exact absurd h (by decide)
  · obtain ⟨c, hc, h⟩ := List.mem_flatMap.1 h
    exact hchar c hc h
  · exact absurd (List.mem_singleton.1 h) (by decide)

theorem slash_not_mem_join {names : List Text} (hn : ∀ n ∈ names, '/' ∉ n) :
    '/' ∉ Text.join ", " (names.map (literal true)) := by
  intro h
  rcases Text.mem_join h with h | ⟨piece, hpiece, h⟩
  · exact absurd h (by decide)
  · obtain ⟨n, hmem, rfl⟩ := List.mem_map.1 hpiece
    exact slash_not_mem_literal (hn n hmem) h

end Json

namespace Go

open Text

/-- An exported name is a word, which holds no slash. -/
theorem slash_not_mem_of_exported {source : Text} {f : Function} (hf : f ∈ exported source) :
    '/' ∉ f.name := by
  have hmarker : ∀ line name, markerName? line = some name → '/' ∉ name := by
    intro line name h
    unfold markerName? at h
    split at h
    · split at h
      · split at h
        · next c rest _ =>
          split at h
          · next hcond =>
            cases h
            rw [List.mem_cons, not_or]
            constructor
            · rintro rfl
              simp [isWordStart] at hcond
            · intro hmem
              have hword : isWord '/' = true := List.all_eq_true.1 List.all_takeWhile _ hmem
              exact absurd hword (by decide)
          · simp at h
        · simp at h
      · simp at h
    · simp at h
  have hoffered : ∀ line rest f, offered? line rest = some f → '/' ∉ f.name := by
    intro line rest f h
    unfold offered? at h
    split at h
    · next name next rest' hname =>
      split at h
      · split at h
        · cases h
          exact hmarker line name hname
        · simp at h
      · simp at h
    · simp at h
  suffices ∀ lines, f ∈ exportedIn lines → '/' ∉ f.name from this _ hf
  intro lines
  induction lines with
  | nil => simp [exportedIn]
  | cons line rest ih =>
    intro h
    rcases List.mem_append.1 h with h | h
    · exact hoffered line rest f (Option.mem_toList.1 h)
    · exact ih h

end Go

/-! ## §2 The frame -/

namespace Wrapper

/-- What stands between the directory of the slot and the id of the glue. -/
def notice : Text := ". Do not edit.\n" ++ "import "

/-- What stands in front of the id of the glue. -/
def opening (shown : Text) : Text :=
  "// Generated by use-golang from build slot " ++ (shown ++ notice)

/-- What stands between the two ids. -/
def middle : Text :=
  ";\n\n" ++ "const go = new Go();\n" ++
    "const \x7b instance \x7d = await WebAssembly.instantiateStreaming(\n" ++ "  fetch("

/-- What stands behind the URL of the binary. -/
def closing (names : List Text) : Text :=
  "),\n" ++ "  go.importObject\n" ++ ");\n" ++ if names.isEmpty then discover else declare names

/-- A wrapper with texts in the place of its two ids, each in quotes. -/
def fill (shown glue url : Text) (names : List Text) : Text :=
  opening shown ++ '"' :: (glue ++ '"' :: (middle ++ '"' :: (url ++ '"' :: closing names)))

theorem module_eq_fill (shown slot : Text) (names : List Text) :
    module shown slot names =
      fill shown VirtualId.glue (VirtualId.artifactUrl slot wasmName) names := by
  have hglue : Json.literal true VirtualId.glue = '"' :: VirtualId.glue ++ ['"'] :=
    Json.literal_of_isUrlChar (List.all_eq_true.1 (by decide))
  have hurl : Json.literal true (VirtualId.artifactUrl slot wasmName) =
      '"' :: VirtualId.artifactUrl slot wasmName ++ ['"'] :=
    Json.literal_of_isUrlChar fun _ hc => VirtualId.isUrlChar_of_mem_artifactUrl hc
  -- unfolding by equations would read the fixed lines out of their strings
  delta module header instantiate fill opening notice middle closing
  simp only [hglue, hurl, List.append_assoc, List.cons_append, List.nil_append]

/-! ## §3 Findings -/

open EmbeddedGo.Bundle Text

theorem isClear_middle : isClear middle = true :=
  isClear_append (isClear_append (isClear_append (isClear_ofList (by decide +kernel))
    (isClear_ofList (by decide +kernel))) (isClear_ofList (by decide +kernel)))
    (isClear_ofList (by decide +kernel))

theorem isClear_discover : isClear discover = true := by
  unfold discover
  repeat' with_reducible apply isClear_append
  all_goals exact isClear_ofList (by decide +kernel)

theorem isClear_declare {names : List Text} (hn : ∀ n ∈ names, '/' ∉ n) :
    isClear (declare names) = true := by
  have hlist : isClear (Json.literalList names) = true := by
    refine isClear_of_not_mem (fun h => ?_) (by decide) (by decide)
    rcases List.mem_cons.1 h with h | h
    · exact absurd h (by decide)
    · exact Json.slash_not_mem_join hn h
  unfold declare
  repeat' first
    | with_reducible exact hlist
    | with_reducible apply isClear_append
  all_goals exact isClear_ofList (by decide +kernel)

theorem isClear_closing {names : List Text} (hn : ∀ n ∈ names, '/' ∉ n) :
    isClear (closing names) = true := by
  refine isClear_append (isClear_append (isClear_append (isClear_ofList (by decide +kernel))
    (isClear_ofList (by decide +kernel))) (isClear_ofList (by decide +kernel))) ?_
  split
  · exact isClear_discover
  · exact isClear_declare hn

/-- No reference begins in front of the id of the glue. -/
theorem passes_opening {shown rest : Text}
    (h : ¬ VirtualId.start <:+: shown ++ notice) :
    Passes (opening shown) ('"' :: rest) := by
  have hcomment : isClear "// Generated by use-golang from build slot " = true :=
    isClear_ofList (by decide +kernel)
  exact (passes_of_isClear hcomment _).append (passes_of_absent (by decide) h)

theorem isReferenceChar_of_mem_glueName :
    ∀ c ∈ VirtualId.glueName, isReferenceChar c = true := List.all_eq_true.1 (by decide)

theorem isReferenceChar_of_mem_urlName (slot file : Text) :
    ∀ c ∈ VirtualId.urlName slot file, isReferenceChar c = true :=
  fun _ hc => VirtualId.isReferenceChar_of_isUrlChar (VirtualId.isUrlChar_of_mem_urlName hc)

variable {shown slot : Text} {names : List Text}

/-- A scan of a wrapper finds its two ids. -/
theorem scan_module (hshown : ¬ VirtualId.start <:+: shown ++ notice)
    (hn : ∀ n ∈ names, '/' ∉ n) :
    scan reference? (module shown slot names) =
      (opening shown).map .plain ++ .found ⟨'"', VirtualId.glue⟩ ::
        (middle.map .plain ++ .found ⟨'"', VirtualId.artifactUrl slot wasmName⟩ ::
          (closing names).map .plain) := by
  have hne : VirtualId.urlName slot wasmName ≠ [] := by simp [VirtualId.urlName]
  rw [module_eq_fill, VirtualId.artifactUrl_eq]
  exact scan_two (passes_opening hshown) isClear_middle (isClear_closing hn) (by decide)
    isReferenceChar_of_mem_glueName hne (isReferenceChar_of_mem_urlName slot wasmName)

theorem glue_ne_artifactUrl (slot file : Text) : VirtualId.glue ≠ VirtualId.artifactUrl slot file := by
  rw [VirtualId.artifactUrl_eq, VirtualId.glue]
  intro h
  have hname : '/' ∈ VirtualId.glueName := by
    rw [List.append_cancel_left h]
    simp [VirtualId.urlName]
  exact absurd hname (by decide)

/-- A wrapper refers to the glue and to its binary, and to nothing else. -/
theorem references_module (hshown : ¬ VirtualId.start <:+: shown ++ notice)
    (hn : ∀ n ∈ names, '/' ∉ n) :
    references (module shown slot names) =
      [VirtualId.glue, VirtualId.artifactUrl slot wasmName] := by
  have hne := glue_ne_artifactUrl slot wasmName
  rw [references, findAll, scan_module hshown hn, List.filterMap_append, filterMap_plain,
    List.filterMap_cons, List.filterMap_append, filterMap_plain, List.filterMap_cons,
    filterMap_plain]
  simp [Piece.found?, List.eraseDups_cons, Ne.symm hne]

/-- With URLs in the place of the ids the frame is the same. -/
theorem substitute_module (hshown : ¬ VirtualId.start <:+: shown ++ notice)
    (hn : ∀ n ∈ names, '/' ∉ n) (url : Text → Text) :
    substitute url (module shown slot names) =
      fill shown (url VirtualId.glue) (url (VirtualId.artifactUrl slot wasmName)) names := by
  rw [substitute, scan_module hshown hn, List.flatMap_append, flatMap_plain, List.flatMap_cons,
    List.flatMap_append, flatMap_plain, List.flatMap_cons, flatMap_plain]
  simp [substitutePiece, fill]

/-- The directory of a slot is not taken for a reference, unless a directory above it is called
like the prefix of the ids. -/
theorem not_infix_shownSlot (here : List Text) (projectRoot : Path) {buildRoot : Path}
    (hb : buildRoot.IsResolved) (hroot : "@vite-golang".toList ∉ buildRoot.names) (id : Text) :
    ¬ VirtualId.start <:+:
      shownSlot here projectRoot (some buildRoot) (Slot.name id) ++ notice := by
  have hslot : Path.IsPlain (Slot.name id) := Slot.isPlain_name id
  have htail : '/' ∉ notice := by decide
  have hlong : ¬ notice <:+ "@vite-golang".toList := by decide
  have htarget : Path.fromTop here (buildRoot.child (Slot.name id)) =
      buildRoot.names ++ [Slot.name id] := by
    rw [Path.fromTop, (hb.child hslot).isAbsolute, if_pos rfl, Path.child_of_plain _ hslot]
    refine Path.climb_of_not_mem fun h => ?_
    rcases List.mem_append.1 h with h | h
    · exact (hb.plain _ h).notDots rfl
    · exact hslot.notDots (List.mem_singleton.1 h).symm
  have hnames : ∀ n ∈ (Path.way here projectRoot (buildRoot.child (Slot.name id))).names,
      '/' ∉ n ∧ n ≠ "@vite-golang".toList := by
    intro n hn
    simp only [Path.way, htarget] at hn
    rcases List.mem_append.1 hn with hn | hn
    · rw [List.eq_of_mem_replicate hn]
      decide
    · rcases List.mem_append.1 (List.mem_of_mem_drop hn) with hn | hn
      · exact ⟨(hb.plain n hn).noSlash, fun h => hroot (h ▸ hn)⟩
      · rw [List.mem_singleton.1 hn]
        refine ⟨hslot.noSlash, fun h => ?_⟩
        have hmark : '_' ∈ Slot.name id := by simp [Slot.name]
        rw [h] at hmark
        exact absurd hmark (by decide)
  intro h
  have hnoSlash : '/' ∉ "@vite-golang".toList := by decide
  have hpiece := mem_splitOn_of_between hnoSlash h
  rw [shownSlot, Path.text] at hpiece
  split at hpiece
  · rw [splitOn_of_not_mem (by decide), List.mem_singleton] at hpiece
    exact absurd hpiece (by decide)
  · rcases mem_splitOn_join_append (fun n hn => (hnames n hn).1) htail hpiece with h | h
    · exact (hnames _ h).2 rfl
    · exact hlong h

end Wrapper
end EmbeddedGo
