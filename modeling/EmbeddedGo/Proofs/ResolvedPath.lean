/-
EmbeddedGo.Proofs.ResolvedPath — paths from the top that go straight down.

`realPath` gives such paths, whatever the path it starts from and whatever the links on the way
(`isResolved_of_realPath`), so the two roots of a plugin are such paths (`Plugin.create`). They are
the ones whose text says the same as the path itself (`ofText_text`), which is why a path that is
handed to another program as a text means the same there.

  §1 cutting what was joined
  §2 plain names and resolved paths
  §3 the names of slots
  §4 real paths
-/
import EmbeddedGo.Plugin

namespace EmbeddedGo

/-! ## §1 Cutting what was joined -/

namespace Text

theorem splitOn_join {sep : Char} {pieces : List Text} (hp : pieces ≠ [])
    (h : ∀ piece ∈ pieces, sep ∉ piece) : splitOn sep (join [sep] pieces) = pieces := by
  induction pieces with
  | nil => exact absurd rfl hp
  | cons a rest ih =>
    have ha : sep ∉ a := h a (List.mem_cons_self ..)
    cases rest with
    | nil => simpa [join] using splitOn_of_not_mem ha
    | cons b rest =>
      rw [join_cons_cons, List.append_assoc, List.singleton_append, splitOn_append_cons ha,
        ih (by simp) fun piece hm => h piece (List.mem_cons_of_mem _ hm)]

theorem splitOn_append (sep : Char) (s rest : Text) :
    splitOn sep (s ++ sep :: rest) = splitOn sep s ++ splitOn sep rest := by
  induction s with
  | nil => simp [splitOn]
  | cons c s ih =>
    by_cases hc : c = sep
    · simp [splitOn, hc, ih]
    · cases h : splitOn sep s with
      | nil => exact absurd h (splitOn_ne_nil sep s)
      | cons piece pieces => simp [splitOn, hc, ih, h]

theorem join_append_singleton (sep last : Text) {init : List Text} (h : init ≠ []) :
    join sep (init ++ [last]) = join sep init ++ sep ++ last := by
  induction init with
  | nil => exact absurd rfl h
  | cons a rest ih =>
    cases rest with
    | nil => simp [join]
    | cons b rest =>
      rw [List.cons_append, List.cons_append, join_cons_cons, ← List.cons_append, ih (by simp),
        join_cons_cons]
      simp only [List.append_assoc]

/-- What stands in a joined text stands in a piece, or between two. -/
theorem mem_join {c : Char} {sep : Text} {pieces : List Text} (h : c ∈ join sep pieces) :
    c ∈ sep ∨ ∃ piece ∈ pieces, c ∈ piece := by
  induction pieces with
  | nil => simp [join] at h
  | cons a rest ih =>
    cases rest with
    | nil => exact .inr ⟨a, by simp, by simpa [join] using h⟩
    | cons b rest =>
      rw [join_cons_cons, List.mem_append, List.mem_append] at h
      rcases h with (h | h) | h
      · exact .inr ⟨a, by simp, h⟩
      · exact .inl h
      · rcases ih h with hsep | ⟨piece, hpiece, hc⟩
        · exact .inl hsep
        · exact .inr ⟨piece, List.mem_cons_of_mem _ hpiece, hc⟩

theorem isAlphanum_of_mem_toDigits (n : Nat) : ∀ c ∈ Nat.toDigits 16 n, c.isAlphanum = true := by
  have hdigit : ∀ k : Fin 16, (Nat.digitChar k).isAlphanum = true := by decide
  induction n using Nat.strongRecOn with
  | ind n ih =>
    intro c hc
    rw [Nat.toDigits_eq_if (by decide)] at hc
    split at hc
    · next hn => exact List.mem_singleton.1 hc ▸ hdigit ⟨n, hn⟩
    · rcases List.mem_append.1 hc with hc | hc
      · exact ih (n / 16) (by omega) c hc
      · exact List.mem_singleton.1 hc ▸ hdigit ⟨n % 16, by omega⟩

theorem isAlphanum_of_mem_hexPadded (width n : Nat) :
    ∀ c ∈ hexPadded width n, c.isAlphanum = true := by
  intro c hc
  rcases List.mem_append.1 hc with hc | hc
  · rw [List.eq_of_mem_replicate hc]
    decide
  · exact isAlphanum_of_mem_toDigits n c hc

end Text

/-! ## §2 Plain names -/

namespace Path

/-- A name that an entry of a directory can have. -/
structure IsPlain (name : Text) : Prop where
  notEmpty : name ≠ []
  notDot : name ≠ ['.']
  notDots : name ≠ ['.', '.']
  noSlash : '/' ∉ name

instance (name : Text) : Decidable (IsPlain name) :=
  decidable_of_iff (name ≠ [] ∧ name ≠ ['.'] ∧ name ≠ ['.', '.'] ∧ '/' ∉ name)
    ⟨fun ⟨he, hd, hds, hs⟩ => ⟨he, hd, hds, hs⟩, fun ⟨he, hd, hds, hs⟩ => ⟨he, hd, hds, hs⟩⟩

/-- A path from the top without detours. -/
structure IsResolved (p : Path) : Prop where
  slashes : p.slashes = 1
  plain : ∀ name ∈ p.names, IsPlain name

theorem IsPlain.isName {name : Text} (h : IsPlain name) : isName name = true := by
  simp [Path.isName, h.notEmpty, h.notDot]

theorem isAbsolute_ofText_iff {s : Text} : (ofText s).isAbsolute = true ↔ ['/'] <+: s := by
  have hslash : ∀ rest, rootSlashes ('/' :: rest) ≠ 0 := by
    intro rest
    unfold rootSlashes
    grind
  cases s with
  | nil => simp [ofText, Path.isAbsolute, rootSlashes]
  | cons c s =>
    by_cases hc : c = '/'
    · subst hc
      simp [ofText, Path.isAbsolute, hslash]
    · have h0 : rootSlashes (c :: s) = 0 := by
        unfold rootSlashes
        grind
      simp [ofText, Path.isAbsolute, h0, Ne.symm hc]

theorem ofText_of_plain {name : Text} (h : IsPlain name) : ofText name = ⟨0, [name]⟩ := by
  rw [ofText_of_not_mem h.noSlash, if_pos h.isName]

theorem child_of_plain (p : Path) {name : Text} (h : IsPlain name) :
    p.child name = ⟨p.slashes, p.names ++ [name]⟩ := by
  rw [child, ofText_of_plain h]
  exact join_of_not_absolute rfl

theorem IsResolved.child {p : Path} (hp : p.IsResolved) {name : Text} (h : IsPlain name) :
    (p.child name).IsResolved := by
  rw [child_of_plain p h]
  refine ⟨hp.slashes, fun n hn => ?_⟩
  rcases List.mem_append.1 hn with hn | hn
  · exact hp.plain n hn
  · exact List.mem_singleton.1 hn ▸ h

theorem IsResolved.eq_ofNames {p : Path} (hp : p.IsResolved) : p = ofNames p.names := by
  obtain ⟨slashes, names⟩ := p
  have := hp.slashes
  subst this
  rfl

/-- A path one plain name below a resolved one. -/
theorem IsResolved.child_eq {p : Path} (hp : p.IsResolved) {name : Text} (h : IsPlain name) :
    p.child name = ofNames (p.names ++ [name]) := by
  rw [child_of_plain p h, hp.slashes]
  rfl

theorem IsResolved.isAbsolute {p : Path} (hp : p.IsResolved) : p.isAbsolute = true := by
  simp [Path.isAbsolute, hp.slashes]

theorem text_ofNames (names : List Text) : (ofNames names).text = '/' :: Text.join "/" names := by
  simp [Path.text, ofNames]

theorem IsResolved.text {p : Path} (hp : p.IsResolved) : p.text = '/' :: Text.join "/" p.names := by
  rw [hp.eq_ofNames, text_ofNames]
  rfl

/-- The text of a path below another begins with the text of that one. -/
theorem text_prefix_text (names : List Text) (last : Text) :
    (ofNames names).text <+: (ofNames (names ++ [last])).text := by
  rw [text_ofNames, text_ofNames]
  cases names with
  | nil => exact ⟨last, by simp [Text.join]⟩
  | cons a rest =>
    rw [Text.join_append_singleton _ _ (by simp)]
    exact ⟨['/'] ++ last, by simp⟩

/-- The last name stands behind the last slash. -/
theorem text_eq_append (names : List Text) (last : Text) :
    ∃ s, (ofNames (names ++ [last])).text = s ++ '/' :: last := by
  rw [text_ofNames]
  cases names with
  | nil => exact ⟨[], by simp [Text.join]⟩
  | cons a rest =>
    rw [Text.join_append_singleton _ _ (by simp)]
    exact ⟨'/' :: Text.join "/" (a :: rest), by simp⟩

/-- The text of a resolved path is read as that path. -/
theorem IsResolved.ofText_text {p : Path} (hp : p.IsResolved) : ofText p.text = p := by
  have hs : ∀ name ∈ p.names, '/' ∉ name := fun name hn => (hp.plain name hn).noSlash
  have hf : p.names.filter Path.isName = p.names :=
    List.filter_eq_self.2 fun name hn => (hp.plain name hn).isName
  rw [hp.text]
  cases hnames : p.names with
  | nil =>
    obtain ⟨slashes, names⟩ := p
    cases hnames
    have := hp.slashes
    subst this
    rfl
  | cons first rest =>
    have hroot : rootSlashes ('/' :: Text.join "/" (first :: rest)) = 1 := by
      have hfirst := hp.plain first (hnames ▸ List.mem_cons_self ..)
      cases hc : first with
      | nil => exact absurd hc hfirst.notEmpty
      | cons c name =>
        have hslash : c ≠ '/' := fun h => hfirst.noSlash (by simp [hc, h])
        cases rest <;> simp [Text.join, List.intercalate, List.intersperse, rootSlashes, hslash]
    rw [ofText, hroot, Text.splitOn, if_pos rfl]
    rw [hnames] at hs hf
    rw [show ("/" : Text) = ['/'] from rfl, Text.splitOn_join (by simp) hs, List.filter_cons,
      if_neg (by simp [Path.isName]), hf, hp.eq_ofNames, hnames]
    rfl

end Path

/-! ## §3 Slots -/

theorem Digest.isAlphanum_of_mem_hex (bytes : Bytes) : ∀ c ∈ hex bytes, c.isAlphanum = true := by
  intro c hc
  obtain ⟨b, -, hb⟩ := List.mem_flatMap.1 hc
  exact Text.isAlphanum_of_mem_hexPadded 2 b.toNat c hb

namespace Slot

/-- The name of a slot is the name of one directory. -/
theorem isPlain_name (path : Text) : Path.IsPlain (name path) := by
  have hmark : '_' ∈ name path := by simp [name]
  refine ⟨?_, ?_, ?_, ?_⟩
  · exact List.ne_nil_of_mem hmark
  · rintro h
    simp [h] at hmark
  · rintro h
    simp [h] at hmark
  · rw [name, List.mem_append, List.mem_append]
    rintro ((h | h) | h)
    · exact absurd (isSlash_of_mem_sanitize h).1 (by decide)
    · simp at h
    · exact absurd (Digest.isAlphanum_of_mem_hex _ _ (List.mem_of_mem_take h)) (by decide)

end Slot

/-! ## §4 Real paths -/

namespace FileTree

/-- Links lead through names that were read, so following them brings no other names in. -/
theorem mem_chase {t : FileTree} {depth : Nat} {busy : List Place} {names : List Text}
    {here : Place} {good : Text → Prop} (hnames : ∀ n ∈ names, good n) (hhere : ∀ n ∈ here, good n)
    (hread : ∀ s, ∀ n ∈ (Path.ofText s).names, good n) :
    ∀ n ∈ (t.chase depth busy names here).1, good n := by
  have hstart : ∀ (here : Place) (target : Text), (∀ n ∈ here, good n) →
      ∀ n ∈ targetStart here target, good n := by
    intro here target h n hn
    unfold targetStart at hn
    split at hn
    · simp at hn
    · exact h n hn
  have hstop : ∀ (here : Place) (name : Text) (rest : List Text), (∀ n ∈ here, good n) →
      (∀ n ∈ name :: rest, good n) → ∀ n ∈ here ++ name :: rest, good n := by
    intro here name rest hh hr n hn
    exact (List.mem_append.1 hn).elim (hh n) (hr n)
  fun_induction chase t depth busy names here with
  | case1 depth busy here => exact hhere
  | case2 depth busy rest here ih =>
    exact ih (fun n hn => hnames n (List.mem_cons_of_mem _ hn))
      fun n hn => hhere n ((List.dropLast_sublist here).subset hn)
  | case3 busy name rest here _ target m _ => exact hstop here name rest hhere hnames
  | case4 busy name rest here _ target m _ depth _ => exact hstop here name rest hhere hnames
  | case5 busy name rest here _ target m _ depth _ place hplace ih1 ih2 =>
    have hp : ∀ n ∈ place, good n := by
      simpa [hplace] using ih1 (hread target) (hstart here target hhere)
    exact ih2 (fun n hn => hnames n (List.mem_cons_of_mem _ hn)) hp
  | case6 busy name rest here _ target m _ depth _ place hplace ih1 =>
    have hp : ∀ n ∈ place, good n := by
      simpa [hplace] using ih1 (hread target) (hstart here target hhere)
    intro n hn
    rcases List.mem_append.1 hn with hn | hn
    · exact hp n hn
    · exact hnames n (List.mem_cons_of_mem _ hn)
  | case7 depth busy name rest here _ _ ih =>
    refine ih (fun n hn => hnames n (List.mem_cons_of_mem _ hn)) fun n hn => ?_
    rcases List.mem_append.1 hn with hn | hn
    · exact hhere n hn
    · exact hnames n (List.mem_singleton.1 hn ▸ List.mem_cons_self ..)

/-- A name that was read, or that an entry has. -/
def IsWritten (name : Text) : Prop := name ≠ [] ∧ name ≠ ['.'] ∧ '/' ∉ name

theorem IsWritten.of_plain {name : Text} (h : Path.IsPlain name) : IsWritten name :=
  ⟨h.notEmpty, h.notDot, h.noSlash⟩

/-- A real path is resolved, if it starts at the top or in a directory that can be. -/
theorem isResolved_of_realPath {t : FileTree} {p r : Path}
    (hhere : p.isAbsolute = false → ∀ n ∈ t.here, Path.IsPlain n)
    (hp : ∀ n ∈ p.names, IsWritten n) (h : t.realPath p = .ok r) : r.IsResolved := by
  have hstart : ∀ n ∈ (if p.isAbsolute then [] else t.here), IsWritten n := by
    intro n hn
    split at hn
    · simp at hn
    · next ha => exact .of_plain (hhere (by simpa using ha) n hn)
  unfold realPath at h
  split at h
  · simp at h
  · dsimp only at h
    split at h
    · simp at h
    · cases h
      refine ⟨rfl, fun n hn => ?_⟩
      obtain ⟨hmem, hdots⟩ := Path.mem_of_mem_climb hn
      have := mem_chase hp hstart (fun s n hn => Path.mem_names_ofText hn) n hmem
      exact ⟨this.1, this.2.1, hdots, this.2.2⟩

end FileTree

theorem Host.realPath_eq_ok_iff {files : FileTree} {p r : Path} :
    Host.realPath files p = .ok r ↔ files.realPath p = .ok r := by
  unfold Host.realPath
  split
  · next h => rw [h, Except.ok.injEq, Except.ok.injEq]
  · next h => simp [h]
  · next h => simp [h]

theorem Host.isResolved_of_realPath {files : FileTree} {p r : Path}
    (hhere : p.isAbsolute = false → ∀ n ∈ files.here, Path.IsPlain n)
    (hp : ∀ n ∈ p.names, FileTree.IsWritten n) (h : Host.realPath files p = .ok r) :
    r.IsResolved :=
  FileTree.isResolved_of_realPath hhere hp (realPath_eq_ok_iff.1 h)

/-- A plugin is its options, the two roots behind all links, and its mode. -/
theorem Plugin.create_eq_ok_iff {files : FileTree} {options : Options} {root : Path} {mode : Text}
    {p : Plugin} :
    Plugin.create files options root mode = .ok p ↔
      Host.realPath files root = .ok p.projectRoot ∧
        BuildRoot.ofOptions files options p.projectRoot = .ok p.buildRoot ∧
        Mode.ofText mode = .ok p.mode ∧ p.options = options := by
  unfold Plugin.create
  simp only [bind, Except.bind, pure, Except.pure]
  cases hproject : Host.realPath files root with
  | error e => simp
  | ok project =>
    dsimp only
    cases hbuild : BuildRoot.ofOptions files options project with
    | error e =>
      refine iff_of_false (by simp) ?_
      rintro ⟨hp, hb, -⟩
      cases hp
      rw [hbuild] at hb
      cases hb
    | ok build =>
      dsimp only
      cases hmode : Mode.ofText mode with
      | error e => simp
      | ok m =>
        obtain ⟨options', project', build', mode'⟩ := p
        simp only [Except.ok.injEq, Plugin.mk.injEq]
        constructor
        · rintro ⟨rfl, rfl, rfl, rfl⟩
          exact ⟨rfl, hbuild, rfl, rfl⟩
        · rintro ⟨rfl, hb, rfl, rfl⟩
          rw [hbuild] at hb
          exact ⟨rfl, rfl, Except.ok.inj hb, rfl⟩

/-- Both roots of a plugin are resolved, if the path of the project was read. -/
theorem Plugin.isResolved_of_written {files : FileTree} (hhere : ∀ n ∈ files.here, Path.IsPlain n)
    {options : Options} {root : Path} (hroot : ∀ n ∈ root.names, FileTree.IsWritten n) {mode : Text}
    {p : Plugin} (h : Plugin.create files options root mode = .ok p) :
    p.projectRoot.IsResolved ∧ p.buildRoot.IsResolved := by
  obtain ⟨hproject, hbuild, -, -⟩ := create_eq_ok_iff.1 h
  have hp : p.projectRoot.IsResolved := Host.isResolved_of_realPath (fun _ => hhere) hroot hproject
  refine ⟨hp, Host.isResolved_of_realPath (fun _ => hhere) (fun n hn => ?_) hbuild⟩
  -- the configured directory is seen from the project, unless it is absolute
  by_cases ha : (Path.ofText options.buildDirectory).isAbsolute = true
  · have hjoin : p.projectRoot / Path.ofText options.buildDirectory =
        Path.ofText options.buildDirectory := if_pos ha
    rw [hjoin] at hn
    exact Path.mem_names_ofText hn
  · rw [Path.join_of_not_absolute (by simpa using ha)] at hn
    rcases List.mem_append.1 hn with hn | hn
    · exact .of_plain (hp.plain n hn)
    · exact Path.mem_names_ofText hn

theorem Plugin.isResolved_of_create {files : FileTree} (hhere : ∀ n ∈ files.here, Path.IsPlain n)
    {options : Options} {root mode : Text} {p : Plugin}
    (h : Plugin.create files options (Path.ofText root) mode = .ok p) :
    p.projectRoot.IsResolved ∧ p.buildRoot.IsResolved :=
  isResolved_of_written hhere (fun _ hn => Path.mem_names_ofText hn) h

end EmbeddedGo
