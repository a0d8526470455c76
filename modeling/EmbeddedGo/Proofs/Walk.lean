/-
EmbeddedGo.Proofs.Walk — where a walk through a tree ends.

Two things are said about walks. One is about changes: a tree whose entries keep their kinds
(`Keeps`) is walked as before, so what a path led to it leads to afterwards; writing a file
is such a change. The other is about places that no link stands on the way to (`IsStraight`):
there the names of a path are the place itself.

Whole runs on trees that are written out are evaluated further on, by `cbv`. It uses the equations that
Mathlib has for functions on lists, texts and bytes, which is why all of it is imported here.

  §1 entries
  §2 one step of a walk
  §3 trees that keep their entries
  §4 writing a file
  §5 resolved paths and their texts
  §6 places behind no link
-/
import Mathlib
import EmbeddedGo.Proofs.ResolvedPath

namespace EmbeddedGo.FileTree

/-! ## §1 Entries -/

/-- What stands at a place, whenever it was changed. -/
def entryAt (t : FileTree) (place : Place) : Option Entry := (t.get? place).map Item.entry

theorem entryAt_nil (t : FileTree) : t.entryAt [] = some .directory := rfl

theorem entryAt_put {place : Place} (hp : place ≠ []) (t : FileTree) (item : Item) (other : Place) :
    (t.put place item).entryAt other = if other = place then some item.entry else t.entryAt other := by
  rw [entryAt, get?_put hp]
  split <;> rfl

theorem entryAt_insert {place : Place} (hp : place ≠ []) (t : FileTree) (entry : Entry)
    (other : Place) :
    (t.insert place entry).entryAt other = if other = place then some entry else t.entryAt other :=
  entry_insert hp t entry other

theorem entryAt_eq_some {t : FileTree} {place : Place} {e : Entry} (h : t.entryAt place = some e) :
    ∃ modified, t.get? place = some ⟨e, modified⟩ := by
  obtain ⟨⟨e', m⟩, hitem, rfl⟩ := Option.map_eq_some_iff.1 h
  exact ⟨m, hitem⟩

theorem get?_eq_none_of_entryAt {t : FileTree} {place : Place} (h : t.entryAt place = none) :
    t.get? place = none := Option.map_eq_none_iff.1 h

theorem entryAt_of_get? {t : FileTree} {place : Place} {item : Item} (h : t.get? place = some item) :
    t.entryAt place = some item.entry := by rw [entryAt, h, Option.map_some]

/-! ## §2 Steps -/

section Steps

variable {t : FileTree} {follow : Bool} {links : Nat} {name : Text} {rest : List Text} {here : Place}

/-- Whether a name is short enough for an entry. -/
def Fits (name : Text) : Prop := (Utf8.encode name).length ≤ nameLimit

theorem walk_cons (hdots : name ≠ ['.', '.']) (hdot : name ≠ ['.']) (hf : Fits name) :
    t.walk follow links (name :: rest) here =
      match t.get? (here ++ [name]) with
      | none => if rest.isEmpty then .ok (here ++ [name], none) else .error .notFound
      | some ⟨.directory, _⟩ => t.walk follow links rest (here ++ [name])
      | some ⟨.file c, m⟩ =>
        if rest.isEmpty then .ok (here ++ [name], some ⟨.file c, m⟩) else .error .notDirectory
      | some ⟨.link target, m⟩ =>
        if rest.isEmpty && !follow then .ok (here ++ [name], some ⟨.link target, m⟩)
        else match links with
          | 0 => .error .tooManyLinks
          | links + 1 =>
            t.walk follow links (targetSteps target ++ rest) (targetStart here target) := by
  rw [walk]
  exact (if_neg hdots).trans ((if_neg hdot).trans (if_neg (Nat.not_lt.2 hf)))

theorem walk_cons_directory (hdots : name ≠ ['.', '.']) (hdot : name ≠ ['.']) (hf : Fits name)
    (h : t.entryAt (here ++ [name]) = some .directory) :
    t.walk follow links (name :: rest) here = t.walk follow links rest (here ++ [name]) := by
  obtain ⟨m, h⟩ := entryAt_eq_some h
  rw [walk_cons hdots hdot hf, h]

theorem walk_cons_none (hn : Path.IsPlain name) (hf : Fits name)
    (h : t.entryAt (here ++ [name]) = none) (hr : rest ≠ []) :
    t.walk follow links (name :: rest) here = .error .notFound := by
  rw [walk_cons hn.notDots hn.notDot hf, get?_eq_none_of_entryAt h]
  simp [hr]

theorem walk_cons_file (hn : Path.IsPlain name) (hf : Fits name) {content : Bytes}
    (h : t.entryAt (here ++ [name]) = some (.file content)) (hr : rest ≠ []) :
    t.walk follow links (name :: rest) here = .error .notDirectory := by
  obtain ⟨m, h⟩ := entryAt_eq_some h
  rw [walk_cons hn.notDots hn.notDot hf, h]
  simp [hr]

theorem walk_cons_tooLong (hn : Path.IsPlain name) (hf : ¬ Fits name) :
    t.walk follow links (name :: rest) here = .error .nameTooLong := by
  rw [walk, if_neg hn.notDots, if_neg hn.notDot, if_pos (Nat.lt_of_not_le hf)]

/-- Where no link stands the last name leads to what stands there. -/
theorem walk_last (hdots : name ≠ ['.', '.']) (hdot : name ≠ ['.']) (hf : Fits name)
    (h : ∀ target, t.entryAt (here ++ [name]) ≠ some (.link target)) :
    t.walk follow links [name] here = .ok (here ++ [name], t.get? (here ++ [name])) := by
  rw [walk_cons hdots hdot hf]
  match hitem : t.get? (here ++ [name]) with
  | none => rfl
  | some ⟨.directory, m⟩ => simp [walk, hitem]
  | some ⟨.file c, m⟩ => rfl
  | some ⟨.link target, m⟩ => exact absurd (entryAt_of_get? hitem) (h target)

/-- What a walk finds is what stands where it ends. -/
theorem walk_found {names : List Text} {place : Place} {found : Option Item}
    (h : t.walk follow links names here = .ok (place, found)) : found = t.get? place := by
  fun_induction walk t follow links names here with
  | case1 => cases h; rfl
  | case2 _ _ _ ih => exact ih h
  | case3 _ _ _ _ ih => exact ih h
  | case5 _ _ _ _ _ _ _ hitem => cases h; exact hitem.symm
  | case7 _ _ _ _ _ _ _ _ _ ih => exact ih h
  | case8 _ _ _ _ _ _ _ _ _ hitem => cases h; exact hitem.symm
  | case10 _ _ _ _ _ _ _ _ _ hitem => cases h; exact hitem.symm
  | case12 _ _ _ _ _ _ _ _ _ _ _ ih => exact ih h
  | _ => simp at h

theorem locate_found {p : Path} {place : Place} {found : Option Item}
    (h : t.locate follow p = .ok (place, found)) : found = t.get? place := by
  unfold locate at h
  split at h
  · simp at h
  · split at h
    · simp at h
    · exact walk_found h

theorem locateWord_found {word : Text} {place : Place} {found : Option Item}
    (h : t.locateWord word = .ok (place, found)) : found = t.get? place := by
  unfold locateWord at h
  split at h
  · simp at h
  · split at h
    · simp at h
    · split at h
      · simp at h
      · exact walk_found h

/-- Directories are walked through. -/
theorem walk_append (names : List Text) (hn : ∀ n ∈ names, Path.IsPlain n)
    (hf : ∀ n ∈ names, Fits n)
    (hd : ∀ q, q <+: names → t.entryAt (here ++ q) = some .directory) :
    t.walk follow links (names ++ rest) here = t.walk follow links rest (here ++ names) := by
  induction names generalizing here with
  | nil => simp
  | cons name names ih =>
    have hone : t.entryAt (here ++ [name]) = some .directory := hd [name] (by simp)
    rw [List.cons_append, walk_cons_directory (hn name (by simp)).notDots (hn name (by simp)).notDot
        (hf name (by simp)) hone,
      ih (fun n h => hn n (List.mem_cons_of_mem _ h)) (fun n h => hf n (List.mem_cons_of_mem _ h)),
      List.append_assoc, List.singleton_append]
    intro q hq
    rw [List.append_assoc, List.singleton_append]
    exact hd (name :: q) (List.cons_prefix_cons.2 ⟨rfl, hq⟩)

end Steps

/-! ## §3 Changes -/

/-- Every entry of the first tree is of the same kind in the second: links and directories are the
same, and a file is a file. -/
structure Keeps (t t' : FileTree) : Prop where
  directories : ∀ place, t.entryAt place = some .directory → t'.entryAt place = some .directory
  links : ∀ place target, t.entryAt place = some (.link target) →
    t'.entryAt place = some (.link target)
  files : ∀ place content, t.entryAt place = some (.file content) →
    ∃ content', t'.entryAt place = some (.file content')

theorem Keeps.refl (t : FileTree) : Keeps t t :=
  ⟨fun _ h => h, fun _ _ h => h, fun _ c h => ⟨c, h⟩⟩

theorem Keeps.trans {a b c : FileTree} (h : Keeps a b) (h' : Keeps b c) : Keeps a c := by
  refine ⟨fun p hp => h'.directories p (h.directories p hp),
    fun p target hp => h'.links p target (h.links p target hp), fun p content hp => ?_⟩
  obtain ⟨content', hp⟩ := h.files p content hp
  exact h'.files p content' hp

/-- A walk that arrives still arrives at the same place, unless a link stands there now. -/
theorem Keeps.walk {t t' : FileTree} (h : Keeps t t') {links : Nat} {names : List Text}
    {here place : Place} {found : Option Item} (hw : t.walk true links names here = .ok (place, found))
    (hlink : ∀ target, t'.entryAt place ≠ some (.link target)) :
    t'.walk true links names here = .ok (place, t'.get? place) := by
  fun_induction FileTree.walk t true links names here with
  | case1 links here =>
    cases hw
    rw [FileTree.walk]
  | case2 links rest here ih => rw [FileTree.walk, if_pos rfl, ih hw]
  | case3 links rest here hd ih => rw [FileTree.walk, if_neg hd, if_pos rfl, ih hw]
  | case5 links name rest here hdots hdot hf hitem hr =>
    cases hw
    cases List.isEmpty_iff.1 hr
    exact walk_last hdots hdot (Nat.not_lt.1 hf) hlink
  | case7 links name rest here hdots hdot hf m hitem ih =>
    rw [walk_cons_directory hdots hdot (Nat.not_lt.1 hf)
      (h.directories _ (entryAt_of_get? hitem)), ih hw]
  | case8 links name rest here hdots hdot hf c m hitem hr =>
    cases hw
    cases List.isEmpty_iff.1 hr
    exact walk_last hdots hdot (Nat.not_lt.1 hf) hlink
  | case10 links name rest here hdots hdot hf target m hitem hr => simp at hr
  | case12 name rest here hdots hdot hf target m hitem hr links ih =>
    obtain ⟨m', hitem'⟩ := entryAt_eq_some (h.links _ _ (entryAt_of_get? hitem))
    rw [walk_cons hdots hdot (Nat.not_lt.1 hf), hitem']
    simp only [hr]
    exact ih hw
  | _ => simp at hw

/-- The second tree has more directories, where nothing stood, and is else the same. -/
def Makes (t t' : FileTree) : Prop :=
  ∀ q, t'.entryAt q = t.entryAt q ∨ t.entryAt q = none ∧ t'.entryAt q = some .directory

theorem Makes.refl (t : FileTree) : Makes t t := fun _ => .inl rfl

theorem Makes.trans {a b c : FileTree} (h : Makes a b) (h' : Makes b c) : Makes a c := by
  intro q
  rcases h' q with h' | ⟨hnone, hdir⟩
  · rw [h']
    exact h q
  · rcases h q with h | ⟨-, hmade⟩
    · exact .inr ⟨h ▸ hnone, hdir⟩
    · rw [hmade] at hnone
      cases hnone

/-- What stood anywhere stands there still. -/
theorem Makes.entryAt_eq {t t' : FileTree} (h : Makes t t') {q : Place} {e : Entry}
    (he : t.entryAt q = some e) : t'.entryAt q = some e := by
  rcases h q with h | ⟨hnone, -⟩
  · rw [h, he]
  · rw [he] at hnone
    cases hnone

theorem Makes.keeps {t t' : FileTree} (h : Makes t t') : Keeps t t' :=
  ⟨fun _ hq => h.entryAt_eq hq, fun _ _ hq => h.entryAt_eq hq,
    fun _ content hq => ⟨content, h.entryAt_eq hq⟩⟩

theorem makes_makeDirectory {t t' : FileTree} {p : Path} (h : t.makeDirectory p = .ok t') :
    Makes t t' := by
  unfold makeDirectory at h
  split at h
  · simp at h
  · next place hl =>
    cases h
    have hnone : t.entryAt place = none := Option.map_eq_none_iff.2 (locate_found hl).symm
    have hp : place ≠ [] := by
      rintro rfl
      simp [entryAt_nil] at hnone
    intro q
    rw [entryAt_insert hp]
    split
    · next hq => exact .inr ⟨hq ▸ hnone, rfl⟩
    · exact .inl rfl
  · simp at h

theorem makes_ensureDirectory {t t' : FileTree} {p : Path} (h : t.ensureDirectory p = .ok t') :
    Makes t t' := by
  unfold ensureDirectory at h
  split at h
  · cases h
    exact makes_makeDirectory (by assumption)
  · split at h
    · simp at h
    · cases h
      exact .refl _
    · simp at h

/-- Making directories leaves what is there, also where it is refused on the way. -/
theorem makes_ensurePath (depth : Nat) (t : FileTree) (p : Path) :
    Makes t (t.ensurePath depth p).2 := by
  fun_induction ensurePath depth t p with
  | case1 depth t p t' h => exact makes_makeDirectory h
  | case2 t p h => exact .refl _
  | case3 t p h depth f t' hrec ih => simpa [hrec] using ih
  | case4 t p h depth t' hrec t'' hlast ih =>
    rw [hrec] at ih
    exact ih.trans (makes_ensureDirectory hlast)
  | case5 t p h depth t' hrec f hlast ih => simpa [hrec] using ih
  | case6 depth t p e hne h t' hlast => exact makes_ensureDirectory hlast
  | case7 depth t p e hne h f hlast => exact .refl _

/-- Every step down to a place is a directory. -/
def IsOpen (t : FileTree) (place : Place) : Prop :=
  ∀ q, q <+: place → t.entryAt q = some .directory

theorem isOpen_nil (t : FileTree) : t.IsOpen [] := by
  intro q hq
  rw [List.prefix_nil.1 hq, entryAt_nil]

theorem IsOpen.snoc {t : FileTree} {place : Place} {name : Text} (h : t.IsOpen place)
    (hd : t.entryAt (place ++ [name]) = some .directory) : t.IsOpen (place ++ [name]) := by
  intro q hq
  rcases List.prefix_concat_iff.1 hq with rfl | hq
  · exact hd
  · exact h q hq

theorem IsOpen.above {t : FileTree} {place q : Place} (h : t.IsOpen place) (hq : q <+: place) :
    t.IsOpen q :=
  fun r hr => h r (hr.trans hq)

/-- A walk through links from a place that is open ends below one, and never at a link. -/
theorem walk_lands {t : FileTree} {links : Nat} {names : List Text} {here place : Place}
    {found : Option Item} (ho : t.IsOpen here) (h : t.walk true links names here = .ok (place, found)) :
    t.IsOpen place.dropLast ∧ ∀ target, t.entryAt place ≠ some (.link target) := by
  have hstart : ∀ {here : Place} (target : Text), t.IsOpen here →
      t.IsOpen (targetStart here target) := by
    intro here target ho
    unfold targetStart
    split
    · exact isOpen_nil t
    · exact ho
  fun_induction FileTree.walk t true links names here with
  | case1 links here =>
    cases h
    exact ⟨ho.above (List.dropLast_prefix _), by simp [ho _ (List.prefix_refl _)]⟩
  | case2 links rest here ih => exact ih (ho.above (List.dropLast_prefix _)) h
  | case3 links rest here hd ih => exact ih ho h
  | case5 links name rest here hdots hdot hf hitem hr =>
    cases h
    exact ⟨by simpa using ho, by simp [entryAt, hitem]⟩
  | case7 links name rest here hdots hdot hf m hitem ih =>
    exact ih (ho.snoc (entryAt_of_get? hitem)) h
  | case8 links name rest here hdots hdot hf c m hitem hr =>
    cases h
    exact ⟨by simpa using ho, by simp [entryAt, hitem]⟩
  | case10 links name rest here hdots hdot hf target m hitem hr => simp at hr
  | case12 name rest here hdots hdot hf target m hitem hr links ih => exact ih (hstart target ho) h
  | _ => simp at h

/-! ## §4 Writing a file -/

/-- Whether a file can be written where such an entry stands. -/
def CanHold : Option Entry → Bool
  | none | some (.file _) => true
  | _ => false

/-- The tree with a file at a place, new or in the place of another. -/
def putFile (t : FileTree) (place : Place) (content : Bytes) : FileTree :=
  if (t.get? place).isNone then t.insert place (.file content)
  else t.put place ⟨.file content, t.clock⟩

theorem here_touch (t : FileTree) (place : Place) : (t.touch place).here = t.here := by
  unfold touch
  split <;> rfl

theorem here_insert (t : FileTree) (place : Place) (entry : Entry) :
    (t.insert place entry).here = t.here := here_touch ..

theorem here_putFile (t : FileTree) (place : Place) (content : Bytes) :
    (t.putFile place content).here = t.here := by
  unfold putFile
  split
  · exact here_insert ..
  · rfl

theorem ne_nil_of_canHold {t : FileTree} {place : Place} (h : CanHold (t.entryAt place) = true) :
    place ≠ [] := by
  rintro rfl
  rw [entryAt_nil] at h
  simp [CanHold] at h

theorem entryAt_putFile {t : FileTree} {place : Place} (hp : place ≠ []) (content : Bytes)
    (other : Place) :
    (t.putFile place content).entryAt other =
      if other = place then some (.file content) else t.entryAt other := by
  unfold putFile
  split
  · exact entryAt_insert hp ..
  · exact entryAt_put hp ..

theorem keeps_putFile {t : FileTree} {place : Place} (h : CanHold (t.entryAt place) = true)
    (content : Bytes) : Keeps t (t.putFile place content) := by
  have hp := ne_nil_of_canHold h
  refine ⟨fun q hq => ?_, fun q target hq => ?_, fun q c hq => ?_⟩
  · have hne : q ≠ place := by rintro rfl; simp [hq, CanHold] at h
    rw [entryAt_putFile hp, if_neg hne, hq]
  · have hne : q ≠ place := by rintro rfl; simp [hq, CanHold] at h
    rw [entryAt_putFile hp, if_neg hne, hq]
  · rw [entryAt_putFile hp]
    split
    · exact ⟨content, rfl⟩
    · exact ⟨c, hq⟩

theorem write_eq (t : FileTree) (p : Path) (content : Bytes) :
    t.write p content =
      match t.locate true p with
      | .error e => .error { refusal := e, path := p.text }
      | .ok (place, _) =>
        if CanHold (t.entryAt place) then .ok (t.putFile place content)
        else .error { refusal := .isDirectory, path := p.text } := by
  unfold write
  match hl : t.locate true p with
  | .error e => rfl
  | .ok (place, found) =>
    obtain rfl := locate_found hl
    match hitem : t.get? place with
    | none => simp [entryAt, putFile, CanHold, hitem]
    | some ⟨.file _, _⟩ => simp [entryAt, putFile, CanHold, hitem]
    | some ⟨.directory, _⟩ => simp [entryAt, CanHold, hitem]
    | some ⟨.link _, _⟩ => simp [entryAt, CanHold, hitem]

/-- A word without a slash at its end is written through like a path. -/
theorem writeWord_eq (t : FileTree) {word : Text} (hw : withoutSlashes word = word)
    (content : Bytes) :
    t.writeWord word content =
      match t.locateWord word with
      | .error e => .error e
      | .ok (place, _) =>
        if t.entryAt place = some .directory then .error .isDirectory
        else .ok (t.putFile place content) := by
  unfold writeWord
  simp only [hw, Bool.and_not_self, Bool.false_eq_true, if_false, ne_eq, not_true_eq_false]
  match hl : t.locateWord word with
  | .error e => rfl
  | .ok (place, found) =>
    obtain rfl := locateWord_found hl
    match hitem : t.get? place with
    | none => simp [entryAt, putFile, hitem]
    | some ⟨.file _, _⟩ => simp [entryAt, putFile, hitem]
    | some ⟨.directory, _⟩ => simp [entryAt, hitem]
    | some ⟨.link _, _⟩ => simp [entryAt, putFile, hitem]

theorem read_eq_ok_iff {t : FileTree} {p : Path} {content : Bytes} :
    t.read p = .ok content ↔
      ∃ place modified, t.locate true p = .ok (place, some ⟨.file content, modified⟩) := by
  unfold read find
  match t.locate true p with
  | .error e => simp
  | .ok (place, none) => simp
  | .ok (place, some ⟨.file c, m⟩) => simp
  | .ok (place, some ⟨.directory, m⟩) => simp
  | .ok (place, some ⟨.link target, m⟩) => simp

theorem isFile_of_read {t : FileTree} {p : Path} {content : Bytes} (h : t.read p = .ok content) :
    t.isFile p = .ok true := by
  obtain ⟨place, m, hl⟩ := read_eq_ok_iff.1 h
  simp [isFile, test, find, hl]

/-! ## §5 Resolved paths -/

/-- A path that the file system refuses before it looks at anything. -/
def refused? (p : Path) : Option Refusal :=
  if p.text.contains '\x00' then some .nulCharacter
  else if pathLimit ≤ (Utf8.encode p.text).length then some .nameTooLong
  else none

theorem locate_resolved (t : FileTree) (follow : Bool) {p : Path} (hp : p.IsResolved) :
    t.locate follow p =
      match refused? p with
      | some e => .error e
      | none => t.walk follow linkLimit p.names [] := by
  unfold locate refused?
  rw [hp.isAbsolute]
  split
  · rfl
  · split <;> rfl

/-- No path below a refused one is taken. -/
theorem refused?_parent {names : List Text} {last : Text}
    (h : refused? (Path.ofNames (names ++ [last])) = none) :
    refused? (Path.ofNames names) = none := by
  obtain ⟨rest, hrest⟩ := Path.text_prefix_text names last
  have hmem : '\x00' ∈ (Path.ofNames names).text → '\x00' ∈ (Path.ofNames (names ++ [last])).text :=
    fun hm => hrest ▸ List.mem_append_left _ hm
  have hlen : (Utf8.encode (Path.ofNames names).text).length ≤
      (Utf8.encode (Path.ofNames (names ++ [last])).text).length := by
    rw [← hrest, Utf8.encode_append, List.length_append]
    omega
  unfold refused? at h ⊢
  split at h
  · simp at h
  · next hnul =>
    split at h
    · simp at h
    · next hlong =>
      rw [if_neg, if_neg]
      · omega
      · intro hc
        exact hnul (List.contains_iff_mem.2 (hmem (List.contains_iff_mem.1 hc)))

section Words

variable {names : List Text} {last : Text}

theorem getLast?_text (names : List Text) (hlast : Path.IsPlain last) :
    ∃ s c, (Path.ofNames (names ++ [last])).text = s ++ [c] ∧ c ≠ '/' := by
  obtain ⟨s, hs⟩ := Path.text_eq_append names last
  refine ⟨s ++ '/' :: last.dropLast, last.getLast hlast.notEmpty, ?_, ?_⟩
  · rw [hs, List.append_assoc, List.cons_append, List.dropLast_concat_getLast]
  · intro h
    exact hlast.noSlash (h ▸ List.getLast_mem hlast.notEmpty)

theorem withoutSlashes_text (hlast : Path.IsPlain last) :
    withoutSlashes (Path.ofNames (names ++ [last])).text = (Path.ofNames (names ++ [last])).text := by
  obtain ⟨s, c, hs, hc⟩ := getLast?_text names hlast
  rw [hs, withoutSlashes]
  simp [hc]

/-- A word that is the text of a resolved path takes the steps of that path. -/
theorem targetSteps_text (h : ∀ n ∈ names ++ [last], Path.IsPlain n) :
    targetSteps (Path.ofNames (names ++ [last])).text = names ++ [last] := by
  have hp : (Path.ofNames (names ++ [last])).IsResolved := ⟨rfl, h⟩
  have hlast : Path.IsPlain last := h last (by simp)
  have hslash : Text.endsWith (Path.ofNames (names ++ [last])).text "/" = false := by
    obtain ⟨s, c, hs, hc⟩ := getLast?_text names hlast
    rw [← Bool.not_eq_true, Text.endsWith_iff, hs]
    rintro ⟨r, hr⟩
    have := List.append_inj_right' hr rfl
    simp at this
    exact hc this.symm
  have hdot : Text.endsWith (Path.ofNames (names ++ [last])).text "/." = false := by
    obtain ⟨s, hs⟩ := Path.text_eq_append names last
    rw [← Bool.not_eq_true, Text.endsWith_iff, hs]
    rintro ⟨r, hr⟩
    rw [← List.dropLast_concat_getLast hlast.notEmpty] at hr
    have h1 : r ++ ['/'] ++ ['.'] = s ++ '/' :: last.dropLast ++ [last.getLast hlast.notEmpty] := by
      simpa using hr
    have hget : last.getLast hlast.notEmpty = '.' := by
      simpa using (List.append_inj_right' h1 rfl).symm
    have hinit : r ++ ['/'] = s ++ '/' :: last.dropLast := List.append_inj_left' h1 rfl
    cases hd : last.dropLast with
    | nil =>
      have := List.dropLast_concat_getLast hlast.notEmpty
      rw [hd, hget] at this
      exact hlast.notDot this.symm
    | cons c rest =>
      have hmem : '/' ∈ last.dropLast := by
        have h2 : (s ++ '/' :: last.dropLast).getLast? = some '/' := by
          rw [← hinit]
          simp
        rw [hd] at h2 ⊢
        simp only [List.getLast?_append, List.getLast?_cons_cons] at h2
        exact List.mem_of_getLast? (by simpa using h2)
      exact hlast.noSlash ((List.dropLast_sublist last).subset hmem)
  rw [targetSteps, hslash, hdot, targetNames, hp.ofText_text]
  rfl

theorem locateWord_text (t : FileTree) (h : ∀ n ∈ names ++ [last], Path.IsPlain n) :
    t.locateWord (Path.ofNames (names ++ [last])).text =
      t.locate true (Path.ofNames (names ++ [last])) := by
  have hp : (Path.ofNames (names ++ [last])).IsResolved := ⟨rfl, h⟩
  rw [locate_resolved t true hp, locateWord, targetSteps_text h, targetStart, hp.ofText_text,
    if_pos hp.isAbsolute, refused?]
  have hne : (Path.ofNames (names ++ [last])).text.isEmpty = false := by
    rw [Path.text_ofNames]
    rfl
  rw [hne]
  split
  · rfl
  · rw [if_neg (by simp)]
    split <;> rfl

end Words

/-! ## §6 Straight places -/

/-- No link stands at the place or on the way to it. -/
def IsStraight (t : FileTree) (place : Place) : Prop :=
  ∀ q, q <+: place → ∀ target, t.entryAt q ≠ some (.link target)

theorem IsStraight.above {t : FileTree} {place q : Place} (h : t.IsStraight place)
    (hq : q <+: place) : t.IsStraight q :=
  fun r hr => h r (hr.trans hq)

/-- Where no link stands a walk ends where its names lead, or before that; links are not why. -/
theorem walk_straight {t : FileTree} {follow : Bool} {links : Nat} {names : List Text} {here : Place}
    (hn : ∀ n ∈ names, Path.IsPlain n) (h : t.IsStraight (here ++ names)) :
    t.walk follow links names here = .ok (here ++ names, t.get? (here ++ names)) ∨
      ∃ e, t.walk follow links names here = .error e ∧ e ≠ .tooManyLinks := by
  induction names generalizing here with
  | nil => exact .inl (by rw [walk, List.append_nil])
  | cons name rest ih =>
    have hname := hn name (List.mem_cons_self ..)
    have hlink : ∀ target, t.entryAt (here ++ [name]) ≠ some (.link target) :=
      h _ ⟨rest, by simp⟩
    have ih := @ih (here ++ [name]) (fun n hm => hn n (List.mem_cons_of_mem _ hm))
      (by simpa using h)
    by_cases hf : Fits name
    · rw [walk_cons hname.notDots hname.notDot hf]
      cases hitem : t.get? (here ++ [name]) with
      | none =>
        cases rest with
        | nil => exact .inl (by simp [hitem])
        | cons b rest => exact .inr ⟨.notFound, rfl, by simp⟩
      | some item =>
        obtain ⟨entry, m⟩ := item
        cases entry with
        | directory => simpa using ih
        | file c =>
          cases rest with
          | nil => exact .inl (by simp [hitem])
          | cons b rest => exact .inr ⟨.notDirectory, rfl, by simp⟩
        | link target => exact absurd (entryAt_of_get? hitem) (hlink target)
    · exact .inr ⟨.nameTooLong, walk_cons_tooLong hname hf, by simp⟩

/-- Where no link stands a resolved path leads to the place of its names, if to any. -/
theorem locate_straight {t : FileTree} {follow : Bool} {p : Path} (hp : p.IsResolved)
    (hs : t.IsStraight p.names) {place : Place} {found : Option Item}
    (hl : t.locate follow p = .ok (place, found)) : place = p.names := by
  have hfromTop : t.IsStraight ([] ++ p.names) := hs
  rw [locate_resolved t follow hp] at hl
  split at hl
  · cases hl
  · rcases walk_straight hp.plain hfromTop with hw | ⟨e, hw, -⟩
    · rw [hw, List.nil_append] at hl
      exact (Prod.mk.inj (Except.ok.inj hl)).1.symm
    · rw [hw] at hl
      cases hl

end EmbeddedGo.FileTree
