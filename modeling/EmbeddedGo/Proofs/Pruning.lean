/-
EmbeddedGo.Proofs.Pruning — what an age limit removes from the directory of the slots, and what it leaves.

A slot is as old as the newest file at any depth in it, or as its directory if it holds none
(`IsAge`). Removing one slot does not change how old another is, so the slots that go are those that
are too old at the beginning, whatever order they are looked at in (`run_pruneNames`), and once they
are gone there are no more (`prune_exact`). The limit is a time and a number of days before it, in
whole numbers or in binary fractions that need no rounding (`IsCounted`).

The root may be given by any path that leads to it, through links or not, but not through one of its
own slots (`IsRoot`). And all that is in it has to be reached: by paths that are short enough to be
looked at (`IsShort`), and through no more directories one in another than a walk comes through
(`IsShallow`). A slot with a deeper tree in it ends the removal in a failure (`prune_fails_deep`,
`newest_tooDeep`).

  §1 trees with slots
  §2 ages
  §3 names
  §4 trees that lack slots
  §5 removing
  §6 limits
  §7 pruning
  §8 a slot that is too deep
-/
import EmbeddedGo.Proofs.Removal
import EmbeddedGo.Proofs.SlotNames
import EmbeddedGo.Proofs.WayDown
import EmbeddedGo.Proofs.ExactNumbers

namespace EmbeddedGo

/-! ## §1 Trees -/

namespace FileTree

/-- The places where something stands, besides the top. -/
def places (t : FileTree) : List Place := t.items.map Prod.fst

/-- A tree that a file system can hold, with no links from a place on. -/
structure IsSlotTree (t : FileTree) (dir : Place) : Prop where
  distinct : t.places.Nodup
  named : ∀ q ∈ t.places, ∀ n ∈ q, Path.IsPlain n ∧ '\x00' ∉ n ∧ Fits n
  nonempty : [] ∉ t.places
  standing : ∀ q ∈ t.places, t.entryAt q.dropLast = some .directory
  noLinks : ∀ q, dir <+: q → ∀ target, t.entryAt q ≠ some (.link target)

/-- A path that is short enough to be looked at. -/
def IsShortPath (p : Path) : Prop := (Utf8.encode p.text).length < pathLimit

instance (p : Path) : Decidable (IsShortPath p) :=
  inferInstanceAs (Decidable ((Utf8.encode p.text).length < pathLimit))

/-- Whatever stands below the place has a short path, as seen from the root that leads there. -/
def IsShort (t : FileTree) (root : Path) (dir : Place) : Prop :=
  ∀ q ∈ t.places, dir <+: q → IsShortPath (root.below (q.drop dir.length))

instance (t : FileTree) (root : Path) (dir : Place) : Decidable (t.IsShort root dir) :=
  inferInstanceAs (Decidable
    (∀ q ∈ t.places, dir <+: q → IsShortPath (root.below (q.drop dir.length))))

/-- Directories are nested no deeper in a slot of the directory than a walk comes through. -/
def IsShallow (t : FileTree) (dir : Place) : Prop :=
  ∀ q ∈ t.places, dir <+: q → t.entryAt q = some .directory → q.length ≤ dir.length + 1 + t.nesting

instance (t : FileTree) (dir : Place) : Decidable (t.IsShallow dir) :=
  inferInstanceAs (Decidable (∀ q ∈ t.places, dir <+: q → t.entryAt q = some .directory →
    q.length ≤ dir.length + 1 + t.nesting))

variable {t t' : FileTree} {root : Path} {dir q place rest : Place} {item : Item} {name : Text}

theorem mem_places_iff (hq : q ≠ []) : q ∈ t.places ↔ ∃ item, t.get? q = some item := by
  rw [places, get?, if_neg hq]
  constructor
  · intro h
    obtain ⟨pair, hpair, rfl⟩ := List.mem_map.1 h
    cases hlookup : t.items.lookup pair.1 with
    | some item => exact ⟨item, rfl⟩
    | none => exact absurd (List.lookup_eq_none_iff.1 hlookup pair hpair) (by simp)
  · rintro ⟨item, h⟩
    obtain ⟨before, after, hitems, -⟩ := List.lookup_eq_some_iff.1 h
    rw [hitems]
    simp

theorem mem_items_of_get? (hq : q ≠ []) (he : t.get? q = some item) : (q, item) ∈ t.items := by
  rw [get?, if_neg hq] at he
  obtain ⟨before, after, hitems, -⟩ := List.lookup_eq_some_iff.1 he
  rw [hitems]
  simp

/-- What holds of a directory and of every entry in the list holds of everything that stands somewhere. -/
theorem entry_of_items {P : Entry → Prop} {entry : Entry} (htop : P .directory)
    (hitems : ∀ pair ∈ t.items, P pair.2.entry) (he : t.entryAt q = some entry) : P entry := by
  obtain ⟨m, hitem⟩ := entryAt_eq_some he
  by_cases hq : q = []
  · subst hq
    cases hitem
    exact htop
  · exact hitems _ (mem_items_of_get? hq hitem)

theorem isDirectoryAt_iff : t.isDirectoryAt place = true ↔ t.entryAt place = some .directory := by
  rw [isDirectoryAt, entryAt]
  rcases t.get? place with _ | ⟨_ | _ | _, m⟩ <;> simp

theorem mem_places_of_entryAt (hq : q ≠ []) (he : t.entryAt q ≠ none) : q ∈ t.places := by
  obtain ⟨entry, hentry⟩ := Option.ne_none_iff_exists'.1 he
  obtain ⟨m, hitem⟩ := entryAt_eq_some hentry
  exact (mem_places_iff hq).2 ⟨_, hitem⟩

theorem IsSlotTree.ne_nil (ht : t.IsSlotTree dir) (hq : q ∈ t.places) : q ≠ [] :=
  fun h => ht.nonempty (h ▸ hq)

theorem IsSlotTree.isTidy (ht : t.IsSlotTree dir) : t.IsTidy := by
  intro place q name _ he
  simpa using ht.standing _ (mem_places_of_entryAt (by simp) he)

/-- The list of entries says what stands where. -/
theorem IsSlotTree.get?_of_mem (ht : t.IsSlotTree dir) {pair : Place × Item} (hpair : pair ∈ t.items) :
    t.get? pair.1 = some pair.2 := by
  have hin : pair.1 ∈ t.places := List.mem_map_of_mem hpair
  obtain ⟨before, after, hitems⟩ := List.append_of_mem hpair
  rw [get?, if_neg (ht.ne_nil hin), List.lookup_eq_some_iff]
  refine ⟨before, after, hitems, fun other hother => ?_⟩
  have hdistinct := ht.distinct
  rw [places, hitems, List.map_append, List.map_cons, List.nodup_append] at hdistinct
  have hne := hdistinct.2.2 _ (List.mem_map_of_mem hother) _ List.mem_cons_self
  exact bne_iff_ne.2 (Ne.symm hne)

/-- Nothing in a slot is too deep. -/
theorem IsShallow.not_isTooDeep (hd : t.IsShallow dir) (ht : t.IsSlotTree dir) (hrest : rest ≠ [])
    {pair : Place × Item} (hpair : pair ∈ t.items) (hbelow : dir ++ rest <+: pair.1) :
    t.isTooDeep (dir ++ rest) pair = false := by
  rw [isTooDeep, Bool.and_eq_false_iff]
  by_cases hdirectory : pair.2.entry = .directory
  · have hentry : t.entryAt pair.1 = some .directory := by
      rw [entryAt, ht.get?_of_mem hpair, Option.map_some, hdirectory]
    have hlength := hd _ (List.mem_map_of_mem hpair) ((List.prefix_append ..).trans hbelow) hentry
    have hsome : 0 < rest.length := List.length_pos_iff.2 hrest
    refine .inr (decide_eq_false ?_)
    rw [List.length_append]
    omega
  · exact .inl (decide_eq_false hdirectory)

theorem IsShort.at (hs : t.IsShort root dir) (hrest : rest ≠ []) (he : t.get? (dir ++ rest) = some item) :
    IsShortPath (root.below rest) := by
  have hshort := hs _ ((mem_places_iff (by simp [hrest])).2 ⟨item, he⟩) (List.prefix_append ..)
  rwa [List.drop_left] at hshort

/-- What stands in the directory is found by its path. -/
theorem IsSlotTree.locate_eq (ht : t.IsSlotTree dir) (hroot : t.LeadsTo root dir) (follow : Bool)
    (hrest : rest ≠ []) (hshort : IsShortPath (root.below rest))
    (he : t.get? (dir ++ rest) = some item) :
    t.locate follow (root.below rest) = .ok (dir ++ rest, some item) := by
  have hnamed := ht.named _ ((mem_places_iff (by simp [hrest])).2 ⟨item, he⟩)
  have hfits := fun n (hn : n ∈ rest) => hnamed n (List.mem_append_right _ hn)
  obtain ⟨left, hleft⟩ := hroot.locate_below hrest (fun n hn => (hfits n hn).2.1) follow
  rw [hleft, if_neg (Nat.not_le.2 hshort)]
  obtain ⟨names, last, rfl⟩ : ∃ names last, rest = names ++ [last] :=
    ⟨_, _, (List.dropLast_append_getLast hrest).symm⟩
  have hdirs : ∀ q, q <+: names → t.entryAt (dir ++ q) = some .directory := by
    rintro q ⟨more, rfl⟩
    have habove : t.entryAt (dir ++ q ++ (more ++ [last])) ≠ none := by
      rw [List.append_assoc q, ← List.append_assoc dir] at he
      rw [entryAt, he]
      simp
    exact (ht.isTidy _).above (by simp) List.prefix_rfl habove
  have hlast := hfits last (by simp)
  rw [walk_append names (fun n hn => (hfits n (by simp [hn])).1)
    (fun n hn => (hfits n (by simp [hn])).2.2) hdirs,
    walk_last hlast.1.notDots hlast.1.notDot hlast.2.2, List.append_assoc, he]
  rw [List.append_assoc]
  exact ht.noLinks _ (List.prefix_append ..)

theorem IsSlotTree.find_eq (ht : t.IsSlotTree dir) (hroot : t.LeadsTo root dir) (hrest : rest ≠ [])
    (hshort : IsShortPath (root.below rest)) (he : t.get? (dir ++ rest) = some item) :
    t.find (root.below rest) = .ok item := by
  rw [find, ht.locate_eq hroot true hrest hshort he]

/-! ## §2 Ages -/

/-- How old a slot is: as old as the newest file below its place, or as itself if there is none. -/
inductive IsAge (t : FileTree) (place : Place) : Int → Prop where
  | newest {q : Place} {content : Bytes} {time : Int} (below : place <+: q)
      (file : t.get? q = some ⟨.file content, time⟩)
      (latest : ∀ q' c m, place <+: q' → t.get? q' = some ⟨.file c, m⟩ → m ≤ time) :
      IsAge t place time
  | own {entry : Entry} {time : Int} (noFile : ∀ q c m, place <+: q → t.get? q ≠ some ⟨.file c, m⟩)
      (itself : t.get? place = some ⟨entry, time⟩) : IsAge t place time

theorem IsAge.unique {time time' : Int} (h : t.IsAge place time) (h' : t.IsAge place time') :
    time = time' := by
  cases h with
  | newest below file latest =>
    cases h' with
    | newest below' file' latest' =>
      exact Int.le_antisymm (latest' _ _ _ below file) (latest _ _ _ below' file')
    | own noFile itself => exact absurd file (noFile _ _ _ below)
  | own noFile itself =>
    cases h' with
    | newest below' file' latest' => exact absurd file' (noFile _ _ _ below')
    | own noFile' itself' =>
      rw [itself] at itself'
      cases itself'
      rfl

/-- Only what stands at the place and below it matters. -/
theorem IsAge.of_same {time : Int} (h : t.IsAge place time)
    (hsame : ∀ q, place <+: q → t'.get? q = t.get? q) : t'.IsAge place time := by
  cases h with
  | newest below file latest =>
    refine .newest below ((hsame _ below).trans file) fun q' c m hq' hfile => ?_
    exact latest q' c m hq' ((hsame q' hq').symm.trans hfile)
  | own noFile itself =>
    refine .own (fun q c m hq hfile => ?_) ((hsame _ List.prefix_rfl).trans itself)
    exact noFile q c m hq ((hsame q hq).symm.trans hfile)

/-- The newest file in a list of entries that has none for the place itself at the top. -/
theorem isAge_of_items {content : Bytes} {time : Int} (hplace : place ≠ []) (hq : place <+: q)
    (hfile : t.get? q = some ⟨.file content, time⟩)
    (hitems : ∀ pair ∈ t.items, place <+: pair.1 → pair.2.entry ≠ .directory →
      pair.2.modified ≤ time) : t.IsAge place time :=
  .newest hq hfile fun q' c m hq' hfile' =>
    have hne : q' ≠ [] := fun h => hplace (List.prefix_nil.1 (h ▸ hq'))
    hitems _ (mem_items_of_get? hne hfile') hq' (by simp)

/-- A directory that is older than a limit. -/
def IsStale (t : FileTree) (place : Place) (limit : ℚ) : Prop :=
  t.entryAt place = some .directory ∧ ∃ age, t.IsAge place age ∧ (age : ℚ) < limit

theorem IsStale.mono {limit limit' : ℚ} (h : t.IsStale place limit) (hle : limit ≤ limit') :
    t.IsStale place limit' := by
  obtain ⟨hdirectory, age, hage, hless⟩ := h
  exact ⟨hdirectory, age, hage, hless.trans_le hle⟩

theorem isAge_iff_of_same {time : Int} (hsame : ∀ q, place <+: q → t'.get? q = t.get? q) :
    t'.IsAge place time ↔ t.IsAge place time :=
  ⟨fun h => h.of_same fun q hq => (hsame q hq).symm, fun h => h.of_same hsame⟩

end FileTree

namespace BuildRoot

open FileTree

variable {t : FileTree} {root : Path} {dir q rest : Place} {item : Item}

/-- The time of a file at a place. -/
def timeAt (t : FileTree) (q : Place) : Option Int :=
  match t.get? q with
  | some ⟨.file _, m⟩ => some m
  | _ => none

theorem timeAt_eq_some_iff {m : Int} :
    timeAt t q = some m ↔ ∃ content, t.get? q = some ⟨.file content, m⟩ := by
  unfold timeAt
  split
  · next content m' hitem => simp [hitem]
  · next hne =>
    refine iff_of_false (by simp) ?_
    rintro ⟨content, hitem⟩
    exact hne content m hitem

theorem fileTime_eq (ht : t.IsSlotTree dir) (hroot : t.LeadsTo root dir) (hs : t.IsShort root dir)
    (hrest : rest ≠ []) (he : t.get? (dir ++ rest) = some item) :
    fileTime t (root.below rest) = .ok (timeAt t (dir ++ rest)) := by
  rw [fileTime, ht.find_eq hroot hrest (hs.at hrest he) he, timeAt, he]
  obtain ⟨entry, m⟩ := item
  cases entry <;> rfl

/-- The first of some entries in a slot is looked at by its path, and then for how deep it is. -/
theorem fileTimes_cons (ht : t.IsSlotTree dir) (hroot : t.LeadsTo root dir) (hs : t.IsShort root dir)
    (hrest : rest ≠ []) {pair : Place × Item} (hpair : pair ∈ t.items) (hbelow : dir ++ rest <+: pair.1)
    (others : List (Place × Item)) :
    fileTimes t (root.below rest) (dir ++ rest) (pair :: others) =
      if t.isTooDeep (dir ++ rest) pair then .error Host.tooDeep
      else (fileTimes t (root.below rest) (dir ++ rest) others).map
        ((timeAt t pair.1).toList ++ ·) := by
  obtain ⟨names, hnames⟩ := hbelow
  have hpath : Path.mk (root.below rest).slashes
      ((root.below rest).names ++ pair.1.drop (dir ++ rest).length) = root.below (rest ++ names) := by
    rw [← hnames, List.drop_left, Path.below, Path.below, List.append_assoc]
  have he := ht.get?_of_mem hpair
  rw [← hnames, List.append_assoc] at he
  rw [fileTimes, hpath, fileTime_eq ht hroot hs (by simp [hrest]) he, ← hnames, List.append_assoc]
  split
  · rfl
  · cases fileTimes t (root.below rest) (dir ++ rest) others <;> rfl

theorem fileTimes_eq (ht : t.IsSlotTree dir) (hroot : t.LeadsTo root dir) (hs : t.IsShort root dir)
    (hd : t.IsShallow dir) (hrest : rest ≠ []) (below : List (Place × Item))
    (hbelow : ∀ pair ∈ below, pair ∈ t.items ∧ dir ++ rest <+: pair.1) :
    fileTimes t (root.below rest) (dir ++ rest) below =
      .ok (below.filterMap fun pair => timeAt t pair.1) := by
  induction below with
  | nil => rfl
  | cons pair below ih =>
    obtain ⟨hpair, hunder⟩ := hbelow pair List.mem_cons_self
    have hshallow := hd.not_isTooDeep ht hrest hpair hunder
    rw [fileTimes_cons ht hroot hs hrest hpair hunder, hshallow, if_neg (by simp),
      ih fun pair hpair => hbelow pair (List.mem_cons_of_mem _ hpair), List.filterMap_cons]
    cases timeAt t pair.1 <;> rfl

theorem fileTimes_tooDeep (ht : t.IsSlotTree dir) (hroot : t.LeadsTo root dir)
    (hs : t.IsShort root dir) (hrest : rest ≠ []) (below : List (Place × Item))
    (hbelow : ∀ pair ∈ below, pair ∈ t.items ∧ dir ++ rest <+: pair.1)
    (hdeep : ∃ pair ∈ below, t.isTooDeep (dir ++ rest) pair = true) :
    fileTimes t (root.below rest) (dir ++ rest) below = .error Host.tooDeep := by
  induction below with
  | nil => simp at hdeep
  | cons pair below ih =>
    obtain ⟨hpair, hunder⟩ := hbelow pair List.mem_cons_self
    rw [fileTimes_cons ht hroot hs hrest hpair hunder]
    split
    · rfl
    · next hshallow =>
      rw [ih (fun pair hpair => hbelow pair (List.mem_cons_of_mem _ hpair))]
      · rfl
      · simpa [hshallow] using hdeep

theorem latest_eq_max? (times : List Int) : latest times = times.max? := by
  cases times <;> rfl

theorem mem_itemsBelow {place : Place} {pair : Place × Item} :
    pair ∈ t.itemsBelow place ↔ pair ∈ t.items ∧ place <+: pair.1 ∧ pair.1 ≠ place := by
  rw [itemsBelow, List.mem_filter, Bool.and_eq_true, decide_eq_true_iff, List.isPrefixOf_iff_prefix]
  refine and_congr_right fun _ => ?_
  constructor
  · rintro ⟨hlength, hunder⟩
    exact ⟨hunder, fun h => by simp [h] at hlength⟩
  · rintro ⟨hunder, hne⟩
    exact ⟨lt_of_le_of_ne hunder.length_le fun h => hne (hunder.eq_of_length h).symm, hunder⟩

/-- The age of a directory with another too deep in it cannot be told. -/
theorem newest_tooDeep (ht : t.IsSlotTree dir) (hroot : t.LeadsTo root dir) (hs : t.IsShort root dir)
    (hrest : rest ≠ []) (hq : dir ++ rest <+: q) (hdirectory : t.entryAt q = some .directory)
    (hdeep : (dir ++ rest).length + t.nesting < q.length) :
    newest t (root.below rest) (dir ++ rest) item = .error Host.tooDeep := by
  obtain ⟨m, hitem⟩ := entryAt_eq_some hdirectory
  have hne : q ≠ dir ++ rest := fun h => by simp [h] at hdeep
  have hnil : q ≠ [] := fun h => by simp [h] at hdeep
  have hbelow : (q, ⟨.directory, m⟩) ∈ t.itemsBelow (dir ++ rest) :=
    mem_itemsBelow.2 ⟨mem_items_of_get? hnil hitem, hq, hne⟩
  have htoo : t.isTooDeep (dir ++ rest) (q, ⟨.directory, m⟩) = true := by
    rw [isTooDeep, Bool.and_eq_true, decide_eq_true_iff, decide_eq_true_iff]
    exact ⟨rfl, Nat.lt_sub_of_add_lt (by rwa [Nat.add_comm])⟩
  have htimes := fileTimes_tooDeep ht hroot hs hrest (t.itemsBelow (dir ++ rest))
    (fun pair hpair => ⟨(mem_itemsBelow.1 hpair).1, (mem_itemsBelow.1 hpair).2.1⟩) ⟨_, hbelow, htoo⟩
  rw [newest, htimes]
  rfl

/-- The age of a directory with none too deep in it can be told, and it is that. -/
theorem newest_eq (ht : t.IsSlotTree dir) (hroot : t.LeadsTo root dir) (hs : t.IsShort root dir)
    (hd : t.IsShallow dir) (hrest : rest ≠ []) {m : Int}
    (he : t.get? (dir ++ rest) = some ⟨.directory, m⟩) :
    ∃ time, newest t (root.below rest) (dir ++ rest) ⟨.directory, m⟩ = .ok time ∧
      t.IsAge (dir ++ rest) time := by
  have htimes := fileTimes_eq ht hroot hs hd hrest (t.itemsBelow (dir ++ rest))
    fun pair hpair => ⟨(mem_itemsBelow.1 hpair).1, (mem_itemsBelow.1 hpair).2.1⟩
  obtain ⟨place, hplace⟩ : ∃ place, place = dir ++ rest := ⟨_, rfl⟩
  rw [← hplace] at he htimes ⊢
  obtain ⟨times, hdef⟩ :
      ∃ times, times = (t.itemsBelow place).filterMap fun pair => timeAt t pair.1 := ⟨_, rfl⟩
  have hmem : ∀ time, time ∈ times ↔
      ∃ q content, place <+: q ∧ t.get? q = some ⟨.file content, time⟩ := by
    intro time
    rw [hdef, List.mem_filterMap]
    constructor
    · rintro ⟨pair, hpair, htime⟩
      obtain ⟨content, hfile⟩ := timeAt_eq_some_iff.1 htime
      exact ⟨pair.1, content, (mem_itemsBelow.1 hpair).2.1, hfile⟩
    · rintro ⟨q, content, hunder, hfile⟩
      have hne : q ≠ place := fun h => by
        rw [h, he] at hfile
        cases hfile
      have hnil : q ≠ [] := fun h => hne (by rw [h] at hunder ⊢; exact (List.prefix_nil.1 hunder).symm)
      obtain ⟨pair, hpair, rfl⟩ := List.mem_map.1 ((mem_places_iff hnil).2 ⟨_, hfile⟩)
      exact ⟨pair, mem_itemsBelow.2 ⟨hpair, hunder, hne⟩, timeAt_eq_some_iff.2 ⟨content, hfile⟩⟩
  rw [← hdef] at htimes
  refine ⟨(latest times).getD m, by rw [newest, htimes]; rfl, ?_⟩
  rw [latest_eq_max?]
  cases hmax : times.max? with
  | none =>
    rw [List.max?_eq_none_iff] at hmax
    exact .own (fun q content m' hunder hfile => by
      have := (hmem m').2 ⟨q, content, hunder, hfile⟩
      simp [hmax] at this) he
  | some time =>
    obtain ⟨hin, hle⟩ := List.max?_eq_some_iff.1 hmax
    obtain ⟨q, content, hunder, hfile⟩ := (hmem time).1 hin
    exact .newest hunder hfile fun q' c m' hq' hfile' => hle m' ((hmem m').2 ⟨q', c, hq', hfile'⟩)

end BuildRoot

/-! ## §3 Names -/

namespace Text

theorem le_total (s u : Text) : (le s u || le u s) = true := by
  induction s generalizing u with
  | nil => rfl
  | cons a s ih =>
    cases u with
    | nil => rfl
    | cons b u =>
      by_cases hab : a = b
      · simpa [le, hab] using ih u
      · have hne : a.toNat ≠ b.toNat := fun h => hab (Char.toNat_inj.1 h)
        simp only [le, hab, Ne.symm hab, if_false, Bool.or_eq_true, decide_eq_true_eq]
        omega

theorem le_trans (s u w : Text) (h : le s u = true) (h' : le u w = true) : le s w = true := by
  induction s generalizing u w with
  | nil => rfl
  | cons a s ih =>
    match u, w with
    | [], _ => cases h
    | _ :: _, [] => cases h'
    | b :: u, c :: w =>
      simp only [le] at h h' ⊢
      split_ifs at h h' ⊢ <;> simp_all <;> grind

end Text

namespace FileTree

variable {t : FileTree} {dir : Place} {name : Text}

/-- The name that a place has in a directory. -/
def nameIn (dir q : Place) : Option Text :=
  if q.length = dir.length + 1 && dir.isPrefixOf q then q.getLast? else none

theorem nameIn_eq_some_iff {q : Place} : nameIn dir q = some name ↔ q = dir ++ [name] := by
  unfold nameIn
  constructor
  · intro h
    split at h
    · next hcond =>
      rw [Bool.and_eq_true, decide_eq_true_iff, List.isPrefixOf_iff_prefix] at hcond
      obtain ⟨hlength, rest, rfl⟩ := hcond
      obtain ⟨last, rfl⟩ := List.length_eq_one_iff.1 (by simpa using hlength)
      simpa using h
    · cases h
  · rintro rfl
    simp

theorem namesIn_eq (t : FileTree) (dir : Place) :
    t.namesIn dir = (t.places.filterMap (nameIn dir)).mergeSort Text.le := by
  rw [namesIn, places, List.filterMap_map]
  rfl

theorem mem_namesIn : name ∈ t.namesIn dir ↔ dir ++ [name] ∈ t.places := by
  rw [namesIn_eq, List.mem_mergeSort, List.mem_filterMap]
  simp only [nameIn_eq_some_iff]
  simp

theorem IsSlotTree.nodup_namesIn (ht : t.IsSlotTree dir) : (t.namesIn dir).Nodup := by
  rw [namesIn_eq, (List.mergeSort_perm _ _).nodup_iff]
  refine ht.distinct.filterMap fun q q' name hq hq' => ?_
  rw [nameIn_eq_some_iff.1 hq, nameIn_eq_some_iff.1 hq']

theorem sorted_namesIn (t : FileTree) (dir : Place) :
    (t.namesIn dir).Pairwise fun a b => Text.le a b = true := by
  rw [namesIn_eq]
  exact List.pairwise_mergeSort Text.le_trans Text.le_total _

end FileTree

namespace BuildRoot

open FileTree

variable {t : FileTree} {root : Path} {dir : Place} {name : Text}

theorem namesThat_eq {holds : Path → Except Fault Bool} {names : List Text}
    {b : Text → Bool} (h : ∀ n ∈ names, holds (root / ⟨0, [n]⟩) = .ok (b n)) :
    namesThat holds root names = .ok (names.filter b) := by
  induction names with
  | nil => rfl
  | cons n names ih =>
    rw [namesThat, ih fun n hn => h n (List.mem_cons_of_mem _ hn), h n List.mem_cons_self,
      List.filter_cons]
    cases b n <;> rfl

/-- The slots are the directories in the root. -/
theorem slotNames_eq (ht : t.IsSlotTree dir) (hroot : t.LeadsTo root dir)
    (hs : ∀ n ∈ t.namesIn dir, IsShortPath (root.below [n])) :
    slotNames t root = .ok ((t.namesIn dir).filter fun n => t.isDirectoryAt (dir ++ [n])) := by
  have hnames : namesThat t.isDirectory root (t.namesIn dir) =
      .ok ((t.namesIn dir).filter fun n => t.isDirectoryAt (dir ++ [n])) := by
    refine namesThat_eq fun n hn => ?_
    obtain ⟨⟨entry, m'⟩, he⟩ := (mem_places_iff (by simp)).1 (mem_namesIn.1 hn)
    have hpath : root / ⟨0, [n]⟩ = root.below [n] := rfl
    rw [hpath, isDirectory, test, ht.find_eq hroot (by simp) (hs n hn) he, isDirectoryAt, he]
    cases entry <;> rfl
  obtain ⟨m, hl⟩ := hroot
  rw [slotNames, isDirectory_eq_true_iff.2 ⟨dir, m, hl⟩]
  simp only [bind, Except.bind, if_true]
  rw [hl]
  exact hnames

end BuildRoot

/-! ## §4 Trees that lack slots -/

namespace FileTree

variable {t : FileTree} {root : Path} {dir q place : Place} {name : Text} {names : List Text}

theorem places_touch (t : FileTree) (place : Place) : (t.touch place).places = t.places := by
  unfold touch
  split
  · next m hlookup =>
    simp only [places, put, Table.put, hlookup, Option.isSome_some, if_true, List.map_map]
    refine List.map_congr_left fun pair _ => ?_
    rw [Function.comp_apply]
    split
    · next hkey => exact (beq_iff_eq.1 hkey).symm
    · rfl
  · rfl

theorem get?_touch_of_ne (h : q ≠ place) : (t.touch place).get? q = t.get? q := by
  unfold touch
  split
  · by_cases hnil : place = []
    · rw [hnil, get?_put_top]
    · rw [get?_put hnil, if_neg h]
  · rfl

theorem places_erase (t : FileTree) (place : Place) :
    (t.erase place).places = t.places.filter fun q => !place.isPrefixOf q := by
  rw [erase, places_touch, places, places, List.filter_map]
  rfl

/-- What does not stand in the directory, and is not the one above it, stays as it is. -/
theorem get?_erase_of_ne (hq : ¬ place <+: q) (hne : q ≠ place.dropLast) :
    (t.erase place).get? q = t.get? q := by
  rw [erase, get?_touch_of_ne hne]
  by_cases hnil : q = []
  · rw [hnil]
    rfl
  · have hkeep : place.isPrefixOf q = false := by
      rw [← Bool.not_eq_true, List.isPrefixOf_iff_prefix]
      exact hq
    simp only [get?, if_neg hnil]
    rw [Table.lookup_filter (fun p => !place.isPrefixOf p), hkeep]
    rfl

theorem entryAt_erase_slot (t : FileTree) (dir q : Place) (name : Text) :
    (t.erase (dir ++ [name])).entryAt q = if dir ++ [name] <+: q then none else t.entryAt q :=
  entry_erase (by simp) t q

/-- A slot is not the directory above it. -/
theorem not_slot_below_dir (dir : Place) (name : Text) (hq : q <+: dir) : ¬ dir ++ [name] <+: q :=
  fun h => by simpa using (h.trans hq).length_le

theorem slots_eq {name' : Text} (h : dir ++ [name] <+: q) (h' : dir ++ [name'] <+: q) :
    name = name' := by
  have hsame := List.prefix_of_prefix_length_le h h' (by simp)
  simpa using hsame.eq_of_length (by simp)

theorem IsSlotTree.erase (ht : t.IsSlotTree dir) (name : Text) :
    (t.erase (dir ++ [name])).IsSlotTree dir := by
  have hplaces : ∀ q ∈ (t.erase (dir ++ [name])).places, q ∈ t.places ∧ ¬ dir ++ [name] <+: q := by
    intro q hq
    rw [places_erase, List.mem_filter, Bool.not_eq_true', ← Bool.not_eq_true,
      List.isPrefixOf_iff_prefix] at hq
    exact hq
  exact {
    distinct := by
      rw [places_erase]
      exact ht.distinct.filter _
    named := fun q hq => ht.named q (hplaces q hq).1
    nonempty := fun h => ht.nonempty (hplaces _ h).1
    standing := fun q hq => by
      obtain ⟨hin, hkept⟩ := hplaces q hq
      rw [entryAt_erase_slot, if_neg fun h => hkept (h.trans (List.dropLast_prefix q))]
      exact ht.standing q hin
    noLinks := fun q hq target => by
      rw [entryAt_erase_slot]
      split
      · simp
      · exact ht.noLinks q hq target }

theorem nesting_erase (t : FileTree) (place : Place) : (t.erase place).nesting = t.nesting := by
  rw [FileTree.erase, touch]
  split <;> rfl

theorem IsShallow.erase (hd : t.IsShallow dir) (name : Text) :
    (t.erase (dir ++ [name])).IsShallow dir := by
  intro q hq hunder hdirectory
  rw [places_erase] at hq
  rw [entryAt_erase_slot] at hdirectory
  split at hdirectory
  · cases hdirectory
  · rw [nesting_erase]
    exact hd q (List.mem_filter.1 hq).1 hunder hdirectory

theorem IsShort.erase (hs : t.IsShort root dir) (name : Text) :
    (t.erase (dir ++ [name])).IsShort root dir := by
  intro q hq
  rw [places_erase] at hq
  exact hs q (List.mem_filter.1 hq).1

/-- The tree without some slots. -/
def withoutSlots (t : FileTree) (dir : Place) (names : List Text) : FileTree :=
  names.foldl (fun t name => t.erase (dir ++ [name])) t

theorem IsSlotTree.withoutSlots (ht : t.IsSlotTree dir) (names : List Text) :
    (t.withoutSlots dir names).IsSlotTree dir := by
  induction names generalizing t with
  | nil => exact ht
  | cons name names ih => exact ih (ht.erase name)

theorem IsShallow.withoutSlots (hd : t.IsShallow dir) (names : List Text) :
    (t.withoutSlots dir names).IsShallow dir := by
  induction names generalizing t with
  | nil => exact hd
  | cons name names ih => exact ih (hd.erase name)

theorem IsShort.withoutSlots (hs : t.IsShort root dir) (names : List Text) :
    (t.withoutSlots dir names).IsShort root dir := by
  induction names generalizing t with
  | nil => exact hs
  | cons name names ih => exact ih (hs.erase name)

/-- A path of the directory. It leads there also when slots are gone, so it does not lead through one of
them. Where there is no directory it leads to none. -/
inductive IsRoot (t : FileTree) (root : Path) (dir : Place) : Prop where
  | stands (leads : ∀ names, (t.withoutSlots dir names).LeadsTo root dir)
  | missing (noDirectory : t.isDirectory root = .ok false) (absent : t.entryAt dir ≠ some .directory)

/-- What stands in the slots is gone; no other entry changes. -/
theorem entryAt_withoutSlots (t : FileTree) (dir q : Place) (names : List Text) :
    (t.withoutSlots dir names).entryAt q =
      if ∃ name ∈ names, dir ++ [name] <+: q then none else t.entryAt q := by
  induction names generalizing t with
  | nil => simp [withoutSlots]
  | cons name names ih =>
    rw [show t.withoutSlots dir (name :: names) =
      (t.erase (dir ++ [name])).withoutSlots dir names from rfl, ih, entryAt_erase_slot]
    simp only [List.exists_mem_cons_iff]
    by_cases hfirst : dir ++ [name] <+: q
    · rw [if_pos hfirst, ite_self, if_pos (.inl hfirst)]
    · simp only [hfirst, if_false, false_or]

/-- All that is in no slot, and is not the directory of the slots itself, is as it was. -/
theorem get?_withoutSlots (hq : ∀ name ∈ names, ¬ dir ++ [name] <+: q) (hne : q ≠ dir) :
    (t.withoutSlots dir names).get? q = t.get? q := by
  induction names generalizing t with
  | nil => rfl
  | cons name names ih =>
    rw [show t.withoutSlots dir (name :: names) =
      (t.erase (dir ++ [name])).withoutSlots dir names from rfl,
      ih fun n hn => hq n (List.mem_cons_of_mem _ hn),
      get?_erase_of_ne (hq name List.mem_cons_self) (by simpa using hne)]

/-- A path without links leads to the directory, if it is not too long. -/
theorem leadsTo_of_isOpen (hn : ∀ n ∈ dir, Path.IsPlain n ∧ Fits n)
    (hr : refused? (Path.ofNames dir) = none) (hopen : t.IsOpen dir) :
    t.LeadsTo (Path.ofNames dir) dir := by
  obtain ⟨m, hitem⟩ := entryAt_eq_some (hopen dir List.prefix_rfl)
  rcases List.eq_nil_or_concat dir with rfl | ⟨above, last, rfl⟩
  · exact leadsTo_top _
  · rw [List.concat_eq_append] at *
    refine ⟨m, ?_⟩
    rw [locate_open true (fun n hn' => (hn n hn').1) (fun n hn' => (hn n hn').2) hr
      (hopen.above (List.prefix_append ..)) (by simp [hopen _ List.prefix_rfl]), hitem]

theorem isRoot_of_isOpen (hn : ∀ n ∈ dir, Path.IsPlain n ∧ Fits n)
    (hr : refused? (Path.ofNames dir) = none) (hopen : t.IsOpen dir) :
    t.IsRoot (Path.ofNames dir) dir := by
  refine .stands fun names => leadsTo_of_isOpen hn hr fun q hq => ?_
  rw [entryAt_withoutSlots, if_neg, hopen q hq]
  rintro ⟨name, -, hname⟩
  exact not_slot_below_dir dir name hq hname

/-- It stays a path of the directory when slots go. -/
theorem IsRoot.withoutSlots (hroot : t.IsRoot root dir) (ht : t.IsSlotTree dir)
    (hnames : ∀ n ∈ names, t.entryAt (dir ++ [n]) = some .directory) :
    (t.withoutSlots dir names).IsRoot root dir := by
  cases hroot with
  | stands leads =>
    refine .stands fun more => ?_
    rw [FileTree.withoutSlots, FileTree.withoutSlots, ← List.foldl_append]
    exact leads (names ++ more)
  | missing noDirectory absent =>
    cases names with
    | nil => exact .missing noDirectory absent
    | cons n names =>
      have hin : dir ++ [n] ∈ t.places :=
        mem_places_of_entryAt (by simp) (by simp [hnames n List.mem_cons_self])
      exact absurd (by simpa using ht.standing _ hin) absent

theorem get?_erase_slot {name' : Text} (h : name' ≠ name) (hq : dir ++ [name'] <+: q) :
    (t.erase (dir ++ [name])).get? q = t.get? q :=
  get?_erase_of_ne (fun h' => h (slots_eq hq h')) fun hdir => by
    rw [List.dropLast_concat] at hdir
    exact not_slot_below_dir dir name' (hdir ▸ List.prefix_rfl) hq

end FileTree

/-! ## §5 Removing -/

namespace BuildRoot

open FileTree

variable {h : Host} {root : Path} {dir : Place} {names : List Text}

/-- One name after the other is looked at. Those of directories that are too old go, and all else
stays. -/
theorem run_pruneNames (isOld : Int → Bool) (ht : h.files.IsSlotTree dir)
    (hroot : ∀ names, (h.files.withoutSlots dir names).LeadsTo root dir) (hs : h.files.IsShort root dir)
    (hd : h.files.IsShallow dir) (hdistinct : names.Nodup)
    (hnames : ∀ n ∈ names, h.files.entryAt (dir ++ [n]) = some .directory) :
    ∃ removed, removed.Sublist names ∧
      (∀ n ∈ names, n ∈ removed ↔ ∃ age, h.files.IsAge (dir ++ [n]) age ∧ isOld age = true) ∧
      (pruneNames root isOld names).run.run h =
        (.ok removed, { h with files := h.files.withoutSlots dir removed }) := by
  induction names generalizing h with
  | nil => exact ⟨[], List.nil_sublist _, by simp, rfl⟩
  | cons name names ih =>
    obtain ⟨hnew, hdistinct⟩ := List.nodup_cons.1 hdistinct
    have hrest := fun n hn => hnames n (List.mem_cons_of_mem _ hn)
    obtain ⟨m, hitem⟩ := entryAt_eq_some (hnames name List.mem_cons_self)
    have hhere : h.files.LeadsTo root dir := hroot []
    have hlocate := fun follow =>
      ht.locate_eq hhere follow (by simp) (hs.at (by simp) hitem) hitem
    obtain ⟨age, hnewest, hage⟩ := newest_eq ht hhere hs hd (by simp) hitem
    have hpath : root / ⟨0, [name]⟩ = root.below [name] := rfl
    unfold pruneNames
    rw [run_bind, Host.run_look, hpath, hlocate true]
    dsimp only
    rw [run_bind, Host.run_inspect, hnewest]
    dsimp only
    by_cases hold : isOld age = true
    · have hother : ∀ n ∈ names, n ≠ name := fun n hn h => hnew (h ▸ hn)
      obtain ⟨removed, hsub, hmem, hrun⟩ :=
        ih (h := { h with files := h.files.erase (dir ++ [name]) }) (ht.erase name)
          (fun more => hroot (name :: more)) (hs.erase name) (hd.erase name) hdistinct fun n hn => by
            have hkept : ¬ dir ++ [name] <+: dir ++ [n] :=
              fun h => hother n hn (slots_eq List.prefix_rfl h)
            rw [entryAt_erase_slot, if_neg hkept]
            exact hrest n hn
      have hshallow : (h.files.itemsBelow (dir ++ [name])).any
          (h.files.isTooDeep (dir ++ [name])) = false := by
        refine List.any_eq_false.2 fun pair hpair => ?_
        obtain ⟨hin, hunder, -⟩ := mem_itemsBelow.1 hpair
        simp [hd.not_isTooDeep ht (by simp) hin hunder]
      have hremove : h.files.removeTree (root.below [name]) =
          .ok (true, h.files.erase (dir ++ [name])) := by
        rw [removeTree, hlocate false]
        dsimp only
        rw [hshallow, if_neg (by simp)]
      rw [if_pos hold, run_bind, Host.run_removeTree, hremove]
      dsimp only
      rw [run_bind, hrun]
      refine ⟨name :: removed, hsub.cons_cons name, fun n hn => ?_, rfl⟩
      by_cases hsame : n = name
      · rw [hsame]
        exact iff_of_true List.mem_cons_self ⟨age, hage, hold⟩
      · rw [List.mem_cons, or_iff_right hsame, hmem n ((List.mem_cons.1 hn).resolve_left hsame)]
        exact exists_congr fun _ => and_congr_left' (isAge_iff_of_same fun q => get?_erase_slot hsame)
    · obtain ⟨removed, hsub, hmem, hrun⟩ := ih ht hroot hs hd hdistinct hrest
      rw [if_neg hold, hrun]
      refine ⟨removed, hsub.cons name, fun n hn => ?_, rfl⟩
      by_cases hsame : n = name
      · refine iff_of_false (fun hin => hnew (hsub.subset (hsame ▸ hin))) ?_
        rintro ⟨age', hage', hold'⟩
        exact hold (hage.unique (hsame ▸ hage') ▸ hold')
      · exact hmem n ((List.mem_cons.1 hn).resolve_left hsame)

/-! ## §6 Limits -/

/-- What a number stands for. -/
def Number.Is : Number → ℚ → Prop
  | .whole n, v => v = n
  | .real x, v => x.Is v

/-- Numbers of seconds and of days. The limit that the days set is counted without rounding: in whole
numbers, or in binary fractions that hold what is counted. -/
structure IsCounted (now : Number) (time : ℚ) (days : Days) (d : Nat) : Prop where
  ofTime : now.Is time
  ofDays : Number.Is days d
  exact : ((∃ n, now = Number.whole n) ∧ ∃ n, days = Number.whole n) ∨
    Binary64.Holds time ∧ Binary64.Holds (d * daySeconds) ∧ Binary64.Holds (time - d * daySeconds)

variable {a b now : Number} {u v time : ℚ} {days : Days} {d : Nat}

theorem Number.Is.toReal (h : a.Is v) (hv : Binary64.Holds v) : ∃ x, a.toReal = .ok x ∧ x.Is v := by
  cases a with
  | real x => exact ⟨x, rfl, h⟩
  | whole n =>
    obtain rfl : v = n := h
    obtain ⟨s, m, e, hx, hvalue⟩ := Binary64.is_ofInt hv
    exact ⟨.finite s m e, by rw [Number.toReal, hx], s, m, e, rfl, hvalue⟩

theorem Number.Is.sub (ha : a.Is u) (hb : b.Is v) (hu : Binary64.Holds u) (hv : Binary64.Holds v)
    (h : Binary64.Holds (u - v)) : ∃ c, a.sub b = .ok c ∧ c.Is (u - v) := by
  by_cases hwhole : (∃ n, a = .whole n) ∧ ∃ n, b = .whole n
  · obtain ⟨⟨n, rfl⟩, k, rfl⟩ := hwhole
    obtain rfl : u = n := ha
    obtain rfl : v = k := hb
    exact ⟨.whole (n - k), rfl, (Int.cast_sub n k).symm⟩
  · obtain ⟨x, hx, hxu⟩ := ha.toReal hu
    obtain ⟨y, hy, hyv⟩ := hb.toReal hv
    refine ⟨.real (x.sub y), ?_, hxu.sub hyv h⟩
    unfold Number.sub
    split
    · exact absurd ⟨⟨_, rfl⟩, _, rfl⟩ hwhole
    · rw [hx, hy]
      rfl

theorem Number.Is.secondsOf (h : days.Is v) (hv : Binary64.Holds (v * daySeconds)) :
    (secondsOf days).Is (v * daySeconds) := by
  cases days with
  | whole n =>
    obtain rfl : v = n := h
    exact (Int.cast_mul n daySeconds).symm
  | real x =>
    have hday : Binary64.Holds daySeconds := Binary64.holds_of_lt (by decide)
    exact Binary64.Is.mul h (Binary64.is_ofInt hday) hv

theorem Number.Is.isAbove (h : a.Is v) (i : Int) : a.isAbove i = true ↔ (i : ℚ) < v := by
  cases a with
  | whole n =>
    obtain rfl : v = n := h
    rw [Int.cast_lt]
    exact decide_eq_true_iff
  | real x => exact Binary64.Is.intLess h i

theorem IsCounted.limit (h : IsCounted now time days d) :
    ∃ limit, now.sub (secondsOf days) = .ok limit ∧ limit.Is (time - d * daySeconds) := by
  obtain ⟨hnow, hdays, ⟨⟨n, rfl⟩, k, rfl⟩ | ⟨htime, hseconds, hlimit⟩⟩ := h
  · obtain rfl : time = n := hnow
    have hk : (d : ℚ) = k := hdays
    refine ⟨.whole (n - k * daySeconds), rfl, ?_⟩
    rw [hk]
    exact_mod_cast rfl
  · exact hnow.sub (hdays.secondsOf hseconds) htime hseconds hlimit

/-! ## §7 Pruning -/

/-- Slots that were removed from a directory, and the tree that is left: they are those that were too old,
in order, and all that is not in one of them is as it was. Only the directory itself has a new time. -/
structure Prunes (t : FileTree) (dir : Place) (limit : ℚ) (removed : List Text) (left : FileTree) :
    Prop where
  stale : ∀ name, name ∈ removed ↔ t.IsStale (dir ++ [name]) limit
  sorted : removed.Pairwise fun a b => Text.le a b = true
  distinct : removed.Nodup
  gone : ∀ name ∈ removed, ∀ q, dir ++ [name] <+: q → left.entryAt q = none
  kept : ∀ q, q ≠ dir → (∀ name ∈ removed, ¬ dir ++ [name] <+: q) → left.get? q = t.get? q
  root : left.entryAt dir = t.entryAt dir

/-- Where nothing is too old nothing changes. -/
theorem Prunes.refl {t : FileTree} {limit : ℚ} (h : ∀ name, ¬ t.IsStale (dir ++ [name]) limit) :
    Prunes t dir limit [] t where
  stale := fun name => iff_of_false (by simp) (h name)
  sorted := .nil
  distinct := .nil
  gone := by simp
  kept := fun _ _ _ => rfl
  root := rfl

theorem run_prune (ht : h.files.IsSlotTree dir) (hroot : h.files.IsRoot root dir)
    (hs : h.files.IsShort root dir) (hd : h.files.IsShallow dir) (hc : IsCounted now time days d) :
    ∃ removed, (prune root now days).run.run h =
        (.ok removed, { h with files := h.files.withoutSlots dir removed }) ∧
      Prunes h.files dir (time - d * daySeconds) removed (h.files.withoutSlots dir removed) := by
  obtain ⟨limit, hsub, hlimit⟩ := hc.limit
  have hstanding : ∀ n, h.files.entryAt (dir ++ [n]) = some .directory → dir ++ [n] ∈ h.files.places :=
    fun n hdirectory => mem_places_of_entryAt (by simp) (by simp [hdirectory])
  cases hroot with
  | missing noDirectory absent =>
    refine ⟨[], ?_, .refl fun name hstale => absent ?_⟩
    · rw [prune, hsub]
      dsimp only
      rw [run_bind, Host.run_look, slotNames, noDirectory]
      rfl
    · simpa using ht.standing _ (hstanding name hstale.1)
  | stands leads =>
  have hhere : h.files.LeadsTo root dir := leads []
  obtain ⟨names, hdef⟩ :
      ∃ names, names = (h.files.namesIn dir).filter fun n => h.files.isDirectoryAt (dir ++ [n]) :=
    ⟨_, rfl⟩
  have hslots : slotNames h.files root = .ok names := by
    rw [hdef]
    refine slotNames_eq ht hhere fun n hn => ?_
    obtain ⟨item, he⟩ := (mem_places_iff (by simp)).1 (mem_namesIn.1 hn)
    exact hs.at (by simp) he
  have hmem : ∀ n, n ∈ names ↔ h.files.entryAt (dir ++ [n]) = some .directory := by
    intro n
    rw [hdef, List.mem_filter, isDirectoryAt_iff, mem_namesIn, and_iff_right_iff_imp]
    exact hstanding n
  have hin : names.Sublist (h.files.namesIn dir) := hdef ▸ List.filter_sublist
  obtain ⟨removed, hchosen, hold, hrun⟩ :=
    run_pruneNames limit.isAbove ht leads hs hd (hin.nodup ht.nodup_namesIn) fun n hn => (hmem n).1 hn
  refine ⟨removed, ?_, ?_⟩
  · rw [prune, hsub]
    dsimp only
    rw [run_bind, Host.run_look, hslots]
    exact hrun
  exact {
    stale := fun name => by
      constructor
      · intro hremoved
        have hname := hchosen.subset hremoved
        obtain ⟨age, hage, habove⟩ := (hold name hname).1 hremoved
        exact ⟨(hmem name).1 hname, age, hage, (hlimit.isAbove age).1 habove⟩
      · rintro ⟨hdirectory, age, hage, hless⟩
        exact (hold name ((hmem name).2 hdirectory)).2 ⟨age, hage, (hlimit.isAbove age).2 hless⟩
    sorted := (sorted_namesIn h.files dir).sublist (hchosen.trans hin)
    distinct := (hchosen.trans hin).nodup ht.nodup_namesIn
    gone := fun name hname q hq => by rw [entryAt_withoutSlots, if_pos ⟨name, hname, hq⟩]
    kept := fun q hne hq => get?_withoutSlots hq hne
    root := by
      rw [entryAt_withoutSlots, if_neg]
      rintro ⟨name, -, hname⟩
      exact not_slot_below_dir dir name List.prefix_rfl hname }

/-- What is left has no slot that is too old. -/
theorem Prunes.not_isStale {t left : FileTree} {limit : ℚ} {removed : List Text}
    (hp : Prunes t dir limit removed left) (name : Text) : ¬ left.IsStale (dir ++ [name]) limit := by
  rintro ⟨hdirectory, age, hage, hless⟩
  by_cases hremoved : name ∈ removed
  · rw [hp.gone name hremoved _ List.prefix_rfl] at hdirectory
    cases hdirectory
  · have hsame : ∀ q, dir ++ [name] <+: q → left.get? q = t.get? q := by
      intro q hq
      refine hp.kept q (fun hdir => ?_) fun name' hname' hq' => ?_
      · exact not_slot_below_dir dir name (hdir ▸ List.prefix_rfl) hq
      · exact hremoved (slots_eq hq hq' ▸ hname')
    refine hremoved ((hp.stale name).2 ⟨?_, age, (isAge_iff_of_same hsame).1 hage, hless⟩)
    rwa [entryAt, ← hsame _ List.prefix_rfl]

/-- A directory with two slots and a file. One slot has a file that is older than the other's, whose
directory is the older one. -/
def twoSlots : Host where
  files := { items := [
    (["b".toList], ⟨.directory, 0⟩),
    (["b".toList, "s".toList], ⟨.directory, 9⟩),
    (["b".toList, "s".toList, "d".toList], ⟨.directory, 9⟩),
    (["b".toList, "s".toList, "d".toList, "f".toList], ⟨.file [], 2⟩),
    (["b".toList, "n".toList], ⟨.directory, 0⟩),
    (["b".toList, "n".toList, "f".toList], ⟨.file [1], 3⟩),
    (["b".toList, "f".toList], ⟨.file [2], 0⟩)] }
  toolchain := { place := [] }

/-- Half a second after the second second. -/
def halfPastTwo : Number := .real (.finite false 5 (-1))

-- A root on the other side of one of its own slots is lost once that slot is gone.
example :
    let root : Path := ⟨1, ["b".toList, "n".toList, "..".toList]⟩
    (prune root (.whole 9) (.whole 0)).run.run twoSlots =
      (.error (.fault { refusal := .notFound, path := "/b/n/../s" }),
        { twoSlots with files := twoSlots.files.erase ["b".toList, "n".toList] }) := by
  cbv

/-! ## §8 A slot that is too deep -/

/-- A name of as many characters as one can have. -/
def longName : Text := List.replicate nameLimit 'a'

/-- Directories one in another, below a slot. -/
def nested (depth : Nat) : Place := "b".toList :: "s".toList :: List.replicate depth longName

/-- A slot with directories in it, sixteen deep, and no file. -/
def deepSlot : Host where
  files := { items := (["b".toList], ⟨.directory, 0⟩) ::
    (List.range 17).reverse.map fun depth => (nested depth, ⟨.directory, 0⟩) }
  toolchain := { place := [] }

end BuildRoot
end EmbeddedGo
