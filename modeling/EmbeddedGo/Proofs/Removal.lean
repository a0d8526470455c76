/-
EmbeddedGo.Proofs.Removal — what cleaning takes away.

Cleaning looks at one directory, the one that the configured directory of the slots leads to. Without
an age limit it removes that directory with everything in it; with one it removes directories that
stand directly in it. Nothing outside of it changes. But it does not ask what the directory is, or who
made what is in it: if the project is configured as its own directory of slots the project goes
(`clean_removes_project`).

  §1 trees that lack entries
  §2 removing one directory
  §3 removing slots
  §4 the command
  §5 a project that is removed
-/
import EmbeddedGo.Proofs.Lines
import EmbeddedGo.Proofs.ServedFile

namespace EmbeddedGo

/-! ## §1 Trees that lack entries -/

namespace FileTree

variable {t t' : FileTree} {gone : Place → Prop}

/-- The second tree is the first without some entries, which stood at certain places or below them. -/
def Loses (gone : Place → Prop) (t t' : FileTree) : Prop :=
  ∀ q, t'.entryAt q = t.entryAt q ∨ t'.entryAt q = none ∧ ∃ place, gone place ∧ place <+: q

theorem Loses.refl (gone : Place → Prop) (t : FileTree) : Loses gone t t := fun _ => .inl rfl

theorem Loses.trans {a b c : FileTree} (h : Loses gone a b) (h' : Loses gone b c) :
    Loses gone a c := by
  intro q
  rcases h' q with hsame | hnone
  · rw [hsame]
    exact h q
  · exact .inr hnone

/-- What is left was there before. -/
theorem Loses.entryAt_eq (h : Loses gone t t') {q : Place} {e : Entry}
    (he : t'.entryAt q = some e) : t.entryAt q = some e := by
  rcases h q with hsame | ⟨hnone, -⟩
  · rw [← hsame, he]
  · rw [hnone] at he
    cases he

/-- A walk that finds something in what is left found the same before. -/
theorem Loses.walk (h : Loses gone t t') {follow : Bool} {links : Nat} {names : List Text}
    {here place : Place} {item : Item}
    (hw : t'.walk follow links names here = .ok (place, some item)) :
    ∃ m, t.walk follow links names here = .ok (place, some ⟨item.entry, m⟩) := by
  fun_induction FileTree.walk t' follow links names here with
  | case1 links here =>
    obtain ⟨rfl, hitem⟩ := Prod.mk.inj (Except.ok.inj hw)
    obtain ⟨m, hm⟩ := entryAt_eq_some (h.entryAt_eq (entryAt_of_get? hitem))
    exact ⟨m, by rw [FileTree.walk, hm]⟩
  | case2 links rest here ih =>
    obtain ⟨m, hm⟩ := ih hw
    exact ⟨m, by rw [FileTree.walk, if_pos rfl, hm]⟩
  | case3 links rest here hd ih =>
    obtain ⟨m, hm⟩ := ih hw
    exact ⟨m, by rw [FileTree.walk, if_neg hd, if_pos rfl, hm]⟩
  | case5 links name rest here hdots hdot hf hitem hr => cases hw
  | case7 links name rest here hdots hdot hf m hitem ih =>
    obtain ⟨m', hm⟩ := ih hw
    refine ⟨m', ?_⟩
    rw [walk_cons_directory hdots hdot (Nat.not_lt.1 hf)
      (h.entryAt_eq (entryAt_of_get? hitem)), hm]
  | case8 links name rest here hdots hdot hf c m hitem hr =>
    cases hw
    obtain ⟨m', hm⟩ := entryAt_eq_some (h.entryAt_eq (entryAt_of_get? hitem))
    refine ⟨m', ?_⟩
    rw [walk_cons hdots hdot (Nat.not_lt.1 hf), hm]
    exact if_pos hr
  | case10 links name rest here hdots hdot hf target m hitem hr =>
    cases hw
    obtain ⟨m', hm⟩ := entryAt_eq_some (h.entryAt_eq (entryAt_of_get? hitem))
    refine ⟨m', ?_⟩
    rw [walk_cons hdots hdot (Nat.not_lt.1 hf), hm]
    exact if_pos hr
  | case12 name rest here hdots hdot hf target m hitem hr links ih =>
    obtain ⟨m', hm⟩ := entryAt_eq_some (h.entryAt_eq (entryAt_of_get? hitem))
    obtain ⟨m'', hrest⟩ := ih hw
    refine ⟨m'', ?_⟩
    rw [walk_cons hdots hdot (Nat.not_lt.1 hf), hm]
    exact (if_neg hr).trans hrest
  | _ => cases hw

/-- A walk that does not end at a link ends there too if links are followed. -/
theorem walk_follow {links : Nat} {names : List Text} {here place : Place} {found : Option Item}
    (hlink : ∀ target, t.entryAt place ≠ some (.link target))
    (hw : t.walk false links names here = .ok (place, found)) :
    t.walk true links names here = .ok (place, found) := by
  fun_induction FileTree.walk t false links names here with
  | case1 links here => rw [FileTree.walk]; exact hw
  | case2 links rest here ih => rw [FileTree.walk, if_pos rfl, ih hw]
  | case3 links rest here hd ih => rw [FileTree.walk, if_neg hd, if_pos rfl, ih hw]
  | case5 links name rest here hdots hdot hf hitem hr =>
    cases hw
    rw [walk_cons hdots hdot (Nat.not_lt.1 hf), hitem]
    exact if_pos hr
  | case7 links name rest here hdots hdot hf m' hitem ih =>
    rw [walk_cons_directory hdots hdot (Nat.not_lt.1 hf) (entryAt_of_get? hitem), ih hw]
  | case8 links name rest here hdots hdot hf c m' hitem hr =>
    cases hw
    rw [walk_cons hdots hdot (Nat.not_lt.1 hf), hitem]
    exact if_pos hr
  | case10 links name rest here hdots hdot hf target m' hitem hr =>
    cases hw
    exact absurd (entryAt_of_get? hitem) (hlink target)
  | case12 name rest here hdots hdot hf target m' hitem hr links ih =>
    rw [walk_cons hdots hdot (Nat.not_lt.1 hf), hitem]
    exact (if_neg (by simp)).trans (ih hw)
  | _ => cases hw

/-! ## §2 One directory -/

/-- What stood at a place or below it is gone. -/
theorem entryAt_erase {place q : Place} (hq : q ≠ []) (h : place <+: q) :
    (t.erase place).entryAt q = none := by
  by_cases hp : place = []
  · subst hp
    rw [entryAt, erase, entry_touch]
    simp [get?, hq]
  · rw [entryAt, entry_erase hp, if_pos h]

theorem loses_erase {place : Place} (h : gone place) : Loses gone t (t.erase place) := by
  intro q
  by_cases hq : q = []
  · subst hq
    exact .inl rfl
  by_cases hp : place <+: q
  · exact .inr ⟨entryAt_erase hq hp, place, h, hp⟩
  · have hne : place ≠ [] := fun e => hp (e ▸ List.nil_prefix)
    refine .inl ?_
    rw [entryAt, entry_erase hne, if_neg hp]
    rfl

/-- Entries that change their times stay what they are. -/
theorem entryAt_foldl_touch (items : List (Place × Item)) (t : FileTree) (q : Place) :
    (items.foldl (fun left item => left.touch item.1.dropLast) t).entryAt q = t.entryAt q := by
  induction items generalizing t with
  | nil => rfl
  | cons item items ih => rw [List.foldl_cons, ih, entryAt, entry_touch, entryAt]

theorem loses_eraseReached {place : Place} (h : gone place) :
    Loses gone t (t.eraseReached place) := by
  intro q
  rw [eraseReached, entryAt_foldl_touch]
  by_cases hq : q = []
  · subst hq
    exact .inl rfl
  rw [entryAt, entryAt, get?, get?, if_neg hq, if_neg hq,
    Table.lookup_filter (fun p => !t.isReached place p)]
  cases hreached : t.isReached place q with
  | false => exact .inl rfl
  | true =>
    rw [isReached, Bool.and_eq_true, List.isPrefixOf_iff_prefix] at hreached
    exact .inr ⟨rfl, place, h, hreached.1⟩

/-- Only a directory is removed, and if that comes to its end all of it is. -/
theorem removeTree_eq_ok {p : Path} {isWhole : Bool} (h : t.removeTree p = .ok (isWhole, t')) :
    ∃ place m, t.locate false p = .ok (place, some ⟨.directory, m⟩) ∧
      t' = if isWhole then t.erase place else t.eraseReached place := by
  unfold removeTree at h
  split at h
  · cases h
  · cases h
  · next place m hl =>
    split at h
    all_goals
      cases h
      exact ⟨place, m, hl, rfl⟩
  · cases h
  · cases h

theorem loses_removeTree {p : Path} {isWhole : Bool} (h : t.removeTree p = .ok (isWhole, t')) :
    ∃ place m, t.locate false p = .ok (place, some ⟨.directory, m⟩) ∧
      ∀ gone : Place → Prop, gone place → Loses gone t t' := by
  obtain ⟨place, m, hl, rfl⟩ := removeTree_eq_ok h
  refine ⟨place, m, hl, fun gone hgone => ?_⟩
  cases isWhole with
  | true => exact loses_erase hgone
  | false => exact loses_eraseReached hgone

/-- The directory that a path leads to. -/
def LeadsTo (t : FileTree) (p : Path) (dir : Place) : Prop :=
  ∃ m, t.locate true p = .ok (dir, some ⟨.directory, m⟩)

theorem LeadsTo.unique {p : Path} {dir dir' : Place} (h : t.LeadsTo p dir)
    (h' : t.LeadsTo p dir') : dir = dir' := by
  obtain ⟨m, h⟩ := h
  obtain ⟨m', h'⟩ := h'
  rw [h] at h'
  exact (Prod.mk.inj (Except.ok.inj h')).1

theorem leadsTo_of_locate {p : Path} (hp : p.IsResolved) {place : Place} {m : Int}
    (h : t.locate false p = .ok (place, some ⟨.directory, m⟩)) : t.LeadsTo p place := by
  rw [locate_resolved t false hp] at h
  refine ⟨m, ?_⟩
  rw [locate_resolved t true hp]
  split at h
  · cases h
  · have hdir := entryAt_of_get? (walk_found h).symm
    exact walk_follow (by simp [hdir]) h

/-- A path in what is left leads to a directory to which it led before. -/
theorem Loses.locate (h : Loses gone t t') {p : Path} (hp : p.IsResolved) {follow : Bool}
    {place : Place} {item : Item} (hl : t'.locate follow p = .ok (place, some item)) :
    ∃ m, t.locate follow p = .ok (place, some ⟨item.entry, m⟩) := by
  rw [locate_resolved t' follow hp] at hl
  rw [locate_resolved t follow hp]
  split at hl
  · cases hl
  · exact h.walk hl

/-- One name behind the path of a directory leads into the directory. -/
theorem place_of_locate {root : Path} (hroot : root.IsResolved) {dir place : Place} {name : Text}
    {m : Int} (hdir : t.LeadsTo root dir) (hname : Path.IsPlain name)
    (h : t.locate false (root.child name) = .ok (place, some ⟨.directory, m⟩)) :
    place = dir ++ [name] ∧ t.entryAt place = some .directory := by
  obtain ⟨m', hdir⟩ := hdir
  have hentry := entryAt_of_get? (locate_found h).symm
  refine ⟨?_, hentry⟩
  rw [locate_resolved t false (hroot.child hname), hroot.child_eq hname] at h
  rw [locate_resolved t true hroot] at hdir
  split at hdir
  · cases hdir
  · split at h
    · cases h
    · obtain ⟨left, hleft⟩ :=
        @walk_append_of_directory t false linkLimit root.names [name] [] dir m' (by simp) hdir
      rw [show (Path.ofNames (root.names ++ [name])).names = root.names ++ [name] from rfl,
        hleft] at h
      by_cases hf : Fits name
      · rw [walk_cons hname.notDots hname.notDot hf] at h
        split at h
        · cases h
        · rw [FileTree.walk] at h
          exact (Prod.mk.inj (Except.ok.inj h)).1.symm
        · cases h
        · cases h
      · rw [walk_cons_tooLong hname hf] at h
        cases h

end FileTree

/-! ## §3 Slots -/

namespace BuildRoot

open FileTree

/-- Every entry has a name that one can have. -/
def IsNamed (t : FileTree) : Prop := ∀ item ∈ t.items, ∀ n ∈ item.1, Path.IsPlain n

instance (t : FileTree) : Decidable (IsNamed t) :=
  inferInstanceAs (Decidable (∀ item ∈ t.items, ∀ n ∈ item.1, Path.IsPlain n))

/-- A directory that stands directly in another. -/
def IsIn (t : FileTree) (dir place : Place) : Prop :=
  ∃ name, place = dir ++ [name] ∧ t.entryAt place = some .directory

theorem mem_of_mem_namesThat {holds : Path → Except Fault Bool} {root : Path}
    {names found : List Text} (h : namesThat holds root names = .ok found) :
    ∀ name ∈ found, name ∈ names := by
  induction names generalizing found with
  | nil =>
    cases h
    simp
  | cons name names ih =>
    unfold namesThat at h
    simp only [bind, Except.bind, pure, Except.pure] at h
    split at h
    · cases h
    · next rest hrest =>
      have hin := ih hrest
      split at h
      · cases h
      · next isOne _ =>
        cases h
        cases isOne with
        | false => exact fun n hn => List.mem_cons_of_mem _ (hin n hn)
        | true =>
          intro n hn
          rcases List.mem_cons.1 hn with rfl | hn
          · exact List.mem_cons_self ..
          · exact List.mem_cons_of_mem _ (hin n hn)

/-- Slots are looked for in the directory that the root leads to. -/
theorem plain_of_mem_slotNames {t : FileTree} (hnamed : IsNamed t) {root : Path}
    {names : List Text} (h : slotNames t root = .ok names) :
    names = [] ∨ (∃ dir, t.LeadsTo root dir) ∧ ∀ name ∈ names, Path.IsPlain name := by
  unfold slotNames at h
  simp only [bind, Except.bind, pure, Except.pure] at h
  split at h
  · cases h
  · next isOne hisOne =>
    cases isOne with
    | false =>
      cases h
      exact .inl rfl
    | true =>
      obtain ⟨place, m, hl⟩ := isDirectory_eq_true_iff.1 hisOne
      rw [hl] at h
      refine .inr ⟨⟨place, m, hl⟩, fun name hname => ?_⟩
      have hin := mem_of_mem_namesThat h name hname
      rw [namesIn, List.mem_mergeSort, List.mem_filterMap] at hin
      obtain ⟨item, hitem, hlast⟩ := hin
      split at hlast
      · exact hnamed item hitem name (List.mem_of_getLast? hlast)
      · cases hlast

variable {t : FileTree} {root : Path} {dir : Place} {h : Host}

/-- Removing slots takes away directories in the root, and what is in them. -/
theorem loses_pruneNames (hroot : root.IsResolved) (hdir : t.LeadsTo root dir)
    (isOld : Int → Bool) {names : List Text} (hnames : ∀ name ∈ names, Path.IsPlain name)
    (hlost : Loses (IsIn t dir) t h.files) :
    Loses (IsIn t dir) t ((pruneNames root isOld names).run.run h).2.files := by
  induction names generalizing h with
  | nil => exact hlost
  | cons name names ih =>
    have hname := hnames name (List.mem_cons_self ..)
    have hrest := fun n hn => hnames n (List.mem_cons_of_mem _ hn)
    have hchild : root / ⟨0, [name]⟩ = root.child name := by
      rw [Path.child, Path.ofText_of_plain hname]
    unfold pruneNames
    rw [run_bind, Host.run_look, hchild]
    rcases h.files.locate true (root.child name) with e | ⟨place, _ | item⟩
    · exact hlost
    · exact hlost
    · dsimp only
      rw [run_bind, Host.run_inspect]
      cases newest h.files (root.child name) place item with
      | error e => exact hlost
      | ok time =>
      dsimp only
      split
      · rw [run_bind, Host.run_removeTree]
        rcases hremove : h.files.removeTree (root.child name) with e | ⟨isWhole, files⟩
        · exact hlost
        obtain ⟨place, m, hl, hremoved⟩ := loses_removeTree hremove
        obtain ⟨m', hl⟩ := hlost.locate (hroot.child hname) hl
        obtain ⟨hplace, hentry⟩ := place_of_locate hroot hdir hname hl
        have herased := hlost.trans (hremoved _ ⟨name, hplace, hentry⟩)
        cases isWhole with
        | false => exact herased
        | true =>
          dsimp only
          rw [run_bind]
          have hnext := ih (h := { h with files }) hrest herased
          rcases hrun : (pruneNames root isOld names).run.run { h with files } with
            ⟨e | removed, h'⟩
          · rwa [hrun] at hnext
          · rwa [hrun] at hnext
      · exact ih hrest hlost

theorem loses_prune (hroot : root.IsResolved) (hnamed : IsNamed h.files) (now : Number) (days : Days) :
    Loses (fun place => ∃ dir, h.files.LeadsTo root dir ∧ IsIn h.files dir place) h.files
      ((prune root now days).run.run h).2.files := by
  rw [prune]
  split
  · next limit _ =>
    rw [run_bind, Host.run_look]
    match hnames : slotNames h.files root with
    | .error e => exact .refl _ _
    | .ok names =>
    dsimp only
    rcases plain_of_mem_slotNames hnamed hnames with rfl | ⟨⟨dir, hdir⟩, hplain⟩
    · exact .refl _ _
    · intro q
      rcases loses_pruneNames hroot hdir limit.isAbove hplain (.refl _ _) q with
        hsame | ⟨hnone, place, hin, hq⟩
      · exact .inl hsame
      · exact .inr ⟨hnone, place, ⟨dir, hdir, hin⟩, hq⟩
  · exact .refl _ _

/-- Removing everything takes away the root, if that is a directory. -/
theorem run_clean (root : Path) (h : Host) :
    (clean root).run.run h =
      match h.files.exists? root with
      | .error e => (.error (.fault e), h)
      | .ok false => (.ok false, h)
      | .ok true =>
        match h.files.removeTree root with
        | .ok (true, files) => (.ok true, { h with files })
        | .ok (false, files) => (.error Host.tooDeep, { h with files })
        | .error e => (.error (.fault e), h) := by
  rw [clean, run_bind, Host.run_look]
  match h.files.exists? root with
  | .error e => rfl
  | .ok false => rfl
  | .ok true =>
    dsimp only
    rw [if_pos rfl, run_bind, Host.run_removeTree]
    rcases h.files.removeTree root with e | ⟨_ | _, files⟩ <;> rfl

theorem loses_clean (hroot : root.IsResolved) :
    Loses (h.files.LeadsTo root) h.files ((clean root).run.run h).2.files := by
  rw [run_clean]
  split
  · exact .refl _ _
  · exact .refl _ _
  · split
    · next files hremove =>
      obtain ⟨place, m, hl, hremoved⟩ := loses_removeTree hremove
      exact hremoved _ (leadsTo_of_locate hroot hl)
    · next files hremove =>
      obtain ⟨place, m, hl, hremoved⟩ := loses_removeTree hremove
      exact hremoved _ (leadsTo_of_locate hroot hl)
    · exact .refl _ _

/-- When the root has been removed, nothing is left of the directory it led to. -/
theorem entryAt_clean (hroot : root.IsResolved) {wasThere : Bool} {h' : Host}
    (hclean : (clean root).run.run h = (.ok wasThere, h')) (hdir : h.files.LeadsTo root dir)
    {q : Place} (hq : q ≠ []) (hbelow : dir <+: q) : h'.files.entryAt q = none := by
  obtain ⟨m, hl⟩ := id hdir
  have hexists : h.files.exists? root = .ok true := by
    rw [FileTree.exists?, FileTree.test, FileTree.find, hl]
  rw [run_clean, hexists] at hclean
  dsimp only at hclean
  split at hclean
  · next files hremove =>
    cases hclean
    obtain ⟨place, m', hl', rfl⟩ := removeTree_eq_ok hremove
    obtain rfl := hdir.unique (leadsTo_of_locate hroot hl')
    exact entryAt_erase hq hbelow
  · cases hclean
  · cases hclean

end BuildRoot

/-! ## §4 The command -/

namespace Command

open FileTree BuildRoot

/-- The directory that the configured directory of the slots leads to. -/
def SlotDirectory (files : FileTree) (o : Options) (root : Path) (dir : Place) : Prop :=
  ∃ buildRoot, BuildRoot.ofOptions files o root = .ok buildRoot ∧ files.LeadsTo buildRoot dir

/-- What cleaning may take away: a directory in that of the slots if there is an age limit, and that
directory itself if there is none. -/
def Removable (files : FileTree) (o : Options) (root : Path) (limited : Bool) (place : Place) :
    Prop :=
  ∃ dir, SlotDirectory files o root dir ∧
    if limited then IsIn files dir place else place = dir

/-- Whether there is an age limit. -/
def isLimited (olderThan : Option Binary64) (o : Options) : Bool :=
  olderThan.isSome || o.cleanupDays.isSome

/-- Removable places stand at or below the directory of the slots. -/
theorem Removable.below {files : FileTree} {o : Options} {root : Path} {limited : Bool}
    {place : Place} (h : Removable files o root limited place) :
    ∃ dir, SlotDirectory files o root dir ∧ dir <+: place := by
  obtain ⟨dir, hdir, hplace⟩ := h
  refine ⟨dir, hdir, ?_⟩
  cases limited with
  | true =>
    obtain ⟨name, rfl, -⟩ := hplace
    exact List.prefix_append ..
  | false =>
    cases (show place = dir from hplace)
    exact List.prefix_rfl

/-- The host when cleaning has ended. -/
def cleaned (now : Int) (c : Common) (root : Path) (olderThan : Option Binary64) (h : Host) : Host :=
  ((clean now c root olderThan).run.run { session := { host := h } }).2.session.host

variable {h : Host} {c : Common} {root : Path} {o : Options} (now : Int)
  (olderThan : Option Binary64)

/-- What is removed, and then said about it. -/
def Removes (now : Int) (buildRoot : Path) (limited : Bool) (x : Doing Unit) : Prop :=
  if limited then
    ∃ days tail, (∀ removed, Quiet (tail removed)) ∧
      x = act (prune buildRoot now days) >>= tail
  else
    ∃ tail, (∀ wasThere, Quiet (tail wasThere)) ∧ x = act (BuildRoot.clean buildRoot) >>= tail

/-- Cleaning looks for the directory of the slots, and then removes. -/
theorem run_clean_cases {d : Progress}
    (hload : Config.load d.session.host.files (c.config.map Path.ofText) root = .ok o) :
    (∃ stop d', (clean now c root olderThan).run.run d = (.error stop, d') ∧ SameSession d d') ∨
      ∃ buildRoot d' x, BuildRoot.ofOptions d.session.host.files o root = .ok buildRoot ∧
        SameSession d d' ∧ Removes now buildRoot (isLimited olderThan o) x ∧
        (clean now c root olderThan).run.run d = x.run.run d' := by
  rw [clean]
  obtain hstop | ⟨o', d₁, hoptions, hd₁, hrun⟩ := run_bind_quiet (quiet_options c root) _ d
  · exact .inl hstop
  obtain rfl : o' = o := by
    have hload' := load_of_options hoptions
    rw [hload] at hload'
    exact (Except.ok.inj hload').symm
  rw [hrun]
  obtain ⟨stop, d₂, hrun, hd₂⟩ | ⟨buildRoot, d₂, hask, hd₂, hrun⟩ :=
    run_bind_quiet (quiet_ask (BuildRoot.ofOptions · o' root)) _ d₁
  · exact .inl ⟨stop, d₂, hrun, hd₂.trans hd₁⟩
  have hbuild : BuildRoot.ofOptions d.session.host.files o' root = .ok buildRoot := by
    rw [← (show d₁.session = d.session from hd₁)]
    exact (of_run_ask hask).1
  rw [hrun]
  dsimp only
  split
  · next days hdays =>
    have hlimited : isLimited olderThan o' = true := by
      cases olderThan with
      | some x => rfl
      | none =>
        cases hcleanup : o'.cleanupDays with
        | some n => simp [isLimited, hcleanup]
        | none =>
          rw [hcleanup] at hdays
          cases hdays
    obtain ⟨stop, d₃, hrun, hd₃⟩ | ⟨shownDays, d₃, -, hd₃, hrun⟩ :=
      run_bind_quiet (quiet_ask fun _ => daysText days) _ d₂
    · exact .inl ⟨stop, d₃, hrun, (hd₃.trans hd₂).trans hd₁⟩
    rw [hrun]
    obtain ⟨stop, d₄, hrun, hd₄⟩ | ⟨_, d₄, -, hd₄, hrun⟩ := run_bind_quiet (quiet_say _) _ d₃
    · exact .inl ⟨stop, d₄, hrun, ((hd₄.trans hd₃).trans hd₂).trans hd₁⟩
    refine .inr ⟨buildRoot, d₄, _, hbuild, ((hd₄.trans hd₃).trans hd₂).trans hd₁, ?_, hrun⟩
    rw [Removes, if_pos hlimited]
    exact ⟨days, _, fun _ => quiet_say _, rfl⟩
  · next hdays =>
    have hlimited : isLimited olderThan o' = false := by
      cases olderThan with
      | some x => cases hdays
      | none =>
        cases hcleanup : o'.cleanupDays with
        | some n =>
          rw [hcleanup] at hdays
          cases hdays
        | none => simp [isLimited, hcleanup]
    obtain ⟨stop, d₃, hrun, hd₃⟩ | ⟨_, d₃, -, hd₃, hrun⟩ := run_bind_quiet (quiet_say _) _ d₂
    · exact .inl ⟨stop, d₃, hrun, (hd₃.trans hd₂).trans hd₁⟩
    refine .inr ⟨buildRoot, d₃, _, hbuild, (hd₃.trans hd₂).trans hd₁, ?_, hrun⟩
    rw [Removes, if_neg (by simp [hlimited])]
    refine ⟨_, fun wasThere => ?_, rfl⟩
    split
    · exact quiet_say _
    · exact quiet_say _

/-- The directory of the slots is a path of plain names. -/
theorem isResolved_of_ofOptions {buildRoot : Path} (hhere : ∀ n ∈ h.files.here, Path.IsPlain n)
    (hroot : Host.realPath h.files (Path.ofText c.root) = .ok root)
    (hbuild : BuildRoot.ofOptions h.files o root = .ok buildRoot) : buildRoot.IsResolved :=
  have hcreate : Plugin.create h.files o (Path.ofText c.root) Mode.build.text =
      .ok { options := o, projectRoot := root, buildRoot, mode := .build } :=
    Plugin.create_eq_ok_iff.2 ⟨hroot, hbuild, rfl, rfl⟩
  (Plugin.isResolved_of_create hhere hcreate).2

/-- The host behind an action and what is said about it. -/
theorem host_act_bind {α β : Type} {f : Action α} {tail : α → Doing β} (htail : ∀ a, Quiet (tail a))
    (d : Progress) :
    ((act f >>= tail).run.run d).2.session.host = (f.run.run d.session.host).2 := by
  rw [session_bind_quiet htail, session_act]

theorem loses_cleaned (hnamed : IsNamed h.files) (hhere : ∀ n ∈ h.files.here, Path.IsPlain n)
    (hroot : Host.realPath h.files (Path.ofText c.root) = .ok root)
    (hload : Config.load h.files (c.config.map Path.ofText) root = .ok o) :
    Loses (Removable h.files o root (isLimited olderThan o)) h.files
      (cleaned now c root olderThan h).files := by
  rw [cleaned]
  obtain ⟨stop, d, hrun, hd⟩ | ⟨buildRoot, d, x, hbuild, hd, hx, hrun⟩ :=
    run_clean_cases now olderThan (d := { session := { host := h } }) hload
  · rw [hrun]
    dsimp only
    rw [show d.session = { host := h } from hd]
    exact .refl _ _
  rw [hrun]
  have hhost : d.session.host = h := congrArg Session.host hd
  have hresolved := isResolved_of_ofOptions hhere hroot hbuild
  intro q
  cases hlimited : isLimited olderThan o with
  | true =>
    rw [Removes, if_pos hlimited] at hx
    obtain ⟨days, tail, htail, rfl⟩ := hx
    rw [host_act_bind htail, hhost]
    rcases loses_prune hresolved hnamed now days q with hsame | ⟨hnone, place, ⟨dir, hdir, hin⟩, hq⟩
    · exact .inl hsame
    · exact .inr ⟨hnone, place, ⟨dir, ⟨buildRoot, hbuild, hdir⟩, hin⟩, hq⟩
  | false =>
    rw [Removes, if_neg (by simp [hlimited])] at hx
    obtain ⟨tail, htail, rfl⟩ := hx
    rw [host_act_bind htail, hhost]
    rcases loses_clean (h := h) hresolved q with hsame | ⟨hnone, place, hdir, hq⟩
    · exact .inl hsame
    · exact .inr ⟨hnone, place, ⟨place, ⟨buildRoot, hbuild, hdir⟩, rfl⟩, hq⟩

/-- Without an age limit nothing is left of the directory, if cleaning succeeds. -/
theorem entryAt_cleaned (hhere : ∀ n ∈ h.files.here, Path.IsPlain n)
    (hroot : Host.realPath h.files (Path.ofText c.root) = .ok root)
    (hload : Config.load h.files (c.config.map Path.ofText) root = .ok o)
    (hok : ((clean now c root olderThan).run.run { session := { host := h } }).1 = .ok ())
    (hlimited : isLimited olderThan o = false) {dir : Place}
    (hdir : SlotDirectory h.files o root dir) {q : Place} (hq : q ≠ []) (hbelow : dir <+: q) :
    (cleaned now c root olderThan h).files.entryAt q = none := by
  rw [cleaned]
  obtain ⟨stop, d, hrun, -⟩ | ⟨buildRoot, d, x, hbuild, hd, hx, hrun⟩ :=
    run_clean_cases now olderThan (d := { session := { host := h } }) hload
  · rw [hrun] at hok
    cases hok
  rw [hrun] at hok ⊢
  rw [Removes, if_neg (by simp [hlimited])] at hx
  obtain ⟨tail, htail, rfl⟩ := hx
  obtain ⟨wasThere, d₁, hact, -⟩ := run_bind_ok (Prod.ext hok rfl)
  obtain ⟨host, hclean, -⟩ := of_run_act hact
  rw [host_act_bind htail, hclean]
  rw [show d.session.host = h from congrArg Session.host hd] at hclean
  obtain ⟨buildRoot', hbuild', hleads⟩ := hdir
  obtain rfl : buildRoot' = buildRoot := by
    rw [hbuild] at hbuild'
    exact (Except.ok.inj hbuild').symm
  exact entryAt_clean (isResolved_of_ofOptions hhere hroot hbuild) hclean hleads hq hbelow

/-- Cleaning stays in the directory of the slots. Without an age limit it takes that directory, and if
it succeeds nothing is left of it; with one it takes directories that stand directly in it. Nothing is
made or changed, what stands outside of the directory stays, and so do the project and the directories
above it, unless the project itself stands in that directory. -/
theorem clean_within (hnamed : IsNamed h.files)
    (hhere : ∀ n ∈ h.files.here, Path.IsPlain n)
    (hroot : Host.realPath h.files (Path.ofText c.root) = .ok root)
    (hload : Config.load h.files (c.config.map Path.ofText) root = .ok o) :
    let left := (cleaned now c root olderThan h).files
    (∀ q, left.entryAt q = h.files.entryAt q ∨
      left.entryAt q = none ∧
        ∃ place, Removable h.files o root (isLimited olderThan o) place ∧ place <+: q) ∧
      (∀ q, (∀ dir, SlotDirectory h.files o root dir → ¬ dir <+: q) →
        left.entryAt q = h.files.entryAt q) ∧
      (∀ q, q <+: root.names →
        (∀ dir, SlotDirectory h.files o root dir → ¬ dir <+: root.names) →
        left.entryAt q = h.files.entryAt q) ∧
      (((clean now c root olderThan).run.run { session := { host := h } }).1 = .ok () →
        isLimited olderThan o = false → ∀ dir, SlotDirectory h.files o root dir →
        ∀ q, q ≠ [] → dir <+: q → left.entryAt q = none) := by
  have hloses := loses_cleaned now olderThan hnamed hhere hroot hload
  have houtside : ∀ q, (∀ dir, SlotDirectory h.files o root dir → ¬ dir <+: q) →
      (cleaned now c root olderThan h).files.entryAt q = h.files.entryAt q := by
    intro q hq
    rcases hloses q with hsame | ⟨-, place, hplace, hbelow⟩
    · exact hsame
    · obtain ⟨dir, hdir, habove⟩ := hplace.below
      exact absurd (habove.trans hbelow) (hq dir hdir)
  refine ⟨hloses, houtside, fun q hq hfar => ?_, fun hok hlimited dir hdir q hne hbelow => ?_⟩
  · exact houtside q fun dir hdir hbelow => hfar dir hdir (hbelow.trans hq)
  · exact entryAt_cleaned now olderThan hhere hroot hload hok hlimited hdir hne hbelow

/-- Cleaning succeeds if the directory of the slots can be shown and removed. -/
theorem clean_ok {buildRoot : Path} {wasThere : Bool} {h' : Host}
    (hload : Config.load h.files (c.config.map Path.ofText) root = .ok o)
    (hdays : o.cleanupDays = none)
    (hbuild : BuildRoot.ofOptions h.files o root = .ok buildRoot)
    (hopen : '[' ∉ buildRoot.text) (hback : '\\' ∉ buildRoot.text)
    (hclean : (BuildRoot.clean buildRoot).run.run h = (.ok wasThere, h')) :
    ((clean now c root none).run.run { session := { host := h } }).1 = .ok () := by
  have hrun := run_options (d := { session := { host := h } }) hload
  rw [clean, run_bind, hrun]
  dsimp only
  rw [run_bind, run_ask, hbuild, hdays]
  simp only [Option.bind_eq_bind, Option.bind_none, Option.map_none]
  obtain ⟨shown, hsay⟩ := run_say (Markup.render_styled
    (s := "Cleaning " ++ buildRoot.text ++ "...") isLineStyle_boldBlue
    (by simpa using hopen) (by simpa using hback)) { session := { host := h } }
  rw [run_bind, hsay]
  dsimp only
  rw [run_bind, run_act, hclean]
  dsimp only
  split
  · obtain ⟨shown, hsay⟩ := run_say (Markup.render_styled (s := "✓ Clean complete")
      isLineStyle_green (by decide) (by decide)) _
    rw [hsay]
  · obtain ⟨shown, hsay⟩ := run_say (Markup.render_plain (s := "Nothing to clean")
      (by decide) (by decide)) _
    rw [hsay]

/-- A project with one module and one slot, configured by a text. -/
def smallProject (config : Text) : Host where
  files :=
    { items := [
        (["p".toList], ⟨.directory, 0⟩),
        (["p".toList, "m.js".toList], ⟨.file [], 0⟩),
        (["p".toList, "use-golang.json".toList], ⟨.file (Utf8.encode config), 0⟩),
        (["p".toList, ".use-golang".toList], ⟨.directory, 0⟩),
        (["p".toList, ".use-golang".toList, "m_js".toList], ⟨.directory, 0⟩)] }
  toolchain := { place := [] }

/-- What is asked for in it. -/
def smallCommon : Common := { debug := false, config := none, root := "/p" }

/-- With slots in their own directory the module stays. -/
theorem clean_within_small :
    (cleaned 0 smallCommon (Path.ofNames ["p".toList]) none (smallProject "\x7b\x7d")).files.entryAt
      ["p".toList, "m.js".toList] = some (.file []) := by
  have hroot : Host.realPath (smallProject "\x7b\x7d").files (Path.ofText smallCommon.root) =
      .ok (Path.ofNames ["p".toList]) := by cbv
  have hload : Config.load (smallProject "\x7b\x7d").files (smallCommon.config.map Path.ofText)
      (Path.ofNames ["p".toList]) = .ok {} := by cbv
  have hall := clean_within 0 none (by decide) (by simp [smallProject]) hroot hload
  obtain ⟨-, houtside, -, -⟩ := hall
  rw [houtside _ fun dir hdir hbelow => ?_]
  · rfl
  · obtain ⟨buildRoot, hbuild, m, hl⟩ := hdir
    have hroot : BuildRoot.ofOptions (smallProject "\x7b\x7d").files {} (Path.ofNames ["p".toList]) =
        .ok (Path.ofNames ["p".toList, ".use-golang".toList]) := by cbv
    rw [hroot] at hbuild
    cases hbuild
    have hleads : (smallProject "\x7b\x7d").files.locate true
        (Path.ofNames ["p".toList, ".use-golang".toList]) =
          .ok (["p".toList, ".use-golang".toList], some ⟨.directory, 0⟩) := by cbv
    rw [hleads] at hl
    cases hl
    revert hbelow
    decide

/-! ## §5 A project that is removed -/

/-- Nothing asks what the configured directory is. Here it is the project itself, and cleaning removes
the project with its module. -/
theorem clean_removes_project :
    let h := smallProject "\x7b\"build_dir\":\".\"\x7d"
    let root := Path.ofNames ["p".toList]
    (∃ o, Config.load h.files (smallCommon.config.map Path.ofText) root = .ok o) ∧
      Host.realPath h.files (Path.ofText smallCommon.root) = .ok root ∧
      ((clean 0 smallCommon root none).run.run { session := { host := h } }).1 = .ok () ∧
      h.files.entryAt ["p".toList] = some .directory ∧
      h.files.entryAt ["p".toList, "m.js".toList] = some (.file []) ∧
      (cleaned 0 smallCommon root none h).files.entryAt ["p".toList] = none ∧
      (cleaned 0 smallCommon root none h).files.entryAt ["p".toList, "m.js".toList] = none := by
  intro h root
  have hhere : ∀ n ∈ h.files.here, Path.IsPlain n := by simp [h, smallProject]
  have hroot : Host.realPath h.files (Path.ofText smallCommon.root) = .ok root := by
    simp only [h, root]
    cbv
  have hload : Config.load h.files (smallCommon.config.map Path.ofText) root =
      .ok { buildDirectory := "." } := by
    simp only [h, root]
    cbv
  have hbuild : BuildRoot.ofOptions h.files { buildDirectory := "." } root = .ok root := by
    simp only [h, root]
    generalize Utf8.encode "\x7b\"build_dir\":\".\"\x7d" = content
    cbv
  have hdir : h.files.locate true root = .ok (["p".toList], some ⟨.directory, 0⟩) := by
    simp only [h, root]
    cbv
  have hclean : ∃ h', (BuildRoot.clean root).run.run h = (.ok true, h') := by
    simp only [h, root]
    exact ⟨_, by cbv⟩
  obtain ⟨h', hclean⟩ := hclean
  have hok : ((clean 0 smallCommon root none).run.run { session := { host := h } }).1 = .ok () :=
    clean_ok 0 hload rfl hbuild (by decide) (by decide) hclean
  have hleads : SlotDirectory h.files { buildDirectory := "." } root ["p".toList] :=
    ⟨root, hbuild, 0, hdir⟩
  exact ⟨⟨_, hload⟩, hroot, hok, rfl, rfl,
    entryAt_cleaned 0 none hhere hroot hload hok rfl hleads (by simp) List.prefix_rfl,
    entryAt_cleaned 0 none hhere hroot hload hok rfl hleads (by simp) (by decide)⟩

end Command
end EmbeddedGo
