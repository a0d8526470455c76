/-
EmbeddedGo.Proofs.MadeDirectories — where directories stand that are made on the way to a path.

Links may stand on the way. A path of plain names leads through them to a directory (`LeadsTo`), and
what is called by one more name stands directly in that directory, unless it is a link itself. So what
is missing of such a path is made at one place after the other, each in the one before, and nothing
stood there (`made_ensurePath`). Where the making succeeds, the directory was there before and nothing
changed, or it is new and stands below all others that are new (`ensurePath_eq_ok`).

What is found below a directory is then the same before and after. If no link stood below the root of a
slot, no link stands at the slot or in it (`standsIn_of_makePath`).

  §1 walks and their last step
  §2 paths that lead to directories
  §3 directories that are made
  §4 directories below a root
-/
import EmbeddedGo.Proofs.Frame
import EmbeddedGo.Proofs.Removal

namespace EmbeddedGo.FileTree

variable {t t' : FileTree}

/-! ## §1 Walks -/

section Walks

variable {follow : Bool} {links : Nat} {names more : List Text} {here place : Place}
  {found : Option Item}

/-- A walk that succeeds with more names has come through a directory. -/
theorem walk_of_append (hmore : more ≠ []) (hopen : t.IsOpen here)
    (h : t.walk follow links (names ++ more) here = .ok (place, found)) :
    ∃ dir m, t.walk true links names here = .ok (dir, some ⟨.directory, m⟩) := by
  have hempty : ∀ rest : List Text, (rest ++ more).isEmpty = false := by simp [hmore]
  have hstart : ∀ {here : Place} (target : Text), t.IsOpen here →
      t.IsOpen (targetStart here target) := by
    intro here target ho
    unfold targetStart
    split
    · exact isOpen_nil t
    · exact ho
  fun_induction FileTree.walk t true links names here with
  | case1 links here =>
    obtain ⟨m, hitem⟩ := entryAt_eq_some (hopen _ (List.prefix_refl _))
    exact ⟨here, m, by rw [hitem]⟩
  | case2 links rest here ih =>
    rw [List.cons_append, FileTree.walk, if_pos rfl] at h
    exact ih (hopen.above (List.dropLast_prefix _)) h
  | case3 links rest here hd ih =>
    rw [List.cons_append, FileTree.walk, if_neg hd, if_pos rfl] at h
    exact ih hopen h
  | case4 links name rest here hdots hdot hf =>
    rw [List.cons_append, FileTree.walk, if_neg hdots, if_neg hdot, if_pos hf] at h
    cases h
  | case5 links name rest here hdots hdot hf hitem hr =>
    rw [List.cons_append, walk_cons hdots hdot (Nat.not_lt.1 hf), hitem] at h
    simp [hmore] at h
  | case6 links name rest here hdots hdot hf hitem hr =>
    rw [List.cons_append, walk_cons hdots hdot (Nat.not_lt.1 hf), hitem] at h
    simp [hmore] at h
  | case7 links name rest here hdots hdot hf m hitem ih =>
    rw [List.cons_append, walk_cons hdots hdot (Nat.not_lt.1 hf), hitem] at h
    exact ih (hopen.snoc (entryAt_of_get? hitem)) h
  | case8 links name rest here hdots hdot hf c m hitem hr =>
    rw [List.cons_append, walk_cons hdots hdot (Nat.not_lt.1 hf), hitem] at h
    simp [hmore] at h
  | case9 links name rest here hdots hdot hf c m hitem hr =>
    rw [List.cons_append, walk_cons hdots hdot (Nat.not_lt.1 hf), hitem] at h
    simp [hmore] at h
  | case10 links name rest here hdots hdot hf target m hitem hr => simp at hr
  | case11 name rest here hdots hdot hf target m hitem hr =>
    rw [List.cons_append, walk_cons hdots hdot (Nat.not_lt.1 hf), hitem] at h
    dsimp only at h
    rw [hempty rest] at h
    cases h
  | case12 name rest here hdots hdot hf target m hitem hr links ih =>
    rw [List.cons_append, walk_cons hdots hdot (Nat.not_lt.1 hf), hitem] at h
    dsimp only at h
    rw [hempty rest, Bool.false_and, if_neg (by simp), ← List.append_assoc] at h
    exact ih (hstart target hopen) h

theorem fits_of_walk {last : Text} (hlast : Path.IsPlain last)
    (h : t.walk follow links [last] here = .ok (place, found)) : Fits last := by
  by_contra hf
  rw [walk_cons_tooLong hlast hf] at h
  cases h

/-- One name leads into the directory that it is looked up in, unless a link is followed from there. -/
theorem place_of_walk {last : Text} (hlast : Path.IsPlain last)
    (h : t.walk follow links [last] here = .ok (place, found))
    (hlink : follow = false ∨ ∀ target, t.entryAt (here ++ [last]) ≠ some (.link target)) :
    place = here ++ [last] := by
  rw [walk_cons hlast.notDots hlast.notDot (fits_of_walk hlast h)] at h
  split at h
  · cases h
    rfl
  · rw [FileTree.walk] at h
    cases h
    rfl
  · cases h
    rfl
  · next target m hitem =>
    rcases hlink with rfl | hlink
    · cases h
      rfl
    · exact absurd (entryAt_of_get? hitem) (hlink target)

end Walks

/-! ## §2 Directories -/

section LeadsTo

variable {p : Path} {last : Text} {dir place : Place}

/-- A path that leads to a directory leads there for as long as nothing is taken away. -/
theorem LeadsTo.keeps (h : t.LeadsTo p dir) (hp : p.IsResolved) (hkeeps : t.Keeps t') :
    t'.LeadsTo p dir := by
  obtain ⟨m, hl⟩ := h
  have hentry : t'.entryAt dir = some .directory :=
    hkeeps.directories _ (entryAt_of_get? (locate_found hl).symm)
  obtain ⟨m', hitem⟩ := entryAt_eq_some hentry
  refine ⟨m', ?_⟩
  rw [locate_resolved t true hp] at hl
  rw [locate_resolved t' true hp]
  split at hl
  · cases hl
  · rw [hkeeps.walk hl (by simp [hentry]), hitem]

theorem LeadsTo.entryAt (h : t.LeadsTo p dir) : t.entryAt dir = some .directory := by
  obtain ⟨m, hl⟩ := h
  exact entryAt_of_get? (locate_found hl).symm

/-- Whether a name can be looked up behind a path at all. -/
def CanFollow (p : Path) (last : Text) : Prop :=
  refused? (Path.ofNames (p.names ++ [last])) = none ∧ Fits last

/-- What is found behind a path and one more name is found in a directory. -/
theorem leadsTo_of_child (hp : p.IsResolved) (hlast : Path.IsPlain last) {follow : Bool}
    {found : Option Item} (h : t.locate follow (p.child last) = .ok (place, found)) :
    ∃ dir, t.LeadsTo p dir ∧ CanFollow p last ∧
      (follow = false ∨ (∀ target, t.entryAt (dir ++ [last]) ≠ some (.link target)) →
        place = dir ++ [last]) := by
  rw [locate_resolved t follow (hp.child hlast), hp.child_eq hlast] at h
  split at h
  · cases h
  · next hr =>
    obtain ⟨dir, m, hdir⟩ := walk_of_append (List.cons_ne_nil last []) (isOpen_nil t) h
    have hleads : t.LeadsTo p dir := by
      refine ⟨m, ?_⟩
      have hparent := refused?_parent hr
      rw [← hp.eq_ofNames] at hparent
      rw [locate_resolved t true hp, hparent]
      exact hdir
    obtain ⟨left, hleft⟩ :=
      @walk_append_of_directory t follow linkLimit p.names [last] [] dir m (by simp) hdir
    have hlastWalk := hleft.symm.trans h
    exact ⟨dir, hleads, ⟨hr, fits_of_walk hlast hlastWalk⟩, place_of_walk hlast hlastWalk⟩

/-- What stands in a directory is found behind the path that leads there. -/
theorem LeadsTo.locate_child (h : t.LeadsTo p dir) (hp : p.IsResolved) (hlast : Path.IsPlain last)
    (hfollow : CanFollow p last)
    (hlink : ∀ target, t.entryAt (dir ++ [last]) ≠ some (.link target)) :
    t.locate true (p.child last) = .ok (dir ++ [last], t.get? (dir ++ [last])) := by
  obtain ⟨m, hl⟩ := h
  rcases FileTree.locate_child hp hl hlast with ⟨e, hr, -⟩ | ⟨left, hleft⟩
  · rw [hfollow.1] at hr
    cases hr
  · rw [hleft, walk_last hlast.notDots hlast.notDot hfollow.2 hlink]

/-- Behind a path that leads to a directory nothing is missing but the last entry itself. -/
theorem LeadsTo.makeDirectory_ne_notFound (h : t.LeadsTo p dir) (hp : p.IsResolved)
    (hlast : Path.IsPlain last) : t.makeDirectory (p.child last) ≠ .error .notFound := by
  obtain ⟨m, hl⟩ := h
  have hlocate : t.locate false (p.child last) ≠ .error .notFound := by
    rw [locate_resolved t false (hp.child hlast), hp.child_eq hlast]
    split
    · next e hr => simpa using ne_notFound_of_refused hr
    · rw [locate_resolved t true hp] at hl
      split at hl
      · cases hl
      · obtain ⟨left, hleft⟩ :=
          @walk_append_of_directory t false linkLimit p.names [last] [] dir m (by simp) hl
        refine fun hmissing => ?_
        rw [show (Path.ofNames (p.names ++ [last])).names = p.names ++ [last] from rfl,
          hleft] at hmissing
        by_cases hf : Fits last
        · rw [walk_cons hlast.notDots hlast.notDot hf] at hmissing
          split at hmissing
          · cases hmissing
          · rw [FileTree.walk] at hmissing
            cases hmissing
          · cases hmissing
          · cases hmissing
        · rw [walk_cons_tooLong hlast hf] at hmissing
          cases hmissing
  unfold makeDirectory
  split
  · next e he => exact fun heq => hlocate (he.trans (by simpa using heq))
  · simp
  · simp

/-- A directory that is made stands directly in the one that its path leads to so far. -/
theorem makeDirectory_child (hp : p.IsResolved) (hlast : Path.IsPlain last)
    (h : t.makeDirectory (p.child last) = .ok t') :
    ∃ dir, t.LeadsTo p dir ∧ t.entryAt (dir ++ [last]) = none ∧
      t'.LeadsTo (p.child last) (dir ++ [last]) ∧
      ∀ q, t'.entryAt q = if q = dir ++ [last] then some .directory else t.entryAt q := by
  have hmakes := makes_makeDirectory h
  unfold makeDirectory at h
  split at h
  · cases h
  · next place hl =>
    obtain ⟨dir, hdir, hfollow, hplace⟩ := leadsTo_of_child hp hlast hl
    obtain rfl := hplace (.inl rfl)
    have hnone : t.entryAt (dir ++ [last]) = none := Option.map_eq_none_iff.2 (locate_found hl).symm
    have hentries : ∀ q, t'.entryAt q =
        if q = dir ++ [last] then some .directory else t.entryAt q := by
      cases h
      exact fun q => entryAt_insert (by simp) ..
    have hentry : t'.entryAt (dir ++ [last]) = some .directory := by rw [hentries, if_pos rfl]
    obtain ⟨m, hitem⟩ := entryAt_eq_some hentry
    refine ⟨dir, hdir, hnone, ⟨m, ?_⟩, hentries⟩
    rw [(hdir.keeps hp hmakes.keeps).locate_child hp hlast hfollow (by simp [hentry]), hitem]
  · cases h

end LeadsTo

/-! ## §3 What is made -/

section Made

variable {names : List Text} {last : Text} {depth : Nat}

theorem isResolved_ofNames (hn : ∀ n ∈ names, Path.IsPlain n) : (Path.ofNames names).IsResolved :=
  ⟨rfl, hn⟩

theorem child_ofNames (hn : ∀ n ∈ names, Path.IsPlain n) (hlast : Path.IsPlain last) :
    (Path.ofNames names).child last = Path.ofNames (names ++ [last]) :=
  (isResolved_ofNames hn).child_eq hlast

theorem parent_ofNames (names : List Text) (last : Text) :
    (Path.ofNames (names ++ [last])).parent = Path.ofNames names := by
  simp [Path.parent, Path.ofNames]

/-- A directory that is there after all was made, or it was there before. -/
theorem ensureDirectory_eq_ok {p : Path} (h : t.ensureDirectory p = .ok t') :
    t.makeDirectory p = .ok t' ∨ t' = t ∧ ∃ dir, t.LeadsTo p dir := by
  unfold ensureDirectory at h
  split at h
  · next hmake =>
    cases h
    exact .inl hmake
  · split at h
    · cases h
    · next hdir =>
      cases h
      obtain ⟨dir, m, hl⟩ := isDirectory_eq_true_iff.1 hdir
      exact .inr ⟨rfl, dir, m, hl⟩
    · cases h

/-- The second tree has more directories, where nothing stood, and paths of some of the names lead to
them. -/
def Made (names : List Text) (t t' : FileTree) : Prop :=
  ∀ q, t'.entryAt q = t.entryAt q ∨ t.entryAt q = none ∧ t'.entryAt q = some .directory ∧
    ∃ names', names' <+: names ∧ t'.LeadsTo (Path.ofNames names') q

theorem Made.refl (names : List Text) (t : FileTree) : Made names t t := fun _ => .inl rfl

theorem locate_top (follow : Bool) (t : FileTree) :
    t.locate follow (Path.ofNames []) = .ok ([], some ⟨.directory, 0⟩) := by
  rw [locate_resolved t follow ⟨rfl, by simp [Path.ofNames]⟩,
    show refused? (Path.ofNames []) = none by decide]
  show t.walk follow linkLimit [] [] = _
  rw [FileTree.walk]
  rfl

theorem leadsTo_top (t : FileTree) : t.LeadsTo (Path.ofNames []) [] := ⟨0, locate_top true t⟩

theorem made_makeDirectory (hn : ∀ n ∈ names, Path.IsPlain n)
    (h : t.makeDirectory (Path.ofNames names) = .ok t') : Made names t t' := by
  cases names using List.reverseRecOn with
  | nil =>
    rw [makeDirectory, locate_top] at h
    cases h
  | append_singleton names last =>
    have hnames : ∀ n ∈ names, Path.IsPlain n := fun n h => hn n (by simp [h])
    have hlast : Path.IsPlain last := hn last (by simp)
    rw [← child_ofNames hnames hlast] at h
    obtain ⟨dir, -, hnone, hleads, hentries⟩ := makeDirectory_child ⟨rfl, hnames⟩ hlast h
    rw [child_ofNames hnames hlast] at hleads
    intro q
    rw [hentries]
    split
    · next hq => exact .inr ⟨hq ▸ hnone, rfl, _, List.prefix_refl _, hq ▸ hleads⟩
    · exact .inl rfl

theorem Made.trans {a b c : FileTree} (hn : ∀ n ∈ names, Path.IsPlain n) (h : Made names a b)
    (h' : Made names b c) (hkeeps : b.Keeps c) : Made names a c := by
  intro q
  rcases h' q with hsame | ⟨hnone, hmade⟩
  · rw [hsame]
    refine (h q).imp_right fun ⟨hnone, hdir, names', hnames', hleads⟩ =>
      ⟨hnone, hdir, names', hnames', hleads.keeps ⟨rfl, fun n h => hn n (hnames'.subset h)⟩ hkeeps⟩
  · rcases h q with hsame | ⟨-, hdir, -⟩
    · exact .inr ⟨hsame ▸ hnone, hmade⟩
    · rw [hdir] at hnone
      cases hnone

theorem made_ensureDirectory (hn : ∀ n ∈ names, Path.IsPlain n)
    (h : t.ensureDirectory (Path.ofNames names) = .ok t') : Made names t t' := by
  rcases ensureDirectory_eq_ok h with hmake | ⟨rfl, -⟩
  · exact made_makeDirectory hn hmake
  · exact .refl _ _

theorem Made.above (h : Made names.dropLast t t') : Made names t t' :=
  fun q => (h q).imp_right fun ⟨hnone, hdir, names', hnames', hleads⟩ =>
    ⟨hnone, hdir, names', hnames'.trans (List.dropLast_prefix names), hleads⟩

/-- All that is made on the way to a path, whether that succeeds or not, are directories where nothing
stood, to which the path leads or one above it. -/
theorem made_ensurePath (hn : ∀ n ∈ names, Path.IsPlain n) (depth : Nat) (t : FileTree) :
    Made names t (t.ensurePath depth (Path.ofNames names)).2 := by
  generalize hp : Path.ofNames names = p
  fun_induction ensurePath depth t p generalizing names with
  | case1 depth t p t' h => exact made_makeDirectory hn (hp ▸ h)
  | case2 t p h => exact .refl _ _
  | case3 t p h depth f t' hrec ih =>
    subst hp
    have hmade := ih (fun n h => hn n (List.mem_of_mem_dropLast h)) rfl
    rw [show (t.ensurePath depth (Path.ofNames names).parent) = (.error f, t') from hrec] at hmade
    exact hmade.above
  | case4 t p h depth t' hrec t'' hlast ih =>
    subst hp
    have hmade := ih (fun n h => hn n (List.mem_of_mem_dropLast h)) rfl
    rw [show (t.ensurePath depth (Path.ofNames names).parent) = (.ok (), t') from hrec] at hmade
    exact hmade.above.trans hn (made_ensureDirectory hn hlast) (makes_ensureDirectory hlast).keeps
  | case5 t p h depth t' hrec f hlast ih =>
    subst hp
    have hmade := ih (fun n h => hn n (List.mem_of_mem_dropLast h)) rfl
    rw [show (t.ensurePath depth (Path.ofNames names).parent) = (.ok (), t') from hrec] at hmade
    exact hmade.above
  | case6 depth t p e hne h t' hlast => exact made_ensureDirectory hn (hp ▸ hlast)
  | case7 depth t p e hne h f hlast => exact .refl _ _

/-- The second tree has more directories, all of them on the way to a place where nothing stood, to
which a path of the names and of one more leads now. -/
structure MadeDown (t t' : FileTree) (names : List Text) (last : Text) (dir : Place) : Prop where
  above : t'.LeadsTo (Path.ofNames names) dir
  leads : t'.LeadsTo (Path.ofNames (names ++ [last])) (dir ++ [last])
  fresh : t.entryAt (dir ++ [last]) = none
  entries : ∀ q, t'.entryAt q = t.entryAt q ∨
    t.entryAt q = none ∧ t'.entryAt q = some .directory ∧ q <+: dir ++ [last]

theorem madeDown_makeDirectory (hnames : ∀ n ∈ names, Path.IsPlain n) (hlast : Path.IsPlain last)
    (h : t.makeDirectory (Path.ofNames (names ++ [last])) = .ok t') :
    ∃ dir, t.LeadsTo (Path.ofNames names) dir ∧ MadeDown t t' names last dir := by
  have hkeeps := (makes_makeDirectory h).keeps
  rw [← child_ofNames hnames hlast] at h
  obtain ⟨dir, hdir, hnone, hleads, hentries⟩ := makeDirectory_child ⟨rfl, hnames⟩ hlast h
  refine ⟨dir, hdir, hdir.keeps ⟨rfl, hnames⟩ hkeeps, child_ofNames hnames hlast ▸ hleads, hnone,
    fun q => ?_⟩
  rw [hentries]
  split
  · next hq => exact .inr ⟨hq ▸ hnone, rfl, hq ▸ List.prefix_refl _⟩
  · exact .inl rfl

theorem MadeDown.entries_trans {a b c : FileTree} {n : Text} {dir : Place}
    (h : MadeDown a b names n dir) (h' : MadeDown b c (names ++ [n]) last (dir ++ [n])) (q : Place) :
    c.entryAt q = a.entryAt q ∨
      a.entryAt q = none ∧ c.entryAt q = some .directory ∧ q <+: dir ++ [n] ++ [last] := by
  rcases h'.entries q with hsame | ⟨hnone, hdir, hprefix⟩
  · rw [hsame]
    exact (h.entries q).imp_right fun ⟨hnone, hdir, hprefix⟩ =>
      ⟨hnone, hdir, hprefix.trans (List.prefix_append ..)⟩
  · rcases h.entries q with hsame | ⟨-, hmade, -⟩
    · exact .inr ⟨hsame ▸ hnone, hdir, hprefix⟩
    · rw [hmade] at hnone
      cases hnone

/-- A path that is there after all was made at once, or was there, or was made behind the one above. -/
theorem ensurePath_cases {p : Path} (h : t.ensurePath depth p = (.ok (), t')) :
    t.makeDirectory p = .ok t' ∨ (t' = t ∧ ∃ dir, t.LeadsTo p dir) ∨
      t.makeDirectory p = .error .notFound ∧ ∃ depth' t₁,
        t.ensurePath depth' p.parent = (.ok (), t₁) ∧ t₁.ensureDirectory p = .ok t' := by
  unfold ensurePath at h
  split at h
  · next t₁ hmake =>
    cases h
    exact .inl hmake
  · next hmake =>
    cases depth with
    | zero => cases h
    | succ depth =>
      dsimp only at h
      split at h
      · cases h
      · next t₁ hrec =>
        split at h
        · next t₂ hlast =>
          cases h
          exact .inr (.inr ⟨hmake, depth, t₁, hrec, hlast⟩)
        · cases h
  · next e he hmake =>
    split at h
    · next t₁ hlast =>
      cases h
      rcases ensureDirectory_eq_ok hlast with hmake' | hthere
      · exact .inl hmake'
      · exact .inr (.inl hthere)
    · cases h

/-- Where the making of a path succeeds, the directory was there and nothing changed, or it is new and
stands below all that is new. -/
theorem ensurePath_eq_ok (htidy : t.IsTidy) (hnames : ∀ n ∈ names, Path.IsPlain n)
    (hlast : Path.IsPlain last)
    (h : t.ensurePath depth (Path.ofNames (names ++ [last])) = (.ok (), t')) :
    (t' = t ∧ ∃ place, t.LeadsTo (Path.ofNames (names ++ [last])) place) ∨
      ∃ dir, MadeDown t t' names last dir := by
  induction names using List.reverseRecOn generalizing last depth t' with
  | nil =>
    rcases ensurePath_cases h with hmake | hthere | ⟨hmissing, -⟩
    · obtain ⟨dir, -, hmade⟩ := madeDown_makeDirectory hnames hlast hmake
      exact .inr ⟨dir, hmade⟩
    · exact .inl hthere
    · rw [← child_ofNames hnames hlast] at hmissing
      exact absurd hmissing ((leadsTo_top t).makeDirectory_ne_notFound ⟨rfl, hnames⟩ hlast)
  | append_singleton names n ih =>
    have hn : Path.IsPlain n := hnames n (by simp)
    have habove : ∀ m ∈ names, Path.IsPlain m := fun m h => hnames m (by simp [h])
    rcases ensurePath_cases h with hmake | hthere | ⟨hmissing, depth', t₁, hrec, hensure⟩
    · obtain ⟨dir, -, hmade⟩ := madeDown_makeDirectory hnames hlast hmake
      exact .inr ⟨dir, hmade⟩
    · exact .inl hthere
    · rw [parent_ofNames] at hrec
      rcases ih habove hn hrec with ⟨-, place, hleads⟩ | ⟨dir, hmade⟩
      · -- where the path above leads somewhere nothing is missing
        rw [← child_ofNames hnames hlast] at hmissing
        exact absurd hmissing (hleads.makeDirectory_ne_notFound ⟨rfl, hnames⟩ hlast)
      · -- nothing stood where the one above was made, so nothing stands in it
        have hnone : t.entryAt (dir ++ [n] ++ [last]) = none := by
          by_contra hsome
          have hdir := htidy _ (dir ++ [n]) last (List.prefix_refl _) hsome
          rw [hmade.fresh] at hdir
          cases hdir
        have hnone₁ : t₁.entryAt (dir ++ [n] ++ [last]) = none := by
          rcases hmade.entries (dir ++ [n] ++ [last]) with hsame | ⟨-, -, hprefix⟩
          · rw [hsame, hnone]
          · simpa using hprefix.length_le
        rcases ensureDirectory_eq_ok hensure with hmake | ⟨rfl, place, m, hl⟩
        · obtain ⟨dir', hdir', hlower⟩ := madeDown_makeDirectory hnames hlast hmake
          obtain rfl := hdir'.unique hmade.leads
          exact .inr ⟨dir ++ [n], hlower.above, hlower.leads, hnone, hmade.entries_trans hlower⟩
        · rw [← child_ofNames hnames hlast] at hl
          obtain ⟨dir', hdir', -, hplace⟩ := leadsTo_of_child ⟨rfl, hnames⟩ hlast hl
          obtain rfl := hdir'.unique hmade.leads
          obtain rfl := hplace (.inr fun target hl => by rw [hnone₁] at hl; cases hl)
          rw [entryAt_of_get? (locate_found hl).symm] at hnone₁
          cases hnone₁

end Made

/-! ## §4 Below a root -/

/-- No link stands below the directory that a path leads to. -/
def NoLinksBelow (t : FileTree) (p : Path) : Prop :=
  ∀ dir, t.LeadsTo p dir → ∀ rest, rest ≠ [] → ∀ target, t.entryAt (dir ++ rest) ≠ some (.link target)

/-- A directory of that name stands directly in the one that the path leads to, and no link stands
in it. -/
structure StandsIn (t : FileTree) (root : Path) (slot : Text) (dir : Place) : Prop where
  leads : t.LeadsTo root dir
  directory : t.entryAt (dir ++ [slot]) = some .directory
  unlinked : ∀ name target, t.entryAt (dir ++ [slot] ++ [name]) ≠ some (.link target)

/-- A directory that was made below a root without links stands directly in the root, and no link stands
in it. The way to it is all that is new. -/
theorem standsIn_of_makePath (htidy : t.IsTidy) {root : Path} (hroot : root.IsResolved)
    (hlinks : t.NoLinksBelow root) {slot : Text} (hslot : Path.IsPlain slot)
    (h : t.makePath (root.child slot) = (.ok (), t')) :
    ∃ dir, StandsIn t' root slot dir ∧ ∀ q, t'.entryAt q = t.entryAt q ∨
      t.entryAt q = none ∧ t'.entryAt q = some .directory ∧ q <+: dir ++ [slot] := by
  have hchild : root.child slot = Path.ofNames (root.names ++ [slot]) := hroot.child_eq hslot
  rw [makePath, hchild] at h
  rcases ensurePath_eq_ok htidy hroot.plain hslot h with ⟨rfl, place, hleads⟩ | ⟨dir, hmade⟩
  · rw [← hchild] at hleads
    obtain ⟨m, hl⟩ := id hleads
    obtain ⟨dir, hdir, -, hplace⟩ := leadsTo_of_child hroot hslot hl
    obtain rfl := hplace (.inr fun target => hlinks dir hdir [slot] (by simp) target)
    refine ⟨dir, ⟨hdir, hleads.entryAt, fun name target => ?_⟩, fun q => .inl rfl⟩
    rw [List.append_assoc]
    exact hlinks dir hdir ([slot] ++ [name]) (by simp) target
  · have habove := hmade.above
    rw [← hroot.eq_ofNames] at habove
    refine ⟨dir, ⟨habove, hmade.leads.entryAt, fun name target hlink => ?_⟩, hmade.entries⟩
    -- what stands in a new directory stood there when it was none
    rcases hmade.entries (dir ++ [slot] ++ [name]) with hsame | ⟨-, -, hprefix⟩
    · have hdir := htidy _ (dir ++ [slot]) name (List.prefix_refl _) (by rw [← hsame, hlink]; simp)
      rw [hmade.fresh] at hdir
      cases hdir
    · simpa using hprefix.length_le

section StandsIn

variable {root : Path} {slot name : Text} {dir place : Place}

/-- Where a path and two more names lead to. -/
theorem StandsIn.place_eq (h : t.StandsIn root slot dir) (hroot : root.IsResolved)
    (hslot : Path.IsPlain slot) (hname : Path.IsPlain name) {found : Option Item}
    (hl : t.locate true ((root.child slot).child name) = .ok (place, found)) :
    place = dir ++ [slot] ++ [name] := by
  obtain ⟨inner, ⟨m, hinner⟩, -, hplace⟩ := leadsTo_of_child (hroot.child hslot) hname hl
  obtain ⟨dir', hdir', -, hinnerPlace⟩ := leadsTo_of_child hroot hslot hinner
  obtain rfl := hdir'.unique h.leads
  obtain rfl := hinnerPlace (.inr (by simp [h.directory]))
  exact hplace (.inr fun target => h.unlinked name target)

/-- It stands there still if nothing was taken away and no link is new. -/
theorem StandsIn.later (h : t.StandsIn root slot dir) (hroot : root.IsResolved)
    (hkeeps : t.Keeps t') (hlinks : Transform.LinksOf t t') : t'.StandsIn root slot dir where
  leads := h.leads.keeps hroot hkeeps
  directory := hkeeps.directories _ h.directory
  unlinked := fun name target hl => h.unlinked name target (hlinks _ target hl)

end StandsIn
end EmbeddedGo.FileTree
