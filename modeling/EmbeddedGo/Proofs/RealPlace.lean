/-
EmbeddedGo.Proofs.RealPlace — the real path of what is there.

Finding a file and working out its real path go through links in two ways. A walk counts the links it
follows; the real path follows them as deep as they lie, and stops where one leads round to itself.
Where a walk succeeds both end at the same place (`realPath_of_locate`). The reason is that a walk that
comes round to a link never ends (`walk_round`), so no link that is being followed comes up again, and
there are no more of them than entries.

So a path leads to the same real path for as long as the entry it leads to is there, whatever else
changes (`Keeps.locate`).

  §1 parts of a walk
  §2 links that lead round to themselves
  §3 real paths
-/
import EmbeddedGo.Proofs.ServedFile

namespace EmbeddedGo.FileTree

variable {t : FileTree} {names more : List Text} {here : Place}

/-! ## §1 Parts of a walk -/

/-- A walk that succeeds goes on from some names to others, behind so many links, whatever follows. -/
def Leads (t : FileTree) (links : Nat) (names : List Text) (here : Place) (names' : List Text)
    (here' : Place) : Prop :=
  ∀ left rest r, t.walk true left (names ++ rest) here = .ok r →
    links ≤ left ∧ t.walk true (left - links) (names' ++ rest) here' = .ok r

theorem Leads.refl (t : FileTree) (names : List Text) (here : Place) :
    t.Leads 0 names here names here := fun _ _ _ h => ⟨Nat.zero_le _, h⟩

theorem Leads.trans {k k' : Nat} {a b c : List Text} {x y z : Place} (h : t.Leads k a x b y)
    (h' : t.Leads k' b y c z) : t.Leads (k + k') a x c z := by
  intro left rest r hw
  obtain ⟨hk, hw⟩ := h left rest r hw
  obtain ⟨hk', hw⟩ := h' _ rest r hw
  exact ⟨by omega, by rwa [Nat.sub_sub] at hw⟩

theorem Leads.append {k : Nat} {a b : List Text} {x y : Place} (h : t.Leads k a x b y)
    (more : List Text) : t.Leads k (a ++ more) x (b ++ more) y := by
  intro left rest r hw
  rw [List.append_assoc] at hw ⊢
  exact h left (more ++ rest) r hw

theorem leads_dots (rest : List Text) (here : Place) :
    t.Leads 0 (['.', '.'] :: rest) here rest here.dropLast := by
  intro left more r hw
  rw [List.cons_append, walk, if_pos rfl] at hw
  exact ⟨Nat.zero_le _, hw⟩

theorem leads_dot (here : Place) : t.Leads 0 [['.']] here [] here := by
  intro left more r hw
  rw [List.singleton_append, walk, if_neg (by decide), if_pos rfl] at hw
  exact ⟨Nat.zero_le _, hw⟩

/-- A name that is no link leads to what stands there. -/
theorem leads_entry {name : Text} (hdots : name ≠ ['.', '.']) (hdot : name ≠ ['.'])
    (hlink : ∀ target m, t.get? (here ++ [name]) ≠ some ⟨.link target, m⟩) (rest : List Text) :
    t.Leads 0 (name :: rest) here rest (here ++ [name]) := by
  intro left more r hw
  refine ⟨Nat.zero_le _, ?_⟩
  rw [List.cons_append, walk, if_neg hdots, if_neg hdot] at hw
  split at hw
  · cases hw
  · split at hw
    · next hnone =>
      split at hw
      · next hempty =>
        rw [List.isEmpty_iff.1 hempty, walk, hnone]
        exact hw
      · cases hw
    · exact hw
    · next c m hfile =>
      split at hw
      · next hempty =>
        rw [List.isEmpty_iff.1 hempty, walk, hfile]
        exact hw
      · cases hw
    · next target m hl => exact absurd hl (hlink target m)

/-- A link leads on to its target. -/
theorem leads_link {name : Text} (hdots : name ≠ ['.', '.']) (hdot : name ≠ ['.']) {target : Text}
    {m : Int} (hlink : t.get? (here ++ [name]) = some ⟨.link target, m⟩) (rest : List Text) :
    t.Leads 1 (name :: rest) here (targetSteps target ++ rest) (targetStart here target) := by
  intro left more r hw
  rw [List.cons_append, walk, if_neg hdots, if_neg hdot] at hw
  split at hw
  · cases hw
  · rw [hlink] at hw
    dsimp only at hw
    rw [if_neg (by simp)] at hw
    cases left with
    | zero => cases hw
    | succ left =>
      rw [List.append_assoc]
      exact ⟨Nat.le_add_left .., hw⟩

/-- The steps of a target are its names, and then perhaps a dot. -/
theorem targetSteps_eq (target : Text) :
    ∃ tail, targetSteps target = targetNames target ++ tail ∧
      ∀ here, t.Leads 0 tail here [] here := by
  unfold targetSteps
  split
  · exact ⟨[['.']], rfl, leads_dot⟩
  · exact ⟨[], by simp, fun here => .refl t [] here⟩

/-! ## §2 Rounds -/

/-- A walk that comes round to where it was, behind a link, does not succeed. -/
theorem walk_round {k : Nat} {name : Text} (h : t.Leads (k + 1) [name] here (name :: more) here)
    (left : Nat) (rest : List Text) (r : Place × Option Item) :
    t.walk true left (name :: rest) here ≠ .ok r := by
  induction left using Nat.strongRecOn generalizing rest with
  | ind left ih =>
    intro hw
    obtain ⟨hleft, hw⟩ := h left rest r hw
    exact ih (left - (k + 1)) (by omega) (more ++ rest) hw

/-- Links that are being followed: different entries, from each of which a walk has come here. -/
structure Following (t : FileTree) (busy : List Place) (names : List Text) (here : Place) : Prop where
  nodup : busy.Nodup
  entries : ∀ b ∈ busy, b ∈ t.items.map Prod.fst
  leads : ∀ b ∈ busy, ∃ dir name k tail, b = dir ++ [name] ∧
    t.Leads (k + 1) [name] dir (names ++ tail) here

theorem Following.nil (t : FileTree) (names : List Text) (here : Place) :
    t.Following [] names here := ⟨List.nodup_nil, by simp, by simp⟩

theorem Following.move {busy : List Place} {k : Nat} {names' : List Text} {here' : Place}
    (h : t.Following busy names here) (hstep : t.Leads k names here names' here') :
    t.Following busy names' here' where
  nodup := h.nodup
  entries := h.entries
  leads := fun b hb => by
    obtain ⟨dir, name, j, tail, hb, hleads⟩ := h.leads b hb
    exact ⟨dir, name, j + k, tail, hb, by
      have := hleads.trans (hstep.append tail)
      rwa [Nat.add_right_comm] at this⟩

/-- A link that a walk goes through is not being followed yet. -/
theorem Following.not_mem {busy : List Place} {name : Text} {rest : List Text}
    (h : t.Following busy (name :: rest) here) {left : Nat} {r : Place × Option Item}
    (hw : t.walk true left (name :: more) here = .ok r) : here ++ [name] ∉ busy := by
  intro hb
  obtain ⟨dir, name', k, tail, heq, hleads⟩ := h.leads _ hb
  obtain ⟨rfl, hname⟩ := List.append_inj' heq rfl
  obtain rfl := List.singleton_inj.1 hname
  exact walk_round hleads left more r hw

theorem Following.cons {busy : List Place} {name : Text} {rest : List Text}
    (h : t.Following busy (name :: rest) here) (hdots : name ≠ ['.', '.']) (hdot : name ≠ ['.'])
    {target : Text} {m : Int} (hlink : t.get? (here ++ [name]) = some ⟨.link target, m⟩)
    (hnew : here ++ [name] ∉ busy) :
    t.Following ((here ++ [name]) :: busy) (targetNames target) (targetStart here target) := by
  obtain ⟨tail, hsteps, -⟩ := targetSteps_eq (t := t) target
  refine ⟨List.nodup_cons.2 ⟨hnew, h.nodup⟩, fun b hb => ?_, fun b hb => ?_⟩
  · rcases List.mem_cons.1 hb with rfl | hb
    · have hlookup : t.items.lookup (here ++ [name]) = some ⟨.link target, m⟩ := by
        simpa [get?] using hlink
      obtain ⟨before, after, hitems, -⟩ := List.lookup_eq_some_iff.1 hlookup
      simp [hitems]
    · exact h.entries b hb
  · rcases List.mem_cons.1 hb with rfl | hb
    · have hstep := leads_link hdots hdot hlink []
      rw [hsteps, List.append_assoc] at hstep
      exact ⟨here, name, 0, tail ++ [], rfl, hstep⟩
    · obtain ⟨dir, name', k, tail', hb, hleads⟩ := h.leads b hb
      have hstep := hleads.trans (leads_link hdots hdot hlink (rest ++ tail'))
      rw [hsteps, List.append_assoc] at hstep
      exact ⟨dir, name', k + 1, tail ++ (rest ++ tail'), hb, hstep⟩

/-- There are no more of them than entries. -/
theorem Following.length_le {busy : List Place} (h : t.Following busy names here) :
    busy.length ≤ t.items.length := by
  have := h.nodup.length_le_of_subset h.entries
  rwa [List.length_map] at this

/-! ## §3 Real paths -/

/-- Where a walk succeeds the links on the way come to an end, and at the same place. -/
theorem chase_of_walk (depth : Nat) {busy : List Place} (hdot : ['.'] ∉ names)
    (hbusy : t.Following busy names here) (hdepth : t.items.length < depth + busy.length)
    {left : Nat} {r : Place × Option Item} (hw : t.walk true left (names ++ more) here = .ok r) :
    ∃ place links, t.chase depth busy names here = (place, true) ∧
      t.Leads links names here [] place := by
  fun_induction chase t depth busy names here generalizing left more with
  | case1 depth busy here => exact ⟨here, 0, rfl, .refl t [] here⟩
  | case2 depth busy rest here ih =>
    have hstep := leads_dots (t := t) rest here
    obtain ⟨-, hw'⟩ := hstep left more r hw
    obtain ⟨place, links, hchase, hleads⟩ :=
      ih (fun h => hdot (List.mem_cons_of_mem _ h)) (hbusy.move hstep) hdepth hw'
    exact ⟨place, _, hchase, hstep.trans hleads⟩
  | case3 busy name rest here hdots target m hlink =>
    have hname : name ≠ ['.'] := fun h => hdot (h ▸ List.mem_cons_self ..)
    have hmore := hbusy.cons hdots hname hlink (hbusy.not_mem hw)
    have hlength := hmore.length_le
    rw [List.length_cons] at hlength
    omega
  | case4 busy name rest here hdots target m hlink depth hin =>
    exact absurd (by simpa using hin) (hbusy.not_mem hw)
  | case5 busy name rest here hdots target m hlink depth hin inner hinner ih1 ih2 =>
    have hname : name ≠ ['.'] := fun h => hdot (h ▸ List.mem_cons_self ..)
    obtain ⟨tail, hsteps, htail⟩ := targetSteps_eq (t := t) target
    have hstep := leads_link hdots hname hlink rest
    obtain ⟨-, hw'⟩ := hstep left more r hw
    rw [hsteps, List.append_assoc, List.append_assoc] at hw'
    obtain ⟨place', links, hchase, hleads⟩ :=
      ih1 (fun h => (Path.mem_names_ofText h).2.1 rfl)
        (hbusy.cons hdots hname hlink (hbusy.not_mem hw)) (by rw [List.length_cons]; omega) hw'
    rw [hinner] at hchase
    obtain ⟨rfl, -⟩ := Prod.mk.inj hchase
    -- behind the target the walk goes on with the names that are left
    have hover : t.Leads (1 + (links + 0)) (name :: rest) here rest inner := by
      refine hstep.trans ?_
      rw [hsteps, List.append_assoc]
      exact (hleads.append (tail ++ rest)).trans ((htail inner).append rest)
    obtain ⟨-, hw''⟩ := hover left more r hw
    obtain ⟨place, links', hrest, hleads'⟩ :=
      ih2 (fun h => hdot (List.mem_cons_of_mem _ h)) (hbusy.move hover) hdepth hw''
    exact ⟨place, _, hrest, hover.trans hleads'⟩
  | case6 busy name rest here hdots target m hlink depth hin inner hinner ih1 =>
    have hname : name ≠ ['.'] := fun h => hdot (h ▸ List.mem_cons_self ..)
    obtain ⟨tail, hsteps, -⟩ := targetSteps_eq (t := t) target
    obtain ⟨-, hw'⟩ := leads_link hdots hname hlink rest left more r hw
    rw [hsteps, List.append_assoc, List.append_assoc] at hw'
    obtain ⟨place', links, hchase, -⟩ :=
      ih1 (fun h => (Path.mem_names_ofText h).2.1 rfl)
        (hbusy.cons hdots hname hlink (hbusy.not_mem hw)) (by rw [List.length_cons]; omega) hw'
    rw [hinner] at hchase
    cases hchase
  | case7 depth busy name rest here hdots hentry ih =>
    have hstep := leads_entry hdots (fun h => hdot (h ▸ List.mem_cons_self ..)) hentry rest
    obtain ⟨-, hw'⟩ := hstep left more r hw
    obtain ⟨place, links, hchase, hleads⟩ :=
      ih (fun h => hdot (List.mem_cons_of_mem _ h)) (hbusy.move hstep) hdepth hw'
    exact ⟨place, _, hchase, hstep.trans hleads⟩

/-- Where no link stands there are not too many. -/
theorem find_straight {place : Place} (hn : ∀ n ∈ place, Path.IsPlain n)
    (hs : t.IsStraight place) : t.find (Path.ofNames place) ≠ .error .tooManyLinks := by
  have hlocate : t.locate true (Path.ofNames place) ≠ .error .tooManyLinks := by
    have hfromTop : t.IsStraight ([] ++ place) := hs
    unfold locate
    split
    · simp
    · split
      · simp
      · rcases @walk_straight t true linkLimit place [] hn hfromTop with hw | ⟨e, hw, he⟩
        · intro h
          cases h.symm.trans hw
        · intro h
          cases h.symm.trans hw
          exact he rfl
  unfold find
  split
  · next e he => exact fun h => hlocate (he.trans (Except.error.inj h ▸ rfl))
  · simp
  · simp

/-- The real path of a path that leads somewhere is the place it leads to. -/
theorem realPath_of_locate {p : Path} (hp : ∀ n ∈ p.names, IsWritten n)
    (hopen : t.IsOpen t.here) (hhere : ∀ n ∈ t.here, Path.IsPlain n) {place : Place}
    {found : Option Item} (hl : t.locate true p = .ok (place, found)) :
    t.realPath p = .ok (Path.ofNames place) ∧ t.IsStraight place ∧ ∀ n ∈ place, Path.IsPlain n := by
  have hnul : ¬ p.text.contains '\x00' = true := by
    intro h
    rw [locate, if_pos h] at hl
    cases hl
  have hstart : ∃ start, start = (if p.isAbsolute then [] else t.here) ∧ t.IsOpen start ∧
      ∀ n ∈ start, Path.IsPlain n := by
    refine ⟨_, rfl, ?_, ?_⟩
    · split
      · exact isOpen_nil t
      · exact hopen
    · split
      · simp
      · exact hhere
  obtain ⟨start, hstart, hopen', hplain⟩ := hstart
  rw [locate, if_neg hnul, ← hstart] at hl
  split at hl
  · cases hl
  rw [← List.append_nil p.names] at hl
  obtain ⟨place', links, hchase, hleads⟩ :=
    chase_of_walk (t.items.length + 1) (fun h => (hp _ h).2.1 rfl) (.nil t p.names start) (by simp) hl
  obtain ⟨-, hend⟩ := hleads _ _ _ hl
  rw [List.append_nil, walk] at hend
  obtain ⟨rfl, -⟩ := Prod.mk.inj (Except.ok.inj hend)
  obtain ⟨hstraight, hdots⟩ := chase_straight
    (fun q hq target => by simp [hopen' q hq]) (fun h => (hplain _ h).notDots rfl) hchase
  have hnames : ∀ n ∈ place', Path.IsPlain n := by
    intro n hn
    have hmem : n ∈ (t.chase (t.items.length + 1) [] p.names start).1 := by rwa [hchase]
    have hwritten := mem_chase hp (fun n hn => IsWritten.of_plain (hplain n hn))
      (fun s n hn => Path.mem_names_ofText hn) n hmem
    exact ⟨hwritten.1, hwritten.2.1, fun h => hdots (h ▸ hn), hwritten.2.2⟩
  refine ⟨?_, hstraight, hnames⟩
  have hfind := find_straight hnames hstraight
  rw [realPath, if_neg hnul, ← hstart]
  dsimp only
  rw [hchase, Path.climb_of_not_mem hdots]
  split
  · next h => exact absurd h hfind
  · rfl

/-- A file that a path leads to is the one it leads to later, as long as nothing is taken away. -/
theorem Keeps.locate {t' : FileTree} (h : t.Keeps t') (hhere : t'.here = t.here) {p : Path}
    {place : Place} {content : Bytes} {m : Int}
    (hl : t.locate true p = .ok (place, some ⟨.file content, m⟩)) :
    ∃ content' m', t'.locate true p = .ok (place, some ⟨.file content', m'⟩) := by
  obtain ⟨content', hfile⟩ := h.files place content (entryAt_of_get? (locate_found hl).symm)
  obtain ⟨m', hitem⟩ := entryAt_eq_some hfile
  refine ⟨content', m', ?_⟩
  unfold FileTree.locate at hl ⊢
  rw [hhere]
  split at hl
  · cases hl
  · next hnul =>
    split at hl
    · cases hl
    · next hlong => rw [if_neg hnul, if_neg hlong, h.walk hl (by simp [hfile]), hitem]

end EmbeddedGo.FileTree
