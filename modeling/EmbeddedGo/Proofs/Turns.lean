/-
EmbeddedGo.Proofs.Turns — transforms that take turns come to what they come to one after the other.

Whatever the order of the turns, every slot is held by at most one transform, and what stands in it is
what the transforms that took it so far make of it one after the other (`Inv`). A turn keeps that up:
the first phase touches no files of slots, a phase in a slot leaves what its transform comes to as it
was, and a slot that is let go of looks as if its transform had just run alone.

  §1 who holds a slot, and who took it
  §2 what holds of a transform under way
  §3 what holds of all of them
  §4 one turn
  §5 many turns
  §6 all transforms at their end
-/
import EmbeddedGo.Proofs.Sequence

namespace EmbeddedGo

namespace Transform

open FileTree

/-! ## §1 Slots -/

/-- The slot that a transform holds. -/
def Stage.held? : Stage → Option Text
  | holding j | written j | compiled j _ => some j.slot
  | leaving slot _ => some slot
  | _ => none

/-- Whether a transform has yet to begin. -/
def Stage.isReady : Stage → Bool
  | ready .. => true
  | _ => false

/-- The slots of modules. -/
def slotsOf (modules : List (Text × Text)) : List Text := modules.map fun m => Slot.name m.2

/-- The modules of some transforms, in order. -/
def calls (modules : List (Text × Text)) (order : List Nat) : List (Text × Text) :=
  order.filterMap (modules[·]?)

/-- Whether a transform is one of a slot. -/
def isOf (modules : List (Text × Text)) (slot : Text) (i : Nat) : Bool :=
  (modules[i]?).any fun m => Slot.name m.2 == slot

/-- The transforms of a slot. -/
def ofSlot (modules : List (Text × Text)) (slot : Text) (order : List Nat) : List Nat :=
  order.filter (isOf modules slot)

namespace Run

/-- Whether a turn for a transform lets it take its slot. -/
def takes (r : Run) (i : Nat) : Bool :=
  match r.stages[i]? with
  | some (.waiting j) => !r.shared.isHeld j.slot
  | _ => false

/-- The transforms that take their slots while turns go round, in order. -/
def taken (s : Settings) : Run → List Nat → List Nat
  | _, [] => []
  | r, i :: schedule =>
    if r.takes i then i :: taken s (r.turn s i) schedule else taken s (r.turn s i) schedule

/-- Whether a transform holds a slot. -/
def Holds (r : Run) (i : Nat) (slot : Text) : Prop :=
  ∃ st, r.stages[i]? = some st ∧ st.held? = some slot

end Run

variable {s : Settings} {h₀ : Host} {modules : List (Text × Text)} {started taken : List Nat}
  {r : Run} {i k : Nat} {m : Text × Text} {slot : Text}

theorem isHeld_setHeld (d : Shared) (slot other : Text) (held : Bool) :
    (d.setHeld slot held).isHeld other = if other = slot then held else d.isHeld other := by
  unfold Shared.isHeld Shared.setHeld
  dsimp only
  rw [Table.lookup_put]
  by_cases h : other = slot
  · simp [h]
  · simp [h]

theorem name_mem_slotsOf (h : m ∈ modules) : Slot.name m.2 ∈ slotsOf modules :=
  List.mem_map.2 ⟨m, h, rfl⟩

theorem mem_of_mem_calls {order : List Nat} (h : m ∈ calls modules order) : m ∈ modules := by
  obtain ⟨i, -, hm⟩ := List.mem_filterMap.1 h
  exact List.mem_of_getElem? hm

theorem slot_of_mem_calls {order : List Nat} :
    ∀ m ∈ calls modules order, Slot.name m.2 ∈ slotsOf modules :=
  fun _ h => name_mem_slotsOf (mem_of_mem_calls h)

theorem calls_concat (hm : modules[i]? = some m) (order : List Nat) :
    calls modules (order ++ [i]) = calls modules order ++ [m] := by
  rw [calls, List.filterMap_append]
  simp [hm, calls]

theorem isOf_iff (hm : modules[i]? = some m) : isOf modules slot i = true ↔ Slot.name m.2 = slot := by
  simp [isOf, hm]

theorem ofSlot_concat_self (hm : modules[i]? = some m) (order : List Nat) :
    ofSlot modules (Slot.name m.2) (order ++ [i]) = ofSlot modules (Slot.name m.2) order ++ [i] := by
  rw [ofSlot, List.filter_append, List.filter_cons_of_pos ((isOf_iff hm).2 rfl), List.filter_nil]
  rfl

theorem ofSlot_concat_of_ne (hm : modules[i]? = some m) (hne : slot ≠ Slot.name m.2)
    (order : List Nat) : ofSlot modules slot (order ++ [i]) = ofSlot modules slot order := by
  rw [ofSlot, List.filter_append, List.filter_cons_of_neg, List.filter_nil, List.append_nil, ofSlot]
  rw [isOf_iff hm]
  exact fun h => hne h.symm

/-! ## §2 One transform under way -/

/-- The source that the compiler will be given in a slot is this one. -/
structure HasSource (s : Settings) (slot source : Text) (h : Host) : Prop where
  accepted : s.refusedFile? slot BuildRoot.goName = none
  stands : h.files.entryAt (s.slotFile slot BuildRoot.goName) = some (.file (Utf8.encode source))

/-- How far a transform can have come after those were `taken` that took their slots: if it holds its
slot it will come to what it would come to behind those who had the slot before it, and if it has
ended it came to that. -/
inductive Stands (s : Settings) (h₀ : Host) (modules : List (Text × Text)) (taken : List Nat)
    (h : Host) (i : Nat) (m : Text × Text) : Stage → Prop where
  | ready (hnot : i ∉ taken) : Stands s h₀ modules taken h i m (.ready m.1 m.2)
  | waiting {unit : Text} (hunit : Directive.extract m.1 = .ok unit)
    (hearly : early? s h₀ m = none) (hnot : i ∉ taken) :
    Stands s h₀ modules taken h i m (.waiting (jobOf s m.2 unit))
  | holding {unit : Text} {st : Stage} {before : List Nat}
    (hunit : Directive.extract m.1 = .ok unit) (hearly : early? s h₀ m = none)
    (hworking : Working s m.2 unit st) (hheld : st.held? = some (Slot.name m.2))
    (hlast : ofSlot modules (Slot.name m.2) taken = before ++ [i])
    (hrest : Agrees s (Slot.name m.2) ((st.rest s).run.run h)
      ((transform s m.1 m.2).run.run (hostAfter s h₀ (calls modules before))))
    (hsource : ∀ j, st = .written j → HasSource s (Slot.name m.2) j.source h) :
    Stands s h₀ modules taken h i m st
  | early {outcome : Except Error (Option Result)} (hearly : early? s h₀ m = some outcome)
    (hnot : i ∉ taken) : Stands s h₀ modules taken h i m (.ended outcome)
  | done {before behind : List Nat} (hearly : early? s h₀ m = none)
    (hsplit : ofSlot modules (Slot.name m.2) taken = before ++ i :: behind) :
    Stands s h₀ modules taken h i m
      (.ended ((transform s m.1 m.2).run.run (hostAfter s h₀ (calls modules before))).1)

/-- A host on which the way to a slot was opened. -/
theorem workable_of_mem {slots : List Text} {ways : List Place} {h : Host}
    (hg : Grown s h₀ slots ways h) (hway : wayOf s h₀ m ∈ ways) (hearly : early? s h₀ m = none) :
    Workable s h₀ slots (Slot.name m.2) h where
  grown := ⟨ways, hg⟩
  opened := by
    intro q hq
    rw [hg.entries_above hq, if_pos ⟨_, hway, (wayOf_of_not_early hearly).1 ▸ hq⟩]

/-- What holds of a transform under way holds after changes that its slot does not see. -/
theorem Stands.frame {taken' : List Nat} {h h' : Host} {st : Stage}
    (hs : s.buildRoot.IsResolved) (hground : Ground s h₀ (slotsOf modules))
    (hm : modules[i]? = some m) (hst : Stands s h₀ modules taken h i m st)
    (htaken : i ∈ taken' ↔ i ∈ taken)
    (hsplit : ∃ behind, ofSlot modules (Slot.name m.2) taken' =
      ofSlot modules (Slot.name m.2) taken ++ behind)
    (hheld : st.held? = some (Slot.name m.2) →
      ofSlot modules (Slot.name m.2) taken' = ofSlot modules (Slot.name m.2) taken ∧
        Alike s (Slot.name m.2) h' h)
    (hwork : early? s h₀ m = none → st.isReady = false →
      Workable s h₀ (slotsOf modules) (Slot.name m.2) h ∧
        Workable s h₀ (slotsOf modules) (Slot.name m.2) h') :
    Stands s h₀ modules taken' h' i m st := by
  have hslot : Slot.name m.2 ∈ slotsOf modules := name_mem_slotsOf (List.mem_of_getElem? hm)
  cases hst with
  | ready hnot => exact .ready (htaken.not.2 hnot)
  | waiting hunit hearly hnot => exact .waiting hunit hearly (htaken.not.2 hnot)
  | holding hunit hearly hworking hheld' hlast hrest hsource =>
    obtain ⟨htaken', halike⟩ := hheld hheld'
    have hready : st.isReady = false := by
      cases hworking <;> rfl
    obtain ⟨hw, hw'⟩ := hwork hearly hready
    obtain ⟨hsame, hend, -⟩ := confined_rest hs hground hslot (wayOf_of_not_early hearly).2 hworking
      _ _ hw' hw halike
    refine .holding hunit hearly hworking hheld' (htaken'.trans hlast)
      ⟨hsame.trans hrest.outcome, hend.trans hrest.alike⟩ fun j hj => ?_
    exact ⟨(hsource j hj).accepted, (halike _).trans (hsource j hj).stands⟩
  | early hearly hnot => exact .early hearly (htaken.not.2 hnot)
  | @done before behind hearly hsplit' =>
    obtain ⟨more, hmore⟩ := hsplit
    have hsplit'' : ofSlot modules (Slot.name m.2) taken' = before ++ i :: (behind ++ more) := by
      rw [hmore, hsplit', List.append_assoc, List.cons_append]
    exact .done hearly hsplit''

/-! ## §3 All of them -/

/-- What holds after any turns: `started` have begun and `taken` took their slots, in that order. -/
structure Inv (s : Settings) (h₀ : Host) (modules : List (Text × Text)) (started taken : List Nat)
    (r : Run) : Prop where
  length : r.stages.length = modules.length
  grown : Grown s h₀ (slotsOf modules) ((calls modules started).map (wayOf s h₀)) r.shared.host
  began : ∀ i st, r.stages[i]? = some st → st.isReady = false → i ∈ started
  /-- No transform takes its slot twice. -/
  nodup : taken.Nodup
  known : ∀ i ∈ taken, i < modules.length
  stands : ∀ i m st, modules[i]? = some m → r.stages[i]? = some st →
    Stands s h₀ modules taken r.shared.host i m st
  locks : ∀ slot, r.shared.isHeld slot = true ↔ ∃ i, r.Holds i slot
  alone : ∀ i j slot, r.Holds i slot → r.Holds j slot → i = j
  /-- A slot that nobody holds looks as if those had run alone that took it. -/
  free : ∀ slot, r.shared.isHeld slot = false →
    Alike s slot r.shared.host (hostAfter s h₀ (calls modules (ofSlot modules slot taken)))

theorem getElem?_set_stages {stages : List Stage} {st' st : Stage} :
    (stages.set k st')[i]? = some st ↔
      (i = k ∧ k < stages.length ∧ st' = st) ∨ (i ≠ k ∧ stages[i]? = some st) := by
  rw [List.getElem?_set]
  by_cases hi : k = i
  · subst hi
    by_cases hk : k < stages.length
    · simp [hk]
    · simp [hk]
  · simp [hi, Ne.symm hi]

theorem holds_set_iff (hk : k < r.stages.length) {st' : Stage} {d' : Shared} :
    (Run.mk (r.stages.set k st') d').Holds i slot ↔
      (i = k ∧ st'.held? = some slot) ∨ (i ≠ k ∧ r.Holds i slot) := by
  unfold Run.Holds
  simp only [getElem?_set_stages]
  constructor
  · rintro ⟨st, ⟨rfl, -, rfl⟩ | ⟨hi, hst⟩, hheld⟩
    · exact .inl ⟨rfl, hheld⟩
    · exact .inr ⟨hi, st, hst, hheld⟩
  · rintro (⟨rfl, hheld⟩ | ⟨hi, st, hst, hheld⟩)
    · exact ⟨st', .inl ⟨rfl, hk, rfl⟩, hheld⟩
    · exact ⟨st, .inr ⟨hi, hst⟩, hheld⟩

/-- A stage that follows on another, where nothing that others rely on has changed. -/
theorem Inv.set (hs : s.buildRoot.IsResolved) (hground : Ground s h₀ (slotsOf modules))
    (hinv : Inv s h₀ modules started taken r) (hm : modules[k]? = some m) {st' : Stage}
    {d' : Shared} {started' taken' : List Nat}
    (hgrown : Grown s h₀ (slotsOf modules) ((calls modules started').map (wayOf s h₀)) d'.host)
    (hstarted : ∀ i ∈ started, i ∈ started') (hbegan : k ∈ started')
    (hnodup : taken'.Nodup) (hknown : ∀ i ∈ taken', i < modules.length)
    (hstands : Stands s h₀ modules taken' d'.host k m st')
    (htaken : ∀ i, i ≠ k → (i ∈ taken' ↔ i ∈ taken))
    (hsplit : ∀ slot, ∃ behind, ofSlot modules slot taken' = ofSlot modules slot taken ++ behind)
    (hothers : ∀ i slot, i ≠ k → r.Holds i slot →
      ofSlot modules slot taken' = ofSlot modules slot taken ∧ Alike s slot d'.host r.shared.host)
    (hlocks : ∀ slot, d'.isHeld slot = true ↔
      (∃ i, i ≠ k ∧ r.Holds i slot) ∨ st'.held? = some slot)
    (halone : ∀ i slot, i ≠ k → r.Holds i slot → st'.held? ≠ some slot)
    (hfree : ∀ slot, d'.isHeld slot = false →
      Alike s slot d'.host (hostAfter s h₀ (calls modules (ofSlot modules slot taken')))) :
    Inv s h₀ modules started' taken' ⟨r.stages.set k st', d'⟩ := by
  have hk : k < r.stages.length := by
    rw [hinv.length]
    exact (List.getElem?_eq_some_iff.1 hm).1
  have hholds : ∀ i slot, (Run.mk (r.stages.set k st') d').Holds i slot ↔
      (i = k ∧ st'.held? = some slot) ∨ (i ≠ k ∧ r.Holds i slot) := fun _ _ => holds_set_iff hk
  refine ⟨by rw [List.length_set, hinv.length], hgrown, ?_, hnodup, hknown, ?_, ?_, ?_, hfree⟩
  · intro i st hst hready
    rcases getElem?_set_stages.1 hst with ⟨rfl, -, -⟩ | ⟨-, hst⟩
    · exact hbegan
    · exact hstarted i (hinv.began i st hst hready)
  · intro i m' st hm' hst
    rcases getElem?_set_stages.1 hst with ⟨rfl, -, rfl⟩ | ⟨hi, hst⟩
    · obtain rfl : m = m' := Option.some.inj (hm.symm.trans hm')
      exact hstands
    · refine (hinv.stands i m' st hm' hst).frame hs hground hm' (htaken i hi) (hsplit _)
        (fun hheld => hothers i _ hi ⟨st, hst, hheld⟩) fun hearly hready => ?_
      have hbegun := hinv.began i st hst hready
      have hmem : ∀ order, i ∈ order → wayOf s h₀ m' ∈ (calls modules order).map (wayOf s h₀) :=
        fun order hi => List.mem_map_of_mem (List.mem_filterMap.2 ⟨i, hi, hm'⟩)
      exact ⟨workable_of_mem hinv.grown (hmem _ hbegun) hearly,
        workable_of_mem hgrown (hmem _ (hstarted i hbegun)) hearly⟩
  · intro slot
    simp only [hholds, hlocks, exists_or, exists_eq_left]
    exact or_comm
  · intro i j slot hi hj
    rcases (hholds i slot).1 hi with ⟨rfl, hki⟩ | ⟨hne, hki⟩
    · rcases (hholds j slot).1 hj with ⟨rfl, -⟩ | ⟨hne', hkj⟩
      · rfl
      · exact absurd hki (halone j slot hne' hkj)
    · rcases (hholds j slot).1 hj with ⟨rfl, hkj⟩ | ⟨-, hkj⟩
      · exact absurd hkj (halone i slot hne hki)
      · exact hinv.alone i j slot hki hkj

/-! ## §4 One turn -/

section Turn

theorem turn_eq {st : Stage} (hst : r.stages[k]? = some st) :
    r.turn s k =
      ⟨r.stages.set k ((st.step s).run r.shared).1, ((st.step s).run r.shared).2⟩ := by
  rw [Run.turn, hst]
  rfl

theorem turn_eq_self {st : Stage} (hst : r.stages[k]? = some st)
    (hstep : (st.step s).run r.shared = (st, r.shared)) : r.turn s k = r := by
  rw [turn_eq hst, hstep]
  have hset : r.stages.set k st = r.stages := by
    refine List.ext_getElem? fun i => ?_
    rw [List.getElem?_set]
    by_cases hi : k = i
    · subst hi
      rw [if_pos rfl, if_pos (List.getElem?_eq_some_iff.1 hst).1, hst]
    · rw [if_neg hi]
  rw [hset]

theorem exists_holds_iff {st : Stage} (hst : r.stages[k]? = some st) :
    (∃ i, r.Holds i slot) ↔ (∃ i, i ≠ k ∧ r.Holds i slot) ∨ st.held? = some slot := by
  constructor
  · rintro ⟨i, hi⟩
    by_cases hik : i = k
    · subst hik
      obtain ⟨st', hst', hheld⟩ := hi
      obtain rfl : st = st' := Option.some.inj (hst.symm.trans hst')
      exact .inr hheld
    · exact .inl ⟨i, hik, hi⟩
  · rintro (⟨i, -, hi⟩ | hheld)
    · exact ⟨i, hi⟩
    · exact ⟨k, st, hst, hheld⟩

/-- The slot of one who holds it differs from those that others hold. -/
theorem Inv.ne_of_holds (hinv : Inv s h₀ modules started taken r) {other : Text}
    (hk : r.Holds k slot) (hi : r.Holds i other) (hne : i ≠ k) : other ≠ slot := by
  rintro rfl
  exact hne (hinv.alone i k _ hi hk)

theorem hasSource_of_writeSource (hs : s.buildRoot.IsResolved)
    {slots : List Text} (hground : Ground s h₀ slots) {id unit : Text} (hslot : Slot.name id ∈ slots)
    (hfits : Fits (Slot.name id)) {h h' : Host} (hw : Workable s h₀ slots (Slot.name id) h)
    (hrun : (writeSource (jobOf s id unit)).run.run h = (.ok (), h')) :
    HasSource s (Slot.name id) (jobOf s id unit).source h' := by
  rw [run_writeSource, goFile_jobOf hs,
    write_slotFile hs hground hslot (Slot.isPlain_name id) hfits goName_mem_built hw] at hrun
  cases haccepted : s.refusedFile? (Slot.name id) BuildRoot.goName with
  | some e =>
    rw [haccepted] at hrun
    cases hrun
  | none =>
    rw [haccepted] at hrun
    dsimp only at hrun
    by_cases hcan : CanHold (h.files.entryAt (s.slotFile (Slot.name id) BuildRoot.goName)) = true
    · rw [if_pos hcan] at hrun
      cases hrun
      exact ⟨haccepted, by rw [entryAt_putFile (ne_nil_of_canHold hcan), if_pos rfl]⟩
    · rw [if_neg hcan] at hrun
      cases hrun

/-- A phase in a slot leads to the next stage in it, and changes nothing outside. -/
theorem step_working (hs : s.buildRoot.IsResolved) {slots : List Text}
    (hground : Ground s h₀ slots) {id unit : Text} (hslot : Slot.name id ∈ slots)
    (hfits : Fits (Slot.name id)) {st : Stage} (hworking : Working s id unit st)
    (hheld : st.held? = some (Slot.name id)) {d : Shared}
    (hw : Workable s h₀ slots (Slot.name id) d.host) :
    (∃ outcome, st = .leaving (Slot.name id) outcome) ∨
      ∃ st' host, (st.step s).run d = (st', { d with host }) ∧ Working s id unit st' ∧
        st'.held? = some (Slot.name id) ∧ Beside s (Slot.name id) d.host host ∧
        ∀ j, st' = .written j → HasSource s (Slot.name id) j.source host := by
  have hfailed : ∀ e, Working s id unit ((jobOf s id unit).failed e) := fun e => .leaving _
  cases hworking with
  | waiting => simp [Stage.held?] at hheld
  | holding =>
    right
    have hbeside := (confined_writeSource hs hground hslot hfits unit _ _ hw hw
      (.refl s _ _)).2.2
    rw [Stage.step, run_act]
    rcases hrun : (writeSource (jobOf s id unit)).run.run d.host with ⟨e | u, h'⟩
    · rw [hrun] at hbeside
      exact ⟨_, _, rfl, hfailed e, rfl, hbeside, fun j hj => by cases hj⟩
    · rw [hrun] at hbeside
      refine ⟨_, _, rfl, .written, rfl, hbeside, fun j hj => ?_⟩
      cases hj
      exact hasSource_of_writeSource hs hground hslot hfits hw hrun
  | written =>
    right
    have hbeside := (confined_compileJob hs hground hslot hfits unit _ _ hw hw
      (.refl s _ _)).2.2
    rw [Stage.step, run_act]
    rcases hrun : (compile s (jobOf s id unit)).run.run d.host with ⟨e | w, h'⟩
    · rw [hrun] at hbeside
      exact ⟨_, _, rfl, hfailed e, rfl, hbeside, fun j hj => by cases hj⟩
    · rw [hrun] at hbeside
      exact ⟨_, _, rfl, .compiled w, rfl, hbeside, fun j hj => by cases hj⟩
  | compiled warnings =>
    right
    have hbeside := (Confined.bind_action
      (confined_writeDeclarations hs hground hslot hfits unit)
      (fun _ => confined_here) _ _ hw hw (.refl s _ _)).2.2
    rw [Stage.step, run_act]
    rcases hrun : (do writeDeclarations s (jobOf s id unit); return (← get).files.here :
      Action (List Text)).run.run d.host with ⟨e | here, h'⟩
    · rw [hrun] at hbeside
      exact ⟨_, _, rfl, hfailed e, rfl, hbeside, fun j hj => by cases hj⟩
    · rw [hrun] at hbeside
      exact ⟨_, _, rfl, .leaving _, rfl, hbeside, fun j hj => by cases hj⟩
  | leaving outcome => exact .inl ⟨outcome, rfl⟩

variable (hs : s.buildRoot.IsResolved) (hground : Ground s h₀ (slotsOf modules))
  (hinv : Inv s h₀ modules started taken r) (hm : modules[k]? = some m)

include hinv hm in
/-- A transform of which the slot is clear and that has begun can work in it. -/
theorem Inv.workable (hbegun : k ∈ started) (hearly : early? s h₀ m = none) :
    Workable s h₀ (slotsOf modules) (Slot.name m.2) r.shared.host :=
  workable_of_mem hinv.grown
    (List.mem_map_of_mem (List.mem_filterMap.2 ⟨k, hbegun, hm⟩)) hearly

include hs hground hinv hm

/-- The first phase. -/
theorem Inv.turn_ready (hst : r.stages[k]? = some (.ready m.1 m.2)) (hnot : k ∉ taken) :
    Inv s h₀ modules (started ++ [k]) taken (r.turn s k) := by
  have hslot : Slot.name m.2 ∈ slotsOf modules := name_mem_slotsOf (List.mem_of_getElem? hm)
  have hway := isWay_wayOf hground hslot
  obtain ⟨st', host, hstep, hopened, hearly⟩ := step_ready hs hground hslot hinv.grown
  have halike : ∀ slot, Alike s slot host r.shared.host := fun slot => hopened.alike hway
  have hheld : st'.held? = none := by
    split at hearly
    · rw [hearly]
      rfl
    · obtain ⟨unit, -, rfl⟩ := hearly
      rfl
  rw [turn_eq hst, hstep]
  refine hinv.set hs hground hm ?_ (fun i hi => List.mem_append_left _ hi) (by simp) hinv.nodup
    hinv.known ?_ (fun _ _ => Iff.rfl) (fun slot => ⟨[], by simp⟩)
      (fun _ slot _ _ => ⟨rfl, halike slot⟩) ?_
    (fun _ _ _ => by simp [hheld]) fun slot hopen => (halike slot).trans (hinv.free slot hopen)
  · rw [calls_concat hm, List.map_append]
    exact hinv.grown.opened hway hopened
  · cases he : early? s h₀ m with
    | some outcome =>
      rw [he] at hearly
      rw [hearly]
      exact .early he hnot
    | none =>
      rw [he] at hearly
      obtain ⟨unit, hunit, rfl⟩ := hearly
      exact .waiting hunit he hnot
  · intro slot
    rw [show Shared.isHeld { r.shared with host } slot = r.shared.isHeld slot from rfl,
      hinv.locks slot, exists_holds_iff hst, hheld]
    simp [Stage.held?]

/-- What a transform will come to that takes a slot nobody holds: what it comes to alone behind those
that had the slot before. -/
theorem Inv.agrees_of_open {unit : Text} (hunit : Directive.extract m.1 = .ok unit)
    (hearly : early? s h₀ m = none) (hbegun : k ∈ started)
    (hopen : r.shared.isHeld (Slot.name m.2) = false) :
    Agrees s (Slot.name m.2)
      (((Stage.holding (jobOf s m.2 unit)).rest s).run.run r.shared.host)
      ((transform s m.1 m.2).run.run
        (hostAfter s h₀ (calls modules (ofSlot modules (Slot.name m.2) taken)))) := by
  have hslot : Slot.name m.2 ∈ slotsOf modules := name_mem_slotsOf (List.mem_of_getElem? hm)
  have hcalls : ∀ m' ∈ calls modules (ofSlot modules (Slot.name m.2) taken),
      Slot.name m'.2 ∈ slotsOf modules := slot_of_mem_calls
  have hgrown := grown_hostAfter hs hground hcalls
  obtain ⟨h', hopened, hrun⟩ := run_transform_grown hs hground hslot hgrown
  rw [hearly] at hrun
  obtain ⟨unit', hunit', hrun⟩ := hrun
  obtain rfl : unit = unit' := Except.ok.inj (hunit.symm.trans hunit')
  have halike : Alike s (Slot.name m.2) r.shared.host h' :=
    (hinv.free _ hopen).trans (hopened.alike (isWay_wayOf hground hslot)).symm
  obtain ⟨hsame, hend, -⟩ := confined_rest hs hground hslot (wayOf_of_not_early hearly).2
    (Working.waiting : Working s m.2 unit _) _ _ (hinv.workable hm hbegun hearly)
    (workable_of_opened hground hslot hgrown hopened hearly) halike
  rw [hrun]
  exact ⟨hsame, hend⟩

omit hs hground in
theorem Inv.log_concat (hnot : k ∉ taken) :
    (taken ++ [k]).Nodup ∧ ∀ i ∈ taken ++ [k], i < modules.length := by
  refine ⟨List.nodup_append.2 ⟨hinv.nodup, by simp, fun i hi j hj => ?_⟩, fun i hi => ?_⟩
  · rw [List.mem_singleton.1 hj]
    exact fun hik => hnot (hik ▸ hi)
  · rcases List.mem_append.1 hi with hi | hi
    · exact hinv.known i hi
    · exact List.mem_singleton.1 hi ▸ (List.getElem?_eq_some_iff.1 hm).1

/-- A transform takes its slot. -/
theorem Inv.turn_take {unit : Text}
    (hst : r.stages[k]? = some (.waiting (jobOf s m.2 unit)))
    (hunit : Directive.extract m.1 = .ok unit) (hearly : early? s h₀ m = none)
    (hnot : k ∉ taken) (hopen : r.shared.isHeld (Slot.name m.2) = false) :
    Inv s h₀ modules started (taken ++ [k]) (r.turn s k) := by
  have hbegun : k ∈ started := hinv.began k _ hst rfl
  have hstep : ((Stage.waiting (jobOf s m.2 unit)).step s).run r.shared =
      (.holding (jobOf s m.2 unit), r.shared.setHeld (Slot.name m.2) true) := by
    rw [run_step_waiting, show (jobOf s m.2 unit).slot = Slot.name m.2 from rfl, hopen]
    rfl
  have hothers : ∀ i slot, r.Holds i slot → slot ≠ Slot.name m.2 := by
    rintro i slot hi rfl
    rw [(hinv.locks _).2 ⟨i, hi⟩] at hopen
    cases hopen
  obtain ⟨hnodup, hknown⟩ := hinv.log_concat hm hnot
  rw [turn_eq hst, hstep]
  refine hinv.set hs hground hm hinv.grown (fun _ hi => hi) hbegun hnodup hknown
    ?_ (fun i hi => by simp [hi]) ?_ ?_ ?_ ?_ ?_
  · exact .holding hunit hearly .holding rfl (ofSlot_concat_self hm taken)
      (hinv.agrees_of_open hs hground hm hunit hearly hbegun hopen) fun j hj => by cases hj
  · intro slot
    by_cases hslot : slot = Slot.name m.2
    · subst hslot
      exact ⟨[k], ofSlot_concat_self hm taken⟩
    · exact ⟨[], by rw [ofSlot_concat_of_ne hm hslot, List.append_nil]⟩
  · intro i slot _ hi
    exact ⟨ofSlot_concat_of_ne hm (hothers i slot hi) taken, .refl s slot _⟩
  · intro slot
    rw [isHeld_setHeld]
    by_cases hslot : slot = Slot.name m.2
    · subst hslot
      simp [Stage.held?, jobOf]
    · rw [if_neg hslot, hinv.locks, exists_holds_iff hst]
      simp [Stage.held?, jobOf, Ne.symm hslot]
  · rintro i slot - hi hheld
    exact hothers i slot hi (Option.some.inj hheld).symm
  · intro slot hheld
    rw [isHeld_setHeld] at hheld
    by_cases hslot : slot = Slot.name m.2
    · rw [if_pos hslot] at hheld
      cases hheld
    · rw [if_neg hslot] at hheld
      rw [ofSlot_concat_of_ne hm hslot]
      exact hinv.free slot hheld

/-- A transform lets go of its slot, which looks as if it had run alone there. -/
theorem Inv.turn_leave {outcome : Except Error (Option Result)} {before : List Nat}
    (hst : r.stages[k]? = some (.leaving (Slot.name m.2) outcome))
    (hearly : early? s h₀ m = none)
    (hlast : ofSlot modules (Slot.name m.2) taken = before ++ [k])
    (hrest : Agrees s (Slot.name m.2) (outcome, r.shared.host)
      ((transform s m.1 m.2).run.run (hostAfter s h₀ (calls modules before)))) :
    Inv s h₀ modules started taken (r.turn s k) := by
  have hholds : r.Holds k (Slot.name m.2) := ⟨_, hst, rfl⟩
  have hstep : ((Stage.leaving (Slot.name m.2) outcome).step s).run r.shared =
      (.ended outcome, r.shared.setHeld (Slot.name m.2) false) := rfl
  have houtcome : outcome =
      ((transform s m.1 m.2).run.run (hostAfter s h₀ (calls modules before))).1 := hrest.outcome
  rw [turn_eq hst, hstep]
  refine hinv.set hs hground hm hinv.grown (fun _ hi => hi) (hinv.began k _ hst rfl) hinv.nodup
    hinv.known ?_ (fun _ _ => Iff.rfl) (fun slot => ⟨[], by simp⟩)
    (fun _ slot _ _ => ⟨rfl, .refl s slot _⟩) ?_ (fun _ _ _ => by simp [Stage.held?]) ?_
  · rw [houtcome]
    exact .done hearly hlast
  · intro slot
    rw [isHeld_setHeld]
    by_cases hslot : slot = Slot.name m.2
    · subst hslot
      simp only [if_pos, Bool.false_eq_true, Stage.held?, or_false, reduceCtorEq, false_iff]
      rintro ⟨i, hi, hholds'⟩
      exact hinv.ne_of_holds hholds hholds' hi rfl
    · rw [if_neg hslot, hinv.locks, exists_holds_iff hst]
      simp [Stage.held?, Ne.symm hslot]
  · intro slot hopen
    rw [isHeld_setHeld] at hopen
    by_cases hslot : slot = Slot.name m.2
    · subst hslot
      rw [hlast, calls_concat hm, hostAfter_concat]
      exact hrest.alike
    · rw [if_neg hslot] at hopen
      exact hinv.free slot hopen

/-- A phase in a slot. -/
theorem Inv.turn_working {unit : Text} {st : Stage} {before : List Nat}
    (hst : r.stages[k]? = some st) (hunit : Directive.extract m.1 = .ok unit)
    (hearly : early? s h₀ m = none) (hworking : Working s m.2 unit st)
    (hheld : st.held? = some (Slot.name m.2))
    (hlast : ofSlot modules (Slot.name m.2) taken = before ++ [k])
    (hrest : Agrees s (Slot.name m.2) ((st.rest s).run.run r.shared.host)
      ((transform s m.1 m.2).run.run (hostAfter s h₀ (calls modules before)))) :
    Inv s h₀ modules started taken (r.turn s k) := by
  have hslot : Slot.name m.2 ∈ slotsOf modules := name_mem_slotsOf (List.mem_of_getElem? hm)
  have hready : st.isReady = false := by
    cases hworking <;> rfl
  have hbegun : k ∈ started := hinv.began k _ hst hready
  have hholds : r.Holds k (Slot.name m.2) := ⟨st, hst, hheld⟩
  rcases step_working hs hground hslot (wayOf_of_not_early hearly).2 hworking hheld
    (hinv.workable hm hbegun hearly) with
    ⟨outcome, rfl⟩ | ⟨st', host, hstep, hworking', hheld', hbeside, hsource⟩
  · exact hinv.turn_leave hs hground hm hst hearly hlast hrest
  · have hrest' := rest_step (s := s) st r.shared
    rw [hstep] at hrest'
    rw [turn_eq hst, hstep]
    refine hinv.set hs hground hm (hinv.grown.beside hbeside) (fun _ hi => hi) hbegun hinv.nodup
      hinv.known ?_ (fun _ _ => Iff.rfl) (fun slot => ⟨[], by simp⟩) ?_ ?_ ?_ ?_
    · refine .holding hunit hearly hworking' hheld' hlast ?_ hsource
      rw [show ((st'.rest s).run.run host) = (st.rest s).run.run r.shared.host from hrest']
      exact hrest
    · intro i slot hi hholds'
      exact ⟨rfl, hbeside.alike (hinv.ne_of_holds hholds hholds' hi)⟩
    · intro slot
      rw [show Shared.isHeld { r.shared with host } slot = r.shared.isHeld slot from rfl,
        hinv.locks, exists_holds_iff hst, hheld, hheld']
    · rintro i slot hi hholds' hsame
      exact hinv.ne_of_holds hholds hholds' hi (Option.some.inj (hsame.symm.trans hheld'))
    · intro slot hopen
      have hne : slot ≠ Slot.name m.2 := by
        rintro rfl
        have hlocked := (hinv.locks _).2 ⟨k, hholds⟩
        rw [show r.shared.isHeld (Slot.name m.2) = false from hopen] at hlocked
        cases hlocked
      exact (hbeside.alike hne).trans (hinv.free slot hopen)

end Turn

/-- Whatever turn comes next, what held before holds behind it. -/
theorem Inv.turn (hs : s.buildRoot.IsResolved) (hground : Ground s h₀ (slotsOf modules))
    (hinv : Inv s h₀ modules started taken r) (k : Nat) :
    ∃ started', Inv s h₀ modules started' (if r.takes k then taken ++ [k] else taken)
      (r.turn s k) := by
  cases hst : r.stages[k]? with
  | none =>
    have htakes : r.takes k = false := by rw [Run.takes, hst]
    have hturn : r.turn s k = r := by rw [Run.turn, hst]
    rw [htakes, hturn]
    exact ⟨started, hinv⟩
  | some st =>
    have hlt : k < modules.length := by
      rw [← hinv.length]
      exact (List.getElem?_eq_some_iff.1 hst).1
    have hm : modules[k]? = some modules[k] := List.getElem?_eq_getElem hlt
    have hidle : (∀ j, st ≠ .waiting j) → r.takes k = false := by
      intro hne
      rw [Run.takes, hst]
      cases st with
      | waiting j => exact absurd rfl (hne j)
      | _ => rfl
    cases hinv.stands k _ st hm hst with
    | ready hnot =>
      rw [hidle (by simp)]
      exact ⟨started ++ [k], hinv.turn_ready hs hground hm hst hnot⟩
    | @waiting unit hunit hearly hnot =>
      by_cases hheld : r.shared.isHeld (Slot.name modules[k].2) = true
      · have htakes : r.takes k = false := by
          rw [Run.takes, hst]
          simp [jobOf, hheld]
        have hstep : ((Stage.waiting (jobOf s modules[k].2 unit)).step s).run r.shared =
            (.waiting (jobOf s modules[k].2 unit), r.shared) := by
          rw [run_step_waiting, show (jobOf s modules[k].2 unit).slot = Slot.name modules[k].2 from rfl,
            if_pos hheld]
        rw [htakes, turn_eq_self hst hstep]
        exact ⟨started, hinv⟩
      · have hopen : r.shared.isHeld (Slot.name modules[k].2) = false := by simpa using hheld
        have htakes : r.takes k = true := by
          rw [Run.takes, hst]
          simp [jobOf, hopen]
        rw [htakes]
        exact ⟨started, hinv.turn_take hs hground hm hst hunit hearly hnot hopen⟩
    | holding hunit hearly hworking hheld hlast hrest hsource =>
      rw [hidle (fun j hj => by rw [hj] at hheld; cases hheld)]
      exact ⟨started,
        hinv.turn_working hs hground hm hst hunit hearly hworking hheld hlast hrest⟩
    | early hearly hnot =>
      rw [hidle (by simp), turn_eq_self hst rfl]
      exact ⟨started, hinv⟩
    | done hearly hsplit =>
      rw [hidle (by simp), turn_eq_self hst rfl]
      exact ⟨started, hinv⟩

/-! ## §5 Many turns -/

/-- Before the first turn. -/
theorem inv_start (hground : Ground s h₀ (slotsOf modules)) :
    Inv s h₀ modules [] [] (Run.start modules h₀) := by
  have hready : ∀ {i : Nat} {st : Stage}, (Run.start modules h₀).stages[i]? = some st →
      ∃ m, modules[i]? = some m ∧ st = .ready m.1 m.2 := by
    intro i st hst
    rw [Run.start, List.getElem?_map, Option.map_eq_some_iff] at hst
    obtain ⟨m, hm, rfl⟩ := hst
    exact ⟨m, hm, rfl⟩
  have hnobody : ∀ i slot, ¬ (Run.start modules h₀).Holds i slot := by
    rintro i slot ⟨st, hst, hheld⟩
    obtain ⟨m, -, rfl⟩ := hready hst
    cases hheld
  refine ⟨by simp [Run.start], .refl hground, ?_, .nil, by simp, ?_, ?_, ?_,
    fun slot _ => .refl s slot h₀⟩
  · intro i st hst hbegun
    obtain ⟨m, -, rfl⟩ := hready hst
    cases hbegun
  · intro i m st hm hst
    obtain ⟨m', hm', rfl⟩ := hready hst
    obtain rfl : m = m' := Option.some.inj (hm.symm.trans hm')
    exact .ready (by simp)
  · intro slot
    refine iff_of_false (by simp [Shared.isHeld, Run.start]) ?_
    rintro ⟨i, hi⟩
    exact hnobody i slot hi
  · intro i j slot hi
    exact absurd hi (hnobody i slot)

theorem Inv.turns (hs : s.buildRoot.IsResolved) (hground : Ground s h₀ (slotsOf modules))
    (hinv : Inv s h₀ modules started taken r) (schedule : List Nat) :
    ∃ started', Inv s h₀ modules started' (taken ++ r.taken s schedule) (r.turns s schedule) := by
  induction schedule generalizing started taken r with
  | nil => exact ⟨started, by simpa [Run.taken, Run.turns] using hinv⟩
  | cons k schedule ih =>
    obtain ⟨started', hturn⟩ := hinv.turn hs hground k
    obtain ⟨started'', hturns⟩ := ih hturn
    refine ⟨started'', ?_⟩
    show Inv s h₀ modules started'' _ ((r.turn s k).turns s schedule)
    rw [Run.taken]
    split
    · next htakes => simpa [htakes] using hturns
    · next htakes => simpa [htakes] using hturns

/-! ## §6 The end -/

section End

/-- All transforms have come to their end. -/
def Run.HasEnded (r : Run) : Prop := ∀ st ∈ r.stages, ∃ outcome, st = .ended outcome

/-- An order in which the transforms that took the same slot come as they took it. -/
structure Follows (modules : List (Text × Text)) (taken order : List Nat) : Prop where
  perm : order.Perm (List.range modules.length)
  taken : ∀ slot, ofSlot modules slot (order.filter (· ∈ taken)) = ofSlot modules slot taken

theorem getElem?_of_mem_order {order : List Nat} (hf : Follows modules taken order)
    (hi : i ∈ order) : ∃ m, modules[i]? = some m := by
  have hlt : i < modules.length := List.mem_range.1 ((hf.perm.mem_iff).1 hi)
  exact ⟨_, List.getElem?_eq_getElem hlt⟩

/-- What stands before the one place of a number in a list. -/
theorem append_cons_inj {a b c d : List Nat} (hn : (a ++ i :: c).Nodup)
    (h : a ++ i :: c = b ++ i :: d) : a = b := by
  have hinit : ∀ {l rest : List Nat}, (l ++ i :: rest).Nodup →
      (l ++ i :: rest).takeWhile (· ≠ i) = l := by
    intro l rest hl
    rw [List.takeWhile_append_of_pos fun j hj => ?_]
    · simp
    · simpa using (List.nodup_append.1 hl).2.2 j hj i (List.mem_cons_self ..)
  rw [← hinit hn, h, hinit (h ▸ hn)]

/-- Those before a transform in such an order took the slot before it, and no others did. -/
theorem Follows.before_eq {order before behind before' behind' : List Nat}
    (hf : Follows modules taken order) (horder : order = before ++ i :: behind)
    (hm : modules[i]? = some m) (htaken : i ∈ taken)
    (hsplit : ofSlot modules (Slot.name m.2) taken = before' ++ i :: behind') :
    ofSlot modules (Slot.name m.2) (before.filter (· ∈ taken)) = before' := by
  have hnodup : order.Nodup := hf.perm.nodup_iff.2 List.nodup_range
  have hparts : ofSlot modules (Slot.name m.2) (order.filter (· ∈ taken)) =
      ofSlot modules (Slot.name m.2) (before.filter (· ∈ taken)) ++
        i :: ofSlot modules (Slot.name m.2) (behind.filter (· ∈ taken)) := by
    rw [horder, List.filter_append, List.filter_cons_of_pos (by simpa using htaken), ofSlot, ofSlot,
      ofSlot, List.filter_append, List.filter_cons_of_pos ((isOf_iff hm).2 rfl)]
  refine append_cons_inj ?_ (hparts.symm.trans ((hf.taken _).trans hsplit))
  rw [← hparts]
  exact (hnodup.filter _).filter _

variable (hs : s.buildRoot.IsResolved) (hground : Ground s h₀ (slotsOf modules))
  (hinv : Inv s h₀ modules started taken r) (hended : r.HasEnded)

include hinv hended

theorem Inv.exists_outcome (hm : modules[i]? = some m) :
    ∃ outcome, r.stages[i]? = some (.ended outcome) := by
  have hlt : i < r.stages.length := by
    rw [hinv.length]
    exact (List.getElem?_eq_some_iff.1 hm).1
  obtain ⟨outcome, hst⟩ := hended _ (List.getElem_mem hlt)
  exact ⟨outcome, by rw [List.getElem?_eq_getElem hlt, hst]⟩

/-- At the end those took their slots that got to them. -/
theorem Inv.mem_taken_iff (hm : modules[i]? = some m) : i ∈ taken ↔ early? s h₀ m = none := by
  obtain ⟨outcome, hst⟩ := hinv.exists_outcome hended hm
  cases hinv.stands i m _ hm hst with
  | holding _ _ _ hheld => cases hheld
  | early hearly hnot => simp [hearly, hnot]
  | done hearly hsplit =>
    have hmem : i ∈ ofSlot modules (Slot.name m.2) taken := by
      rw [hsplit]
      simp
    simp [hearly, List.mem_of_mem_filter hmem]

theorem Inv.calls_ofSlot {order : List Nat} (horder : ∀ i ∈ order, ∃ m, modules[i]? = some m) :
    inSlot s h₀ slot (calls modules order) =
      calls modules (ofSlot modules slot (order.filter (· ∈ taken))) := by
  induction order with
  | nil => rfl
  | cons i order ih =>
    have ih := ih fun j hj => horder j (List.mem_cons_of_mem _ hj)
    obtain ⟨m, hm⟩ := horder i (List.mem_cons_self ..)
    have hcalls : ∀ order, calls modules (i :: order) = m :: calls modules order := by
      intro order
      rw [calls, List.filterMap_cons_some hm, calls]
    rw [hcalls]
    by_cases hearly : early? s h₀ m = none
    · have htaken : i ∈ taken := (hinv.mem_taken_iff hended hm).2 hearly
      rw [List.filter_cons_of_pos (by simpa using htaken)]
      by_cases hslot : Slot.name m.2 = slot
      · rw [inSlot, List.filter_cons_of_pos (enters_iff.2 ⟨hearly, hslot⟩), ofSlot,
          List.filter_cons_of_pos ((isOf_iff hm).2 hslot), hcalls]
        exact congrArg (m :: ·) ih
      · rw [inSlot, List.filter_cons_of_neg fun h => hslot (enters_iff.1 h).2, ofSlot,
          List.filter_cons_of_neg fun h => hslot ((isOf_iff hm).1 h)]
        exact ih
    · have hnot : i ∉ taken := fun h => hearly ((hinv.mem_taken_iff hended hm).1 h)
      rw [inSlot, List.filter_cons_of_neg fun h => hearly (enters_iff.1 h).1,
        List.filter_cons_of_neg (by simpa using hnot)]
      exact ih

include hs hground

/-- Every transform comes to what it comes to behind those before it in the order. -/
theorem Inv.stage_eq {order before behind : List Nat} (hf : Follows modules taken order)
    (horder : order = before ++ i :: behind) (hm : modules[i]? = some m) :
    r.stages[i]? = some (.ended
      ((transform s m.1 m.2).run.run (hostAfter s h₀ (calls modules before))).1) := by
  have hslot : Slot.name m.2 ∈ slotsOf modules := name_mem_slotsOf (List.mem_of_getElem? hm)
  have hmem : ∀ j ∈ before, j ∈ order := fun j hj => horder ▸ List.mem_append_left _ hj
  have hcalls : ∀ m' ∈ calls modules before, Slot.name m'.2 ∈ slotsOf modules := slot_of_mem_calls
  obtain ⟨outcome, hst⟩ := hinv.exists_outcome hended hm
  rw [hst]
  refine congrArg (some ∘ Stage.ended) ?_
  cases hinv.stands i m _ hm hst with
  | holding _ _ _ hheld => cases hheld
  | early hearly hnot =>
    obtain ⟨_, -, hrun⟩ := run_transform_grown hs hground hslot (grown_hostAfter hs hground hcalls)
    rw [hearly] at hrun
    rw [hrun]
  | done hearly hsplit =>
    have htaken : i ∈ taken := (hinv.mem_taken_iff hended hm).2 hearly
    have hbefore := hf.before_eq horder hm htaken hsplit
    rw [(agrees_sequence hs hground hcalls hslot).outcome,
      hinv.calls_ofSlot hended fun j hj => getElem?_of_mem_order hf (hmem j hj), hbefore]

/-- The transforms come to what they come to one after the other. -/
theorem Inv.map_stages {order before : List Nat} (hf : Follows modules taken order)
    (hbefore : before <+: order) :
    before.map (r.stages[·]?) =
      ((sequence s (calls modules before)).run h₀).1.map (fun outcome => some (.ended outcome)) := by
  induction before using List.reverseRecOn with
  | nil => rfl
  | append_singleton before i ih =>
    obtain ⟨behind, horder⟩ := hbefore
    rw [List.append_assoc, List.singleton_append] at horder
    obtain ⟨m, hm⟩ := getElem?_of_mem_order hf (i := i) (horder ▸ by simp)
    rw [List.map_append, ih ⟨i :: behind, horder⟩, calls_concat hm, outcomes_sequence_concat,
      List.map_append, List.map_singleton, List.map_singleton,
      hinv.stage_eq hs hground hended hf horder.symm hm]

/-- Every entry is what it is behind them all in the order. -/
theorem Inv.entryAt_eq {order : List Nat} (hf : Follows modules taken order) (place : Place) :
    r.shared.host.files.entryAt place =
      (hostAfter s h₀ (calls modules order)).files.entryAt place := by
  have hcalls : ∀ m' ∈ calls modules order, Slot.name m'.2 ∈ slotsOf modules := slot_of_mem_calls
  have hgrown := grown_hostAfter hs hground hcalls
  by_cases hplace : ∃ slot name, place = s.slotFile slot name
  · obtain ⟨slot, name, rfl⟩ := hplace
    have hopen : r.shared.isHeld slot = false := by
      rw [← Bool.not_eq_true, hinv.locks]
      rintro ⟨i, st, hst, hheld⟩
      obtain ⟨outcome, rfl⟩ := hended st (List.mem_of_getElem? hst)
      cases hheld
    have halike : Alike s slot _ _ := alike_hostAfter hs hground hcalls
    rw [hinv.calls_ofSlot hended fun j hj => getElem?_of_mem_order hf hj, hf.taken] at halike
    exact ((hinv.free slot hopen).trans halike.symm) name
  · push Not at hplace
    rw [hinv.grown.entries place hplace, hgrown.entries place hplace]
    -- both have opened the ways to the slots of all modules
    have hstarted : ∀ m', m' ∈ calls modules started ↔ m' ∈ modules := by
      refine fun m' => ⟨mem_of_mem_calls, fun hm' => ?_⟩
      obtain ⟨i, hi⟩ := List.getElem?_of_mem hm'
      obtain ⟨outcome, hst⟩ := hinv.exists_outcome hended hi
      exact List.mem_filterMap.2 ⟨i, hinv.began i _ hst rfl, hi⟩
    have horder : ∀ m', m' ∈ calls modules order ↔ m' ∈ modules := by
      refine fun m' => ⟨mem_of_mem_calls, fun hm' => ?_⟩
      obtain ⟨i, hi⟩ := List.getElem?_of_mem hm'
      exact List.mem_filterMap.2
        ⟨i, hf.perm.mem_iff.2 (List.mem_range.2 (List.getElem?_eq_some_iff.1 hi).1), hi⟩
    refine if_congr ?_ rfl rfl
    simp only [List.mem_map, hstarted, horder]

omit hs hground hended in
/-- The order in which they took their slots is one of these, those that took none behind them. -/
theorem Inv.follows :
    Follows modules taken (taken ++ (List.range modules.length).filter (· ∉ taken)) where
  perm := by
    refine (List.perm_ext_iff_of_nodup ?_ List.nodup_range).2 fun i => ?_
    · refine List.nodup_append.2 ⟨hinv.nodup, List.nodup_range.filter _, fun i hi j hj => ?_⟩
      rintro rfl
      simp [hi] at hj
    · by_cases hi : i ∈ taken
      · simp [hi, hinv.known i hi]
      · simp [hi]
  taken := by
    intro slot
    have hrest : ((List.range modules.length).filter (· ∉ taken)).filter (· ∈ taken) = [] := by
      rw [List.filter_filter, List.filter_eq_nil_iff]
      simp
    rw [List.filter_append, hrest, List.append_nil, List.filter_eq_self.2 (by simp)]

end End

end Transform

end EmbeddedGo
