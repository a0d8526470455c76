/-
EmbeddedGo.Proofs.JsonFaults — what the faults of JSON texts tell about the texts.

Each reader takes a beginning off its text, or it ends with a fault. A fault tells something about the
text, and so about every text that this one is the rest of (`Leads.of_suffix`). Two faults are not about
the grammar: a run of more digits than are read stands in the text, or it opens more lists and objects
than can be nested (`readNested_leads`). So these are not met in a text that has neither.

The names in an object are strings, whatever the text.

  §1 what a reader leads to
  §2 strings
  §3 numbers
  §4 values
-/
import EmbeddedGo.Data.Json.Reader
import EmbeddedGo.Proofs.Endings

namespace EmbeddedGo.Json

open Text

variable {α β : Type} {depth fuel : Nat} {s s' rest : Text} {P : α → Prop} {Q : β → Prop}

/-! ## §1 Readers -/

/-- How many lists and objects a text can open. Brackets in strings count as well. -/
def openings (s : Text) : Nat := s.countP fun c => c == '[' || c == '\x7b'

/-- A text has a run of so many digits in it. -/
def HasDigits (n : Nat) (s : Text) : Prop :=
  ∃ digits, digits <:+: s ∧ digits.length = n ∧ digits.all isDigit = true

/-- What a fault tells about a text in which lists and objects can be nested `depth` times. -/
def Fault.Tells (depth : Nat) (s : Text) : Fault → Prop
  | .malformed _ left => left ≤ s.length
  | .numberTooLong n => digitLimit < n ∧ HasDigits n s
  | .tooDeep _ => depth < openings s

/-- The names in an object are strings. -/
def IsNamed : Value → Prop
  | .map entries => ∀ entry ∈ entries, entry.1.isString = true
  | _ => True

/-- A reader takes a beginning off its text, or its fault tells about the text. -/
def Leads (depth : Nat) (P : α → Prop) (s : Text) : Except Fault (α × Text) → Prop :=
  Ends (Fault.Tells depth s) fun r => P r.1 ∧ r.2 <:+ s

theorem openings_le_of_suffix (h : s' <:+ s) : openings s' ≤ openings s := h.sublist.countP_le

theorem Fault.Tells.of_suffix {e : Fault} (h : s' <:+ s) (he : e.Tells depth s') :
    e.Tells depth s := by
  cases e with
  | malformed words left => exact Nat.le_trans he h.length_le
  | numberTooLong n =>
    obtain ⟨hn, digits, hinfix, hdigits⟩ := he
    exact ⟨hn, digits, hinfix.trans h.isInfix, hdigits⟩
  | tooDeep what => exact Nat.lt_of_lt_of_le he (openings_le_of_suffix h)

/-- What is told about the inside of a list or an object, seen from the outside. -/
theorem Fault.Tells.opened {e : Fault} {c : Char} (hc : (c == '[' || c == '\x7b') = true)
    (h : s' <:+ s) (he : e.Tells depth s') : e.Tells (depth + 1) (c :: s) := by
  cases e with
  | tooDeep what =>
    have hle := openings_le_of_suffix h
    have hlt : depth < openings s' := he
    have hcons : openings (c :: s) = openings s + 1 := List.countP_cons_of_pos hc
    show depth + 1 < openings (c :: s)
    omega
  | malformed | numberTooLong => exact of_suffix (h.trans (List.suffix_cons c s)) he

theorem Leads.of_suffix {r : Except Fault (α × Text)} (h : s' <:+ s) (hr : Leads depth P s' r) :
    Leads depth P s r :=
  hr.mono (fun _ he => he.of_suffix h) fun _ ha => ⟨ha.1, ha.2.trans h⟩

theorem Leads.opened {r : Except Fault (α × Text)} {c : Char}
    (hc : (c == '[' || c == '\x7b') = true) (h : s' <:+ s) (hr : Leads depth P s' r) :
    Leads (depth + 1) P (c :: s) r :=
  hr.mono (fun _ he => he.opened hc h) fun _ ha =>
    ⟨ha.1, (ha.2.trans h).trans (List.suffix_cons c s)⟩

theorem ends_fail (words : Text) (h : s' <:+ s) : Ends (Fault.Tells depth s) P (fail words s') :=
  h.length_le

theorem suffix_of_cons {c : Char} (h : c :: rest <:+ s) : rest <:+ s :=
  (List.suffix_cons c rest).trans h

theorem skipSpace_suffix (s : Text) : skipSpace s <:+ s := List.dropWhile_suffix _

/-! ## §2 Strings -/

theorem unit?_suffix {n : Nat} (h : unit? s = some (n, rest)) : rest <:+ s := by
  unfold unit? at h
  split at h
  · next a b c d next s =>
    obtain ⟨_, -, hrest⟩ := Option.map_eq_some_iff.1 h
    cases hrest
    exact ⟨[a, b, c, d], rfl⟩
  · cases h

theorem unitPoint_suffix (n : Nat) (s : Text) : (unitPoint n s).2 <:+ s := by
  unfold unitPoint
  split
  · split
    · next low rest hlow =>
      obtain ⟨escaped, hescaped, hunit⟩ := Option.bind_eq_some_iff.1 hlow
      have hrest := unit?_suffix hunit
      rw [after?_eq_some_iff] at hescaped
      split
      · exact hrest.trans ⟨_, hescaped.symm⟩
      · exact List.suffix_rfl
    · exact List.suffix_rfl
  · exact List.suffix_rfl

theorem stringBody_leads (left fuel : Nat) (done : List Nat) (s : Text) (hleft : left ≤ s'.length)
    (h : s <:+ s') : Leads depth (fun _ => True) s' (stringBody left fuel done s) := by
  fun_induction stringBody left fuel done s with
  | case1 | case2 | case4 => exact hleft
  | case3 fuel done s => exact ⟨trivial, suffix_of_cons h⟩
  | case5 => exact ends_fail _ (suffix_of_cons h)
  | case6 fuel done s n rest hunit point rest' hpoint _ ih =>
    have hrest : rest' <:+ rest := by
      have := unitPoint_suffix n rest
      rwa [hpoint] at this
    exact ih (hrest.trans ((unit?_suffix hunit).trans (suffix_of_cons (suffix_of_cons h))))
  | case7 _ _ _ _ _ _ _ _ ih => exact ih (suffix_of_cons (suffix_of_cons h))
  | case8 | case9 => exact ends_fail _ h
  | case10 _ _ _ _ _ _ _ ih => exact ih (suffix_of_cons h)

theorem isString_ofPoints (points : List Nat) : (Value.ofPoints points).isString = true := by
  unfold Value.ofPoints
  split <;> rfl

theorem string_leads (c : Char) (s : Text) :
    Leads depth (fun v => v.isString = true) (c :: s) (string s) :=
  (stringBody_leads _ _ _ _ (Nat.le_refl _) (List.suffix_cons c s)).map
    fun r hr => ⟨isString_ofPoints r.1, hr.2⟩

/-! ## §3 Numbers -/

theorem fraction_suffix (s : Text) : (fraction s).2 <:+ s := by
  unfold fraction
  split
  · split
    · exact List.suffix_rfl
    · exact (List.dropWhile_suffix _).trans (List.suffix_cons _ _)
  · exact List.suffix_rfl

theorem exponent_suffix (s : Text) : (exponent s).2 <:+ s := by
  unfold exponent
  split
  · next e s =>
    split
    · -- a sign can stand in front of the digits
      have hsigned : ∀ s' : Text, s' <:+ s → s'.dropWhile isDigit <:+ e :: s := fun s' h =>
        (List.dropWhile_suffix _).trans (h.trans (List.suffix_cons e s))
      split
      next sign s' hsign =>
        have hs' : s' <:+ s := by
          split at hsign <;> cases hsign
          · exact List.suffix_cons _ _
          · exact List.suffix_cons _ _
          · exact List.suffix_rfl
        split
        · exact List.suffix_rfl
        · exact hsigned s' hs'
    · exact List.suffix_rfl
  · exact List.suffix_rfl

theorem wholePart_suffix (s : Text) : (wholePart s).2 <:+ s := by
  unfold wholePart
  split
  · exact List.suffix_cons _ _
  · exact List.dropWhile_suffix _

theorem hasDigits_wholePart (s : Text) : HasDigits (wholePart s).1.length s := by
  refine ⟨_, ?_, rfl, ?_⟩
  · unfold wholePart
    split
    · next s => exact (List.prefix_append ['0'] s).isInfix
    · exact (List.takeWhile_prefix _).isInfix
  · unfold wholePart
    split
    · rfl
    · exact List.all_takeWhile

theorem number?_leads {negative : Bool} {r : Except Fault Value}
    (h : number? negative s = some (r, rest)) : Leads depth IsNamed s (r.map (·, rest)) := by
  have hwhole := wholePart_suffix s
  have hdigits := hasDigits_wholePart s
  unfold number? at h
  split at h
  · cases h
  · next whole behind _ hpart =>
    rw [hpart] at hwhole hdigits
    have hfraction := fraction_suffix behind
    split at h
    next part behind' hpart =>
    rw [hpart] at hfraction
    have hexponent := exponent_suffix behind'
    split at h
    next power behind'' hpower =>
    rw [hpower] at hexponent
    have hrest : behind'' <:+ s := hexponent.trans (hfraction.trans hwhole)
    split at h
    · split at h
      · next hlong =>
        cases h
        exact ⟨hlong, hdigits⟩
      · cases h
        exact ⟨trivial, hrest⟩
    · cases h
      exact ⟨trivial, hrest⟩

/-! ## §4 Values -/

theorem atom_leads (s : Text) : Leads depth IsNamed s (atom s) := by
  unfold atom
  split
  · next r hword =>
    obtain ⟨w, hw, hafter⟩ := List.exists_of_findSome?_eq_some hword
    obtain ⟨rest, hrest, rfl⟩ := Option.map_eq_some_iff.1 hafter
    rw [after?_eq_some_iff] at hrest
    refine ⟨?_, ⟨w.1, hrest.symm⟩⟩
    have hnamed : ∀ w ∈ words, IsNamed w.2 := by simp [words, IsNamed]
    exact hnamed w hw
  · dsimp only
    split
    · exact ends_fail _ List.suffix_rfl
    · next v rest hread =>
      split at hread
      · exact (number?_leads hread).of_suffix (List.suffix_cons _ _)
      · exact number?_leads hread

theorem IsNamed.of_isString {v : Value} (h : v.isString = true) : IsNamed v := by
  cases v with
  | map entries => cases h
  | _ => trivial

/-- The names of some entries are strings. -/
def AreNamed (entries : List (Value × Value)) : Prop :=
  ∀ entry ∈ entries, entry.1.isString = true

theorem AreNamed.insert {name v : Value} {entries : List (Value × Value)} (h : AreNamed entries)
    (hname : name.isString = true) : AreNamed (Value.insert name v entries) := by
  intro entry hentry
  fun_induction Value.insert name v entries with
  | case1 =>
    rw [List.mem_singleton.1 hentry]
    exact hname
  | case2 k old rest _ =>
    rcases List.mem_cons.1 hentry with rfl | hrest
    · exact h (k, old) (List.mem_cons_self ..)
    · exact h entry (List.mem_cons_of_mem _ hrest)
  | case3 k _ rest _ ih =>
    rcases List.mem_cons.1 hentry with rfl | hrest
    · exact h _ (List.mem_cons_self ..)
    · exact ih (fun e he => h e (List.mem_cons_of_mem _ he)) hrest

/-- A value, if lists and objects are read from less fuel. -/
theorem value_leads_succ (hitems : ∀ depth s, Leads depth (fun _ => True) s (items depth fuel s))
    (hmembers : ∀ depth s, Leads depth AreNamed s (members depth fuel [] s)) (depth : Nat)
    (s : Text) : Leads depth IsNamed s (value depth (fuel + 1) s) := by
  unfold value
  split
  · next rest =>
    exact (string_leads '"' rest).mono (fun _ he => he) fun _ h => ⟨.of_isString h.1, h.2⟩
  · next rest => exact (show 0 < openings ('[' :: rest) by simp [openings])
  · next rest depth =>
    have hspace := skipSpace_suffix rest
    split
    · next behind hbehind =>
      rw [hbehind] at hspace
      exact ⟨trivial, (suffix_of_cons hspace).trans (List.suffix_cons _ _)⟩
    · exact ((hitems depth _).opened rfl hspace).map fun _ h => ⟨trivial, h.2⟩
  · next rest => exact (show 0 < openings ('\x7b' :: rest) by simp [openings])
  · next rest depth =>
    have hspace := skipSpace_suffix rest
    split
    · next behind hbehind =>
      rw [hbehind] at hspace
      have hnone : AreNamed [] := List.forall_mem_nil _
      exact ⟨hnone, (suffix_of_cons hspace).trans (List.suffix_cons _ _)⟩
    · exact ((hmembers depth _).opened rfl hspace).map fun _ h => h
  · exact atom_leads s

/-- The items of a list, if its values and the items behind them are read from less fuel. -/
theorem items_leads_succ (hvalue : ∀ depth s, Leads depth IsNamed s (value depth fuel s))
    (hitems : ∀ depth s, Leads depth (fun _ => True) s (items depth fuel s)) (depth : Nat)
    (s : Text) : Leads depth (fun _ => True) s (items depth (fuel + 1) s) := by
  unfold items
  refine (hvalue depth s).bind fun ⟨v, rest⟩ ⟨_, hrest⟩ => ?_
  have hspace := (skipSpace_suffix rest).trans hrest
  dsimp only
  split
  · next behind hbehind =>
    rw [hbehind] at hspace
    exact ⟨trivial, suffix_of_cons hspace⟩
  · next behind hbehind =>
    rw [hbehind] at hspace
    have hnext := (skipSpace_suffix behind).trans (suffix_of_cons hspace)
    exact ((hitems depth _).of_suffix hnext).bind fun _ h => ⟨trivial, h.2⟩
  · exact ends_fail _ hspace

/-- The members of an object, if its values and the members behind them are read from less fuel. -/
theorem members_leads_succ (hvalue : ∀ depth s, Leads depth IsNamed s (value depth fuel s))
    (hmembers : ∀ depth done s, AreNamed done → Leads depth AreNamed s (members depth fuel done s))
    (depth : Nat) {done : List (Value × Value)} (s : Text) (hdone : AreNamed done) :
    Leads depth AreNamed s (members depth (fuel + 1) done s) := by
  unfold members
  split
  · next rest =>
    refine (string_leads '"' rest).bind fun ⟨name, rest⟩ ⟨hname, hrest⟩ => ?_
    have hspace := (skipSpace_suffix rest).trans hrest
    dsimp only
    split
    · next behind hbehind =>
      rw [hbehind] at hspace
      have hnext := (skipSpace_suffix behind).trans (suffix_of_cons hspace)
      refine ((hvalue depth _).of_suffix hnext).bind fun ⟨v, rest'⟩ ⟨_, hrest'⟩ => ?_
      have hspace' := (skipSpace_suffix rest').trans hrest'
      have hmore : AreNamed (Value.insert name v done) := hdone.insert hname
      dsimp only
      split
      · next behind' hbehind' =>
        rw [hbehind'] at hspace'
        exact ⟨hmore, suffix_of_cons hspace'⟩
      · next behind' hbehind' =>
        rw [hbehind'] at hspace'
        have hnext' := (skipSpace_suffix behind').trans (suffix_of_cons hspace')
        exact (hmembers depth _ _ hmore).of_suffix hnext'
      · exact ends_fail _ hspace'
    · exact ends_fail _ hspace
  · exact ends_fail _ List.suffix_rfl

/-- What values, items and members lead to, whatever the fuel. -/
theorem leads (fuel : Nat) :
    (∀ depth s, Leads depth IsNamed s (value depth fuel s)) ∧
    (∀ depth s, Leads depth (fun _ => True) s (items depth fuel s)) ∧
    ∀ depth done s, AreNamed done → Leads depth AreNamed s (members depth fuel done s) := by
  induction fuel with
  | zero =>
    exact ⟨fun _ _ => ends_fail _ List.suffix_rfl, fun _ _ => ends_fail _ List.suffix_rfl,
      fun _ _ _ _ => ends_fail _ List.suffix_rfl⟩
  | succ fuel ih =>
    obtain ⟨hvalue, hitems, hmembers⟩ := ih
    refine ⟨value_leads_succ hitems fun depth s => ?_, items_leads_succ hvalue hitems,
      fun depth done s => members_leads_succ hvalue hmembers depth s⟩
    exact hmembers depth [] s (List.forall_mem_nil _)

/-- What a whole text leads to: nothing is left of it behind its value. -/
theorem readNested_leads (depth : Nat) (s : Text) :
    Leads depth IsNamed s ((readNested depth s).map (·, [])) := by
  have hread : Leads depth IsNamed s (value depth (s.length + 1) (skipSpace s)) :=
    ((leads _).1 depth _).of_suffix (skipSpace_suffix s)
  unfold readNested
  split
  · exact ends_fail _ List.suffix_rfl
  · rcases hvalue : value depth (s.length + 1) (skipSpace s) with e | ⟨v, rest⟩
    · rw [hvalue] at hread
      exact hread
    · rw [hvalue] at hread
      obtain ⟨hv, hrest⟩ := hread
      have hspace := (skipSpace_suffix rest).trans hrest
      dsimp only [bind, Except.bind]
      split
      · exact ⟨hv, List.nil_suffix⟩
      · exact ends_fail _ hspace

/-- The fault of a text tells about it. -/
theorem tells_of_readNested {e : Fault} (h : readNested depth s = .error e) : e.Tells depth s := by
  have hleads := readNested_leads depth s
  rwa [h] at hleads

/-- The names in the object that a text writes are strings. -/
theorem isNamed_of_readNested {v : Value} (h : readNested depth s = .ok v) : IsNamed v := by
  have hleads := readNested_leads depth s
  rw [h] at hleads
  exact hleads.1

end EmbeddedGo.Json
