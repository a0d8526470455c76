/-
EmbeddedGo.Proofs.Offers — the names that a source writes for its functions.

A marker is a line that is written in one way, blanks aside (`IsMarker`). In front of a declaration of
the grammar in which every parameter gets a type it makes an offer: the name that is marked, and the
groups of words between the brackets of the declaration (`Makes`). The lines of a source make one list
of offers (`Offers.unique`), and the functions that are exported are theirs, one for each and in order,
with the names that the offers have (`exists_offers`).

  §1 offers
  §2 markers
  §3 the words of a declaration
  §4 what a line offers
  §5 what lines offer
-/
import EmbeddedGo.Proofs.ExportedSource
import EmbeddedGo.Proofs.Trimming

namespace EmbeddedGo.Go

open Text Token Signature

/-! ## §1 Offers -/

/-- The lines that mark a name. -/
inductive IsMarker (name : Text) : Text → Prop where
  | written {before gap behind : Text} (hname : isIdentifier name = true)
    (hbefore : before.all isBlank = true) (hne : gap ≠ []) (hgap : gap.all isBlank = true)
    (hbehind : behind.all isBlank = true) :
    IsMarker name (before ++ ("//export".toList ++ (gap ++ (name ++ behind))))

/-- A name that is marked, and the groups that the declaration behind it has. -/
structure Offer where
  name : Text
  groups : List Group

instance (gs : List Group) : Decidable (AllSingle gs) :=
  inferInstanceAs (Decidable (∀ g ∈ gs, g.type? = none))

/-- The name of a parameter that a declaration gives no name. -/
def numberedName (i : Nat) : Text := "arg" ++ Text.ofNat i

/-- The names of a function's parameters. -/
def Function.parameterNames (f : Function) : List Text := f.params.map Parameter.name

/-- The names of the parameters: those that the declaration gives them, or else numbered ones. -/
def Offer.parameterNames (o : Offer) : List Text :=
  if AllSingle o.groups then (List.range o.groups.length).map numberedName
  else o.groups.map Group.first

/-- What a line offers in front of others. -/
inductive Makes (line : Text) : List Text → Offer → Prop where
  | offer {next own : Text} {others : List Text} {tokens : List Token} {result : Option Text}
    {o : Offer} (hmarker : IsMarker o.name line) (hstart : startsFunction next = true)
    (hlaid : Laid tokens (declaration (next :: others)))
    (hspells : Spells tokens own o.groups result)
    (htyped : AllSingle o.groups ∨ EndsInPair o.groups) : Makes line (next :: others) o

/-- What lines offer, in order. -/
inductive Offers : List Text → List Offer → Prop where
  | nil : Offers [] []
  | made {line : Text} {rest : List Text} {o : Offer} {os : List Offer} (h : Makes line rest o)
    (hrest : Offers rest os) : Offers (line :: rest) (o :: os)
  | nothing {line : Text} {rest : List Text} {os : List Offer} (h : ∀ o, ¬ Makes line rest o)
    (hrest : Offers rest os) : Offers (line :: rest) os

/-! ## §2 Markers -/

/-- The name of a marker is the one that it is written with. -/
theorem markerName_eq_some_iff {line name : Text} :
    markerName? line = some name ↔ IsMarker name line := by
  constructor
  · intro h
    unfold markerName? at h
    split at h
    · next b rest hafter =>
      split at h
      · next hb =>
        split at h
        · next c word hrest =>
          split at h
          · next hcond =>
            cases h
            simp only [Bool.and_eq_true] at hcond
            obtain ⟨before, hbefore, hline⟩ := exists_trimStart line
            obtain ⟨gap, hgap, hname⟩ := exists_trimStart rest
            rw [hrest] at hname
            rw [after?_eq_some_iff.1 hafter, hname] at hline
            have hword : c :: word = c :: word.takeWhile isWord ++ word.dropWhile isWord := by
              rw [List.cons_append, List.takeWhile_append_dropWhile]
            have hidentifier : isIdentifier (c :: word.takeWhile isWord) = true := by
              rw [isIdentifier, hcond.1, List.all_takeWhile]
              rfl
            rw [hword] at hline
            rw [hline]
            have hgap : (b :: gap).all isBlank = true := by rw [List.all_cons, hb, hgap, Bool.true_and]
            exact .written hidentifier hbefore (List.cons_ne_nil b gap) hgap hcond.2
          · cases h
        · cases h
      · cases h
    · cases h
  · rintro ⟨hname, hbefore, hne, hgap, hbehind⟩
    rename_i before gap behind
    obtain ⟨b, gap, rfl⟩ := List.exists_cons_of_ne_nil hne
    simp only [List.all_cons, Bool.and_eq_true] at hgap
    cases name with
    | nil => cases hname
    | cons c s =>
      simp only [isIdentifier, Bool.and_eq_true, List.all_eq_true] at hname
      have hblank : isBlank c = false := isBlank_of_isWord (isWord_of_isWordStart hname.1)
      have hslash : isBlank '/' = false := by decide
      have htrim : trimStart (before ++ ("//export".toList ++ (b :: gap ++ (c :: s ++ behind)))) =
          "//export".toList ++ (b :: gap ++ (c :: s ++ behind)) :=
        trimStart_append hbefore hslash _
      have hends : wordEnds behind = true := by
        cases behind with
        | nil => rfl
        | cons d behind =>
          simp only [List.all_cons, Bool.and_eq_true] at hbehind
          simp [wordEnds, isWord_of_isBlank hbehind.1]
      obtain ⟨htake, hdrop⟩ := span_of_wordEnds hname.2 hends
      have hgapped := trimStart_append hgap.2 hblank (s ++ behind)
      unfold markerName?
      rw [htrim, after?_append, List.cons_append]
      dsimp only
      rw [if_pos hgap.1, List.cons_append, hgapped]
      dsimp only
      rw [htake, hdrop, hname.1, hbehind]
      rfl

/-! ## §3 Words -/

theorem isIdentifier_of_mem {tokens : List Token} {s name : Text} (h : Laid tokens s)
    (hmem : .word name ∈ tokens) : isIdentifier name = true := by
  induction h with
  | nil => cases hmem
  | blank _ _ ih => exact ih hmem
  | word hname _ _ ih =>
    rcases List.mem_cons.1 hmem with heq | hmem
    · cases heq
      exact hname
    · exact ih hmem
  | dots _ ih => exact ih ((List.mem_cons.1 hmem).resolve_left (by simp))
  | mark _ _ _ ih => exact ih ((List.mem_cons.1 hmem).resolve_left (by simp))

/-- The first word of every group is written. -/
theorem first_mem_of_lists {gs : List Group} {listed : List Token} (h : Lists gs listed) {g : Group}
    (hg : g ∈ gs) : .word g.first ∈ listed := by
  have hfirst : ∀ g : Group, .word g.first ∈ g.tokens := fun g => by
    cases g <;> exact List.mem_cons_self
  induction gs generalizing listed with
  | nil => cases hg
  | cons g' gs ih =>
    rcases h.elim with ⟨hnil, -⟩ | ⟨_, heq, rfl⟩ | ⟨_, _, _, heq, rfl, h'⟩
    · cases hnil
    · cases heq
      rw [List.mem_singleton.1 hg]
      exact hfirst _
    · cases heq
      rcases List.mem_cons.1 hg with rfl | hg
      · exact List.mem_append_left _ (hfirst g)
      · exact List.mem_append_right _ (List.mem_cons_of_mem _ (ih h' hg))

theorem isIdentifier_numberedName (i : Nat) : isIdentifier (numberedName i) = true := by
  have hdigits : ∀ c ∈ Text.ofNat i, isWord c = true := by
    intro c hc
    have hdigit : c.isDigit = true := Nat.isDigit_of_mem_toDigits (by decide) (by decide) hc
    exact isWord_of_isAlphanum (by rw [Char.isAlphanum, hdigit, Bool.or_true])
  show (isWordStart 'a' && (['r', 'g'] ++ Text.ofNat i).all isWord) = true
  rw [List.all_append, List.all_eq_true.2 hdigits]
  decide

/-- Numbered names are different for different numbers. -/
theorem numberedName_injective : Function.Injective numberedName := by
  intro i j h
  have hdigits : Nat.toDigits 10 i = Nat.toDigits 10 j := List.append_cancel_left h
  calc
    i = Nat.ofDigitChars 10 (Nat.toDigits 10 i) 0 := Nat.ofDigitChars_ten_toDigits.symm
    _ = Nat.ofDigitChars 10 (Nat.toDigits 10 j) 0 := by rw [hdigits]
    _ = j := Nat.ofDigitChars_ten_toDigits

/-- A declaration has one list of groups. -/
theorem groups_unique {tokens : List Token} {own own' : Text} {gs gs' : List Group}
    {result result' : Option Text} (h : Spells tokens own gs result)
    (h' : Spells tokens own' gs' result') : gs = gs' := by
  generalize htokens : tokens = tokens' at h'
  cases h with
  | declaration name hlists _ _ =>
    cases h' with
    | declaration name' hlists' _ _ =>
      simp only [List.cons.injEq, true_and] at htokens
      have hread := congrArg groups htokens.2
      rw [groups_of_lists hlists, groups_of_lists hlists', Except.ok.injEq, Prod.mk.injEq] at hread
      exact hread.1

/-- The names that groups declare are those of an offer with these groups. -/
theorem names_of_declares {o : Offer} {params : List Parameter} (h : Declares o.groups params) :
    params.map Parameter.name = o.parameterNames := by
  have hnamed : ∀ {gs : List Group} {params : List Parameter}, Named gs params →
      params.map Parameter.name = gs.map Group.first := by
    intro gs params h
    induction h with
    | nil => rfl
    | cons htype h ih => rw [List.map_cons, List.map_cons, ih]
  unfold Offer.parameterNames
  cases h with
  | types hsingle =>
    rw [if_pos hsingle]
    exact List.ext_getElem (by simp) (by simp [numberedName])
  | names hpair h => rw [if_neg hpair, hnamed h]

/-! ## §4 Lines -/

section Line

variable {line : Text} {rest : List Text} {o o' : Offer} {f : Function}

theorem Makes.isIdentifier_name (h : Makes line rest o) : isIdentifier o.name = true := by
  cases h with
  | offer hmarker => cases hmarker with
    | written hname => exact hname

/-- The names of an offer are words. -/
theorem Makes.isIdentifier_parameterName (h : Makes line rest o) :
    ∀ name ∈ o.parameterNames, isIdentifier name = true := by
  obtain ⟨-, -, hlaid, hspells, -⟩ := h
  intro name hname
  unfold Offer.parameterNames at hname
  split at hname
  · obtain ⟨i, -, rfl⟩ := List.mem_map.1 hname
    exact isIdentifier_numberedName i
  · obtain ⟨g, hg, rfl⟩ := List.mem_map.1 hname
    generalize hgs : o.groups = gs at hspells hg
    cases hspells with
    | declaration own hlists _ _ =>
      exact isIdentifier_of_mem hlaid (by simp [first_mem_of_lists hlists hg])

theorem Makes.unique (h : Makes line rest o) (h' : Makes line rest o') : o = o' := by
  obtain ⟨hmarker, -, hlaid, hspells, -⟩ := h
  generalize hrest : _ :: _ = rest at h'
  obtain ⟨hmarker', -, hlaid', hspells', -⟩ := h'
  cases hrest
  obtain rfl := (ofText_eq_iff.2 hlaid).symm.trans (ofText_eq_iff.2 hlaid')
  have hname : some o.name = some o'.name :=
    (markerName_eq_some_iff.2 hmarker).symm.trans (markerName_eq_some_iff.2 hmarker')
  have hgroups := groups_unique hspells hspells'
  cases o
  cases o'
  cases hname
  cases hgroups
  rfl

/-- A function that is offered has the names of the offer that the line makes. -/
theorem exists_makes (h : offered? line rest = some f) :
    ∃ o, Makes line rest o ∧ f.name = o.name ∧ f.parameterNames = o.parameterNames := by
  unfold offered? at h
  split at h
  · next name next others hmarker =>
    split at h
    · next hstart =>
      split at h
      · next f' hparse =>
        cases h
        obtain ⟨gs, hspells, hdeclares⟩ := ofTokens_eq_ok_iff.1 hparse
        have hmakes : Makes line (next :: others) ⟨name, gs⟩ :=
          .offer (markerName_eq_some_iff.1 hmarker) hstart (laid_ofText _) hspells
            (exists_declares_iff.1 ⟨_, hdeclares⟩)
        exact ⟨_, hmakes, rfl, names_of_declares (o := ⟨name, gs⟩) hdeclares⟩
      · cases h
    · cases h
  · cases h

/-- A line that makes an offer offers a function. -/
theorem Makes.isSome (h : Makes line rest o) : (offered? line rest).isSome = true := by
  obtain ⟨hmarker, hstart, hlaid, hspells, htyped⟩ := h
  rename_i next own others tokens result
  obtain ⟨params, hdeclares⟩ := exists_declares_iff.2 htyped
  have hparse : Signature.parse (declaration (next :: others)) = .ok ⟨own, params, result⟩ := by
    rw [Signature.parse, ofText_eq_iff.2 hlaid]
    exact ofTokens_eq_ok_iff.2 ⟨o.groups, hspells, hdeclares⟩
  simp [offered?, markerName_eq_some_iff.2 hmarker, hstart, hparse]

end Line

/-! ## §5 Sources -/

section Lines

variable {ls : List Text} {os : List Offer}

theorem Offers.unique {os' : List Offer} (h : Offers ls os) (h' : Offers ls os') : os = os' := by
  induction h generalizing os' with
  | nil =>
    cases h'
    rfl
  | made hmakes _ ih =>
    cases h' with
    | made hmakes' hrest' => rw [hmakes.unique hmakes', ih hrest']
    | nothing hnone _ => exact absurd hmakes (hnone _)
  | nothing hnone _ ih =>
    cases h' with
    | made hmakes' _ => exact absurd hmakes' (hnone _)
    | nothing _ hrest' => exact ih hrest'

/-- The lines make offers, and the functions that are exported have their names, in order. -/
theorem exists_offers (ls : List Text) :
    ∃ os, Offers ls os ∧ (exportedIn ls).map (fun f => (f.name, f.parameterNames)) =
      os.map fun o => (o.name, o.parameterNames) := by
  induction ls with
  | nil => exact ⟨[], .nil, rfl⟩
  | cons line rest ih =>
    obtain ⟨os, hos, hnames⟩ := ih
    cases hoffered : offered? line rest with
    | none =>
      have hnone : ∀ o, ¬ Makes line rest o := fun o h => by
        have hsome := h.isSome
        rw [hoffered] at hsome
        cases hsome
      have hskip : exportedIn (line :: rest) = exportedIn rest := by simp [exportedIn, hoffered]
      rw [hskip]
      exact ⟨os, .nothing hnone hos, hnames⟩
    | some f =>
      obtain ⟨o, hmakes, hname, hparameters⟩ := exists_makes hoffered
      have hcons : exportedIn (line :: rest) = f :: exportedIn rest := by simp [exportedIn, hoffered]
      rw [hcons, List.map_cons, hname, hparameters, hnames]
      exact ⟨o :: os, .made hmakes hos, rfl⟩

theorem Offers.exists_makes_of_mem (h : Offers ls os) {o : Offer} (ho : o ∈ os) :
    ∃ line rest, Makes line rest o := by
  induction h with
  | nil => cases ho
  | made hmakes _ ih =>
    rcases List.mem_cons.1 ho with rfl | ho
    · exact ⟨_, _, hmakes⟩
    · exact ih ho
  | nothing _ _ ih => exact ih ho

end Lines

end EmbeddedGo.Go
