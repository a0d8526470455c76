/-
EmbeddedGo.Proofs.SignatureGrammar — the declarations that are read are those of the grammar.

The grammar is stated for itself, as texts that are put together (`Spells`), and so is which types the
parameters get (`Declares`). Reading accepts a list of tokens exactly if the grammar spells it and every
parameter gets a type, and what it gives is then what the grammar says (`ofTokens_eq_ok_iff`).

  §1 the grammar
  §2 the types of parameters
  §3 reading groups
  §4 reading parameters
  §5 reading the result and what is behind it
  §6 declarations
-/
import EmbeddedGo.Go.Signature

namespace EmbeddedGo.Go.Signature

/-! ## §1 The grammar -/

namespace Group

/-- The words of a group. -/
def tokens : Group → List Token
  | one a => [.word a]
  | two a type => [.word a, .word type]

/-- The first word of a group. -/
def first : Group → Text
  | one a => a
  | two a _ => a

/-- The second word of a group. -/
def type? : Group → Option Text
  | one _ => none
  | two _ type => some type

end Group

/-- Groups with a comma between neighbours. -/
def separated (gs : List Group) : List Token :=
  List.intercalate [.mark ','] (gs.map Group.tokens)

/-- How a list of groups can be written: a comma may follow the last group. -/
inductive Lists : List Group → List Token → Prop where
  | plain (gs : List Group) : Lists gs (separated gs)
  | trailing {gs : List Group} (h : gs ≠ []) : Lists gs (separated gs ++ [.mark ','])

/-- How a result can be written. -/
inductive Returns : Option Text → List Token → Prop where
  | nothing : Returns none []
  | bare (type : Text) : Returns (some type) [.word type]
  | bracketed (type : Text) : Returns (some type) [.mark '(', .word type, .mark ')']

/-- What can stand behind a signature. -/
inductive IsRest : List Token → Prop where
  | nothing : IsRest []
  | body (tokens : List Token) : IsRest (.mark '{' :: tokens)

/-- The tokens of a declaration with a name, groups between its brackets, and a result. -/
inductive Spells : List Token → Text → List Group → Option Text → Prop where
  | declaration (name : Text) {gs : List Group} {result : Option Text}
    {listed returned rest : List Token} (hgroups : Lists gs listed)
    (hresult : Returns result returned) (hrest : IsRest rest) :
    Spells (.word "func" :: .word name :: .mark '(' ::
      (listed ++ .mark ')' :: (returned ++ rest))) name gs result

/-! ## §2 Types -/

/-- The type in the first group that has one. -/
def nextType? (gs : List Group) : Option Text := gs.findSome? Group.type?

/-- Every first word has the type of the next group of two. -/
inductive Named : List Group → List Parameter → Prop where
  | nil : Named [] []
  | cons {g : Group} {gs : List Group} {type : Text} {params : List Parameter}
    (htype : nextType? (g :: gs) = some type) (h : Named gs params) :
    Named (g :: gs) (⟨g.first, type⟩ :: params)

/-- All groups have one word. -/
def AllSingle (gs : List Group) : Prop := ∀ g ∈ gs, g.type? = none

/-- The last group has two words. -/
def EndsInPair (gs : List Group) : Prop := ∃ init a type, gs = init ++ [.two a type]

/-- The parameters that groups stand for. -/
inductive Declares : List Group → List Parameter → Prop where
  | types {gs : List Group} (h : AllSingle gs) :
    Declares gs (gs.mapIdx fun i g => ⟨"arg" ++ Text.ofNat i, g.first⟩)
  | names {gs : List Group} {params : List Parameter} (hpair : ¬ AllSingle gs)
    (h : Named gs params) : Declares gs params

/-! ## §3 Groups -/

@[simp] theorem separated_nil : separated [] = [] := rfl

@[simp] theorem separated_singleton (g : Group) : separated [g] = g.tokens := by
  simp [separated]

theorem separated_cons {gs : List Group} (h : gs ≠ []) (g : Group) :
    separated (g :: gs) = g.tokens ++ .mark ',' :: separated gs := by
  cases gs with
  | nil => exact absurd rfl h
  | cons g' gs => simp [separated, List.intercalate]

/-- A group with a comma behind it can stand in front of every list. -/
theorem Lists.cons {gs : List Group} {s : List Token} (h : Lists gs s) (g : Group) :
    Lists (g :: gs) (g.tokens ++ .mark ',' :: s) := by
  cases h with
  | plain =>
    by_cases hnil : gs = []
    · subst hnil
      simpa using Lists.trailing (List.cons_ne_nil g [])
    · rw [← separated_cons hnil]
      exact .plain _
  | trailing hne =>
    rw [← List.cons_append, ← List.append_assoc, ← separated_cons hne]
    exact .trailing (by simp)

/-- What a list of groups begins with. -/
theorem Lists.elim {gs : List Group} {s : List Token} (h : Lists gs s) :
    (gs = [] ∧ s = []) ∨ (∃ g, gs = [g] ∧ s = g.tokens) ∨
      ∃ g gs' s', gs = g :: gs' ∧ s = g.tokens ++ .mark ',' :: s' ∧ Lists gs' s' := by
  cases gs with
  | nil =>
    cases h with
    | plain => exact .inl ⟨rfl, rfl⟩
    | trailing hne => exact absurd rfl hne
  | cons g gs =>
    right
    by_cases hnil : gs = []
    · subst hnil
      cases h with
      | plain => exact .inl ⟨g, rfl, separated_singleton g⟩
      | trailing hne => exact .inr ⟨g, [], [], rfl, by simp, .plain []⟩
    · right
      cases h with
      | plain => exact ⟨g, gs, _, rfl, separated_cons hnil g, .plain gs⟩
      | trailing hne =>
        refine ⟨g, gs, _, rfl, ?_, .trailing hnil⟩
        rw [separated_cons hnil, List.append_assoc, List.cons_append]

theorem consGroup_eq_ok_iff {g : Group} {read : Except Refusal (List Group × List Token)}
    {gs : List Group} {rest : List Token} :
    consGroup g read = .ok (gs, rest) ↔ ∃ gs', read = .ok (gs', rest) ∧ gs = g :: gs' := by
  match read with
  | .error e => simp [consGroup]
  | .ok (gs', rest') =>
    simp only [consGroup, Except.ok.injEq, Prod.mk.injEq]
    constructor
    · rintro ⟨rfl, rfl⟩
      exact ⟨gs', ⟨rfl, rfl⟩, rfl⟩
    · rintro ⟨_, ⟨rfl, rfl⟩, rfl⟩
      exact ⟨rfl, rfl⟩

/-- Reading a group and a comma goes on behind them. -/
theorem groups_comma (g : Group) (s : List Token) :
    groups (g.tokens ++ .mark ',' :: s) = consGroup g (groups s) := by
  cases g <;> simp [Group.tokens, groups]

theorem groups_last (g : Group) (s : List Token) :
    groups (g.tokens ++ .mark ')' :: s) = .ok ([g], .mark ')' :: s) := by
  cases g <;> simp [Group.tokens, groups]

theorem groups_of_lists {gs : List Group} {s : List Token} (h : Lists gs s) (rest : List Token) :
    groups (s ++ .mark ')' :: rest) = .ok (gs, .mark ')' :: rest) := by
  induction gs generalizing s with
  | nil =>
    rcases h.elim with ⟨-, rfl⟩ | ⟨g, hg, -⟩ | ⟨g, gs', s', hg, -⟩
    · simp [groups]
    · simp at hg
    · simp at hg
  | cons g gs ih =>
    rcases h.elim with ⟨hg, -⟩ | ⟨g', hg, rfl⟩ | ⟨g', gs', s', hg, rfl, h'⟩
    · simp at hg
    · cases hg
      exact groups_last g rest
    · cases hg
      rw [List.append_assoc, List.cons_append, groups_comma, ih h']
      rfl

/-- The groups that are read are those up to a closing bracket. -/
theorem lists_of_groups {tokens rest : List Token} {gs : List Group}
    (h : groups tokens = .ok (gs, rest)) :
    ∃ s tail, tokens = s ++ rest ∧ rest = .mark ')' :: tail ∧ Lists gs s := by
  fun_induction groups tokens generalizing gs rest with
  | case1 tail =>
    cases h
    exact ⟨[], tail, rfl, rfl, .plain []⟩
  | case2 a b tail ih =>
    obtain ⟨gs', hread, rfl⟩ := consGroup_eq_ok_iff.1 h
    obtain ⟨s, tail', rfl, hrest, hlists⟩ := ih hread
    exact ⟨_, tail', rfl, hrest, hlists.cons (.two a b)⟩
  | case3 a b tail =>
    cases h
    exact ⟨_, tail, rfl, rfl, separated_singleton (.two a b) ▸ Lists.plain [.two a b]⟩
  | case5 a tail ih =>
    obtain ⟨gs', hread, rfl⟩ := consGroup_eq_ok_iff.1 h
    obtain ⟨s, tail', rfl, hrest, hlists⟩ := ih hread
    exact ⟨_, tail', rfl, hrest, hlists.cons (.one a)⟩
  | case6 a tail =>
    cases h
    exact ⟨_, tail, rfl, rfl, separated_singleton (.one a) ▸ Lists.plain [.one a]⟩
  | _ => cases h

/-! ## §4 Parameters -/

theorem numbered_first (i : Nat) (gs : List Group) :
    numbered i (gs.map Group.first) =
      gs.mapIdx fun k g => ⟨"arg" ++ Text.ofNat (i + k), g.first⟩ := by
  induction gs generalizing i with
  | nil => rfl
  | cons g gs ih =>
    rw [List.map_cons, numbered, ih, List.mapIdx_cons]
    simp only [Nat.add_zero, Nat.add_assoc, Nat.add_comm 1]

theorem allSingle?_eq_some_iff {gs : List Group} {types : List Text} :
    allSingle? gs = some types ↔ AllSingle gs ∧ types = gs.map Group.first := by
  induction gs generalizing types with
  | nil => simp [allSingle?, AllSingle, eq_comm]
  | cons g gs ih =>
    cases g with
    | one a =>
      simp only [allSingle?, Option.map_eq_some_iff, ih, AllSingle, List.forall_mem_cons,
        List.map_cons, Group.first, Group.type?, true_and]
      constructor
      · rintro ⟨_, ⟨hall, rfl⟩, rfl⟩
        exact ⟨hall, rfl⟩
      · rintro ⟨hall, rfl⟩
        exact ⟨_, ⟨hall, rfl⟩, rfl⟩
    | two a type => simp [allSingle?, AllSingle, Group.type?]

theorem named_cons_iff {g : Group} {gs : List Group} {params : List Parameter} :
    Named (g :: gs) params ↔
      ∃ type rest, nextType? (g :: gs) = some type ∧ params = ⟨g.first, type⟩ :: rest ∧
        Named gs rest := by
  constructor
  · intro h
    cases h with
    | cons htype h => exact ⟨_, _, htype, rfl, h⟩
  · rintro ⟨type, rest, htype, rfl, h⟩
    exact .cons htype h

/-- Words of their own take the type of the group of two behind them. -/
theorem named_waiting_iff (waiting : List Text) {a type : Text} {gs : List Group}
    {params : List Parameter} :
    Named (waiting.map .one ++ .two a type :: gs) params ↔
      ∃ rest, params = waiting.map (⟨·, type⟩) ++ ⟨a, type⟩ :: rest ∧ Named gs rest := by
  have hnext : ∀ words : List Text, nextType? (words.map .one ++ .two a type :: gs) = some type := by
    intro words
    induction words with
    | nil => rfl
    | cons w words ih => exact ih
  induction waiting generalizing params with
  | nil =>
    have htype : nextType? (.two a type :: gs) = some type := rfl
    rw [List.map_nil, List.nil_append, named_cons_iff, htype]
    simp [Group.first]
  | cons w waiting ih =>
    rw [List.map_cons, List.cons_append, named_cons_iff]
    simp only [ih, show nextType? (.one w :: (waiting.map .one ++ .two a type :: gs)) = some type
      from hnext (w :: waiting)]
    constructor
    · rintro ⟨_, _, htype, rfl, rest, rfl, h⟩
      cases htype
      exact ⟨rest, rfl, h⟩
    · rintro ⟨rest, rfl, h⟩
      exact ⟨type, _, rfl, rfl, rest, rfl, h⟩

theorem named_eq_ok_iff {waiting : List Text} {gs : List Group} {params : List Parameter} :
    named waiting gs = .ok params ↔ Named (waiting.map .one ++ gs) params := by
  induction gs generalizing waiting params with
  | nil =>
    cases waiting with
    | nil =>
      constructor
      · intro h
        cases h
        exact .nil
      · intro h
        cases h
        rfl
    | cons w waiting =>
      have hnone : nextType? ((w :: waiting).map .one) = none := by
        simp [nextType?, Group.type?]
      refine iff_of_false (by simp [named]) ?_
      rw [List.append_nil, List.map_cons, named_cons_iff]
      rintro ⟨type, rest, htype, -⟩
      rw [List.map_cons] at hnone
      rw [hnone] at htype
      cases htype
  | cons g gs ih =>
    cases g with
    | one a =>
      rw [named, ih, List.map_append, List.append_assoc]
      rfl
    | two a type =>
      rw [named_waiting_iff]
      have ih' := @ih []
      rw [List.map_nil, List.nil_append] at ih'
      cases hread : named [] gs with
      | ok ps =>
        have hps := ih'.1 hread
        simp only [named, hread, Except.ok.injEq, ← ih']
        constructor
        · rintro rfl
          exact ⟨ps, rfl, rfl⟩
        · rintro ⟨_, rfl, h⟩
          rw [h]
      | error e => simp [named, hread, ← ih']

/-- What is read as parameters is what the groups declare. -/
theorem parameters_eq_ok_iff {gs : List Group} {params : List Parameter} :
    parameters gs = .ok params ↔ Declares gs params := by
  unfold parameters
  cases hall : allSingle? gs with
  | some types =>
    obtain ⟨hsingle, rfl⟩ := allSingle?_eq_some_iff.1 hall
    have hparams : numbered 0 (gs.map Group.first) =
        gs.mapIdx fun i g => ⟨"arg" ++ Text.ofNat i, g.first⟩ := by
      rw [numbered_first]
      simp only [Nat.zero_add]
    dsimp only
    rw [hparams, Except.ok.injEq]
    constructor
    · rintro rfl
      exact .types hsingle
    · intro h
      cases h with
      | types _ => rfl
      | names hpair _ => exact absurd hsingle hpair
  | none =>
    have hpair : ¬ AllSingle gs := fun h => by
      rw [allSingle?_eq_some_iff.2 ⟨h, rfl⟩] at hall
      cases hall
    dsimp only
    rw [named_eq_ok_iff, List.map_nil, List.nil_append]
    constructor
    · exact .names hpair
    · intro h
      cases h with
      | types h => exact absurd h hpair
      | names _ h => exact h

/-- Every parameter gets a type if the last one has its own. -/
theorem exists_named_iff {gs : List Group} :
    (∃ params, Named gs params) ↔ gs = [] ∨ EndsInPair gs := by
  induction gs with
  | nil => exact iff_of_true ⟨[], .nil⟩ (.inl rfl)
  | cons g gs ih =>
    have hends : EndsInPair (g :: gs) ↔ EndsInPair gs ∨ gs = [] ∧ ∃ a type, g = .two a type := by
      constructor
      · rintro ⟨init, a, type, h⟩
        cases init with
        | nil =>
          cases h
          exact .inr ⟨rfl, a, type, rfl⟩
        | cons _ init =>
          cases h
          exact .inl ⟨init, a, type, rfl⟩
      · rintro (⟨init, a, type, rfl⟩ | ⟨rfl, a, type, rfl⟩)
        · exact ⟨g :: init, a, type, rfl⟩
        · exact ⟨[], a, type, rfl⟩
    have hnext : EndsInPair gs → ∃ type, nextType? (g :: gs) = some type := by
      rintro ⟨init, a, type, rfl⟩
      rw [← Option.isSome_iff_exists, nextType?, List.findSome?_isSome_iff]
      exact ⟨.two a type, by simp, rfl⟩
    rw [hends]
    constructor
    · rintro ⟨params, h⟩
      obtain ⟨type, rest, htype, -, h⟩ := named_cons_iff.1 h
      rcases ih.1 ⟨rest, h⟩ with rfl | hpair
      · cases g with
        | one a => cases htype
        | two a type => exact .inr (.inr ⟨rfl, a, type, rfl⟩)
      · exact .inr (.inl hpair)
    · rintro (h | hpair | ⟨rfl, a, type, rfl⟩)
      · cases h
      · obtain ⟨type, htype⟩ := hnext hpair
        obtain ⟨params, h⟩ := ih.2 (.inr hpair)
        exact ⟨_, .cons htype h⟩
      · exact ⟨_, .cons rfl .nil⟩

theorem exists_declares_iff {gs : List Group} :
    (∃ params, Declares gs params) ↔ AllSingle gs ∨ EndsInPair gs := by
  constructor
  · rintro ⟨params, h⟩
    cases h with
    | types h => exact .inl h
    | names hpair h =>
      rcases exists_named_iff.1 ⟨params, h⟩ with rfl | hends
      · exact absurd (by simp [AllSingle]) hpair
      · exact .inr hends
  · rintro (h | h)
    · exact ⟨_, .types h⟩
    · have hpair : ¬ AllSingle gs := by
        obtain ⟨init, a, type, rfl⟩ := h
        exact fun hall => by cases hall (.two a type) (by simp)
      obtain ⟨params, h⟩ := exists_named_iff.2 (.inr h)
      exact ⟨params, .names hpair h⟩

/-! ## §5 Results -/

theorem word_eq_ok_iff {tokens rest : List Token} {name : Text} :
    word tokens = .ok (name, rest) ↔ tokens = .word name :: rest := by
  unfold word
  split
  · simp [eq_comm]
  · next h =>
    refine iff_of_false (by simp) ?_
    rintro rfl
    exact h name rest rfl

theorem after_eq_ok_iff {wanted : Token} {tokens rest : List Token} :
    after wanted tokens = .ok rest ↔ tokens = wanted :: rest := by
  cases tokens with
  | nil => simp [after]
  | cons t tokens =>
    simp only [after, List.cons.injEq]
    split
    · next h => simp [h]
    · next h => simp [h]

/-- A result that is written is read, up to what can stand behind it. -/
theorem result_of_returns {type : Option Text} {returned rest : List Token}
    (h : Returns type returned) (hrest : IsRest rest) :
    result (returned ++ rest) = .ok (type, rest) := by
  cases h with
  | nothing => cases hrest <;> rfl
  | bare type => rfl
  | bracketed type => rfl

theorem returns_of_result {tokens rest : List Token} {type : Option Text}
    (h : result tokens = .ok (type, rest)) :
    ∃ returned, tokens = returned ++ rest ∧ Returns type returned := by
  unfold result at h
  split at h
  · cases h
    exact ⟨_, rfl, .bare _⟩
  · next tokens =>
    simp only [bind, Except.bind, pure, Except.pure] at h
    cases hword : word tokens with
    | error e =>
      rw [hword] at h
      cases h
    | ok read =>
      obtain ⟨name, tail⟩ := read
      rw [hword] at h
      dsimp only at h
      cases hafter : after (.mark ')') tail with
      | error e =>
        rw [hafter] at h
        cases h
      | ok rest' =>
        rw [hafter] at h
        cases h
        obtain rfl := word_eq_ok_iff.1 hword
        obtain rfl := after_eq_ok_iff.1 hafter
        exact ⟨_, rfl, .bracketed name⟩
  · cases h
    exact ⟨[], rfl, .nothing⟩

/-! ## §6 Declarations -/

/-- Steps of a reading that succeed one after the other. -/
theorem bind_eq_ok_iff {α β : Type} {read : Except Refusal α} {next : α → Except Refusal β} {b : β} :
    read >>= next = .ok b ↔ ∃ a, read = .ok a ∧ next a = .ok b := by
  cases read with
  | error e => simp [bind, Except.bind]
  | ok a => simp [bind, Except.bind]

/-- What is read is what the grammar spells, with the types that it declares. -/
theorem ofTokens_eq_ok_iff {tokens : List Token} {f : Function} :
    ofTokens tokens = .ok f ↔
      ∃ gs, Spells tokens f.name gs f.result ∧ Declares gs f.params := by
  simp only [ofTokens, bind_eq_ok_iff, after_eq_ok_iff, Prod.exists, word_eq_ok_iff,
    parameters_eq_ok_iff]
  constructor
  · rintro ⟨_, rfl, name, _, rfl, _, rfl, gs, _, hgroups, params, hparams, _, rfl, type, rest,
      hresult, hend⟩
    obtain ⟨s, tail, rfl, htail, hlists⟩ := lists_of_groups hgroups
    cases htail
    obtain ⟨returned, rfl, hreturns⟩ := returns_of_result hresult
    have hdeclaration : ∀ rest, IsRest rest → Spells (.word "func" :: .word name :: .mark '(' ::
        (s ++ .mark ')' :: (returned ++ rest))) name gs type :=
      fun _ hrest => .declaration name hlists hreturns hrest
    split at hend
    · cases hend
      exact ⟨gs, hdeclaration _ .nothing, hparams⟩
    · cases hend
      exact ⟨gs, hdeclaration _ (.body _), hparams⟩
    · cases hend
  · rintro ⟨gs, hspells, hparams⟩
    obtain ⟨name, params, type⟩ := f
    cases hspells with
    | @declaration _ _ _ listed returned rest hlists hreturns hrest =>
      exact ⟨_, rfl, name, _, rfl, _, rfl, gs, _, groups_of_lists hlists _, params, hparams, _, rfl,
        type, rest, result_of_returns hreturns hrest, by cases hrest <;> rfl⟩

/-- Reading accepts exactly the declarations of the grammar in which every parameter gets a type, and
gives what they declare; every other list of tokens is refused. -/
theorem ofTokens_grammar (tokens : List Token) :
    ((∃ f, ofTokens tokens = .ok f) ↔
      ∃ name gs result, Spells tokens name gs result ∧ (AllSingle gs ∨ EndsInPair gs)) ∧
    (∀ f, ofTokens tokens = .ok f ↔
      ∃ gs, Spells tokens f.name gs f.result ∧ Declares gs f.params) ∧
    ((∃ refusal, ofTokens tokens = .error refusal) ↔
      ¬ ∃ name gs result, Spells tokens name gs result ∧ (AllSingle gs ∨ EndsInPair gs)) := by
  have haccepted : (∃ f, ofTokens tokens = .ok f) ↔
      ∃ name gs result, Spells tokens name gs result ∧ (AllSingle gs ∨ EndsInPair gs) := by
    simp only [ofTokens_eq_ok_iff, ← exists_declares_iff]
    constructor
    · rintro ⟨f, gs, hspells, hparams⟩
      exact ⟨f.name, gs, f.result, hspells, f.params, hparams⟩
    · rintro ⟨name, gs, result, hspells, params, hparams⟩
      exact ⟨⟨name, params, result⟩, gs, hspells, hparams⟩
  refine ⟨haccepted, fun f => ofTokens_eq_ok_iff, ?_⟩
  rw [← haccepted]
  cases ofTokens tokens with
  | ok f => simp
  | error e => simp

end EmbeddedGo.Go.Signature
