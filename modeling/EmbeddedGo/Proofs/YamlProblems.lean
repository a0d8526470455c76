/-
EmbeddedGo.Proofs.YamlProblems — what the problems of YAML texts tell about the texts.

A node is made of the plain scalars that stand in the tokens (`IsMadeOf`), and merging mappings adds
none. So a problem that is not one of the grammar has one of three causes: an escape in the text that no
character has, a plain scalar in it that has the form of a number or a date and stands for none, or more
sequences and mappings than can be nested (`tells_of_read`). A scalar of the second kind has a digit.

  §1 nodes and their scalars
  §2 nodes from tokens
  §3 documents from tokens
  §4 values from nodes
  §5 scalars without a value
  §6 whole texts
-/
import EmbeddedGo.Data.Yaml.Document
import EmbeddedGo.Proofs.YamlTokens

namespace EmbeddedGo.Yaml

open Text

variable {α : Type} {T : Text → Prop} {n : Node} {ts whole : Tokens} {P : α → Prop} {e : Problem}
  {s t : Text} {fuel : Nat}

/-! ## §1 Nodes -/

/-- A text is a plain scalar of a node. -/
inductive Holds (t : Text) : Node → Prop
  | plain (m : Mark) : Holds t (.plain m t)
  | item {m : Mark} {items : List Node} {n : Node} (hn : n ∈ items) (h : Holds t n) :
      Holds t (.sequence m items)
  | key {m : Mark} {pairs : List (Node × Node)} {p : Node × Node} (hp : p ∈ pairs)
      (h : Holds t p.1) : Holds t (.mapping m pairs)
  | value {m : Mark} {pairs : List (Node × Node)} {p : Node × Node} (hp : p ∈ pairs)
      (h : Holds t p.2) : Holds t (.mapping m pairs)

/-- All plain scalars of a node satisfy a condition. -/
def IsMadeOf (T : Text → Prop) (n : Node) : Prop := ∀ t, Holds t n → T t

/-- All plain scalars of a pair satisfy a condition. -/
def PairIsMadeOf (T : Text → Prop) (p : Node × Node) : Prop := IsMadeOf T p.1 ∧ IsMadeOf T p.2

theorem isMadeOf_plain {m : Mark} : IsMadeOf T (.plain m t) ↔ T t := by
  constructor
  · exact fun h => h t (.plain m)
  · intro ht u hu
    cases hu
    exact ht

theorem isMadeOf_quoted (m : Mark) (points : List Nat) : IsMadeOf T (.quoted m points) :=
  fun _ h => nomatch h

theorem isMadeOf_sequence {m : Mark} {items : List Node} :
    IsMadeOf T (.sequence m items) ↔ ∀ n ∈ items, IsMadeOf T n := by
  constructor
  · exact fun h n hn t ht => h t (.item hn ht)
  · intro h t ht
    cases ht with
    | item hn ht => exact h _ hn t ht

theorem isMadeOf_mapping {m : Mark} {pairs : List (Node × Node)} :
    IsMadeOf T (.mapping m pairs) ↔ ∀ p ∈ pairs, PairIsMadeOf T p := by
  constructor
  · exact fun h p hp => ⟨fun t ht => h t (.key hp ht), fun t ht => h t (.value hp ht)⟩
  · intro h t ht
    cases ht with
    | key hp ht => exact (h _ hp).1 t ht
    | value hp ht => exact (h _ hp).2 t ht

/-! ## §2 Nodes from tokens -/

/-- The problem is one of the grammar. -/
def Problem.IsMarked : Problem → Prop
  | .marked .. => True
  | _ => False

/-- The plain scalars of tokens, and the one that stands for nothing. -/
def IsScalarOf (whole : Tokens) (t : Text) : Prop := t = [] ∨ ∃ l ∈ whole, l.token = .plain t

/-- The problem is one of the grammar, or the trouble that tokens end with. -/
def Problem.IsIn (whole : Tokens) (e : Problem) : Prop :=
  e.IsMarked ∨ ∃ l ∈ whole, l.token = .trouble e

/-- Tokens are read from their beginning on, or their problem is met. -/
def Parses (whole : Tokens) (P : α → Prop) : Except Problem (α × Tokens) → Prop :=
  Ends (Problem.IsIn whole) fun r => P r.1 ∧ r.2 <:+ whole

/-- Nodes are made of the scalars of tokens. -/
abbrev ParsesNode (whole : Tokens) : Except Problem (Node × Tokens) → Prop :=
  Parses whole (IsMadeOf (IsScalarOf whole))

abbrev ParsesItems (whole : Tokens) : Except Problem (List Node × Tokens) → Prop :=
  Parses whole fun items => ∀ n ∈ items, IsMadeOf (IsScalarOf whole) n

abbrev ParsesPairs (whole : Tokens) : Except Problem (List (Node × Node) × Tokens) → Prop :=
  Parses whole fun pairs => ∀ p ∈ pairs, PairIsMadeOf (IsScalarOf whole) p

theorem exists_of_head {token : Token} (h : head ts = token) (hend : token ≠ .streamEnd) :
    ∃ l ∈ ts, l.token = token := by
  cases ts with
  | nil => exact absurd h.symm hend
  | cons l ts => exact ⟨l, List.mem_cons_self .., h⟩

theorem ends_unfit (hts : ts <:+ whole) (context : Option (Text × Mark)) (words : Text) :
    Ends (Problem.IsIn whole) P (unfit context words ts) := by
  unfold unfit
  split
  · next cause hhead =>
    obtain ⟨l, hl, htoken⟩ := exists_of_head hhead (by simp)
    exact .inr ⟨l, hts.subset hl, htoken⟩
  · exact .inl trivial

theorem isMadeOf_absent (ts : Tokens) : IsMadeOf (IsScalarOf whole) (absent ts) :=
  isMadeOf_plain.2 (.inl rfl)

theorem drop_one_suffix (hts : ts <:+ whole) : ts.drop 1 <:+ whole :=
  (List.drop_suffix 1 ts).trans hts

/-- What all readers of tokens do with so much fuel. -/
structure ParsesAll (whole : Tokens) (fuel : Nat) : Prop where
  node (place : Place) {ts : Tokens} (hts : ts <:+ whole) : ParsesNode whole (node fuel place ts)
  nodeUnless (place : Place) (ends : List Token) {ts : Tokens} (hts : ts <:+ whole) :
    ParsesNode whole (nodeUnless fuel place ends ts)
  dashes {ts : Tokens} (hts : ts <:+ whole) : ParsesItems whole (dashes fuel ts)
  blockItems (start : Mark) {ts : Tokens} (hts : ts <:+ whole) :
    ParsesItems whole (blockItems fuel start ts)
  valueUnless (place : Place) (ends : List Token) {ts : Tokens} (hts : ts <:+ whole) :
    ParsesNode whole (valueUnless fuel place ends ts)
  blockPairs (start : Mark) {ts : Tokens} (hts : ts <:+ whole) :
    ParsesPairs whole (blockPairs fuel start ts)
  flowItems (start : Mark) (first : Bool) {ts : Tokens} (hts : ts <:+ whole) :
    ParsesItems whole (flowItems fuel start first ts)
  flowPairs (start : Mark) (first : Bool) {ts : Tokens} (hts : ts <:+ whole) :
    ParsesPairs whole (flowPairs fuel start first ts)

theorem parsesAll_zero (whole : Tokens) : ParsesAll whole 0 where
  node _ _ hts := ends_unfit hts _ _
  nodeUnless _ _ ts hts := ⟨isMadeOf_absent ts, hts⟩
  dashes hts := ⟨List.forall_mem_nil _, hts⟩
  blockItems _ _ hts := ⟨List.forall_mem_nil _, hts⟩
  valueUnless _ _ ts hts := ⟨isMadeOf_absent ts, hts⟩
  blockPairs _ _ hts := ⟨List.forall_mem_nil _, hts⟩
  flowItems _ _ _ hts := ⟨List.forall_mem_nil _, hts⟩
  flowPairs _ _ _ hts := ⟨List.forall_mem_nil _, hts⟩

namespace ParsesAll

variable (h : ParsesAll whole fuel)
include h

theorem node_succ (place : Place) (hts : ts <:+ whole) :
    ParsesNode whole (Yaml.node (fuel + 1) place ts) := by
  have hrest := drop_one_suffix hts
  unfold Yaml.node
  dsimp only
  split
  · exact (h.dashes hts).bind fun _ hr => ⟨isMadeOf_sequence.2 hr.1, hr.2⟩
  · next t hhead =>
    obtain ⟨l, hl, htoken⟩ := exists_of_head hhead (by simp)
    exact ⟨isMadeOf_plain.2 (.inr ⟨l, hts.subset hl, htoken⟩), hrest⟩
  · exact ⟨isMadeOf_quoted _ _, hrest⟩
  · exact (h.flowItems _ _ hrest).bind fun _ hr => ⟨isMadeOf_sequence.2 hr.1, hr.2⟩
  · exact (h.flowPairs _ _ hrest).bind fun _ hr => ⟨isMadeOf_mapping.2 hr.1, hr.2⟩
  · exact (h.blockItems _ hrest).bind fun _ hr => ⟨isMadeOf_sequence.2 hr.1, hr.2⟩
  · exact (h.blockItems _ hrest).bind fun _ hr => ⟨isMadeOf_sequence.2 hr.1, hr.2⟩
  · exact (h.blockPairs _ hrest).bind fun _ hr => ⟨isMadeOf_mapping.2 hr.1, hr.2⟩
  · exact (h.blockPairs _ hrest).bind fun _ hr => ⟨isMadeOf_mapping.2 hr.1, hr.2⟩
  · exact ends_unfit hts _ _

theorem nodeUnless_succ (place : Place) (ends : List Token) (hts : ts <:+ whole) :
    ParsesNode whole (Yaml.nodeUnless (fuel + 1) place ends ts) := by
  unfold Yaml.nodeUnless
  split
  · exact ⟨isMadeOf_absent ts, hts⟩
  · exact h.node place hts

theorem valueUnless_succ (place : Place) (ends : List Token) (hts : ts <:+ whole) :
    ParsesNode whole (Yaml.valueUnless (fuel + 1) place ends ts) := by
  unfold Yaml.valueUnless
  split
  · exact h.nodeUnless place ends (drop_one_suffix hts)
  · exact ⟨isMadeOf_absent ts, hts⟩

theorem dashes_succ (hts : ts <:+ whole) : ParsesItems whole (Yaml.dashes (fuel + 1) ts) := by
  unfold Yaml.dashes
  split
  · refine (h.nodeUnless _ _ (drop_one_suffix hts)).bind fun _ hitem => ?_
    refine (h.dashes hitem.2).bind fun _ hitems => ?_
    exact ⟨List.forall_mem_cons.2 ⟨hitem.1, hitems.1⟩, hitems.2⟩
  · exact ⟨List.forall_mem_nil _, hts⟩

theorem blockItems_succ (start : Mark) (hts : ts <:+ whole) :
    ParsesItems whole (Yaml.blockItems (fuel + 1) start ts) := by
  unfold Yaml.blockItems
  split
  · refine (h.nodeUnless _ _ (drop_one_suffix hts)).bind fun _ hitem => ?_
    refine (h.blockItems start hitem.2).bind fun _ hitems => ?_
    exact ⟨List.forall_mem_cons.2 ⟨hitem.1, hitems.1⟩, hitems.2⟩
  · exact ⟨List.forall_mem_nil _, drop_one_suffix hts⟩
  · exact ends_unfit hts _ _

theorem blockPairs_succ (start : Mark) (hts : ts <:+ whole) :
    ParsesPairs whole (Yaml.blockPairs (fuel + 1) start ts) := by
  unfold Yaml.blockPairs
  split
  · extract_lets ends
    refine (h.nodeUnless _ ends (drop_one_suffix hts)).bind fun _ hk => ?_
    refine (h.valueUnless _ ends hk.2).bind fun _ hv => ?_
    refine (h.blockPairs start hv.2).bind fun _ hpairs => ?_
    exact ⟨List.forall_mem_cons.2 ⟨⟨hk.1, hv.1⟩, hpairs.1⟩, hpairs.2⟩
  · exact ⟨List.forall_mem_nil _, drop_one_suffix hts⟩
  · exact ends_unfit hts _ _

theorem flowItems_succ (start : Mark) (first : Bool) (hts : ts <:+ whole) :
    ParsesItems whole (Yaml.flowItems (fuel + 1) start first ts) := by
  unfold Yaml.flowItems
  refine ends_ite ⟨List.forall_mem_nil _, drop_one_suffix hts⟩ (ends_ite (ends_unfit hts _ _) ?_)
  extract_lets next
  have hnext : next <:+ whole := by
    unfold next
    split
    · exact hts
    · exact drop_one_suffix hts
  split
  · exact ⟨List.forall_mem_nil _, drop_one_suffix hnext⟩
  · refine (h.nodeUnless _ _ (drop_one_suffix hnext)).bind fun ⟨k, _⟩ hk => ?_
    refine (h.valueUnless _ _ hk.2).bind fun ⟨v, _⟩ hv => ?_
    refine (h.flowItems start false hv.2).bind fun _ hitems => ?_
    have hpair : ∀ p ∈ [(k, v)], PairIsMadeOf (IsScalarOf whole) p :=
      List.forall_mem_singleton.2 ⟨hk.1, hv.1⟩
    exact ⟨List.forall_mem_cons.2 ⟨isMadeOf_mapping.2 hpair, hitems.1⟩, hitems.2⟩
  · refine (h.node _ hnext).bind fun _ hitem => ?_
    refine (h.flowItems start false hitem.2).bind fun _ hitems => ?_
    exact ⟨List.forall_mem_cons.2 ⟨hitem.1, hitems.1⟩, hitems.2⟩

theorem flowPairs_succ (start : Mark) (first : Bool) (hts : ts <:+ whole) :
    ParsesPairs whole (Yaml.flowPairs (fuel + 1) start first ts) := by
  unfold Yaml.flowPairs
  refine ends_ite ⟨List.forall_mem_nil _, drop_one_suffix hts⟩ (ends_ite (ends_unfit hts _ _) ?_)
  extract_lets next
  have hnext : next <:+ whole := by
    unfold next
    split
    · exact hts
    · exact drop_one_suffix hts
  split
  · exact ⟨List.forall_mem_nil _, drop_one_suffix hnext⟩
  · refine (h.nodeUnless _ _ (drop_one_suffix hnext)).bind fun _ hk => ?_
    refine (h.valueUnless _ _ hk.2).bind fun _ hv => ?_
    refine (h.flowPairs start false hv.2).bind fun _ hpairs => ?_
    exact ⟨List.forall_mem_cons.2 ⟨⟨hk.1, hv.1⟩, hpairs.1⟩, hpairs.2⟩
  · refine (h.node _ hnext).bind fun _ hk => ?_
    refine (h.flowPairs start false hk.2).bind fun _ hpairs => ?_
    exact ⟨List.forall_mem_cons.2 ⟨⟨hk.1, isMadeOf_absent _⟩, hpairs.1⟩, hpairs.2⟩

theorem succ : ParsesAll whole (fuel + 1) where
  node place := h.node_succ place
  nodeUnless place ends := h.nodeUnless_succ place ends
  dashes := h.dashes_succ
  blockItems start := h.blockItems_succ start
  valueUnless place ends := h.valueUnless_succ place ends
  blockPairs start := h.blockPairs_succ start
  flowItems start first := h.flowItems_succ start first
  flowPairs start first := h.flowPairs_succ start first

end ParsesAll

theorem parsesAll (whole : Tokens) (fuel : Nat) : ParsesAll whole fuel := by
  induction fuel with
  | zero => exact parsesAll_zero whole
  | succ fuel ih => exact ih.succ

/-! ## §3 Documents -/

theorem directives_ends (seen : Bool) (hts : ts <:+ whole) :
    Ends (Problem.IsIn whole) (· <:+ whole) (directives seen ts) := by
  fun_induction directives seen ts with
  | case1 seen mark ts ih => exact ih ((List.suffix_cons _ _).trans hts)
  | case2 | case3 => exact .inl trivial
  | case4 seen major minor mark ts _ _ ih => exact ih ((List.suffix_cons _ _).trans hts)
  | case5 => exact hts

theorem documentStart_ends (hts : ts <:+ whole) :
    Ends (Problem.IsIn whole) (· <:+ whole) (documentStart ts) := by
  refine (directives_ends false hts).bind fun ts' hts' => ?_
  exact ends_ite (drop_one_suffix hts') (ends_unfit hts' _ _)

theorem content_parses (fuel : Nat) (hts : ts <:+ whole) : ParsesNode whole (content fuel ts) := by
  unfold content
  split
  case h_5 => exact (parsesAll whole fuel).node _ hts
  all_goals exact ⟨isMadeOf_absent ts, hts⟩

theorem atEnd_ends (start : Mark) (hts : ts <:+ whole) :
    Ends (Problem.IsIn whole) (fun _ => True) (atEnd start ts) := by
  have hrest : dropDocumentEnds ts <:+ whole := (List.dropWhile_suffix _).trans hts
  unfold atEnd
  refine ends_ite trivial ?_
  exact (documentStart_ends hrest).bind fun _ _ => .inl trivial

theorem ofTokens?_ends (whole : Tokens) :
    Ends (Problem.IsIn whole) (fun n? => ∀ n ∈ n?, IsMadeOf (IsScalarOf whole) n)
      (Node.ofTokens? whole) := by
  -- a node, behind which nothing may follow
  have hlast : ∀ {r : Except Problem (Node × Tokens)}, ParsesNode whole r →
      Ends (Problem.IsIn whole) (fun n? => ∀ n ∈ n?, IsMadeOf (IsScalarOf whole) n)
        (r >>= fun parsed => atEnd parsed.1.mark parsed.2 >>= fun _ => pure (some parsed.1)) :=
    fun hr => hr.bind fun parsed hparsed =>
      (atEnd_ends parsed.1.mark hparsed.2).bind fun _ _ => .pure (by simpa using hparsed.1)
  have hall : whole <:+ whole := List.suffix_rfl
  unfold Node.ofTokens?
  extract_lets fuel
  split
  · exact (documentStart_ends hall).bind fun ts hts => hlast (content_parses fuel hts)
  · exact (documentStart_ends hall).bind fun ts hts => hlast (content_parses fuel hts)
  · exact .pure (by simp)
  · exact hlast ((parsesAll whole fuel).node .block hall)

/-- Whether a token opens a sequence or a mapping. -/
def Token.isOpening : Token → Bool
  | .flowSequence | .flowMapping | .blockSequence | .blockMapping => true
  | _ => false

/-- How many sequences and mappings tokens open. -/
def openings (ts : Tokens) : Nat := ts.countP (·.token.isOpening)

theorem openings_cons (l : Located) (ts : Tokens) :
    openings (l :: ts) = openings ts + if l.token.isOpening then 1 else 0 := List.countP_cons

/-- Where tokens are cut off, more is open than can be nested. -/
theorem mem_of_mem_limited {l : Located} {depth : Nat} (hl : l ∈ limited depth ts) :
    l ∈ ts ∨ l.token = .trouble .tooDeep ∧ nestingLimit < depth + openings ts := by
  -- what goes for the tokens behind one goes for it and them, if it opens what they are deeper in
  have hcons : ∀ {t : Located} {ts rest : Tokens} {inner depth : Nat}, l ∈ t :: rest →
      (l ∈ rest → l ∈ ts ∨ l.token = .trouble .tooDeep ∧ nestingLimit < inner + openings ts) →
      inner + openings ts ≤ depth + openings (t :: ts) →
      l ∈ t :: ts ∨ l.token = .trouble .tooDeep ∧ nestingLimit < depth + openings (t :: ts) := by
    intro t ts rest inner depth hl hrest hle
    rcases List.mem_cons.1 hl with rfl | hl
    · exact .inl (List.mem_cons_self ..)
    · rcases hrest hl with hmem | ⟨htoken, hlt⟩
      · exact .inl (List.mem_cons_of_mem _ hmem)
      · exact .inr ⟨htoken, by omega⟩
  fun_induction limited depth ts with
  | case1 => cases hl
  | case2 t ts ht | case4 t ts ht | case6 t ts ht | case8 t ts ht =>
    obtain rfl := List.mem_singleton.1 hl
    have hopening : t.token.isOpening = true := by rw [ht]; rfl
    exact .inr ⟨rfl, by rw [openings_cons, if_pos hopening]; omega⟩
  | case3 depth t ts ht _ ih | case5 depth t ts ht _ ih | case7 depth t ts ht _ ih
  | case9 depth t ts ht _ ih =>
    have hopening : t.token.isOpening = true := by rw [ht]; rfl
    exact hcons hl ih (by rw [openings_cons, if_pos hopening]; omega)
  | case10 depth t ts _ ih | case11 depth t ts _ ih | case12 depth t ts _ ih
  | case13 depth t ts _ _ _ _ _ _ _ ih =>
    exact hcons hl ih (by rw [openings_cons]; omega)

/-! ## §4 Values -/

/-- The problem is one of the grammar, or that of a scalar which has the form of a number or a date. -/
def Problem.IsOfScalars (T : Text → Prop) (e : Problem) : Prop :=
  e.IsMarked ∨ ∃ t, T t ∧ Plain.ofText t = .value (.error e)

/-- Values are made of scalars that satisfy a condition, or the problem is that of one of them. -/
abbrev Makes (T : Text → Prop) (P : α → Prop) : Except Problem α → Prop :=
  Ends (Problem.IsOfScalars T) P

theorem forall_mem_flatten {Q : α → Prop} {ls : List (List α)} (h : ∀ l ∈ ls, ∀ a ∈ l, Q a) :
    ∀ a ∈ ls.flatten, Q a := by
  intro a ha
  obtain ⟨l, hl, hal⟩ := List.mem_flatten.1 ha
  exact h l hl a hal

/-- Merging moves pairs, and adds none. -/
theorem flatten_makes (fuel : Nat) :
    (∀ start {pairs}, (∀ p ∈ pairs, PairIsMadeOf T p) →
      Makes T (fun pairs => ∀ p ∈ pairs, PairIsMadeOf T p) (flatten fuel start pairs)) ∧
    ∀ start {n}, IsMadeOf T n →
      Makes T (fun pairs => ∀ p ∈ pairs, PairIsMadeOf T p) (mergedPairs fuel start n) := by
  induction fuel with
  | zero => exact ⟨fun _ _ h => h, fun _ _ _ => List.forall_mem_nil _⟩
  | succ fuel ih =>
    obtain ⟨hflatten, hmerged⟩ := ih
    constructor
    · intro start pairs hpairs
      unfold flatten
      refine (ends_mapM fun p hp => hmerged start (hpairs p (List.mem_filter.1 hp).1).2).bind
        fun merged hmerged => .pure ?_
      rw [List.forall_mem_append]
      exact ⟨forall_mem_flatten hmerged, fun p hp => hpairs p (List.mem_filter.1 hp).1⟩
    · intro start n hn
      unfold mergedPairs
      split
      · exact hflatten _ (isMadeOf_mapping.1 hn)
      · next items =>
        have hitems := isMadeOf_sequence.1 hn
        refine (ends_mapM fun item hitem => ?_).bind fun parts hparts =>
          .pure (forall_mem_flatten fun l hl => hparts l (List.mem_reverse.1 hl))
        split
        · exact hflatten _ (isMadeOf_mapping.1 (hitems _ hitem))
        · exact .inl trivial
      · exact .inl trivial

theorem plainValue_makes (isKey : Bool) (m : Mark) (ht : T t) :
    Makes T (fun _ => True) (plainValue isKey m t) := by
  unfold plainValue
  split
  · next v hv =>
    cases v with
    | ok v => trivial
    | error e => exact .inr ⟨t, ht, hv⟩
  · exact .inl trivial
  · split
    · trivial
    · exact .inl trivial

theorem nextLevel_makes (isKey : Bool) (hn : IsMadeOf T n) :
    Makes T (fun ns => ∀ n ∈ ns, IsMadeOf T n) (nextLevel isKey n) := by
  unfold nextLevel
  split
  · exact (plainValue_makes _ _ (isMadeOf_plain.1 hn)).map fun _ _ => List.forall_mem_nil _
  · exact List.forall_mem_nil _
  · exact List.forall_mem_singleton.2 hn

theorem pairsLevel_makes (start : Mark) {pairs : List (Node × Node)}
    (h : ∀ p ∈ pairs, PairIsMadeOf T p) :
    Makes T (fun ns => ∀ n ∈ ns, IsMadeOf T n) (pairsLevel start pairs) := by
  induction pairs with
  | nil => exact List.forall_mem_nil _
  | cons p pairs ih =>
    obtain ⟨hp, hpairs⟩ := List.forall_mem_cons.1 h
    unfold pairsLevel
    refine (nextLevel_makes true hp.1).bind fun keys _ => ends_ite (.inl trivial) ?_
    refine (nextLevel_makes false hp.2).bind fun values hvalues => ?_
    exact (ih hpairs).bind fun rest hrest => .pure (List.forall_mem_append.2 ⟨hvalues, hrest⟩)

theorem level_makes (fuel : Nat) (hn : IsMadeOf T n) :
    Makes T (fun ns => ∀ n ∈ ns, IsMadeOf T n) (level fuel n) := by
  unfold level
  split
  · have hitems := isMadeOf_sequence.1 hn
    exact (ends_mapM fun item hitem => nextLevel_makes false (hitems item hitem)).map
      fun _ h => forall_mem_flatten h
  · exact ((flatten_makes fuel).1 _ (isMadeOf_mapping.1 hn)).bind fun _ h => pairsLevel_makes _ h
  · exact List.forall_mem_nil _

theorem checkLevels_makes (fuel : Nat) {ns : List Node} (h : ∀ n ∈ ns, IsMadeOf T n) :
    Makes T (fun _ => True) (checkLevels fuel ns) := by
  induction fuel generalizing ns with
  | zero => trivial
  | succ fuel ih =>
    cases ns with
    | nil => trivial
    | cons n ns =>
      exact (ends_mapM fun n hn => level_makes fuel (h n hn)).bind fun _ hlevels =>
        ih (forall_mem_flatten hlevels)

theorem valueOf_makes (fuel : Nat) :
    (∀ isKey {n}, IsMadeOf T n → Makes T (fun _ => True) (valueOf fuel isKey n)) ∧
    ∀ done {pairs}, (∀ p ∈ pairs, PairIsMadeOf T p) →
      Makes T (fun _ => True) (entriesOf fuel done pairs) := by
  induction fuel with
  | zero => exact ⟨fun _ _ _ => trivial, fun _ _ _ => trivial⟩
  | succ fuel ih =>
    obtain ⟨hvalue, hentries⟩ := ih
    constructor
    · intro isKey n hn
      unfold valueOf
      split
      · exact plainValue_makes _ _ (isMadeOf_plain.1 hn)
      · trivial
      · have hitems := isMadeOf_sequence.1 hn
        exact (ends_mapM fun item hitem => hvalue false (hitems item hitem)).map fun _ _ => trivial
      · refine ((flatten_makes fuel).1 _ (isMadeOf_mapping.1 hn)).bind fun pairs hpairs => ?_
        exact (hentries [] hpairs).bind fun _ _ => trivial
    · intro done pairs hpairs
      cases pairs with
      | nil => trivial
      | cons p rest =>
        obtain ⟨hp, hrest⟩ := List.forall_mem_cons.1 hpairs
        refine (hvalue true hp.1).bind fun key _ => ?_
        exact (hvalue false hp.2).bind fun value _ => hentries _ hrest

/-! ## §5 Scalars without a value -/

/-- A text has a digit. -/
def HasDigit (s : Text) : Prop := ∃ c ∈ s, c.isDigit = true

theorem HasDigit.of_subset {s' : Text} (h : HasDigit s') (hsub : s' ⊆ s) : HasDigit s := by
  obtain ⟨c, hc, hdigit⟩ := h
  exact ⟨c, hsub hc, hdigit⟩

theorem signed_suffix (s : Text) : (signed s).2 <:+ s := by
  unfold signed
  split
  · exact List.suffix_cons _ _
  · exact List.suffix_cons _ _
  · exact List.suffix_rfl

theorem hasDigit_of_digits? {least most n : Nat} {rest : Text} (hleast : 0 < least)
    (h : digits? least most s = some (n, rest)) : HasDigit s := by
  unfold digits? at h
  dsimp only at h
  split at h
  · cases h
  · next hlength =>
    obtain ⟨c, digits, hdigits⟩ :=
      List.exists_cons_of_length_pos (l := (s.take most).takeWhile isDigit) (by omega)
    have hc : c ∈ (s.take most).takeWhile isDigit := by simp [hdigits]
    refine ⟨c, List.mem_of_mem_take ((List.takeWhile_prefix _).subset hc), ?_⟩
    exact List.all_eq_true.1 List.all_takeWhile c hc

theorem hasDigit_of_whole? {r : Except Problem Nat} (h : whole? s = some r) : HasDigit s := by
  unfold whole? at h
  split at h
  case h_1 | h_2 | h_3 | h_4 => exact ⟨'0', List.mem_cons_self .., by decide⟩
  case h_5 c rest _ _ _ _ =>
    split at h
    · cases h
    · next hc => exact ⟨c, List.mem_cons_self .., by simpa using hc⟩
  case h_6 => cases h

theorem hasDigit_of_fraction? {isSigned negative : Bool} {r : Except Problem Value}
    (h : fraction? isSigned negative s = some r) : HasDigit s := by
  unfold fraction? at h
  extract_lets before at h
  have hbefore : before ⊆ s := (List.takeWhile_prefix _).subset
  clear_value before
  split at h
  · next rest hrest =>
    extract_lets after tail at h
    split at h
    · split at h
      · cases h
      · split at h
        · next hhead =>
          have hafter : after ⊆ s := fun c hc => by
            have hmem : c ∈ '.' :: rest :=
              List.mem_cons_of_mem _ ((List.takeWhile_prefix _).subset hc)
            rw [← hrest] at hmem
            exact (List.dropWhile_suffix _).subset hmem
          cases hc : after.head? with
          | none =>
            rw [hc] at hhead
            cases hhead
          | some c =>
            rw [hc] at hhead
            exact ⟨c, hafter (List.mem_of_head? hc), hhead⟩
        · cases h
    · next c _ =>
      split at h
      · cases h
      · next hc => exact ⟨c, hbefore (List.mem_cons_self ..), by simpa using hc⟩
  · cases h

theorem hasDigit_of_real? (h : real? t = some (.error e)) : HasDigit t := by
  have hrest := signed_suffix t
  unfold real? at h
  split at h
  next negative rest hsigned =>
  rw [hsigned] at hrest
  split at h
  · cases h
  · split at h
    · cases h
    · exact (hasDigit_of_fraction? h).of_subset hrest.subset

theorem hasDigit_of_int? {r : Except Problem Value} (h : int? t = some r) : HasDigit t := by
  have hrest := signed_suffix t
  unfold int? at h
  split at h
  next negative rest hsigned =>
  rw [hsigned] at hrest
  obtain ⟨r', hwhole, -⟩ := Option.map_eq_some_iff.1 h
  exact (hasDigit_of_whole? hwhole).of_subset hrest.subset

theorem hasDigit_of_moment? {r : Except Problem Value} (h : moment? t = some r) : HasDigit t := by
  unfold moment? at h
  obtain ⟨m, hm, -⟩ := Option.map_eq_some_iff.1 h
  have hday : ∀ {m : Moment}, day? t = some m → HasDigit t := by
    intro m hm
    unfold day? at hm
    obtain ⟨⟨year, rest⟩, hyear, -⟩ := Option.bind_eq_some_iff.1 hm
    exact hasDigit_of_digits? (by decide) hyear
  have htime : ∀ {m : Moment}, dayAndTime? t = some m → HasDigit t := by
    intro m hm
    unfold dayAndTime? at hm
    obtain ⟨⟨year, rest⟩, hyear, -⟩ := Option.bind_eq_some_iff.1 hm
    exact hasDigit_of_digits? (by decide) hyear
  cases hd : day? t with
  | some m' => exact hday hd
  | none =>
    rw [hd] at hm
    exact htime hm

/-- Where a scalar has the form of a number or a date, and stands for none, there is a digit. -/
theorem hasDigit_of_error (h : Plain.ofText t = .value (.error e)) : HasDigit t := by
  unfold Plain.ofText at h
  split at h
  case h_1 => cases h
  case h_2 hreal =>
    cases h
    exact hasDigit_of_real? hreal
  case h_3 hint =>
    cases h
    exact hasDigit_of_int? hint
  case h_4 hmoment =>
    cases h
    exact hasDigit_of_moment? hmoment
  case h_5 =>
    split at h
    · cases h
    · split at h
      · cases h
      · split at h <;> cases h

/-! ## §6 Whole texts -/

/-- What a problem tells about its text: it is one of the grammar, or of an escape, or of a plain
scalar, or of the nesting. -/
def Problem.Tells (s : Text) (e : Problem) : Prop :=
  e.IsOf s ∨ (∃ l ∈ tokens s, ∃ t, l.token = .plain t ∧ Plain.ofText t = .value (.error e)) ∨
    e = .tooDeep ∧ nestingLimit < openings (tokens s)

theorem Problem.IsMarked.isOf (h : e.IsMarked) : e.IsOf s := by
  cases e with
  | marked => trivial
  | _ => cases h

theorem Problem.IsIn.tells (h : e.IsIn (limited 0 (tokens s))) : e.Tells s := by
  rcases h with hmarked | ⟨l, hl, htrouble⟩
  · exact .inl hmarked.isOf
  · rcases mem_of_mem_limited hl with hl | ⟨hdeep, hlt⟩
    · have hof := tokens_isOf s l hl
      rw [htrouble] at hof
      exact .inl hof
    · cases htrouble.symm.trans hdeep
      exact .inr (.inr ⟨rfl, by simpa using hlt⟩)

theorem Problem.IsOfScalars.tells (h : e.IsOfScalars (IsScalarOf (limited 0 (tokens s)))) :
    e.Tells s := by
  rcases h with hmarked | ⟨t, rfl | ⟨l, hl, hplain⟩, hvalue⟩
  · exact .inl hmarked.isOf
  · obtain ⟨c, hc, -⟩ := hasDigit_of_error hvalue
    cases hc
  · rcases mem_of_mem_limited hl with hl | ⟨hdeep, -⟩
    · exact .inr (.inl ⟨l, hl, t, hplain, hvalue⟩)
    · cases hplain.symm.trans hdeep

theorem read_tells (s : Text) : Ends (Problem.Tells s) (fun _ => True) (read s) := by
  have hnode := (ofTokens?_ends (limited 0 (tokens s))).mono (fun _ he => he.tells) fun _ h => h
  refine hnode.bind fun n? hn? => ?_
  split
  · trivial
  · next n =>
    extract_lets fuel
    have hn := hn? n rfl
    have hlevels : ∀ n' ∈ [n], IsMadeOf (IsScalarOf (limited 0 (tokens s))) n' :=
      List.forall_mem_singleton.2 hn
    have hmakes := (checkLevels_makes fuel hlevels).bind fun _ _ => (valueOf_makes fuel).1 false hn
    exact hmakes.mono (fun _ he => he.tells) fun _ h => h

/-- The problem of a text tells about it. -/
theorem tells_of_read (h : read s = .error e) : e.Tells s := (read_tells s).of_error h

theorem not_endsWord_of_isDigit {c : Char} (hc : c.isDigit = true) : endsWord (some c) = false := by
  rw [Bool.eq_false_iff]
  intro hends
  simp only [endsWord, isBreak, Bool.or_eq_true, beq_iff_eq] at hends
  rcases hends with (rfl | rfl) | (((rfl | rfl) | rfl) | rfl) | rfl <;> exact absurd hc (by decide)

/-- What a problem that is not one of the grammar says of the characters of its text: there is an
escape in it that no character has, or a digit, or it is nested too deeply. -/
theorem Problem.Tells.inText (h : e.Tells s) :
    e.IsMarked ∨ (∃ c i, e = .unacceptable c i) ∨ HasVoidEscape s ∨ HasDigit s ∨
      nestingLimit < openings (tokens s) := by
  rcases h with hof | ⟨l, hl, t, hplain, hvalue⟩ | ⟨-, hlt⟩
  · cases e with
    | marked => exact .inl trivial
    | unacceptable c i => exact .inr (.inl ⟨c, i, rfl⟩)
    | noValue | tooLarge => exact .inr (.inr (.inl hof))
    | tooDeep => cases hof
  · have hfrom := tokens_isOf s l hl
    rw [hplain] at hfrom
    obtain ⟨c, hc, hdigit⟩ := hasDigit_of_error hvalue
    rcases hfrom c hc with hmem | hends
    · exact .inr (.inr (.inr (.inl ⟨c, hmem, hdigit⟩)))
    · rw [not_endsWord_of_isDigit hdigit] at hends
      cases hends
  · exact .inr (.inr (.inr (.inr hlt)))

end EmbeddedGo.Yaml
