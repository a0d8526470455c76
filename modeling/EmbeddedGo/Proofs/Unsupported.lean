/-
EmbeddedGo.Proofs.Unsupported — the Go declarations that bindings cannot express offer nothing.

The declarations of Go are stated with everything that they can have (`GoDeclaration`): receivers, type
parameters, types of all kinds, any number of results. A text can begin with one in every layout that Go
allows, with comments and with names in any script (`Begins`). If it has a part that bindings cannot
express, its marker has no entry (`exported_of_unsupported`), but for two kinds of declarations that
look like others: a channel without a name at the end of the parameters reads as a parameter that is
called `chan`, and of a struct or an interface as result only the keyword stands in front of the brace
(`SlipsThrough`).

  §1 the declarations of Go
  §2 what bindings cannot express
  §3 texts that begin with a declaration
  §4 words and what stops them
  §5 parameters and results that are read
  §6 what a source offers
  §7 declarations that slip through
-/
import EmbeddedGo.Proofs.ExportedSource

namespace EmbeddedGo.Go

open Text Token Signature

/-! ## §1 Declarations -/

/-- Which ends of a channel a type gives. -/
inductive Direction where
  | both
  | send
  | receive

/-- A type of Go. Lengths, arguments, and what functions, structs and interfaces consist of may be any
tokens. -/
inductive GoType where
  | name (name : Text)
  | qualified (package name : Text)
  | generic (package : Option Text) (name : Text) (arguments : List Token)
  | pointer (base : GoType)
  | slice (element : GoType)
  | array (length : List Token) (element : GoType)
  | map (key value : GoType)
  | channel (direction : Direction) (element : GoType)
  | function (signature : List Token)
  | struct (fields : List Token)
  | interface (elements : List Token)
  | bracketed (inside : GoType)

namespace GoType

/-- The tokens of a type. -/
def tokens : GoType → List Token
  | name a => [.word a]
  | qualified package a => [.word package, .mark '.', .word a]
  | generic none a arguments => .word a :: .mark '[' :: (arguments ++ [.mark ']'])
  | generic (some package) a arguments =>
    .word package :: .mark '.' :: .word a :: .mark '[' :: (arguments ++ [.mark ']'])
  | pointer base => .mark '*' :: base.tokens
  | slice element => .mark '[' :: .mark ']' :: element.tokens
  | array length element => .mark '[' :: (length ++ .mark ']' :: element.tokens)
  | map key value => .word "map" :: .mark '[' :: (key.tokens ++ .mark ']' :: value.tokens)
  | channel .both element => .word "chan" :: element.tokens
  | channel .send element => .word "chan" :: .mark '<' :: .mark '-' :: element.tokens
  | channel .receive element => .mark '<' :: .mark '-' :: .word "chan" :: element.tokens
  | function signature => .word "func" :: .mark '(' :: signature
  | struct fields => .word "struct" :: .mark '{' :: (fields ++ [.mark '}'])
  | interface elements => .word "interface" :: .mark '{' :: (elements ++ [.mark '}'])
  | bracketed inside => .mark '(' :: (inside.tokens ++ [.mark ')'])

/-- Whether a type is a name by itself. -/
def isBare : GoType → Bool
  | name _ => true
  | _ => false

/-- Whether a type is a channel, open at both ends, of a type that is a name by itself. -/
def isBareChannel : GoType → Bool
  | channel .both element => element.isBare
  | _ => false

/-- Whether a type has braces. -/
def isBraced : GoType → Bool
  | struct _ => true
  | interface _ => true
  | _ => false

/-- Whether a type stands in brackets. -/
def isBracketed : GoType → Bool
  | bracketed _ => true
  | _ => false

end GoType

/-- The type of a parameter, which can be one for any number of arguments. -/
structure Typed where
  variadic : Bool := false
  type : GoType

namespace Typed

/-- The tokens of a parameter's type. -/
def tokens (t : Typed) : List Token :=
  if t.variadic then .dots :: t.type.tokens else t.type.tokens

/-- Whether there is a name and nothing more. -/
def isBare (t : Typed) : Bool := !t.variadic && t.type.isBare

/-- Whether there is a channel of a bare type and nothing more. -/
def isBareChannel (t : Typed) : Bool := !t.variadic && t.type.isBareChannel

end Typed

/-- Names and the type that they share. -/
structure NamedGroup where
  others : List Text := []
  last : Text
  type : Typed

/-- Parameters: all of them without names, or all with names. -/
inductive Parameters where
  | unnamed (types : List Typed)
  | named (groups : List NamedGroup)

namespace Parameters

/-- The tokens between commas. -/
def parts : Parameters → List (List Token)
  | unnamed types => types.map Typed.tokens
  | named groups =>
    groups.flatMap fun g => g.others.map (fun a => [.word a]) ++ [.word g.last :: g.type.tokens]

/-- The types that are written. -/
def types : Parameters → List Typed
  | unnamed types => types
  | named groups => groups.map NamedGroup.type

/-- Whether the types are names by themselves. -/
def areBare (p : Parameters) : Bool := p.types.all Typed.isBare

/-- The parameters have no names, are channels of bare types or bare types themselves, and the last one
is a channel. -/
def EndInChannel (p : Parameters) : Prop :=
  ∃ init channel, p = unnamed (init ++ [channel]) ∧ channel.isBareChannel = true ∧
    ∀ t ∈ init, t.isBare = true ∨ t.isBareChannel = true

end Parameters

/-- Parts between commas, and behind the last one a comma or none. -/
def listTokens (parts : List (List Token)) (comma : Bool) : List Token :=
  List.intercalate [.mark ','] parts ++ if comma then [.mark ','] else []

/-- What stands between brackets: parameters, and a comma behind the last one or none. -/
structure ParameterList where
  parameters : Parameters
  comma : Bool := false
  parts_ne_nil : comma = true → parameters.parts ≠ [] := by decide

/-- The tokens between the brackets. -/
def ParameterList.tokens (p : ParameterList) : List Token := listTokens p.parameters.parts p.comma

/-- The results of a function. What stands in brackets is a list, also if it is one type. -/
inductive Results where
  | nothing
  | single (type : GoType) (h : type.isBracketed = false)
  | list (results : ParameterList)

namespace Results

/-- The tokens of results. -/
def tokens : Results → List Token
  | nothing => []
  | single type _ => type.tokens
  | list results => .mark '(' :: (results.tokens ++ [.mark ')'])

/-- How many results there are. -/
def count : Results → Nat
  | nothing => 0
  | single _ _ => 1
  | list results => results.parameters.parts.length

/-- The types that are written. -/
def types : Results → List Typed
  | nothing => []
  | single type _ => [⟨false, type⟩]
  | list results => results.parameters.types

/-- There is no result, or one with a bare type, in brackets or not. -/
inductive IsPlain : Results → Prop where
  | nothing : IsPlain nothing
  | single {type : GoType} {h : type.isBracketed = false} (hbare : type.isBare = true) :
    IsPlain (single type h)
  | list {results : ParameterList} {t : Typed} (hcomma : results.comma = false)
    (hone : results.parameters = .unnamed [t]) (hbare : t.isBare = true) : IsPlain (list results)

/-- The result is a struct or an interface. -/
inductive IsBraced : Results → Prop where
  | single {type : GoType} {h : type.isBracketed = false} (hbraced : type.isBraced = true) :
    IsBraced (single type h)

end Results

/-- A declaration of a function or a method, up to its body. -/
structure GoDeclaration where
  receiver : Option (List Token) := none
  name : Text
  typeParameters : Option (List Token) := none
  params : ParameterList
  results : Results := .nothing

namespace GoDeclaration

/-- Tokens between marks, or nothing. -/
def enclosed (before after : Char) : Option (List Token) → List Token
  | none => []
  | some inside => .mark before :: (inside ++ [.mark after])

/-- The tokens of a declaration, up to its body. -/
def tokens (d : GoDeclaration) : List Token :=
  .word "func" :: (enclosed '(' ')' d.receiver ++ .word d.name ::
    (enclosed '[' ']' d.typeParameters ++ .mark '(' ::
      (d.params.tokens ++ .mark ')' :: d.results.tokens)))

/-! ## §2 What bindings cannot express -/

/-- The declaration has a receiver, type parameters, more than one result, or a type that is not a name
by itself. -/
def IsUnsupported (d : GoDeclaration) : Prop :=
  d.receiver.isSome ∨ d.typeParameters.isSome ∨ 1 < d.results.count ∨
    ∃ t ∈ d.params.parameters.types ++ d.results.types, t.isBare = false

/-- The declaration looks like one that bindings can express: its last parameter is a channel without
a name, or its result is a struct or an interface, and there is nothing else that they cannot
express. -/
structure SlipsThrough (d : GoDeclaration) : Prop where
  receiver : d.receiver = none
  typeParameters : d.typeParameters = none
  params : d.params.parameters.areBare = true ∨ d.params.parameters.EndInChannel
  results : d.results.IsPlain ∨ d.results.IsBraced
  slip : d.params.parameters.EndInChannel ∨ d.results.IsBraced

end GoDeclaration

/-! ## §3 Texts -/

/-- The texts that begin with tokens of Go. Blanks and comments can stand in front of each, words go on
as far as they can and may begin with any letter, and anything can follow. -/
inductive Begins : List Token → Text → Prop where
  | rest (s : Text) : Begins [] s
  | blank {tokens : List Token} {c : Char} {s : Text} (hc : isBlank c = true)
    (h : Begins tokens s) : Begins tokens (c :: s)
  | comment {tokens : List Token} {s : Text} (inside : Text) (h : Begins tokens s) :
    Begins tokens ('/' :: '*' :: (inside ++ '*' :: '/' :: s))
  | lineComment {tokens : List Token} {s : Text} (inside : Text) (h : Begins tokens s) :
    Begins tokens ('/' :: '/' :: (inside ++ '\n' :: s))
  | word {tokens : List Token} {c : Char} {name s : Text} (hname : (c :: name).all isWord = true)
    (hs : wordEnds s = true) (h : Begins tokens s) :
    Begins (.word (c :: name) :: tokens) (c :: (name ++ s))
  | dots {tokens : List Token} {s : Text} (h : Begins tokens s) :
    Begins (.dots :: tokens) ('.' :: '.' :: '.' :: s)
  | mark {tokens : List Token} {c : Char} {s : Text} (hc : isMark c = true) (h : Begins tokens s) :
    Begins (.mark c :: tokens) (c :: s)

/-- The tokens of signatures, and the brace. -/
def isReadable : Token → Bool
  | .word _ => true
  | .dots => false
  | .mark c => c == '(' || c == ')' || c == ',' || c == '{'

/-- Reading a text up to its brace is reading it and keeping the tokens up to the brace. -/
theorem ofText_throughBrace (s : Text) : ofText (throughBrace s) = throughBraceMark (ofText s) :=
  ofText_eq_iff.2 (laid_throughBrace (laid_ofText s))

@[simp] theorem throughBraceMark_word (name : Text) (ts : List Token) :
    throughBraceMark (.word name :: ts) = .word name :: throughBraceMark ts := by
  simp [throughBraceMark]

theorem throughBraceMark_cons {t : Token} (h : t ≠ .mark '{') (ts : List Token) :
    throughBraceMark (t :: ts) = t :: throughBraceMark ts := by
  simp [throughBraceMark, h]

@[simp] theorem throughBraceMark_brace (ts : List Token) :
    throughBraceMark (.mark '{' :: ts) = [.mark '{'] := by
  simp [throughBraceMark]

/-- The first token stays. -/
theorem exists_throughBraceMark_cons (t : Token) (ts : List Token) :
    ∃ ts', throughBraceMark (t :: ts) = t :: ts' := by
  rw [throughBraceMark]
  split
  · next h =>
    subst h
    exact ⟨_, rfl⟩
  · exact ⟨_, rfl⟩

/-- If a text that begins with tokens is read as nothing but words, brackets and commas up to its brace,
it is read as these tokens: no comment stands in front of the brace, and every word begins with a letter
that words are read with. -/
theorem Begins.reads {tokens : List Token} {s : Text} (h : Begins tokens s)
    (hread : ∀ t ∈ throughBraceMark (ofText s), isReadable t = true) :
    ∃ more, throughBraceMark (ofText s) = throughBraceMark (tokens ++ more) := by
  have hfirst : ∀ t ts, (∀ t' ∈ throughBraceMark (t :: ts), isReadable t' = true) →
      isReadable t = true := by
    intro t ts hall
    obtain ⟨ts', hts'⟩ := exists_throughBraceMark_cons t ts
    exact hall t (by simp [hts'])
  have hslash : ∀ s : Text, ofText ('/' :: s) = .mark '/' :: ofText s := fun s =>
    ofText_mark (by decide) (by simp)
  have hdots : ∀ s : Text, ofText ('.' :: '.' :: '.' :: s) = .dots :: ofText s := fun s =>
    ofText_eq_iff.2 (.dots (laid_ofText s))
  induction h with
  | rest s => exact ⟨ofText s, rfl⟩
  | blank hc h ih =>
    rw [ofText_blank hc] at hread ⊢
    exact ih hread
  | comment inside h ih =>
    rw [hslash] at hread
    exact absurd (hfirst _ _ hread) (by decide)
  | lineComment inside h ih =>
    rw [hslash] at hread
    exact absurd (hfirst _ _ hread) (by decide)
  | @word tokens c name s hname hs h ih =>
    simp only [List.all_cons, Bool.and_eq_true, List.all_eq_true] at hname
    by_cases hstart : isWordStart c = true
    · obtain ⟨htake, hdrop⟩ := span_of_wordEnds hname.2 hs
      have hword : ofText (c :: (name ++ s)) = .word (c :: name) :: ofText s := by
        rw [ofText_word hstart, htake, hdrop]
      rw [hword, throughBraceMark_word] at hread ⊢
      obtain ⟨more, hmore⟩ := ih fun t ht => hread t (List.mem_cons_of_mem _ ht)
      exact ⟨more, by rw [List.cons_append, throughBraceMark_word, hmore]⟩
    · -- a letter that words are not read with is a mark, and no mark of signatures
      have hne : ∀ d, isWord d = false → c ≠ d := by
        rintro d hd rfl
        rw [hname.1] at hd
        cases hd
      have hmark : isMark c = true := by
        simp [isMark, isBlank_of_isWord hname.1, hstart]
      rw [ofText_mark hmark (fun h => hne '.' (by decide) h.1)] at hread
      have hc := hfirst _ _ hread
      simp [isReadable, hne '(' (by decide), hne ')' (by decide), hne ',' (by decide),
        hne '{' (by decide)] at hc
  | @dots tokens s h ih =>
    rw [hdots] at hread
    exact absurd (hfirst _ _ hread) (by decide)
  | @mark tokens c s hc h ih =>
    by_cases hthree : c = '.' ∧ ['.', '.'] <+: s
    · obtain ⟨rfl, s', rfl⟩ := hthree
      rw [List.cons_append, List.cons_append, List.nil_append, hdots] at hread
      exact absurd (hfirst _ _ hread) (by decide)
    · rw [ofText_mark hc hthree] at hread ⊢
      by_cases hbrace : c = '{'
      · subst hbrace
        exact ⟨[], by simp⟩
      · have hne : Token.mark c ≠ .mark '{' := by simpa using hbrace
        rw [throughBraceMark_cons hne] at hread ⊢
        obtain ⟨more, hmore⟩ := ih fun t ht => hread t (List.mem_cons_of_mem _ ht)
        exact ⟨more, by rw [List.cons_append, throughBraceMark_cons hne, hmore]⟩

/-! ## §4 Words and what stops them -/

/-- A token that ends neither a parameter nor the list of them. -/
def isStop : Token → Bool
  | .word _ => false
  | .dots => true
  | .mark c => c != ',' && c != ')'

/-- Tokens that are words, or words up to a token that ends no parameter. -/
inductive Part : List Token → Prop where
  | words {ws : List Text} (h : ws ≠ []) : Part (ws.map .word)
  | stops (ws : List Text) {t : Token} (rest : List Token) (ht : isStop t = true) :
    Part (ws.map .word ++ t :: rest)

theorem Part.cons {ts : List Token} (h : Part ts) (a : Text) : Part (.word a :: ts) := by
  cases h with
  | @words ws h => exact .words (List.cons_ne_nil a ws)
  | stops ws rest ht => exact .stops (a :: ws) rest ht

theorem Part.stop {t : Token} (ht : isStop t = true) (rest : List Token) : Part (t :: rest) :=
  .stops [] rest ht

theorem Part.ne_nil {ts : List Token} (h : Part ts) : ts ≠ [] := by
  cases h with
  | words h => simpa using h
  | stops ws rest ht => simp

theorem GoType.part (t : GoType) : Part t.tokens := by
  induction t with
  | name a => exact .words (List.cons_ne_nil a [])
  | qualified package a => exact .cons (.stop (by decide) _) _
  | generic package a arguments =>
    cases package with
    | none => exact .cons (.stop (by decide) _) _
    | some package => exact .cons (.stop (by decide) _) _
  | pointer base ih => exact .stop (by decide) _
  | slice element ih => exact .stop (by decide) _
  | array length element ih => exact .stop (by decide) _
  | map key value => exact .cons (.stop (by decide) _) _
  | channel direction element ih =>
    cases direction with
    | both => exact ih.cons _
    | send => exact .cons (.stop (by decide) _) _
    | receive => exact .stop (by decide) _
  | function signature => exact .cons (.stop (by decide) _) _
  | struct fields => exact .cons (.stop (by decide) _) _
  | interface elements => exact .cons (.stop (by decide) _) _
  | bracketed inside ih => exact .stop (by decide) _

theorem Typed.part (t : Typed) : Part t.tokens := by
  rw [Typed.tokens]
  split
  · exact .stop (by decide) _
  · exact t.type.part

theorem Parameters.part {p : Parameters} {ts : List Token} (h : ts ∈ p.parts) : Part ts := by
  cases p with
  | unnamed types =>
    obtain ⟨t, -, rfl⟩ := List.mem_map.1 h
    exact t.part
  | named groups =>
    obtain ⟨g, -, hg⟩ := List.mem_flatMap.1 h
    rcases List.mem_append.1 hg with hg | hg
    · obtain ⟨a, -, rfl⟩ := List.mem_map.1 hg
      exact .words (List.cons_ne_nil a [])
    · obtain rfl := List.mem_singleton.1 hg
      exact g.type.part.cons _

/-- Words end where another token stands. -/
theorem words_append_inj {ws ws' : List Text} {t t' : Token} {ts ts' : List Token}
    (ht : ∀ a, t ≠ .word a) (ht' : ∀ a, t' ≠ .word a)
    (h : ws.map Token.word ++ t :: ts = ws'.map Token.word ++ t' :: ts') :
    ws = ws' ∧ t = t' ∧ ts = ts' := by
  induction ws generalizing ws' with
  | nil =>
    cases ws' with
    | nil => simpa using h
    | cons a ws' => exact absurd (List.cons.inj h).1 (ht a)
  | cons a ws ih =>
    cases ws' with
    | nil => exact absurd (List.cons.inj h).1.symm (ht' a)
    | cons a' ws' =>
      obtain ⟨ha, hrest⟩ := List.cons.inj h
      obtain ⟨rfl, hends⟩ := ih hrest
      exact ⟨by simpa using ha, hends⟩

theorem throughBraceMark_words (ws : List Text) (ts : List Token) :
    throughBraceMark (ws.map .word ++ ts) = ws.map .word ++ throughBraceMark ts := by
  induction ws with
  | nil => rfl
  | cons a ws ih => simp [ih]

theorem Signature.Group.exists_words (g : Group) : ∃ ws : List Text, g.tokens = ws.map .word := by
  cases g with
  | one a => exact ⟨[a], rfl⟩
  | two a type => exact ⟨[a, type], rfl⟩

/-! ## §5 Reading -/

variable {ts ts' tail tail' : List Token} {c c' : Char}

/-- A part that is read as a group up to the next comma or bracket is that group. -/
theorem Part.eq_of_group (h : Part ts) {g : Group} (hc : c = ',' ∨ c = ')') (hc' : c' = ',' ∨ c' = ')')
    (heq : throughBraceMark (ts ++ .mark c :: tail) = g.tokens ++ .mark c' :: tail') :
    ts = g.tokens ∧ c = c' ∧ throughBraceMark tail = tail' := by
  obtain ⟨gs, hgs⟩ := g.exists_words
  have hbrace : Token.mark c ≠ .mark '{' := by
    rcases hc with rfl | rfl <;> decide
  rw [hgs] at heq ⊢
  cases h with
  | @words ws hne =>
    rw [throughBraceMark_words, throughBraceMark_cons hbrace] at heq
    obtain ⟨rfl, hmark, htail⟩ := words_append_inj (by simp) (by simp) heq
    exact ⟨rfl, by simpa using hmark, htail⟩
  | @stops ws t rest ht =>
    obtain ⟨ts', hts'⟩ := exists_throughBraceMark_cons t (rest ++ .mark c :: tail)
    rw [List.append_assoc, List.cons_append, throughBraceMark_words, hts'] at heq
    have hword : ∀ a, t ≠ .word a := by
      rintro a rfl
      cases ht
    obtain ⟨-, rfl, -⟩ := words_append_inj hword (by simp) heq
    rcases hc' with rfl | rfl <;> cases ht

/-- No part begins with what could end it. -/
theorem Part.ne_cons (h : Part ts) (hc : c' = ',' ∨ c' = ')') :
    throughBraceMark (ts ++ tail) ≠ .mark c' :: tail' := by
  intro heq
  cases h with
  | @words ws hne =>
    obtain ⟨a, ws, rfl⟩ := List.exists_cons_of_ne_nil hne
    simp at heq
  | @stops ws t rest ht =>
    cases ws with
    | nil =>
      obtain ⟨ts', hts'⟩ := exists_throughBraceMark_cons t (rest ++ tail)
      rw [List.map_nil, List.nil_append, List.cons_append, hts'] at heq
      obtain ⟨rfl, -⟩ := List.cons.inj heq
      rcases hc with rfl | rfl <;> cases ht
    | cons a ws => simp at heq

theorem listTokens_cons (part : List Token) (parts : List (List Token)) (comma : Bool) :
    (listTokens (part :: parts) comma = part ∧ parts = []) ∨
      ∃ comma', listTokens (part :: parts) comma = part ++ .mark ',' :: listTokens parts comma' := by
  cases parts with
  | nil =>
    cases comma with
    | false => exact .inl ⟨by simp [listTokens], rfl⟩
    | true => exact .inr ⟨false, by simp [listTokens]⟩
  | cons part' parts => exact .inr ⟨comma, by simp [listTokens, List.intercalate]⟩

/-- Parts that are read as groups are these groups. -/
theorem eq_of_lists {parts : List (List Token)} (hparts : ∀ part ∈ parts, Part part) {comma : Bool}
    {gs : List Group} {listed : List Token} (h : Lists gs listed)
    (heq : throughBraceMark (listTokens parts comma ++ .mark ')' :: tail) =
      listed ++ .mark ')' :: tail') :
    parts = gs.map Group.tokens ∧ listTokens parts comma = listed ∧ throughBraceMark tail = tail' := by
  induction parts generalizing comma gs listed with
  | nil =>
    have hword : ∀ (g : Group) (rest : List Token) (c : Char) (ts : List Token),
        .mark c :: ts ≠ g.tokens ++ rest := by
      intro g rest c ts
      cases g <;> simp [Group.tokens]
    have hmark : ∃ c ts, throughBraceMark (listTokens [] comma ++ .mark ')' :: tail) = .mark c :: ts := by
      cases comma with
      | false => exact ⟨')', _, throughBraceMark_cons (by decide) _⟩
      | true => exact ⟨',', _, throughBraceMark_cons (by decide) _⟩
    obtain ⟨c, ts, hmark⟩ := hmark
    rcases h.elim with ⟨rfl, rfl⟩ | ⟨g, rfl, rfl⟩ | ⟨g, gs', s', rfl, rfl, -⟩
    · cases comma with
      | false =>
        rw [listTokens, List.intercalate_nil, if_neg (by simp), List.nil_append, List.nil_append,
          throughBraceMark_cons (by decide)] at heq
        exact ⟨rfl, rfl, (List.cons.inj heq).2⟩
      | true =>
        rw [listTokens, List.intercalate_nil, if_pos rfl, List.nil_append, List.singleton_append,
          throughBraceMark_cons (by decide)] at heq
        simp at heq
    · exact absurd (hmark ▸ heq) (hword g _ _ _)
    · rw [hmark, List.append_assoc] at heq
      exact absurd heq (hword g _ _ _)
  | cons part parts ih =>
    have hpart : Part part := hparts part (by simp)
    rcases listTokens_cons part parts comma with ⟨htokens, rfl⟩ | ⟨comma', htokens⟩
    · rw [htokens] at heq ⊢
      rcases h.elim with ⟨-, rfl⟩ | ⟨g, rfl, rfl⟩ | ⟨g, gs', s', rfl, rfl, -⟩
      · exact absurd heq (hpart.ne_cons (.inr rfl))
      · obtain ⟨rfl, -, htail⟩ := hpart.eq_of_group (.inr rfl) (.inr rfl) heq
        exact ⟨rfl, rfl, htail⟩
      · rw [List.append_assoc, List.cons_append] at heq
        obtain ⟨-, hc, -⟩ := hpart.eq_of_group (.inr rfl) (.inl rfl) heq
        cases hc
    · rw [htokens] at heq ⊢
      rw [List.append_assoc, List.cons_append] at heq
      rcases h.elim with ⟨-, rfl⟩ | ⟨g, rfl, rfl⟩ | ⟨g, gs', s', rfl, rfl, h'⟩
      · exact absurd heq (hpart.ne_cons (.inr rfl))
      · obtain ⟨-, hc, -⟩ := hpart.eq_of_group (.inl rfl) (.inr rfl) heq
        cases hc
      · rw [List.append_assoc, List.cons_append] at heq
        obtain ⟨rfl, -, hrest⟩ := hpart.eq_of_group (.inl rfl) (.inl rfl) heq
        obtain ⟨rfl, rfl, htail⟩ := ih (fun p hp => hparts p (by simp [hp])) h' hrest
        exact ⟨rfl, rfl, htail⟩

/-- Only a name by itself is one word. -/
theorem GoType.isBare_of_tokens {t : GoType} {a : Text} (h : t.tokens = [.word a]) :
    t.isBare = true := by
  cases t with
  | name b => rfl
  | generic package b arguments => cases package <;> simp [GoType.tokens] at h
  | channel direction element =>
    cases direction with
    | both => exact absurd (List.cons.inj h).2 element.part.ne_nil
    | send => simp [GoType.tokens] at h
    | receive => simp [GoType.tokens] at h
  | _ => simp [GoType.tokens] at h

/-- Only a channel of a bare type is two words. -/
theorem GoType.isBareChannel_of_tokens {t : GoType} {a b : Text}
    (h : t.tokens = [.word a, .word b]) : t.isBareChannel = true := by
  cases t with
  | generic package b arguments => cases package <;> simp [GoType.tokens] at h
  | channel direction element =>
    cases direction with
    | both => exact GoType.isBare_of_tokens (List.cons.inj h).2
    | send => simp [GoType.tokens] at h
    | receive => simp [GoType.tokens] at h
  | _ => simp [GoType.tokens] at h

theorem Typed.isBare_of_tokens {t : Typed} {a : Text} (h : t.tokens = [.word a]) :
    t.isBare = true := by
  unfold Typed.tokens at h
  split at h
  · simp at h
  · next hvariadic => simp [Typed.isBare, hvariadic, GoType.isBare_of_tokens h]

theorem Typed.isBareChannel_of_tokens {t : Typed} {a b : Text}
    (h : t.tokens = [.word a, .word b]) : t.isBareChannel = true := by
  unfold Typed.tokens at h
  split at h
  · simp at h
  · next hvariadic => simp [Typed.isBareChannel, hvariadic, GoType.isBareChannel_of_tokens h]

theorem Typed.tokens_ne_nil (t : Typed) : t.tokens ≠ [] := t.part.ne_nil

/-- Types that are read as groups are names by themselves, or channels of such. -/
theorem bare_or_channel {types : List Typed} {gs : List Group}
    (h : types.map Typed.tokens = gs.map Group.tokens) {t : Typed} (ht : t ∈ types) :
    t.isBare = true ∨ t.isBareChannel = true := by
  have hmem : t.tokens ∈ gs.map Group.tokens := h ▸ List.mem_map_of_mem ht
  obtain ⟨g, -, hg⟩ := List.mem_map.1 hmem
  cases g with
  | one a => exact .inl (Typed.isBare_of_tokens hg.symm)
  | two a type => exact .inr (Typed.isBareChannel_of_tokens hg.symm)

/-- Parameters that get types have bare ones, or they end in a channel. -/
theorem bare_or_endInChannel {p : Parameters} {gs : List Group} {params : List Parameter}
    (hparts : p.parts = gs.map Group.tokens) (h : Declares gs params) :
    p.areBare = true ∨ p.EndInChannel := by
  cases p with
  | unnamed types =>
    have htypes : types.map Typed.tokens = gs.map Group.tokens := hparts
    rcases exists_declares_iff.1 ⟨params, h⟩ with hsingle | ⟨init, a, type, rfl⟩
    · left
      rw [Parameters.areBare, List.all_eq_true]
      intro t ht
      have hmem : t.tokens ∈ gs.map Group.tokens := htypes ▸ List.mem_map_of_mem ht
      obtain ⟨g, hg, hgt⟩ := List.mem_map.1 hmem
      cases g with
      | one a => exact Typed.isBare_of_tokens hgt.symm
      | two a type => cases hsingle _ hg
    · right
      rw [List.map_append, List.map_cons, List.map_nil] at htypes
      obtain ⟨init', last, rfl, hinit, hlast⟩ := List.map_eq_append_iff.1 htypes
      obtain ⟨channel, last, rfl, hchannel, hnil⟩ := List.map_eq_cons_iff.1 hlast
      obtain rfl := List.map_eq_nil_iff.1 hnil
      exact ⟨init', channel, rfl, Typed.isBareChannel_of_tokens hchannel, fun t ht =>
        bare_or_channel hinit ht⟩
  | named groups =>
    left
    rw [Parameters.areBare, List.all_eq_true]
    intro t ht
    obtain ⟨group, hgroup, rfl⟩ := List.mem_map.1 ht
    have hmem : .word group.last :: group.type.tokens ∈ gs.map Group.tokens := by
      rw [← hparts]
      exact List.mem_flatMap.2 ⟨group, hgroup, List.mem_append_right _ (List.mem_singleton_self _)⟩
    obtain ⟨g, -, hg⟩ := List.mem_map.1 hmem
    cases g with
    | one a => exact absurd (List.cons.inj hg).2.symm group.type.tokens_ne_nil
    | two a type => exact Typed.isBare_of_tokens (List.cons.inj hg).2.symm

/-- No type begins with a brace, and only one in brackets begins with a bracket. -/
theorem GoType.tokens_cons (t : GoType) :
    ∃ first rest, t.tokens = first :: rest ∧ first ≠ .mark '{' ∧
      (first = .mark '(' → t.isBracketed = true) := by
  cases t with
  | generic package a arguments => cases package <;> exact ⟨_, _, rfl, by simp, by simp⟩
  | channel direction element => cases direction <;> exact ⟨_, _, rfl, by simp, by simp⟩
  | bracketed inside => exact ⟨_, _, rfl, by simp, fun _ => rfl⟩
  | _ => exact ⟨_, _, rfl, by simp, by simp⟩

/-- A type is a name by itself, or it has braces behind a keyword, or something else follows its first
word, or it begins with a mark. -/
theorem GoType.tokens_cases (t : GoType) :
    t.isBare = true ∨ t.isBraced = true ∨
      (∃ a next rest, t.tokens = .word a :: next :: rest ∧ next ≠ .mark '{') ∨
      ∃ c rest, t.tokens = .mark c :: rest := by
  cases t with
  | name a => exact .inl rfl
  | struct fields => exact .inr (.inl rfl)
  | interface elements => exact .inr (.inl rfl)
  | qualified package a => exact .inr (.inr (.inl ⟨_, _, _, rfl, by decide⟩))
  | generic package a arguments =>
    cases package <;> exact .inr (.inr (.inl ⟨_, _, _, rfl, by decide⟩))
  | map key value => exact .inr (.inr (.inl ⟨_, _, _, rfl, by decide⟩))
  | function signature => exact .inr (.inr (.inl ⟨_, _, _, rfl, by decide⟩))
  | channel direction element =>
    cases direction with
    | both =>
      obtain ⟨first, rest, htokens, hfirst, -⟩ := element.tokens_cons
      refine .inr (.inr (.inl ⟨"chan", first, rest, ?_, hfirst⟩))
      rw [GoType.tokens, htokens]
    | send => exact .inr (.inr (.inl ⟨_, _, _, rfl, by decide⟩))
    | receive => exact .inr (.inr (.inr ⟨_, _, rfl⟩))
  | pointer base => exact .inr (.inr (.inr ⟨_, _, rfl⟩))
  | slice element => exact .inr (.inr (.inr ⟨_, _, rfl⟩))
  | array length element => exact .inr (.inr (.inr ⟨_, _, rfl⟩))
  | bracketed inside => exact .inr (.inr (.inr ⟨_, _, rfl⟩))

/-- One word, and nothing or a brace behind it, is a bare type, or the keyword of one with braces. -/
theorem GoType.bare_or_braced {t : GoType} {a : Text} {more rest : List Token} (hrest : IsRest rest)
    (h : throughBraceMark (t.tokens ++ more) = .word a :: rest) :
    t.isBare = true ∨ t.isBraced = true := by
  rcases t.tokens_cases with hbare | hbraced | ⟨b, next, rest', htokens, hnext⟩ | ⟨c, rest', htokens⟩
  · exact .inl hbare
  · exact .inr hbraced
  · rw [htokens, List.cons_append, List.cons_append, throughBraceMark_word,
      throughBraceMark_cons hnext] at h
    obtain ⟨-, rfl⟩ := List.cons.inj h
    cases hrest
    exact absurd rfl hnext
  · obtain ⟨ts, hts⟩ := exists_throughBraceMark_cons (.mark c) (rest' ++ more)
    rw [htokens, List.cons_append, hts] at h
    simp at h

/-- What is one word between brackets is a bare type. -/
theorem Results.isPlain_of_word {results : ParameterList} {a : Text}
    (hparts : results.parameters.parts = [[.word a]]) (htokens : results.tokens = [.word a]) :
    IsPlain (list results) := by
  obtain ⟨p, comma, hne⟩ := results
  have hcomma : comma = false := by
    cases comma with
    | false => rfl
    | true => simp [ParameterList.tokens, listTokens, hparts] at htokens
  cases p with
  | unnamed types =>
    obtain ⟨t, types, rfl, ht, hnil⟩ := List.map_eq_cons_iff.1 hparts
    obtain rfl := List.map_eq_nil_iff.1 hnil
    exact .list hcomma rfl (Typed.isBare_of_tokens ht)
  | named groups =>
    cases groups with
    | nil => simp [Parameters.parts] at hparts
    | cons g groups =>
      have hmem : .word g.last :: g.type.tokens ∈ (Parameters.named (g :: groups)).parts := by
        simp [Parameters.parts]
      rw [hparts, List.mem_singleton] at hmem
      exact absurd (List.cons.inj hmem).2 g.type.tokens_ne_nil

/-- Results that are read are plain, or a struct or an interface. -/
theorem Results.plain_or_braced {results : Results} {result : Option Text}
    {more returned rest : List Token} (hreturns : Returns result returned) (hrest : IsRest rest)
    (h : throughBraceMark (results.tokens ++ more) = returned ++ rest) :
    results.IsPlain ∨ results.IsBraced := by
  cases results with
  | nothing => exact .inl .nothing
  | single type hbracketed =>
    obtain ⟨first, ts, htokens, hfirst, hopen⟩ := type.tokens_cons
    have hhead : first :: throughBraceMark (ts ++ more) = returned ++ rest := by
      rw [← h, Results.tokens, htokens, List.cons_append, throughBraceMark_cons hfirst]
    cases hreturns with
    | nothing =>
      rw [List.nil_append] at hhead
      subst hhead
      cases hrest
      exact absurd rfl hfirst
    | bare a =>
      rcases GoType.bare_or_braced hrest h with hbare | hbraced
      · exact .inl (.single hbare)
      · exact .inr (.single hbraced)
    | bracketed a =>
      rw [hopen (List.cons.inj hhead).1] at hbracketed
      cases hbracketed
  | list results =>
    rw [Results.tokens, List.cons_append, throughBraceMark_cons (by decide), List.append_assoc] at h
    cases hreturns with
    | nothing =>
      rw [List.nil_append] at h
      subst h
      cases hrest
    | bare a => simp at h
    | bracketed a =>
      have hlists : Lists [.one a] [.word a] := .plain _
      obtain ⟨hparts, htokens, -⟩ := eq_of_lists (fun _ => Parameters.part) hlists
        (List.cons.inj h).2
      exact .inl (Results.isPlain_of_word hparts htokens)

/-! ## §6 What a source offers -/

/-- Nothing follows the brace. -/
theorem eq_nil_of_throughBraceMark {ts before rest : List Token}
    (h : throughBraceMark ts = before ++ .mark '{' :: rest) : rest = [] := by
  induction ts generalizing before with
  | nil => simp [throughBraceMark] at h
  | cons t ts ih =>
    rw [throughBraceMark] at h
    split at h
    · cases before with
      | nil => simpa using h.symm
      | cons t' before => simp at h
    · next hne =>
      cases before with
      | nil => exact absurd (List.cons.inj h).1 hne
      | cons t' before => exact ih (List.cons.inj h).2

/-- What is read as a signature consists of words, brackets and commas up to the brace. -/
theorem isReadable_of_ofTokens {ts : List Token} {f : Function}
    (h : ofTokens (throughBraceMark ts) = .ok f) {t : Token} (ht : t ∈ throughBraceMark ts) :
    isReadable t = true := by
  obtain ⟨gs, hspells, -⟩ := ofTokens_eq_ok_iff.1 h
  generalize htokens : throughBraceMark ts = tokens at hspells ht
  cases hspells with
  | @declaration _ _ _ listed returned rest hlists hreturns hrest =>
    have hsignature : ∀ t ∈ signatureTokens f.name listed returned, isReadable t = true := by
      intro t ht
      rcases mem_signature hlists hreturns ht with ⟨a, rfl⟩ | rfl | rfl | rfl <;> rfl
    have hsplit : throughBraceMark ts = signatureTokens f.name listed returned ++ rest := by
      simp [htokens, signatureTokens]
    rw [← htokens, hsplit] at ht
    rcases List.mem_append.1 ht with ht | ht
    · exact hsignature t ht
    · cases hrest with
      | nothing => cases ht
      | body rest =>
        obtain rfl := eq_nil_of_throughBraceMark hsplit
        obtain rfl := List.mem_singleton.1 ht
        rfl

theorem Results.IsPlain.one_bare {results : Results} (h : results.IsPlain) :
    results.count ≤ 1 ∧ ∀ t ∈ results.types, t.isBare = true := by
  cases h with
  | nothing => exact ⟨Nat.zero_le 1, by simp [Results.types]⟩
  | single hbare => exact ⟨Nat.le_refl 1, by simpa [Results.types, Typed.isBare] using hbare⟩
  | list hcomma hone hbare =>
    exact ⟨by simp [Results.count, hone, Parameters.parts],
      by simpa [Results.types, hone, Parameters.types] using hbare⟩

namespace GoDeclaration

/-- What a declaration must be like for its tokens to be read. -/
structure Passes (d : GoDeclaration) : Prop where
  receiver : d.receiver = none
  typeParameters : d.typeParameters = none
  params : d.params.parameters.areBare = true ∨ d.params.parameters.EndInChannel
  results : d.results.IsPlain ∨ d.results.IsBraced

theorem passes_of_ofTokens {d : GoDeclaration} {more : List Token} {f : Function}
    (h : ofTokens (throughBraceMark (d.tokens ++ more)) = .ok f) : d.Passes := by
  obtain ⟨gs, hspells, hdeclares⟩ := ofTokens_eq_ok_iff.1 h
  obtain ⟨receiver, own, typeParameters, params, results⟩ := d
  generalize htokens : throughBraceMark _ = tokens at hspells
  cases hspells with
  | @declaration _ _ _ listed returned rest hlists hreturns hrest =>
    cases receiver with
    | some inside => simp [tokens, enclosed, throughBraceMark] at htokens
    | none =>
      cases typeParameters with
      | some inside => simp [tokens, enclosed, throughBraceMark] at htokens
      | none =>
        have hbehind : throughBraceMark (params.tokens ++ .mark ')' :: (results.tokens ++ more)) =
            listed ++ .mark ')' :: (returned ++ rest) :=
          And.right (by simpa [tokens, enclosed, throughBraceMark] using htokens)
        obtain ⟨hparts, -, hresults⟩ := eq_of_lists (fun _ => Parameters.part) hlists hbehind
        exact ⟨rfl, rfl, bare_or_endInChannel hparts hdeclares,
          Results.plain_or_braced hreturns hrest hresults⟩

/-- A declaration whose types are bare and whose result is plain can be expressed. -/
theorem Passes.not_isUnsupported {d : GoDeclaration} (h : d.Passes)
    (hparams : d.params.parameters.areBare = true) (hresults : d.results.IsPlain) :
    ¬ d.IsUnsupported := by
  obtain ⟨hcount, hbareResults⟩ := hresults.one_bare
  rintro (hreceiver | htypes | hresults | ⟨t, ht, hbare⟩)
  · simp [h.receiver] at hreceiver
  · simp [h.typeParameters] at htypes
  · exact absurd hresults (Nat.not_lt.2 hcount)
  · have hall : t.isBare = true := by
      rcases List.mem_append.1 ht with ht | ht
      · exact List.all_eq_true.1 hparams t ht
      · exact hbareResults t ht
    rw [hall] at hbare
    cases hbare

/-- A declaration that is read although bindings cannot express it slips through. -/
theorem Passes.slipsThrough {d : GoDeclaration} (h : d.Passes) (hun : d.IsUnsupported) :
    d.SlipsThrough := by
  refine ⟨h.receiver, h.typeParameters, h.params, h.results, ?_⟩
  rcases h.params with hparams | hchannel
  · rcases h.results with hplain | hbraced
    · exact absurd hun (h.not_isUnsupported hparams hplain)
    · exact .inr hbraced
  · exact .inl hchannel

end GoDeclaration

/-- What lines offer in front of others. -/
def offersOf : List Text → List Text → List Function
  | [], _ => []
  | line :: before, rest => (offered? line (before ++ rest)).toList ++ offersOf before rest

/-- Every line offers for itself. -/
theorem exportedIn_lines (before rest : List Text) :
    exportedIn (before ++ rest) = offersOf before rest ++ exportedIn rest := by
  induction before with
  | nil => rfl
  | cons line before ih => rw [List.cons_append, exportedIn, ih, offersOf, List.append_assoc]

/-- A declaration that is offered passes. -/
theorem passes_of_offered {d : GoDeclaration} {line s : Text} {f : Function}
    (hd : Begins d.tokens s) (h : offered? line (lines s) = some f) : d.Passes := by
  have hparse : ∃ f', Signature.parse (declaration (lines s)) = .ok f' := by
    unfold offered? at h
    split at h
    · split at h
      · split at h
        · next f' hparse => exact ⟨f', by assumption⟩
        · cases h
      · cases h
    · cases h
  obtain ⟨f', hparse⟩ := hparse
  rw [parse_declaration, Signature.parse, ofText_throughBrace] at hparse
  obtain ⟨more, hmore⟩ := hd.reads fun t ht => isReadable_of_ofTokens hparse ht
  rw [hmore] at hparse
  exact GoDeclaration.passes_of_ofTokens hparse

/-- A marker in front of a declaration that bindings cannot express has no entry, wherever it stands in a
source and whatever else stands there, unless the declaration slips through. -/
theorem exported_of_unsupported {source line s : Text} {before : List Text} {d : GoDeclaration}
    (hlines : lines source = before ++ line :: lines s) (hd : Begins d.tokens s)
    (hun : d.IsUnsupported) (hslip : ¬ d.SlipsThrough) :
    offered? line (lines s) = none ∧
      exported source = offersOf before (line :: lines s) ++ exportedIn (lines s) := by
  have hnone : offered? line (lines s) = none := by
    cases hoffered : offered? line (lines s) with
    | none => rfl
    | some f => exact absurd ((passes_of_offered hd hoffered).slipsThrough hun) hslip
  refine ⟨hnone, ?_⟩
  rw [exported, hlines, exportedIn_lines, exportedIn, hnone]
  rfl

/-- A method with a parameter that is called by an accented letter, and two results. -/
def drawMethod : GoDeclaration where
  receiver := some [.word "s", .mark '*', .word "Screen"]
  name := "draw"
  params := {
    parameters := .named [{ last := "\u00e9", type := { variadic := true, type := .name "int" } }] }
  results := .list { parameters := .unnamed [{ type := .name "int" }, { type := .name "error" }] }

/-- The method with a brace in a comment. -/
def drawText : Text :=
  "func (s *Screen) " ++
    ('/' :: '*' :: (" \x7b " ++ '*' :: '/' :: "draw(\u00e9 ...int) (int,error) \x7b\x7d"))

theorem exported_of_unsupported_method :
    lines (markerLine "draw" ++ '\n' :: drawText) = [] ++ markerLine "draw" :: lines drawText ∧
    Begins drawMethod.tokens drawText ∧ drawMethod.IsUnsupported ∧ ¬ drawMethod.SlipsThrough ∧
    exported (markerLine "draw" ++ '\n' :: drawText) = [] := by
  have hlines : lines (markerLine "draw" ++ '\n' :: drawText) =
      [] ++ markerLine "draw" :: lines drawText := by decide +kernel
  have hbegins : Begins drawMethod.tokens drawText := by
    refine .word (by decide) (by decide) (.blank (by decide) (.mark (by decide) ?_))
    refine .word (by decide) (by decide) (.blank (by decide) (.mark (by decide) ?_))
    refine .word (by decide) (by decide) (.mark (by decide) (.blank (by decide) (.comment " \x7b " ?_)))
    refine .word (by decide) (by decide) (.mark (by decide) ?_)
    refine .word (by decide +kernel) (by decide) (.blank (by decide) (.dots ?_))
    refine .word (by decide) (by decide) (.mark (by decide) (.blank (by decide) (.mark (by decide) ?_)))
    refine .word (by decide) (by decide) (.mark (by decide) ?_)
    exact .word (by decide) (by decide) (.mark (by decide) (.rest _))
  have hun : drawMethod.IsUnsupported := .inl rfl
  have hslip : ¬ drawMethod.SlipsThrough := fun h => by cases h.receiver
  refine ⟨hlines, hbegins, hun, hslip, ?_⟩
  rw [(exported_of_unsupported hlines hbegins hun hslip).2]
  decide +kernel

/-! ## §7 Declarations that slip through -/

theorem Typed.tokens_of_isBare {t : Typed} (h : t.isBare = true) : ∃ a, t.tokens = [.word a] := by
  obtain ⟨variadic, type⟩ := t
  simp only [Typed.isBare, Bool.and_eq_true, Bool.not_eq_true'] at h
  obtain ⟨rfl, hbare⟩ := h
  cases type with
  | name a => exact ⟨a, rfl⟩
  | _ => cases hbare

theorem Typed.tokens_of_isBareChannel {t : Typed} (h : t.isBareChannel = true) :
    ∃ a, t.tokens = [.word "chan", .word a] := by
  obtain ⟨variadic, type⟩ := t
  simp only [Typed.isBareChannel, Bool.and_eq_true, Bool.not_eq_true'] at h
  obtain ⟨rfl, hchannel⟩ := h
  cases type with
  | channel direction element =>
    cases direction with
    | both =>
      cases element with
      | name a => exact ⟨a, rfl⟩
      | _ => cases hchannel
    | _ => cases hchannel
  | _ => cases hchannel

/-- Types that are bare, or channels of bare ones, are groups. -/
theorem exists_groups {types : List Typed}
    (h : ∀ t ∈ types, t.isBare = true ∨ t.isBareChannel = true) :
    ∃ gs : List Group, types.map Typed.tokens = gs.map Group.tokens := by
  induction types with
  | nil => exact ⟨[], rfl⟩
  | cons t types ih =>
    obtain ⟨gs, hgs⟩ := ih fun t' ht' => h t' (List.mem_cons_of_mem t ht')
    rcases h t List.mem_cons_self with hbare | hchannel
    · obtain ⟨a, ha⟩ := t.tokens_of_isBare hbare
      exact ⟨.one a :: gs, by simp [ha, hgs, Group.tokens]⟩
    · obtain ⟨a, ha⟩ := t.tokens_of_isBareChannel hchannel
      exact ⟨.two "chan" a :: gs, by simp [ha, hgs, Group.tokens]⟩

/-- Names with bare types are groups, of which the last has two words. -/
theorem exists_groups_named {groups : List NamedGroup} (h : ∀ g ∈ groups, g.type.isBare = true) :
    ∃ gs : List Group, (Parameters.named groups).parts = gs.map Group.tokens ∧
      (gs = [] ∨ EndsInPair gs) := by
  induction groups with
  | nil => exact ⟨[], rfl, .inl rfl⟩
  | cons g groups ih =>
    obtain ⟨gs, hgs, hends⟩ := ih fun g' hg' => h g' (List.mem_cons_of_mem g hg')
    obtain ⟨a, ha⟩ := g.type.tokens_of_isBare (h g List.mem_cons_self)
    refine ⟨g.others.map .one ++ .two g.last a :: gs, ?_, .inr ?_⟩
    · rw [Parameters.parts] at hgs ⊢
      rw [List.flatMap_cons, hgs, ha]
      simp [Group.tokens]
    · rcases hends with rfl | ⟨init, b, type, rfl⟩
      · exact ⟨_, _, _, rfl⟩
      · exact ⟨g.others.map .one ++ .two g.last a :: init, b, type, by simp⟩

/-- Bare types, and parameters that end in a channel, are groups that get types. -/
theorem exists_declares {p : Parameters} (h : p.areBare = true ∨ p.EndInChannel) :
    ∃ gs params, p.parts = gs.map Group.tokens ∧ Declares gs params := by
  rcases h with hbare | ⟨init, channel, rfl, hchannel, hinit⟩
  · rw [Parameters.areBare, List.all_eq_true] at hbare
    cases p with
    | unnamed types =>
      obtain ⟨gs, hgs⟩ := exists_groups fun t ht => .inl (hbare t ht)
      have hsingle : AllSingle gs := by
        intro g hg
        have hmem : g.tokens ∈ types.map Typed.tokens := hgs ▸ List.mem_map_of_mem hg
        obtain ⟨t, ht, htg⟩ := List.mem_map.1 hmem
        obtain ⟨a, ha⟩ := t.tokens_of_isBare (hbare t ht)
        cases g with
        | one b => rfl
        | two b type => simp [Group.tokens, ha] at htg
      exact ⟨gs, _, hgs, .types hsingle⟩
    | named groups =>
      obtain ⟨gs, hgs, hends⟩ := exists_groups_named fun g hg =>
        hbare g.type (List.mem_map_of_mem hg)
      have hsome : AllSingle gs ∨ EndsInPair gs := hends.imp_left fun h => by simp [h, AllSingle]
      obtain ⟨params, hparams⟩ := exists_declares_iff.2 hsome
      exact ⟨gs, params, hgs, hparams⟩
  · obtain ⟨gs, hgs⟩ := exists_groups hinit
    obtain ⟨a, ha⟩ := channel.tokens_of_isBareChannel hchannel
    obtain ⟨params, hparams⟩ := exists_declares_iff.2 (.inr ⟨gs, "chan", a, rfl⟩)
    exact ⟨gs ++ [.two "chan" a], params, by simp [Parameters.parts, hgs, ha, Group.tokens], hparams⟩

/-- Results that slip through are read as none, or as one word. -/
theorem exists_returns {results : Results} (h : results.IsPlain ∨ results.IsBraced)
    (more : List Token) : ∃ result returned rest, Returns result returned ∧ IsRest rest ∧
      throughBraceMark (results.tokens ++ .mark '{' :: more) = returned ++ rest := by
  rcases h with hplain | hbraced
  · cases hplain with
    | nothing => exact ⟨none, [], _, .nothing, .body [], by simp [Results.tokens]⟩
    | @single type _ hbare =>
      cases type with
      | name a => exact ⟨_, _, _, .bare a, .body [], by simp [Results.tokens, GoType.tokens]⟩
      | _ => cases hbare
    | @list results t hcomma hone hbare =>
      obtain ⟨a, ha⟩ := t.tokens_of_isBare hbare
      refine ⟨_, _, _, .bracketed a, .body [], ?_⟩
      simp [Results.tokens, ParameterList.tokens, listTokens, hcomma, hone, Parameters.parts, ha,
        throughBraceMark]
  · cases hbraced with
    | @single type _ hbraced =>
      cases type with
      | struct fields =>
        exact ⟨_, _, _, .bare "struct", .body [], by simp [Results.tokens, GoType.tokens]⟩
      | interface elements =>
        exact ⟨_, _, _, .bare "interface", .body [], by simp [Results.tokens, GoType.tokens]⟩
      | _ => cases hbraced

/-- The tokens of a list are groups as they are listed. -/
theorem ParameterList.lists {p : ParameterList} {gs : List Group}
    (h : p.parameters.parts = gs.map Group.tokens) : Lists gs p.tokens := by
  obtain ⟨parameters, comma, hne⟩ := p
  dsimp only at h
  rw [ParameterList.tokens, h, listTokens]
  cases comma with
  | false =>
    rw [if_neg (by simp), List.append_nil]
    exact .plain gs
  | true =>
    have hgs : gs ≠ [] := by
      rintro rfl
      exact hne rfl h
    exact .trailing hgs

theorem throughBraceMark_append_of_not_mem {ts : List Token} (h : .mark '{' ∉ ts)
    (rest : List Token) : throughBraceMark (ts ++ rest) = ts ++ throughBraceMark rest := by
  induction ts with
  | nil => rfl
  | cons t ts ih =>
    rw [List.mem_cons, not_or] at h
    rw [List.cons_append, throughBraceMark_cons (Ne.symm h.1), ih h.2, List.cons_append]

/-- A declaration that slips through has an entry if it has a body, there is no comment in it, and its
names begin with an ASCII letter or an underscore (`Laid`). -/
theorem offered_of_slipsThrough {d : GoDeclaration} (h : d.SlipsThrough) {line name s : Text}
    {body : List Token} (hname : markerName? line = some name)
    (hs : Laid (d.tokens ++ .mark '{' :: body) s) (hstart : startsWith s "func" = true) :
    ∃ params result, offered? line (lines s) = some ⟨name, params, result⟩ := by
  obtain ⟨gs, params, hparts, hdeclares⟩ := exists_declares h.params
  obtain ⟨result, returned, rest, hreturns, hrest, hresults⟩ := exists_returns h.results body
  have hlists : Lists gs d.params.tokens := ParameterList.lists hparts
  have hbrace : .mark '{' ∉ d.params.tokens := fun hmem => by
    simpa using mem_of_lists hlists hmem
  have hspells : Spells (throughBraceMark (ofText s)) d.name gs result := by
    rw [ofText_eq_iff.2 hs]
    have htokens : throughBraceMark (d.tokens ++ .mark '{' :: body) = .word "func" ::
        .word d.name :: .mark '(' :: (d.params.tokens ++ .mark ')' :: (returned ++ rest)) := by
      rw [GoDeclaration.tokens, h.receiver, h.typeParameters, GoDeclaration.enclosed,
        GoDeclaration.enclosed]
      simp [throughBraceMark_cons, throughBraceMark_append_of_not_mem hbrace, hresults]
    rw [htokens]
    exact .declaration d.name hlists hreturns hrest
  have hparse : Signature.parse (declaration (lines s)) = .ok ⟨d.name, params, result⟩ := by
    rw [parse_declaration, Signature.parse, ofText_throughBrace, ofTokens_eq_ok_iff]
    exact ⟨gs, hspells, hdeclares⟩
  obtain ⟨next, others, hlines, hnext⟩ := startsFunction_of_startsWith hstart
  refine ⟨params, result, ?_⟩
  unfold offered?
  rw [hname, hlines]
  dsimp only
  rw [if_pos hnext, ← hlines, hparse]

/-- A function with an interface as result. -/
def interfaceResult : GoDeclaration where
  name := "f"
  params := { parameters := .unnamed [] }
  results := .single (.interface []) rfl

/-- A function with a channel without a name as parameter. -/
def channelParameter : GoDeclaration where
  name := "f"
  params := { parameters := .unnamed [{ type := .channel .both (.name "int") }] }

/-- Declarations that bindings cannot express can have entries. -/
theorem exported_unsupported_entries :
    (interfaceResult.IsUnsupported ∧
      Begins interfaceResult.tokens "func f() interface\x7b\x7d \x7b return 1 \x7d" ∧
      exported "//export f\nfunc f() interface\x7b\x7d \x7b return 1 \x7d" =
        [⟨"f", [], some "interface"⟩]) ∧
    channelParameter.IsUnsupported ∧
      Begins channelParameter.tokens "func f(chan int) \x7b\n\x7d" ∧
      exported "//export f\nfunc f(chan int) \x7b\n\x7d" = [⟨"f", [⟨"chan", "int"⟩], none⟩] := by
  refine ⟨⟨?_, ?_, by decide +kernel⟩, ?_, ?_, by decide +kernel⟩
  · exact .inr (.inr (.inr ⟨_, List.mem_singleton_self _, rfl⟩))
  · refine .word (by decide) (by decide) (.blank (by decide) ?_)
    refine .word (by decide) (by decide) (.mark (by decide) (.mark (by decide) (.blank (by decide) ?_)))
    exact .word (by decide) (by decide) (.mark (by decide) (.mark (by decide) (.rest _)))
  · exact .inr (.inr (.inr ⟨_, List.mem_singleton_self _, rfl⟩))
  · refine .word (by decide) (by decide) (.blank (by decide) ?_)
    refine .word (by decide) (by decide) (.mark (by decide) ?_)
    refine .word (by decide) (by decide) (.blank (by decide) (.word (by decide) (by decide) ?_))
    exact .mark (by decide) (.rest _)

end EmbeddedGo.Go
