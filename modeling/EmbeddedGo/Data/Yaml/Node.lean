/-
EmbeddedGo.Data.Yaml.Node — the tree of scalars, sequences and mappings that tokens write.

  §1 nodes
  §2 reading tokens
  §3 nodes from tokens; the fuel is more than the number of tokens
  §4 `Node.ofText?`: the one document of a text, if it has one
-/
import EmbeddedGo.Data.Yaml.Token

namespace EmbeddedGo.Yaml

open Text

/-! ## §1 Nodes -/

/-- A node and where it begins. -/
inductive Node where
  | plain (mark : Mark) (s : Text)
  /-- A scalar between quotes, by its code points. -/
  | quoted (mark : Mark) (points : List Nat)
  | sequence (mark : Mark) (items : List Node)
  | mapping (mark : Mark) (pairs : List (Node × Node))
  deriving Inhabited

/-- Where a node begins. -/
def Node.mark : Node → Mark
  | plain m _ | quoted m _ | sequence m _ | mapping m _ => m

/-! ## §2 Tokens -/

/-- What is left of the tokens. -/
abbrev Tokens := List Located

/-- The token at the head. -/
def head (ts : Tokens) : Token := (ts.head?.map (·.token)).getD .streamEnd

/-- Where the token at the head begins. -/
def headMark (ts : Tokens) : Mark := (ts.head?.map (·.mark)).getD {}

/-- The problem of a token that does not fit. Trouble fits nowhere, and is the problem itself. -/
def unfit {α : Type} (context : Option (Text × Mark)) (words : Text) (ts : Tokens) :
    Except Problem α :=
  match head ts with
  | .trouble cause => .error cause
  | t => .error (.marked context (words ++ Text.quoted t.name) (headMark ts))

/-- What nothing at all stands for. -/
def absent (ts : Tokens) : Node := .plain (headMark ts) []

/-- The problem of brackets that do not go on as they should. -/
def unfitInFlow {α : Type} (what closing : Text) (start : Mark) (ts : Tokens) : Except Problem α :=
  unfit (some ("while parsing a flow " ++ what, start))
    ("expected ',' or '" ++ closing ++ "', but got ") ts

/-- The problem of a block that does not go on as it should. -/
def unfitInBlock {α : Type} (what : Text) (start : Mark) (ts : Tokens) : Except Problem α :=
  unfit (some ("while parsing a block " ++ what, start)) "expected <block end>, but found " ts

/-! ## §3 Nodes from tokens -/

/-- Where a node can stand. -/
inductive Place where
  | flow
  | block
  /-- In a block, where a sequence need not be indented. -/
  | blockValue
  deriving DecidableEq

mutual

/-- The node at the head. -/
def node : (fuel : Nat) → Place → Tokens → Except Problem (Node × Tokens)
  | 0, _, ts => unfit none "expected the node content, but found " ts
  | fuel + 1, place, ts =>
    let m := headMark ts
    let rest := ts.drop 1
    match head ts, place with
    | .entry, .blockValue => do
      let (items, ts) ← dashes fuel ts
      return (.sequence m items, ts)
    | .plain s, _ => .ok (.plain m s, rest)
    | .quoted points, _ => .ok (.quoted m points, rest)
    | .flowSequence, _ => do
      let (items, ts) ← flowItems fuel m true rest
      return (.sequence m items, ts)
    | .flowMapping, _ => do
      let (pairs, ts) ← flowPairs fuel m true rest
      return (.mapping m pairs, ts)
    | .blockSequence, .block | .blockSequence, .blockValue => do
      let (items, ts) ← blockItems fuel m rest
      return (.sequence m items, ts)
    | .blockMapping, .block | .blockMapping, .blockValue => do
      let (pairs, ts) ← blockPairs fuel m rest
      return (.mapping m pairs, ts)
    | _, _ =>
      let what : Text := if place = .flow then "flow" else "block"
      unfit (some ("while parsing a " ++ what ++ " node", m)) "expected the node content, but found "
        ts

/-- The node at the head, or the absent one if a token stands there that ends it. -/
def nodeUnless : (fuel : Nat) → Place → (ends : List Token) → Tokens →
    Except Problem (Node × Tokens)
  | 0, _, _, ts => .ok (absent ts, ts)
  | fuel + 1, place, ends, ts =>
    if ends.contains (head ts) then .ok (absent ts, ts) else node fuel place ts

/-- The entries of a sequence that is not indented. -/
def dashes : (fuel : Nat) → Tokens → Except Problem (List Node × Tokens)
  | 0, ts => .ok ([], ts)
  | fuel + 1, ts =>
    if head ts = .entry then do
      let (item, ts) ← nodeUnless fuel .block [.entry, .key, .colon, .blockEnd] (ts.drop 1)
      let (items, ts) ← dashes fuel ts
      return (item :: items, ts)
    else .ok ([], ts)

/-- The entries of an indented sequence. -/
def blockItems : (fuel : Nat) → (start : Mark) → Tokens → Except Problem (List Node × Tokens)
  | 0, _, ts => .ok ([], ts)
  | fuel + 1, start, ts =>
    match head ts with
    | .entry => do
      let (item, ts) ← nodeUnless fuel .block [.entry, .blockEnd] (ts.drop 1)
      let (items, ts) ← blockItems fuel start ts
      return (item :: items, ts)
    | .blockEnd => .ok ([], ts.drop 1)
    | _ => unfitInBlock "collection" start ts

/-- The value behind a key, if a colon is there. -/
def valueUnless : (fuel : Nat) → Place → (ends : List Token) → Tokens →
    Except Problem (Node × Tokens)
  | 0, _, _, ts => .ok (absent ts, ts)
  | fuel + 1, place, ends, ts =>
    if head ts = .colon then nodeUnless fuel place ends (ts.drop 1) else .ok (absent ts, ts)

/-- The pairs of an indented mapping. -/
def blockPairs : (fuel : Nat) → (start : Mark) → Tokens →
    Except Problem (List (Node × Node) × Tokens)
  | 0, _, ts => .ok ([], ts)
  | fuel + 1, start, ts =>
    match head ts with
    | .key => do
      let ends := [.key, .colon, .blockEnd]
      let (k, ts) ← nodeUnless fuel .blockValue ends (ts.drop 1)
      let (v, ts) ← valueUnless fuel .blockValue ends ts
      let (pairs, ts) ← blockPairs fuel start ts
      return ((k, v) :: pairs, ts)
    | .blockEnd => .ok ([], ts.drop 1)
    | _ => unfitInBlock "mapping" start ts

/-- The items between square brackets. A pair between them is a mapping by itself. -/
def flowItems : (fuel : Nat) → (start : Mark) → (first : Bool) → Tokens →
    Except Problem (List Node × Tokens)
  | 0, _, _, ts => .ok ([], ts)
  | fuel + 1, start, first, ts =>
    if head ts = .flowSequenceEnd then .ok ([], ts.drop 1)
    else if !first && head ts != .separator then unfitInFlow "sequence" "]" start ts
    else
      let ts := if first then ts else ts.drop 1
      match head ts with
      | .flowSequenceEnd => .ok ([], ts.drop 1)
      | .key => do
        let m := headMark ts
        let (k, ts) ← nodeUnless fuel .flow [.colon, .separator, .flowSequenceEnd] (ts.drop 1)
        let (v, ts) ← valueUnless fuel .flow [.separator, .flowSequenceEnd] ts
        let (items, ts) ← flowItems fuel start false ts
        return (.mapping m [(k, v)] :: items, ts)
      | _ => do
        let (item, ts) ← node fuel .flow ts
        let (items, ts) ← flowItems fuel start false ts
        return (item :: items, ts)

/-- The pairs between curly brackets. A node without a colon is a key without a value. -/
def flowPairs : (fuel : Nat) → (start : Mark) → (first : Bool) → Tokens →
    Except Problem (List (Node × Node) × Tokens)
  | 0, _, _, ts => .ok ([], ts)
  | fuel + 1, start, first, ts =>
    if head ts = .flowMappingEnd then .ok ([], ts.drop 1)
    else if !first && head ts != .separator then unfitInFlow "mapping" "\x7d" start ts
    else
      let ts := if first then ts else ts.drop 1
      match head ts with
      | .flowMappingEnd => .ok ([], ts.drop 1)
      | .key => do
        let (k, ts) ← nodeUnless fuel .flow [.colon, .separator, .flowMappingEnd] (ts.drop 1)
        let (v, ts) ← valueUnless fuel .flow [.separator, .flowMappingEnd] ts
        let (pairs, ts) ← flowPairs fuel start false ts
        return ((k, v) :: pairs, ts)
      | _ => do
        let (k, ts) ← node fuel .flow ts
        let v := absent ts
        let (pairs, ts) ← flowPairs fuel start false ts
        return ((k, v) :: pairs, ts)

end

/-! ## §4 Documents -/

/-- The tokens behind the directives at the head. A version can be given once, and the first number
of it has to be one. -/
def directives : (seen : Bool) → Tokens → Except Problem Tokens
  | seen, ⟨.directive none, _⟩ :: ts => directives seen ts
  | seen, ⟨.directive (some (major, _)), mark⟩ :: ts =>
    if seen then .error (.marked none "found duplicate YAML directive" mark)
    else if major ≠ 1 then
      .error (.marked none "found incompatible YAML document (version 1.* is required)" mark)
    else directives true ts
  | _, ts => .ok ts

/-- The tokens behind the marks that end a document. -/
def dropDocumentEnds (ts : Tokens) : Tokens := ts.dropWhile (·.token == .documentEnd)

/-- The tokens behind the line that begins a document, after its directives. -/
def documentStart (ts : Tokens) : Except Problem Tokens := do
  let ts ← directives false ts
  if head ts = .documentStart then return ts.drop 1
  else unfit none "expected '<document start>', but found " ts

/-- The content of a document that begins with a line of its own. -/
def content (fuel : Nat) (ts : Tokens) : Except Problem (Node × Tokens) :=
  match head ts with
  | .directive .. | .documentStart | .documentEnd | .streamEnd => .ok (absent ts, ts)
  | _ => node fuel .block ts

/-- Checks that nothing follows the document that began at `start`. -/
def atEnd (start : Mark) (ts : Tokens) : Except Problem Unit := do
  let ts := dropDocumentEnds ts
  if head ts = .streamEnd then return ()
  else
    let mark := headMark ts
    let _ ← documentStart ts
    .error (.marked (some ("expected a single document in the stream", start))
      "but found another document" mark)

/-- How deeply sequences and mappings can be nested. -/
def nestingLimit : Nat := 490

/-- The tokens inside of `depth` sequences and mappings, up to where these are nested too deeply. -/
def limited : (depth : Nat) → Tokens → Tokens
  | _, [] => []
  | depth, t :: ts =>
    match t.token with
    | .flowSequence | .flowMapping | .blockSequence | .blockMapping =>
      if depth = nestingLimit then [⟨.trouble .tooDeep, t.mark⟩] else t :: limited (depth + 1) ts
    | .flowSequenceEnd | .flowMappingEnd | .blockEnd => t :: limited (depth - 1) ts
    | _ => t :: limited depth ts

/-- The one document of the tokens, if they write one. -/
def Node.ofTokens? (ts : Tokens) : Except Problem (Option Node) := do
  let fuel := 4 * ts.length + 8
  match head ts with
  | .directive .. | .documentStart =>
    let (n, rest) ← content fuel (← documentStart ts)
    atEnd n.mark rest
    return some n
  | .streamEnd => return none
  | _ =>
    let (n, rest) ← node fuel .block ts
    atEnd n.mark rest
    return some n

/-- The one document of a text, if it has one. -/
def Node.ofText? (s : Text) : Except Problem (Option Node) :=
  Node.ofTokens? (limited 0 (tokens s))

end EmbeddedGo.Yaml
