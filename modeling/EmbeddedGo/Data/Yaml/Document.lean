/-
EmbeddedGo.Data.Yaml.Document — the value that a YAML text writes.

Values are made level by level: first what stands directly in the outermost node, then what stands
in the sequences and mappings found there, and so on. So the first problem is one that is nested
least, and of several at one depth the one that is met first.

  §1 merging: the pairs of other mappings go in front of those of the mapping itself
  §2 values of scalars
  §3 problems, level by level
  §4 values of nodes
  §5 `Yaml.read`
-/
import EmbeddedGo.Data.Yaml.Node
import EmbeddedGo.Data.Yaml.Plain

namespace EmbeddedGo.Yaml

open Text

/-! ## §1 Merging -/

/-- Whether a node is a plain scalar that reads as the key for merging. -/
def isMergeKey : Node → Bool
  | .plain _ s => s == ['<', '<']
  | _ => false

/-- The kind of a node in messages. -/
def Node.kind : Node → Text
  | .plain .. | .quoted .. => "scalar"
  | .sequence .. => "sequence"
  | .mapping .. => "mapping"

/-- The problem of a mapping that merges something else. -/
def unmergeable {α : Type} (start : Mark) (words : Text) (n : Node) : Except Problem α :=
  .error (.marked (some ("while constructing a mapping", start))
    (words ++ ", but found " ++ n.kind) n.mark)

mutual

/-- The pairs of a mapping with those that it merges in front. -/
def flatten : (fuel : Nat) → (start : Mark) → List (Node × Node) →
    Except Problem (List (Node × Node))
  | 0, _, pairs => .ok pairs
  | fuel + 1, start, pairs => do
    let merged ← (pairs.filter (isMergeKey ·.1)).mapM fun p => mergedPairs fuel start p.2
    return merged.flatten ++ pairs.filter (!isMergeKey ·.1)

/-- The pairs that a node under the key for merging adds. Of several mappings the first counts most,
so it comes last. -/
def mergedPairs : (fuel : Nat) → (start : Mark) → Node → Except Problem (List (Node × Node))
  | 0, _, _ => .ok []
  | fuel + 1, start, n =>
    match n with
    | .mapping m pairs => flatten fuel m pairs
    | .sequence _ items => do
      let parts ← items.mapM fun item =>
        match item with
        | .mapping m pairs => flatten fuel m pairs
        | other => unmergeable start "expected a mapping for merging" other
      return parts.reverse.flatten
    | other => unmergeable start "expected a mapping or list of mappings for merging" other

end

/-! ## §2 Scalars -/

/-- The problem of a mark that stands for no value. -/
def noConstructor {α : Type} (tag : Text) (m : Mark) : Except Problem α :=
  .error (.marked none
    ("could not determine a constructor for the tag " ++ quoted ("tag:yaml.org,2002:" ++ tag)) m)

/-- The value of a plain scalar; as a key the mark for the default value is a text. -/
def plainValue (isKey : Bool) (m : Mark) (s : Text) : Except Problem Value :=
  match Plain.ofText s with
  | .value v => v
  | .merge => noConstructor "merge" m
  | .default => if isKey then .ok (.text s) else noConstructor "value" m

/-! ## §3 Levels -/

/-- What a node that stands directly in another one leaves for the next level, unless it is a scalar
without a value. -/
def nextLevel (isKey : Bool) : Node → Except Problem (List Node)
  | .plain m s => (plainValue isKey m s).map fun _ => []
  | .quoted .. => .ok []
  | n => .ok [n]

/-- What the pairs of a mapping leave for the next level. A sequence or a mapping cannot be a key. -/
def pairsLevel (start : Mark) : List (Node × Node) → Except Problem (List Node)
  | [] => .ok []
  | (k, v) :: rest => do
    let keys ← nextLevel true k
    if !keys.isEmpty then
      .error (.marked (some ("while constructing a mapping", start)) "found unhashable key" k.mark)
    else return (← nextLevel false v) ++ (← pairsLevel start rest)

/-- What a sequence or a mapping leaves for the next level. -/
def level (fuel : Nat) : Node → Except Problem (List Node)
  | .sequence _ items => (items.mapM (nextLevel false)).map List.flatten
  | .mapping m pairs => do pairsLevel m (← flatten fuel m pairs)
  | _ => .ok []

/-- Checks the sequences and mappings of one level, and then those that stand in them. -/
def checkLevels : (fuel : Nat) → List Node → Except Problem Unit
  | 0, _ | _, [] => .ok ()
  | fuel + 1, ns => do checkLevels fuel (← ns.mapM (level fuel)).flatten

/-! ## §4 Values -/

mutual

/-- The value of a node. -/
def valueOf : (fuel : Nat) → (isKey : Bool) → Node → Except Problem Value
  | 0, _, _ => .ok .null
  | fuel + 1, isKey, n =>
    match n with
    | .plain m s => plainValue isKey m s
    | .quoted _ points => .ok (Value.ofPoints points)
    | .sequence _ items => (items.mapM (valueOf fuel false)).map .list
    | .mapping m pairs => do return .map (← entriesOf fuel [] (← flatten fuel m pairs))

/-- The entries of a mapping, after those made before. -/
def entriesOf : (fuel : Nat) → (done : List (Value × Value)) → List (Node × Node) →
    Except Problem (List (Value × Value))
  | 0, done, _ => .ok done
  | _ + 1, done, [] => .ok done
  | fuel + 1, done, (k, v) :: rest => do
    let key ← valueOf fuel true k
    let value ← valueOf fuel false v
    entriesOf fuel (Value.insert key value done) rest

end

mutual

/-- How many nodes a tree has. -/
def Node.size : Node → Nat
  | .plain .. | .quoted .. => 1
  | .sequence _ items => sizeItems items + 1
  | .mapping _ pairs => sizePairs pairs + 1

/-- How many nodes the items have. -/
def sizeItems : List Node → Nat
  | [] => 0
  | n :: ns => n.size + sizeItems ns + 1

/-- How many nodes the pairs have. -/
def sizePairs : List (Node × Node) → Nat
  | [] => 0
  | (k, v) :: rest => k.size + v.size + sizePairs rest + 1

end

/-! ## §5 Documents -/

/-- The value that a text writes; a text without a document writes nothing. -/
def read (s : Text) : Except Problem Value := do
  match ← Node.ofText? s with
  | none => return .null
  | some n =>
    let fuel := 2 * n.size + 2
    checkLevels fuel [n]
    valueOf fuel false n

end EmbeddedGo.Yaml
