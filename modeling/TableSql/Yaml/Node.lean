import TableSql.Text.Blank
import TableSql.Text.Case
import TableSql.Yaml.Token

/-!
# Nodes of a YAML text

* `Base64.decode?` — the bytes that digits of 64 values stand for: three bytes for four digits, with
  `=` in the place of digits that are missing at the end.
* `Node` — scalars, sequences and mappings; an empty place is a plain scalar without characters.
* `Node.text?` — the text that a scalar stands for.
* `Node.sameKey` — are two keys the same?
* `Node.entries?` — the entries of a mapping, with those that it takes over from other mappings.
* `Node.isSound` — can a node be read that nobody asks for?

A mapping takes over the entries of the mappings under its keys `<<`. Its own entries come before
those, and later mappings before earlier ones; of the entries of one key, the first counts.
-/

set_option autoImplicit false

namespace TableSql.Yaml

namespace Base64

def digit? (c : Char) : Option Nat :=
  if 'A' ≤ c ∧ c ≤ 'Z' then some (c.toNat - 65)
  else if 'a' ≤ c ∧ c ≤ 'z' then some (c.toNat - 71)
  else if '0' ≤ c ∧ c ≤ '9' then some (c.toNat + 4)
  else if c = '+' then some 62
  else if c = '/' then some 63
  else none

/-- The bytes that some digits stand for. The bits that a last group does not need are zero. -/
def decode? : List Char → Option (List UInt8)
  | [] => some []
  | [a, b, '=', '='] => do
    let n := 64 * (← digit? a) + (← digit? b)
    if n % 16 = 0 then return [UInt8.ofNat (n / 16)] else none
  | [a, b, c, '='] => do
    let n := 64 * (64 * (← digit? a) + (← digit? b)) + (← digit? c)
    if n % 4 = 0 then return [UInt8.ofNat (n / 1024), UInt8.ofNat (n / 4)] else none
  | a :: b :: c :: d :: rest => do
    let n := 64 * (64 * (64 * (← digit? a) + (← digit? b)) + (← digit? c)) + (← digit? d)
    let later ← decode? rest
    return UInt8.ofNat (n / 65536) :: UInt8.ofNat (n / 256) :: UInt8.ofNat n :: later
  | _ => none

end Base64

inductive Node where
  | scalar (style : Style) (tag : Option String) (text : String)
  | sequence (items : List Node)
  | mapping (entries : List (Node × Node))

namespace Node

/-- What stands where nothing is written. -/
def empty : Node := scalar .plain none ""

def scalarText? : Node → Option String
  | scalar _ _ text => some text
  | _ => none

/-- The words for nothing, apart from letter case. -/
def isNullWord (text : String) : Bool := text = "" || text = "~" || Text.asciiLower text = "null"

def isNull : Node → Bool
  | scalar .plain _ text => isNullWord text
  | _ => false

/-- The text of a scalar with a tag: its characters, or what they stand for in base 64. Values that
are no texts have none. -/
def taggedText? (tag : Option String) (text : String) : Option String :=
  match TagKind.ofName? tag with
  | .nothing | .value _ => none
  | .bytes => (Base64.decode? (text.toList.filter (!Text.isBlank ·))).bind fun bytes =>
      String.fromUTF8? ⟨bytes.toArray⟩
  | _ => some text

/-- The text that a scalar stands for. Nothing is a text only if its tag says so. -/
def text? : Node → Option String
  | node@(scalar _ tag text) =>
    if node.isNull && TagKind.ofName? tag ≠ .text then none else taggedText? tag text
  | _ => none

/-! ## Keys -/

mutual

/-- Are two keys the same? The style of scalars does not count. -/
def sameKey : Node → Node → Bool
  | scalar _ tag text, scalar _ tag' text' =>
    TagKind.ofName? tag == TagKind.ofName? tag' && text == text'
  | sequence items, sequence items' => sameItems items items'
  | mapping entries, mapping entries' => sameEntries entries entries'
  | _, _ => false

def sameItems : List Node → List Node → Bool
  | [], [] => true
  | x :: xs, y :: ys => sameKey x y && sameItems xs ys
  | _, _ => false

def sameEntries : List (Node × Node) → List (Node × Node) → Bool
  | [], [] => true
  | (k, v) :: xs, (k', v') :: ys => sameKey k k' && sameKey v v' && sameEntries xs ys
  | _, _ => false

end

/-- Is a key among those of some entries? -/
def isKeyOf (key : Node) (entries : List (Node × Node)) : Bool := entries.any (sameKey key ·.1)

def hasDistinctKeys : List (Node × Node) → Bool
  | [] => true
  | (key, _) :: rest => !isKeyOf key rest && hasDistinctKeys rest

def firstOfKeys (entries : List (Node × Node)) : List (Node × Node) :=
  (entries.foldl (fun kept e => if isKeyOf e.1 kept then kept else e :: kept) []).reverse

/-! ## Entries taken over -/

/-- Is a key the one whose value is taken over? -/
def isMergeKey : Node → Bool
  | scalar .plain none "<<" => true
  | _ => false

/-- The entries of a mapping that are its own. -/
def ownEntries (entries : List (Node × Node)) : List (Node × Node) :=
  entries.filter fun (key, _) => !key.isMergeKey

mutual

/-- The entries that a node gives to a mapping: a mapping, several of them, or nothing. -/
def givenEntries? : Node → Option (List (Node × Node))
  | scalar style tag text => if isNull (scalar style tag text) then some [] else none
  | sequence items => givenByItems? items
  | mapping entries => (mergedEntries? entries).map (ownEntries entries ++ ·)

/-- The entries that several nodes give, those of the last one first. -/
def givenByItems? : List Node → Option (List (Node × Node))
  | [] => some []
  | node :: rest => do
    let given ← givenEntries? node
    let later ← givenByItems? rest
    return later ++ given

/-- The entries that a mapping takes over, those from its last key `<<` first. -/
def mergedEntries? : List (Node × Node) → Option (List (Node × Node))
  | [] => some []
  | (key, value) :: rest => do
    let given ← if key.isMergeKey then givenEntries? value else some []
    let later ← mergedEntries? rest
    return later ++ given

end

/-- The entries of a mapping: its own, whose keys have to be different, and those that it takes
over. -/
def entries? (entries : List (Node × Node)) : Option (List (Node × Node)) := do
  let own := ownEntries entries
  let merged ← mergedEntries? entries
  if hasDistinctKeys own then return firstOfKeys (own ++ merged) else none

/-! ## Sound nodes -/

mutual

/-- How many collections a node holds inside each other, at most. -/
def depth : Node → Nat
  | scalar .. => 0
  | sequence items => depthOfItems items + 1
  | mapping entries => depthOfEntries entries + 1

/-- The depth of the deepest of some nodes. -/
def depthOfItems : List Node → Nat
  | [] => 0
  | node :: rest => max (depth node) (depthOfItems rest)

/-- The depth of the deepest node in some entries. -/
def depthOfEntries : List (Node × Node) → Nat
  | [] => 0
  | (key, value) :: rest => max (max (depth key) (depth value)) (depthOfEntries rest)

end

/-- Can a node of a limited depth be read? -/
def isSoundWithin : Nat → Node → Bool
  | _, scalar _ tag text => TagKind.ofName? tag = .nothing || (taggedText? tag text).isSome
  | 0, _ => false
  | fuel + 1, sequence items => items.all (isSoundWithin fuel)
  | fuel + 1, mapping entries =>
    match entries? entries with
    | some entries => entries.all fun (key, value) =>
        isSoundWithin fuel key && isSoundWithin fuel value
    | none => false

/-- Can a node be read that nobody asks for? Its scalars have to stand for texts or for nothing, and
its mappings have to have entries. -/
def isSound (node : Node) : Bool := isSoundWithin node.depth node

end Node

end TableSql.Yaml
