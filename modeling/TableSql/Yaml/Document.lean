import TableSql.Yaml.Node

/-!
# The document of a YAML text

* `Reader` — the tokens that are left, and what has been read of a document.
* `node?` — the node that comes next.
* `Node.ofTokens?` — the node of the one document that some tokens hold.
* `Node.parse?` — the node of a text.

An alias stands for a copy of the node with its anchor. The tokens end early in a text that is not
well formed, so a reader that needs one more refuses the text, and what comes after it is not seen.
-/

set_option autoImplicit false

namespace TableSql.Yaml

/-- A name for a node. -/
structure Anchor where
  name : String
  /-- The node and the number of its parts, once it has been read. -/
  node? : Option (Node × Nat) := none

/-- The tokens that are left, and what has been read of a document. A scalar is one part of it; a
collection has two parts of its own, apart from those of its items. -/
structure Reader where
  tokens : List Token
  /-- What the handles of tags stand for. -/
  handles : List (String × String) := []
  anchors : Array Anchor := #[]
  aliases : Nat := 0
  parts : Nat := 0
  /-- How many parts are copies. -/
  copies : Nat := 0
  /-- How many collections are open. -/
  depth : Nat := 0

namespace Reader

def skip (r : Reader) : Reader := { r with tokens := r.tokens.tail }

def meets (r : Reader) (stops : List Token) : Bool := r.tokens.head?.any stops.contains

def count (r : Reader) : Reader := { r with parts := r.parts + 1 }

/-- Into a collection. No more than 2000 can be open. -/
def enter? (r : Reader) : Option Reader :=
  if r.depth < 2000 then some { r.count with depth := r.depth + 1 } else none

/-- Out of a collection. -/
def leave (r : Reader) : Reader := { r.count with depth := r.depth - 1 }

/-- A copy of the node with an anchor. The node has to be complete, and there are no more than a
million parts that are copies. -/
def copy? (r : Reader) (name : String) : Option (Node × Reader) := do
  let anchor ← r.anchors.toList.reverse.find? (·.name == name)
  let (node, n) ← anchor.node?
  if r.copies + n > 1000000 then none
  else
    some (node,
      { r with aliases := r.aliases + 1, parts := r.parts + n, copies := r.copies + n })

/-- Few anchors for many aliases are a sign of a text that grows out of hand. -/
def hasFewAnchors (r : Reader) : Bool := r.aliases ≥ 100 && r.aliases > 10 * r.anchors.size

def addAnchor (r : Reader) (name : String) : Reader := { r with anchors := r.anchors.push { name } }

end Reader

/-! ## Nodes -/

/-- What may stand before a node: the number of its anchor, and its tag. -/
structure Properties where
  anchor : Option Nat := none
  tag : Option String := none

namespace Properties

/-- The properties that stand next, and the tokens after them. -/
def read? (r : Reader) : Option (Properties × Reader) :=
  match r.tokens with
  | .anchor a :: .tag t :: rest =>
    (t.name? r.handles).map fun tag =>
      (⟨some r.anchors.size, some tag⟩, { r.addAnchor a with tokens := rest })
  | .tag t :: .anchor a :: rest =>
    (t.name? r.handles).map fun tag =>
      (⟨some r.anchors.size, some tag⟩, { r.addAnchor a with tokens := rest })
  | .anchor a :: rest => some (⟨some r.anchors.size, none⟩, { r.addAnchor a with tokens := rest })
  | .tag t :: rest =>
    (t.name? r.handles).map fun tag => (⟨none, some tag⟩, { r with tokens := rest })
  | _ => some ({}, r)

def isGiven (p : Properties) : Bool := p.anchor.isSome || p.tag.isSome

/-- Keeps a node under its anchor, given the number of parts before it. A quoted scalar that has an
anchor and no characters counts as plain. -/
def keep (p : Properties) (start : Nat) : Node × Reader → Node × Reader
  | (node, r) =>
    match p.anchor with
    | none => (node, r)
    | some i =>
      let node :=
        match node with
        | .scalar .quoted tag "" => .scalar .plain tag ""
        | node => node
      let kept := some (node, r.parts - start)
      (node, { r with anchors := r.anchors.modify i fun a => { a with node? := kept } })

end Properties

mutual

/-- The node that comes next. The value of a key may be a sequence that is not indented. -/
def node? : Nat → Bool → Reader → Option (Node × Reader)
  | 0, _, _ => none
  | fuel + 1, isValue, r =>
    match r.tokens with
    | .alias name :: _ => r.skip.copy? name
    | _ => do
      let (p, after) ← Properties.read? r
      let missing := if p.isGiven then some (Node.scalar .plain p.tag "", after.count) else none
      let content : Option (Node × Reader) :=
        match after.tokens with
        | [] => none
        | .scalar style text :: _ => some (.scalar style p.tag text, after.skip.count)
        | .flowSequenceStart :: _ => after.skip.enter?.bind (flowItems? fuel true [])
        | .flowMappingStart :: _ => after.skip.enter?.bind (flowEntries? fuel true [])
        | .sequenceStart :: _ => after.skip.enter?.bind (items? fuel [])
        | .mappingStart :: _ => after.skip.enter?.bind (entries? fuel [])
        | .entry :: _ => if isValue then after.enter?.bind (looseItems? fuel []) else missing
        | _ => missing
      return p.keep r.parts (← content)

/-- The node that comes next, or an empty one if one of some tokens comes instead. -/
def nodeOrEmpty? : Nat → Bool → List Token → Reader → Option (Node × Reader)
  | 0, _, _, _ => none
  | fuel + 1, isValue, stops, r =>
    if r.meets stops then some (.empty, r.count) else node? fuel isValue r

/-- The items of a block sequence up to its end. -/
def items? : Nat → List Node → Reader → Option (Node × Reader)
  | 0, _, _ => none
  | fuel + 1, read, r =>
    match r.tokens with
    | .blockEnd :: _ => some (.sequence read.reverse, r.skip.leave)
    | .entry :: _ => do
      let (node, r) ← nodeOrEmpty? fuel false [.entry, .blockEnd] r.skip
      items? fuel (node :: read) r
    | _ => none

/-- The items of a block sequence that is not indented. -/
def looseItems? : Nat → List Node → Reader → Option (Node × Reader)
  | 0, _, _ => none
  | fuel + 1, read, r =>
    match r.tokens with
    | [] => none
    | .entry :: _ => do
      let (node, r) ← nodeOrEmpty? fuel false [.entry, .key, .value, .blockEnd] r.skip
      looseItems? fuel (node :: read) r
    | _ => some (.sequence read.reverse, r.leave)

/-- The entries of a block mapping up to its end. -/
def entries? : Nat → List (Node × Node) → Reader → Option (Node × Reader)
  | 0, _, _ => none
  | fuel + 1, read, r =>
    let stops : List Token := [.key, .value, .blockEnd]
    match r.tokens with
    | .blockEnd :: _ => some (.mapping read.reverse, r.skip.leave)
    | .key :: _ => do
      let (key, r) ← nodeOrEmpty? fuel true stops r.skip
      let (value, r) ← valueOrEmpty? fuel true stops r
      entries? fuel ((key, value) :: read) r
    | .value :: _ => do
      let (value, r) ← valueOrEmpty? fuel true stops r.count
      entries? fuel ((.empty, value) :: read) r
    | _ => none

/-- The value after a key, or an empty one if there is no colon or nothing after it. -/
def valueOrEmpty? : Nat → Bool → List Token → Reader → Option (Node × Reader)
  | 0, _, _, _ => none
  | fuel + 1, isValue, stops, r =>
    match r.tokens with
    | [] => none
    | .value :: _ => nodeOrEmpty? fuel isValue stops r.skip
    | _ => some (.empty, r.count)

/-- The items of a sequence between brackets. -/
def flowItems? : Nat → Bool → List Node → Reader → Option (Node × Reader)
  | 0, _, _, _ => none
  | fuel + 1, first, read, r =>
    let item (r : Reader) : Option (Node × Reader) :=
      match r.tokens with
      | .flowSequenceEnd :: _ => some (.sequence read.reverse, r.skip.leave)
      | .key :: _ => do
        let (pair, r) ← markedPair? fuel (← r.skip.enter?)
        flowItems? fuel false (pair :: read) r
      | _ => do
        let (node, r) ← node? fuel false r
        flowItems? fuel false (node :: read) r
    match r.tokens with
    | .flowSequenceEnd :: _ => some (.sequence read.reverse, r.skip.leave)
    | .flowEntry :: _ => if first then item r else item r.skip
    | _ => if first then item r else none

/-- A pair that is an item of a sequence between brackets, after the mark of its key. Where the key
is missing, the token that comes instead is passed over. -/
def markedPair? : Nat → Reader → Option (Node × Reader)
  | 0, _ => none
  | fuel + 1, r => do
    let (key, r) ←
      if r.meets [.value, .flowEntry, .flowSequenceEnd] then some (Node.empty, r.skip.count)
      else node? fuel false r
    let (value, r) ← valueOrEmpty? fuel false [.flowEntry, .flowSequenceEnd] r
    return (.mapping [(key, value)], r.leave)

/-- The entries of a mapping between brackets. -/
def flowEntries? : Nat → Bool → List (Node × Node) → Reader → Option (Node × Reader)
  | 0, _, _, _ => none
  | fuel + 1, first, read, r =>
    let stops : List Token := [.flowEntry, .flowMappingEnd]
    let entry (r : Reader) : Option (Node × Reader) :=
      match r.tokens with
      | .flowMappingEnd :: _ => some (.mapping read.reverse, r.skip.leave)
      | .key :: _ => do
        let (key, r) ← nodeOrEmpty? fuel false (.value :: stops) r.skip
        let (value, r) ← valueOrEmpty? fuel false stops r
        flowEntries? fuel false ((key, value) :: read) r
      | .value :: _ => do
        let (value, r) ← valueOrEmpty? fuel false stops r.count
        flowEntries? fuel false ((.empty, value) :: read) r
      | _ => do
        let (key, r) ← node? fuel false r
        flowEntries? fuel false ((key, .empty) :: read) r.count
    match r.tokens with
    | .flowMappingEnd :: _ => some (.mapping read.reverse, r.skip.leave)
    | .flowEntry :: _ => if first then entry r else entry r.skip
    | _ => if first then entry r else none

end

/-! ## Documents -/

/-- What the directives before a document declare, and the tokens after them. A version is given
once, and each handle, too. -/
def directives? :
    List (String × String) → Bool → List Token → Option (List (String × String) × List Token)
  | handles, versioned, .directive d :: rest =>
    match d with
    | .version => if versioned then none else directives? handles true rest
    | .handle name base =>
      if (handles.lookup name).isSome then none
      else directives? ((name, base) :: handles) versioned rest
  | handles, _, rest => some (handles, rest)

def Token.isDirective : Token → Bool
  | directive _ => true
  | _ => false

/-- Does a token end a document in which nothing has been written? -/
def Token.endsDocument : Token → Bool
  | directive _ | documentStart | documentEnd | textEnd => true
  | _ => false

/-- Tokens without the marks that end a document. -/
def afterDocumentEnds (tokens : List Token) : List Token := tokens.dropWhile (· == .documentEnd)

/-- The node of the first document, which is empty if there is none. After directives a document has
to start with its mark. -/
def firstDocument? (tokens : List Token) : Option (Node × Reader) := do
  let tokens := afterDocumentEnds tokens
  let fuel := 4 * tokens.length + 8
  let (handles, rest) ← directives? [] false tokens
  match rest with
  | .documentStart :: rest =>
    let r : Reader := { tokens := rest, handles }
    if rest.head?.any (·.endsDocument) then some (.empty, r) else node? fuel false r
  | rest =>
    if tokens.head?.any (·.isDirective) then none
    else if rest.head? = some .textEnd then some (.empty, { tokens := rest })
    else node? fuel false { tokens := rest }

/-- Does a node start with some tokens? -/
def startsNode (r : Reader) : Bool :=
  match Properties.read? r with
  | none => false
  | some (p, r) =>
    match r.tokens with
    | [] => false
    | .scalar _ _ :: _ | .flowSequenceStart :: _ | .flowMappingStart :: _ | .sequenceStart :: _
    | .mappingStart :: _ => true
    | _ => p.isGiven

/-- Does another document start with some tokens? Without its mark it can start only after the mark
that ends the one before. -/
def startsDocument (isEnded : Bool) (tokens : List Token) : Bool :=
  match directives? [] false tokens with
  | none => false
  | some (handles, rest) =>
    match rest with
    | .documentStart :: rest =>
      rest.head?.any (·.endsDocument) || startsNode { tokens := rest, handles }
    | .textEnd :: _ => false
    | rest => isEnded && !tokens.head?.any (·.isDirective) && startsNode { tokens := rest }

/-- Can a document end before some tokens, and is there no other one? Anything else that may follow
a document is left alone. -/
def endsText : List Token → Bool
  | [] => false
  | .directive _ :: _ => false
  | .documentEnd :: rest => !startsDocument true (afterDocumentEnds rest)
  | tokens => !startsDocument false tokens

namespace Node

/-- The node of the one document that some tokens hold. -/
def ofTokens? (tokens : List Token) : Option Node := do
  let (node, r) ← firstDocument? tokens
  if endsText r.tokens && !r.hasFewAnchors then some node else none

def parse? (text : String) : Option Node := ofTokens? (tokens text)

end Node

end TableSql.Yaml
