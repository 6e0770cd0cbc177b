import TableSql.Yaml.Scalar
import TableSql.Yaml.Tag

/-!
# Tokens of a YAML text

* `Token` — brackets, marks and scalars, with the indentation turned into brackets.
* `Lexer` — the tokens so far, the indentations that are open, and the places where a key may turn
  out to have started.
* `tokens` — the tokens of a text up to the first place that is not well formed; only a text
  without such a place has the token for its end.

A scalar or collection is known to be a key only when its colon is met. Until then its place among
the tokens is remembered, and the tokens that open a mapping are put in there later.
-/

set_option autoImplicit false

namespace TableSql.Yaml

inductive Style where
  | plain
  | quoted
  | block
  deriving DecidableEq, Repr

inductive Token where
  | directive (d : Directive)
  | documentStart
  | documentEnd
  | sequenceStart
  | mappingStart
  | blockEnd
  | flowSequenceStart
  | flowSequenceEnd
  | flowMappingStart
  | flowMappingEnd
  | entry
  | flowEntry
  | key
  | value
  | alias (name : String)
  | anchor (name : String)
  | tag (mark : TagMark)
  | scalar (style : Style) (text : String)
  | textEnd
  deriving DecidableEq, Repr

/-- A place where a key may have started: the number of tokens before it, and where it is. -/
structure KeyPlace where
  tokens : Nat
  line : Nat
  column : Nat
  offset : Nat
  /-- Must a colon follow, as in a block mapping whose lines start here? -/
  required : Bool

/-- An indentation that encloses the current one, and whether the current one is a collection. -/
structure Indent where
  outer : Int
  isCollection : Bool

/-- The tokens read so far and what is still open. -/
structure Lexer where
  cursor : Cursor
  /-- The tokens so far, the last one first. -/
  read : List Token := []
  count : Nat := 0
  indent : Int := -1
  indents : List Indent := []
  /-- How many brackets are open. -/
  depth : Nat := 0
  /-- For each open bracket of a sequence, the innermost first: at which depth a pair without braces
  is open in it. -/
  pairs : List (Option Nat) := []
  /-- Has a brace opened or a key been marked since the last such pair ended? Then a colon between
  brackets opens none. -/
  keyed : Bool := false
  keyAllowed : Bool := true
  /-- Where a key may have started, outside brackets. -/
  keyPlace : Option KeyPlace := none
  /-- The same for each bracket that is open, from the one outside the innermost on. -/
  outerPlaces : List (Option KeyPlace) := []
  /-- The place right after a quoted scalar or closing bracket, where a colon needs no space. -/
  adjacent : Option Nat := none

namespace Lexer

def inFlow (s : Lexer) : Bool := s.depth != 0

def push (s : Lexer) (t : Token) : Lexer := { s with read := t :: s.read, count := s.count + 1 }

/-- Puts a token before all but the first `n` ones. -/
def insertAt (s : Lexer) (n : Nat) (t : Token) : Lexer :=
  let later := s.count - n
  { s with read := s.read.take later ++ t :: s.read.drop later, count := s.count + 1 }

/-! ## Indentation -/

/-- Closes the collections that are indented deeper than a column. -/
def closeTo (s : Lexer) (column : Int) : Lexer :=
  if s.inFlow then s else go s s.indents
where
  go (s : Lexer) : List Indent → Lexer
    | [] => s
    | i :: rest =>
      if s.indent > column then
        let s := if i.isCollection then s.push .blockEnd else s
        go { s with indent := i.outer, indents := rest } rest
      else s

/-- Drops the indentations that are no collections. -/
def dropLoose (s : Lexer) : Lexer := go s s.indents
where
  go (s : Lexer) : List Indent → Lexer
    | [] => s
    | i :: rest =>
      if i.isCollection then s else go { s with indent := i.outer, indents := rest } rest

/-- Opens a block collection at a column, unless one is open there. Its token stands before all but
the first `place` tokens, or at the end. -/
def openBlock (s : Lexer) (column : Nat) (place : Option Nat) (t : Token) : Lexer :=
  let column : Int := column
  if s.inFlow then s
  else
    let s :=
      match s.indents with
      | i :: rest =>
        if s.indent ≤ column && !i.isCollection then { s with indent := i.outer, indents := rest }
        else s
      | [] => s
    if s.indent < column then
      let s := { s with indent := column, indents := ⟨s.indent, true⟩ :: s.indents }
      match place with
      | some n => s.insertAt n t
      | none => s.push t
    else s

/-- Indents what follows a mark by one column more than its collection. -/
def indentLoose (s : Lexer) : Lexer :=
  match s.indents with
  | i :: _ =>
    if !s.inFlow && i.isCollection then
      { s with indent := s.indent + 1, indents := ⟨s.indent, false⟩ :: s.indents }
    else s
  | [] => s

/-! ## Places of keys -/

/-- Forgets where a key may have started; refused if one has to be there. -/
def dropKey? (s : Lexer) : Option Lexer :=
  if s.keyPlace.any (·.required) then none else some { s with keyPlace := none }

/-- Remembers that a key may start here. -/
def saveKey? (s : Lexer) : Option Lexer :=
  if s.keyAllowed then do
    let s ← s.dropKey?
    let c := s.cursor
    let required :=
      !s.inFlow && s.indent == c.column && (s.indents.head?.map (·.isCollection)).getD false
    some { s with keyPlace := some ⟨s.count, c.line, c.column, c.offset, required⟩ }
  else some s

/-- Forgets a place on an earlier line or too far back; a key outside brackets ends where it
started, within 1024 characters. -/
def expireKey? (s : Lexer) : Option Lexer :=
  match s.keyPlace with
  | some k =>
    if !s.inFlow && (k.line < s.cursor.line || k.offset + 1024 < s.cursor.offset) then
      if k.required then none else some { s with keyPlace := none }
    else some s
  | none => some s

/-! ## Between tokens -/

/-- Over white space, comments and line breaks. Tabs cannot indent the content of a block. -/
def skipToToken? : Nat → Lexer → Option Lexer
  | 0, _ => none
  | fuel + 1, s =>
    let c := s.cursor
    match c.peek with
    | some '\n' =>
      skipToToken? fuel { s with cursor := c.stepBreak, keyAllowed := s.keyAllowed || !s.inFlow }
    | some '#' => skipToToken? fuel { s with cursor := c.toLineEnd }
    | some ' ' => skipToToken? fuel { s with cursor := c.stepGap }
    | some '\t' =>
      if !s.indents.isEmpty && c.fresh && (c.column : Int) < s.indent then
        match c.skipRestOfLine? true with
        | some (c, _) =>
          if isBreakOrEnd c.peek then skipToToken? fuel { s with cursor := c } else none
        | none => none
      else skipToToken? fuel { s with cursor := c.stepGap }
    | _ => some s

/-- Over the white space and comments after the mark of a key. There has to be some, and no tab. -/
def skipKeySpace? : Nat → Bool → Lexer → Option Lexer
  | 0, _, _ => none
  | fuel + 1, found, s =>
    let c := s.cursor
    match c.peek with
    | some ' ' => skipKeySpace? fuel true { s with cursor := c.stepGap }
    | some '\n' =>
      skipKeySpace? fuel true
        { s with cursor := c.stepBreak, keyAllowed := s.keyAllowed || !s.inFlow }
    | some '#' => skipKeySpace? fuel found { s with cursor := c.toLineEnd }
    | some '\t' => none
    | _ => if found then some s else none

/-- Over the rest of the line after a mark. -/
def skipLine? (s : Lexer) (tabs : Bool) : Option (Lexer × Cursor.LineRest) :=
  (s.cursor.skipRestOfLine? tabs).map fun (c, found) => ({ s with cursor := c }, found)

/-! ## Tokens -/

/-- A bracket that opens a collection. No more than 255 can be open. -/
def openFlow? (s : Lexer) (isSequence : Bool) : Option Lexer := do
  if s.depth ≥ 255 then none
  else
    let s := (← s.saveKey?).indentLoose
    let s :=
      { s with
        depth := s.depth + 1, outerPlaces := s.keyPlace :: s.outerPlaces, keyPlace := none
        pairs := if isSequence then none :: s.pairs else s.pairs
        keyed := s.keyed || !isSequence, keyAllowed := true, cursor := s.cursor.step }
    let (s, _) ← s.skipLine? true
    return s.push (if isSequence then .flowSequenceStart else .flowMappingStart)

/-- Ends the pair without braces that is open at this depth. -/
def endPair (s : Lexer) : Lexer :=
  match s.pairs with
  | some d :: outer =>
    if d = s.depth then { s with pairs := none :: outer, keyed := false }.push .flowMappingEnd
    else s
  | _ => s

/-- A bracket that closes a collection. -/
def closeFlow? (s : Lexer) (isSequence : Bool) : Option Lexer := do
  if !s.inFlow then none
  else
    let s ← s.dropKey?
    let s := if isSequence then { s.endPair with pairs := s.endPair.pairs.tail } else s
    let s :=
      { s with
        depth := s.depth - 1, keyPlace := (s.outerPlaces.head?).getD none
        outerPlaces := s.outerPlaces.tail, keyAllowed := false, cursor := s.cursor.step }
    let (s, _) ← s.skipLine? true
    let s := if s.inFlow then { s with adjacent := some s.cursor.offset } else s
    return s.push (if isSequence then .flowSequenceEnd else .flowMappingEnd)

/-- A comma between brackets. -/
def flowEntry? (s : Lexer) : Option Lexer := do
  let s := (← s.dropKey?).endPair
  let (s, _) ← { s with keyAllowed := true, cursor := s.cursor.step }.skipLine? true
  return s.push .flowEntry

/-- A dash before an item of a block sequence. -/
def blockEntry? (s : Lexer) : Option Lexer := do
  if s.inFlow || !s.keyAllowed then none
  else
    let column := s.cursor.column
    let s := { s with cursor := s.cursor.step }.openBlock column none .sequenceStart
    let (s, found) ← s.skipLine? true
    if found.tab && s.cursor.peek == some '-' && isGapOrEnd s.cursor.peekSecond then none
    else
      let s := if s.cursor.peek.any fun x => x == '\n' || isFlowMark x then s.indentLoose else s
      let s ← s.dropKey?
      return { s with keyAllowed := true }.push .entry

/-- A question mark before a key. -/
def keyMark? (s : Lexer) : Option Lexer := do
  if !s.inFlow && !s.keyAllowed then none
  else
    let s := s.openBlock s.cursor.column none .mappingStart
    let s ← s.dropKey?
    let s :=
      { s with
        keyed := s.keyed || s.inFlow, keyAllowed := !s.inFlow, cursor := s.cursor.step }
    let s ← skipKeySpace? (s.cursor.bound + 1) false s
    return s.push .key

/-- A colon before a value. If a key may have started, it has. In a sequence between brackets the
colon may open a pair, whose key is on the same line. -/
def valueMark? (s : Lexer) : Option Lexer := do
  let column := s.cursor.column
  let opensPair := !s.pairs.isEmpty && !s.keyed
  let s :=
    { s with
      pairs := if opensPair then some s.depth :: s.pairs.tail else s.pairs
      cursor := s.cursor.step }
  let tabbed := s.cursor.peek == some '\t'
  let (s, found) ← if tabbed then s.skipLine? true else some (s, ⟨false, true⟩)
  if tabbed && !found.space && s.cursor.peek.any isWordChar then none
  else
    match s.keyPlace with
    | some k =>
      if opensPair && k.line < s.cursor.line then none
      else
        let s := s.insertAt k.tokens .key
        let s := if opensPair then s.insertAt k.tokens .flowMappingStart else s
        let s := s.openBlock k.column (some k.tokens) .mappingStart
        return { s.indentLoose with keyPlace := none, keyAllowed := false }.push .value
    | none =>
      let s := if opensPair then s.push .flowMappingStart else s
      if s.inFlow then return { s with keyAllowed := false }.push .value
      else if !s.keyAllowed then none
      else
        let s := (s.openBlock column none .mappingStart).indentLoose
        return { s with keyAllowed := true }.push .value

/-- A character of the name of an anchor. -/
def isAnchorChar (c : Char) : Bool := !(isGap c || c == '\n' || isFlowMark c || c == '\ufeff')

/-- The name of an anchor or alias after its mark. -/
def anchorName? (s : Lexer) (make : String → Token) : Option Lexer := do
  let s ← s.saveKey?
  let c := s.cursor.step
  let name := c.rest.takeWhile isAnchorChar
  if name.isEmpty then none
  else
    let s := { s with keyAllowed := false, cursor := c.steps name.length }
    return s.push (make (String.ofList name))

def tag? (s : Lexer) : Option Lexer := do
  let s ← s.saveKey?
  let (tag, c) ← tagMark? s.inFlow s.cursor
  return { s with keyAllowed := false, cursor := c }.push (.tag tag)

def plainScalar? (s : Lexer) : Option Lexer := do
  let s := ({ (← s.saveKey?) with keyAllowed := false } : Lexer).dropLoose
  let (text, c) ← plain? s.inFlow (s.indent + 1) s.cursor
  let s := { s with cursor := c, keyAllowed := s.keyAllowed || c.fresh }
  return s.push (.scalar .plain text)

/-- A quoted scalar. What follows it on its line is a comment, a mark of a collection in brackets or
the colon of a key. -/
def quotedScalar? (s : Lexer) (single : Bool) : Option Lexer := do
  let startLine := s.cursor.line
  let s := { (← s.saveKey?) with keyAllowed := false }
  let (text, c) ← quoted? single s.inFlow s.indent s.cursor
  let (c, _) ← c.skipRestOfLine? true
  let follows :=
    match c.peek with
    | none | some '\n' => true
    | some ':' => s.inFlow || startLine == c.line
    | some x => s.inFlow && [',', '\x7d', ']'].contains x
  if !follows then none
  else
    let s ← skipToToken? (c.bound + 1) { s with cursor := c }
    return { s with adjacent := some s.cursor.offset }.push (.scalar .quoted text)

def blockScalar? (s : Lexer) (folded : Bool) : Option Lexer := do
  let s := ({ (← s.saveKey?) with keyAllowed := true } : Lexer).dropLoose
  let (text, c) ← block? folded s.indent s.cursor
  return { s with cursor := c }.push (.scalar .block text)

def documentMark? (s : Lexer) (t : Token) : Option Lexer := do
  let s ← (s.closeTo (-1)).dropKey?
  return { s with keyAllowed := false, cursor := s.cursor.steps 3 }.push t

/-- A line that says how the next document is to be read. -/
def directiveLine? (s : Lexer) : Option Lexer := do
  let s ← (s.closeTo (-1)).dropKey?
  let (d, c) ← directive? s.cursor
  return { s with keyAllowed := false, cursor := c }.push (.directive d)

/-- The end of the text: all collections outside brackets close. -/
def finish? (s : Lexer) : Option Lexer := do
  return ((← s.dropKey?).closeTo (-1)).push .textEnd

/-- The next token at a character that is not white space. -/
def token? (s : Lexer) (c : Char) : Option Lexer :=
  let next := s.cursor.peekSecond
  let spaced := isGapOrEnd next
  let adjacent := s.adjacent == some s.cursor.offset
  let adjacentValue := s.inFlow && (next.any isFlowMark || adjacent)
  match c with
  | '[' => s.openFlow? true
  | '\x7b' => s.openFlow? false
  | ']' => s.closeFlow? true
  | '\x7d' => s.closeFlow? false
  | ',' => s.flowEntry?
  | '-' => if spaced then s.blockEntry? else s.plainScalar?
  | '?' => if spaced then s.keyMark? else s.plainScalar?
  | ':' =>
    if spaced then s.valueMark?
    else if adjacentValue then
      if !adjacent && next.any fun x => x == '[' || x == '\x7b' then none else s.valueMark?
    else s.plainScalar?
  | '*' => s.anchorName? .alias
  | '&' => s.anchorName? .anchor
  | '!' => s.tag?
  | '|' => if s.inFlow then s.plainScalar? else s.blockScalar? false
  | '>' => if s.inFlow then s.plainScalar? else s.blockScalar? true
  | '\'' => s.quotedScalar? true
  | '"' => s.quotedScalar? false
  | '%' | '@' | '\x60' => none
  | _ => s.plainScalar?

/-- One token more. Between brackets, only commas and what closes them can be indented too
little. -/
def advance? (s : Lexer) : Option Lexer := do
  let s ← skipToToken? (s.cursor.bound + 1) s
  let s ← s.expireKey?
  let s := s.closeTo s.cursor.column
  let c := s.cursor
  match c.peek with
  | none => s.finish?
  | some x =>
    if c.column == 0 && x == '%' then s.directiveLine?
    else if c.column == 0 && c.startsMark '-' then s.documentMark? .documentStart
    else if c.column == 0 && c.startsMark '.' then do
      let s ← s.documentMark? .documentEnd
      let (s, _) ← s.skipLine? true
      if isBreakOrEnd s.cursor.peek then some s else none
    else if (c.column : Int) < s.indent && !(s.inFlow && [',', ']', '\x7d'].contains x) then none
    else s.token? x

/-- The tokens that can no longer change: those before the first place where a key may start. -/
def settled (s : Lexer) : List Token :=
  let s := s.expireKey?.getD s
  let places := (s.keyPlace :: s.outerPlaces).filterMap id
  let n := (places.getLast?.map (·.tokens)).getD s.count
  (s.read.drop (s.count - n)).reverse

/-- The tokens up to the end of the text, or up to where it is not well formed. -/
def run : Nat → Lexer → List Token
  | 0, s => s.settled
  | fuel + 1, s =>
    match s.advance? with
    | some s => if s.read.head? = some .textEnd then s.read.reverse else run fuel s
    | none => s.settled

end Lexer

/-- The tokens of a text. A byte order mark at its start does not count. -/
def tokens (text : String) : List Token :=
  let cs :=
    match text.toList with
    | '\ufeff' :: cs => cs
    | cs => cs
  let start := Cursor.start (unifyBreaks cs)
  Lexer.run (start.bound + 2) { cursor := start }

end TableSql.Yaml
