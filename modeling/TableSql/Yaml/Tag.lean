import TableSql.Yaml.Cursor

/-!
# Tags and directives of a YAML text

* `TagMark`, `tagMark?` — a tag as it is written; `TagMark.name?` — the full name it stands for.
* `TagKind` — what the name of a tag says about a scalar.
* `Directive`, `directive?` — a line that says how the next document is to be read.
-/

set_option autoImplicit false

namespace TableSql.Yaml

/-- A tag as it is written: the handle of a group of tags, and the name in the group. -/
structure TagMark where
  handle : String
  suffix : String
  deriving DecidableEq, Repr

/-- The start of the names of the common tags. -/
def commonTagBase : String := "tag:yaml.org,2002:"

/-- The full name of a tag, given the handles that are declared. -/
def TagMark.name? (handles : List (String × String)) (t : TagMark) : Option String :=
  match handles.lookup t.handle with
  | some base => some (base ++ t.suffix)
  | none =>
    if t.handle = "!!" then some (commonTagBase ++ t.suffix)
    else if t.handle = "" || t.handle = "!" then some (t.handle ++ t.suffix)
    else none

/-- What a tag says about a scalar. -/
inductive TagKind where
  /-- There is no tag. -/
  | absent
  /-- The tag `!`, which has no name. -/
  | unnamed
  | text
  /-- Bytes, written in base 64. -/
  | bytes
  /-- The scalar is nothing, whatever its characters are. -/
  | nothing
  /-- A kind of value that is no text. -/
  | value (name : String)
  /-- A tag of the text's own. -/
  | own
  deriving DecidableEq, Repr

/-- The kind of a tag. Common tags can be written as tags of the text's own. -/
def TagKind.ofName? : Option String → TagKind
  | none => absent
  | some "!" => unnamed
  | some name =>
    let short :=
      if name.startsWith commonTagBase then name.toList.drop commonTagBase.length
      else if name.startsWith "!" then name.toList.drop 1
      else []
    match String.ofList short with
    | "str" => text
    | "binary" => bytes
    | "int" => value "int"
    | "float" => value "float"
    | "bool" => value "bool"
    | "null" => nothing
    | "seq" => value "seq"
    | "map" => value "map"
    | "timestamp" => value "timestamp"
    | _ => own

/-! ## Reading tags -/

/-- A character of the full name of a tag. -/
def isUriChar (c : Char) : Bool := isWordChar c || "#;/?:@&=+$,.!~*'()[]".toList.contains c

/-- A character of the name of a tag after a handle. -/
def isTagChar (c : Char) : Bool := isUriChar c && !isFlowMark c && c != '!'

/-- The byte that a percent sign and two digits stand for. -/
def escapedByte? : List Char → Option Nat
  | '%' :: a :: b :: _ => do return 16 * (← hexValue? a) + (← hexValue? b)
  | _ => none

/-- How many bytes follow a byte that starts a character. -/
def followers? (lead : Nat) : Option Nat :=
  if lead < 0x80 then some 0
  else if lead < 0xC0 then none
  else if lead < 0xE0 then some 1
  else if lead < 0xF0 then some 2
  else if lead < 0xF8 then some 3
  else none

/-- The character whose number some escaped bytes spell, and the length of what is written for it.
The first byte says how many there are. -/
def escapedChar? (cs : List Char) : Option (Char × Nat) := do
  let lead ← escapedByte? cs
  let width := (← followers? lead) + 1
  let bytes ← (List.range width).mapM fun i => escapedByte? (cs.drop (3 * i))
  let n := bytes.foldl (fun n b => 256 * n + b) 0
  if (bytes.drop 1).all (fun b => 0x80 ≤ b && b < 0xC0) && n.isValidChar then
    some (Char.ofNat n, 3 * width)
  else none

/-- The characters of a class that come next, some of them escaped. -/
def nameRun? (isNameChar : Char → Bool) : Nat → List Char → Cursor → Option (List Char × Cursor)
  | 0, _, _ => none
  | fuel + 1, read, c =>
    match c.peek with
    | some '%' =>
      match escapedChar? c.rest with
      | some (x, n) => nameRun? isNameChar fuel (x :: read) (c.steps n)
      | none => none
    | some x =>
      if isNameChar x then nameRun? isNameChar fuel (x :: read) c.step
      else some (read.reverse, c)
    | none => some (read.reverse, c)

/-- The word after an exclamation mark, and whether a second mark ends it. -/
def tagHandle (c : Cursor) : List Char × Bool × Cursor :=
  let c := c.step
  let word := c.rest.takeWhile isWordChar
  let c := c.steps word.length
  if c.peek == some '!' then (word, true, c.step) else (word, false, c)

/-- A tag whose exclamation mark comes next. A gap or, between brackets, their marks end it. -/
def tagMark? (inFlow : Bool) (c : Cursor) : Option (TagMark × Cursor) := do
  let (tag, c) ←
    if c.peekSecond == some '<' then do
      let (name, c) ← nameRun? isUriChar (c.bound + 1) [] c.step.step
      if c.peek == some '>' then some (⟨"", String.ofList name⟩, c.step) else none
    else do
      let (word, isHandle, c) := tagHandle c
      let (name, c) ← nameRun? isTagChar (c.bound + 1) [] c
      if isHandle then
        if name.isEmpty then none
        else some (⟨String.ofList ('!' :: word ++ ['!']), String.ofList name⟩, c)
      else if word.isEmpty && name.isEmpty then some (⟨"", "!"⟩, c)
      else some (⟨"!", String.ofList (word ++ name)⟩, c)
  if isGapOrEnd c.peek || (inFlow && c.peek.any isFlowMark) then some (tag, c) else none

/-! ## Directives -/

/-- What a line before a document says. -/
inductive Directive where
  /-- The version of the format. -/
  | version
  /-- The start of the names of the tags with a handle. A line of another kind counts as one for the
  handle without characters. -/
  | handle (name base : String)
  deriving DecidableEq, Repr

/-- Over a part of a version: one to nine digits. -/
def versionPart? (c : Cursor) : Option Cursor :=
  let n := (c.rest.takeWhile Char.isDigit).length
  if 1 ≤ n && n ≤ 9 then some (c.steps n) else none

/-- A directive whose percent sign comes next. Only a comment follows it on its line. -/
def directive? (c : Cursor) : Option (Directive × Cursor) := do
  let c := c.step
  let word := c.rest.takeWhile isWordChar
  let c := c.steps word.length
  if word.isEmpty || !isGapOrEnd c.peek then none
  else
    let (d, c) ←
      match String.ofList word with
      | "YAML" => do
        let c ← versionPart? c.skipGaps
        if c.peek == some '.' then (versionPart? c.step).map fun c => (Directive.version, c)
        else none
      | "TAG" => do
        let c := c.skipGaps
        if c.peek != some '!' then none
        else
          let (word, closed, c) := tagHandle c
          if !closed && !word.isEmpty then none
          else
            let c := c.skipGaps
            if !c.peek.any fun x => x == '!' || x == '%' || isTagChar x then none
            else
              let (base, c) ← nameRun? isUriChar (c.bound + 1) [] c
              let mark := '!' :: word ++ (if closed then ['!'] else [])
              if isGapOrEnd c.peek then
                some (Directive.handle (String.ofList mark) (String.ofList base), c)
              else none
      | _ => some (Directive.handle "" "", c.toLineEnd)
    let (c, _) ← c.skipRestOfLine? true
    if isBreakOrEnd c.peek then some (d, c) else none

end TableSql.Yaml
