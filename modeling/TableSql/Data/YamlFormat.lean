import TableSql.Data.Format
import TableSql.Text.Blank
import TableSql.Yaml.Document

/-!
# Records as YAML

* `Yaml.Node.format` — records are mappings with texts as keys. A plain scalar is read as the kind
  of value that is wanted; nothing is a plain scalar without characters, `~` or `null`.

Tags count where a text is wanted, and where a value may be left out. Fields that are not asked for
have to be sound.
-/

set_option autoImplicit false

namespace TableSql.Yaml.Node

/-- Is a value that may be left out given as nothing? A scalar whose tag says so and an empty block
scalar are nothing, too. -/
def isAbsent : Node → Bool
  | node@(scalar style tag text) =>
    TagKind.ofName? tag = .nothing || (style = .block && text = "") || node.isNull
  | _ => false

/-- The fields of a record, given the names of those that are asked for. -/
def fieldsOf? (names : List (List String)) : Node → Option (List (String × Node))
  | mapping entries => do
    let fields ← (← entries? entries).mapM fun (key, value) => do return (← key.text?, value)
    let others := fields.filter fun (name, _) => !names.any (·.contains name)
    if others.all fun (_, value) => value.isSound then some fields else none
  | node => if node.isNull then some [] else none

/-- The items of a list; nothing and no bytes are a list without items. -/
def itemsOf? : Node → Option (List Node)
  | sequence items => some items
  | node@(scalar _ tag text) =>
    let isEmpty := TagKind.ofName? tag = .bytes && taggedText? tag text = some ""
    if node.isNull || isEmpty then some [] else none
  | mapping _ => none

/-- Can a word of a kind have a tag? A tag of the text's own is the name of the kind, unless it has
marks that no name has. -/
def canTagWord (kind : String) (tag : String) : Bool :=
  let name := if tag.startsWith commonTagBase then tag.toList.drop commonTagBase.length
    else tag.toList
  let name := name.dropWhile (· == '!')
  TagKind.ofName? (some tag) ≠ .own || name.isEmpty || name.contains ':' || name.contains '!' ||
    String.ofList name = kind

/-- A word of a kind, given as a scalar or as the one key of a mapping that gives it nothing. -/
def wordOf? (kind : String) : Node → Option String
  | mapping [(key, value)] => if value.isNull then key.scalarText? else none
  | scalar _ tag text => if tag.all (canTagWord kind) then some text else none
  | _ => none

/-- The value of a digit in a base up to 16. -/
def digitOf? (base : Nat) (c : Char) : Option Nat :=
  let value :=
    if '0' ≤ c ∧ c ≤ '9' then c.toNat - 48
    else if 'a' ≤ c ∧ c ≤ 'f' then c.toNat - 87
    else if 'A' ≤ c ∧ c ≤ 'F' then c.toNat - 55
    else base
  if value < base then some value else none

/-- The number that digits stand for; underscores between them do not count. -/
def digitsOf? (base : Nat) (cs : List Char) : Option Nat := do
  let digits ← (cs.filter (· ≠ '_')).mapM (digitOf? base)
  if digits.isEmpty then none else some (digits.foldl (fun n d => n * base + d) 0)

/-- A natural number, in decimal or with the mark of another base. -/
def natOfText? (text : String) : Option Nat :=
  let cs := Text.stripChars text.toList
  let cs := match cs with | '+' :: cs => cs | cs => cs
  match cs with
  | '0' :: 'x' :: cs | '0' :: 'X' :: cs => digitsOf? 16 cs
  | '0' :: 'o' :: cs | '0' :: 'O' :: cs => digitsOf? 8 cs
  | '0' :: 'b' :: cs | '0' :: 'B' :: cs => digitsOf? 2 cs
  | cs => digitsOf? 10 cs

def flagOfText? (text : String) : Option Bool :=
  match Text.asciiLower (Text.strip text) with
  | "true" | "yes" | "on" | "y" => some true
  | "false" | "no" | "off" | "n" => some false
  | _ => none

/-- Records as YAML. -/
def format : DataFormat Node where
  fields? := fieldsOf?
  items? := itemsOf?
  text? := text?
  word? := wordOf?
  nat? := fun node => node.scalarText?.bind natOfText?
  flag? := fun node => node.scalarText?.bind flagOfText?
  isNull := isAbsent

end TableSql.Yaml.Node
