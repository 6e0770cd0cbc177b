import TableSql.Json

/-!
# Reading JSON

* `Json.parse?` — the value of a JSON text.

A number is read by its first digits that fit 64 bits and a power of ten, as `Binary64.ofDecimal?`
says. Nesting is bounded by the length of the text, which is the fuel of the reader.
-/

set_option autoImplicit false

namespace TableSql.Json

/-- White space between the parts of a JSON text. -/
def isSpace (c : Char) : Bool := c == ' ' || c == '\n' || c == '\r' || c == '\t'

def skipSpace (cs : List Char) : List Char := cs.dropWhile isSpace

/-- The text after a word that it starts with. -/
def afterWord? : List Char → List Char → Option (List Char)
  | [], cs => some cs
  | w :: ws, c :: cs => if w = c then afterWord? ws cs else none
  | _ :: _, [] => none

def hexDigit? (c : Char) : Option Nat :=
  if '0' ≤ c ∧ c ≤ '9' then some (c.toNat - 48)
  else if 'a' ≤ c ∧ c ≤ 'f' then some (c.toNat - 87)
  else if 'A' ≤ c ∧ c ≤ 'F' then some (c.toNat - 55)
  else none

/-- The value of four hexadecimal digits, and what follows them. -/
def fourHex? : List Char → Option (Nat × List Char)
  | a :: b :: c :: d :: cs => do
    let a ← hexDigit? a
    let b ← hexDigit? b
    let c ← hexDigit? c
    let d ← hexDigit? d
    return (((a * 16 + b) * 16 + c) * 16 + d, cs)
  | _ => none

/-- The character of an escape by number, whose backslash and `u` are read. A character beyond
16 bits is written as two such escapes. -/
def unicodeEscape? (cs : List Char) : Option (Char × List Char) := do
  let (high, cs) ← fourHex? cs
  if 0xDC00 ≤ high && high < 0xE000 then none
  else if 0xD800 ≤ high && high < 0xDC00 then
    match cs with
    | '\\' :: 'u' :: cs =>
      let (low, cs) ← fourHex? cs
      if 0xDC00 ≤ low && low < 0xE000 then
        return (Char.ofNat (0x10000 + (high - 0xD800) * 0x400 + (low - 0xDC00)), cs)
      else none
    | _ => none
  else return (Char.ofNat high, cs)

/-- The character of an escape whose backslash is read. -/
def escape? : List Char → Option (Char × List Char)
  | '"' :: cs => some ('"', cs)
  | '\\' :: cs => some ('\\', cs)
  | '/' :: cs => some ('/', cs)
  | 'b' :: cs => some ('\x08', cs)
  | 'f' :: cs => some ('\x0c', cs)
  | 'n' :: cs => some ('\n', cs)
  | 'r' :: cs => some ('\r', cs)
  | 't' :: cs => some ('\t', cs)
  | 'u' :: cs => unicodeEscape? cs
  | _ => none

/-- The rest of a string whose opening quote is read; `read` holds its characters so far, the last
one first. -/
def stringBody? : Nat → List Char → List Char → Option (String × List Char)
  | 0, _, _ => none
  | _ + 1, _, [] => none
  | fuel + 1, read, c :: cs =>
    if c = '"' then some (String.ofList read.reverse, cs)
    else if c = '\\' then
      match escape? cs with
      | some (e, cs) => stringBody? fuel (e :: read) cs
      | none => none
    else if c.toNat < 0x20 then none
    else stringBody? fuel (c :: read) cs

/-- The greatest number of 64 binary digits. -/
def maxWord : Nat := UInt64.size - 1

/-- Appends digits to a number as long as it fits 64 bits, and counts the digits left over. -/
def appendDigits (n : Nat) : List Char → Nat × Nat
  | [] => (n, 0)
  | d :: ds =>
    let next := n * 10 + (d.toNat - 48)
    if next ≤ maxWord then appendDigits next ds else (n, ds.length + 1)

/-- The digits that a text starts with, and the rest. -/
def spanDigits (cs : List Char) : List Char × List Char := cs.span Char.isDigit

/-- The exponent that may follow the digits of a number. -/
def exponent? (cs : List Char) : Option (Int × List Char) :=
  match cs with
  | 'e' :: cs | 'E' :: cs =>
    let (negative, cs) :=
      match cs with
      | '-' :: cs => (true, cs)
      | '+' :: cs => (false, cs)
      | cs => (false, cs)
    let (digits, cs) := spanDigits cs
    if digits.isEmpty then none
    else
      let n : Int := (digits.foldl (fun n d => n * 10 + (d.toNat - 48)) 0 : Nat)
      some (if negative then -n else n, cs)
  | cs => some (0, cs)

/-- The digits after a decimal point that may follow whole digits. -/
def fractionDigits? (cs : List Char) : Option (List Char × List Char) :=
  match cs with
  | '.' :: cs =>
    let (digits, cs) := spanDigits cs
    if digits.isEmpty then none else some (digits, cs)
  | cs => some ([], cs)

/-- Is a number written as a whole number? -/
def isWholeRest (cs : List Char) : Bool :=
  match cs with
  | '.' :: _ | 'e' :: _ | 'E' :: _ => false
  | _ => true

/-- The number that a text starts with, its sign being read. -/
def unsignedNumber? (negative : Bool) (cs : List Char) : Option (JsonNumber × List Char) := do
  let (digits, cs) := spanDigits cs
  match digits with
  | [] => none
  | '0' :: _ :: _ => none
  | digits =>
    let (significand, dropped) := appendDigits 0 digits
    if isWholeRest cs && dropped == 0 then
      if !negative then return (.whole significand, cs)
      else if significand ≠ 0 ∧ significand ≤ UInt64.size / 2 then return (.whole (-significand), cs)
    let (fraction, cs) ← fractionDigits? cs
    let (significand, unused) := appendDigits significand fraction
    let (exponent, cs) ← exponent? cs
    let power := exponent + (dropped : Int) - ((fraction.length - unused : Nat) : Int)
    let magnitude ← Binary64.ofDecimal? significand power
    return (.fraction negative magnitude, cs)

/-- The number that a text starts with. -/
def number? : List Char → Option (JsonNumber × List Char)
  | '-' :: cs => unsignedNumber? true cs
  | cs => unsignedNumber? false cs

mutual

/-- The value that a text starts with, white space before it included, and the rest. -/
def value? : Nat → List Char → Option (Json × List Char)
  | 0, _ => none
  | fuel + 1, cs =>
    match skipSpace cs with
    | '"' :: cs => (stringBody? (cs.length + 1) [] cs).map fun (s, cs) => (string s, cs)
    | '[' :: cs =>
      match skipSpace cs with
      | ']' :: cs => some (array [], cs)
      | cs => items? fuel [] cs
    | '\x7b' :: cs =>
      match skipSpace cs with
      | '\x7d' :: cs => some (object [], cs)
      | cs => fields? fuel [] cs
    | 'n' :: cs => (afterWord? ['u', 'l', 'l'] cs).map fun cs => (null, cs)
    | 't' :: cs => (afterWord? ['r', 'u', 'e'] cs).map fun cs => (bool true, cs)
    | 'f' :: cs => (afterWord? ['a', 'l', 's', 'e'] cs).map fun cs => (bool false, cs)
    | cs => (number? cs).map fun (n, cs) => (number n, cs)

/-- The rest of an array that has a value next; `read` holds the values so far, the last one
first. -/
def items? : Nat → List Json → List Char → Option (Json × List Char)
  | 0, _, _ => none
  | fuel + 1, read, cs =>
    match value? fuel cs with
    | none => none
    | some (item, cs) =>
      match skipSpace cs with
      | ',' :: cs => items? fuel (item :: read) cs
      | ']' :: cs => some (array (item :: read).reverse, cs)
      | _ => none

/-- The rest of an object that has a name next. -/
def fields? : Nat → List (String × Json) → List Char → Option (Json × List Char)
  | 0, _, _ => none
  | fuel + 1, read, cs =>
    match skipSpace cs with
    | '"' :: cs =>
      match stringBody? (cs.length + 1) [] cs with
      | none => none
      | some (name, cs) =>
        match skipSpace cs with
        | ':' :: cs =>
          match value? fuel cs with
          | none => none
          | some (value, cs) =>
            let read := insertField name value read
            match skipSpace cs with
            | ',' :: cs => fields? fuel read cs
            | '\x7d' :: cs => some (object read, cs)
            | _ => none
        | _ => none
    | _ => none

end

def parse? (text : String) : Option Json :=
  let cs := text.toList
  match value? (2 * cs.length + 2) cs with
  | some (value, rest) => if (skipSpace rest).isEmpty then some value else none
  | none => none

end TableSql.Json
