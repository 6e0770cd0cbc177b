import TableSql.Text.Blank

/-!
# The comment of a table in a statement

* `findTableComment` — the comment that a CREATE TABLE statement gives its table.

Three places are tried in turn: the comment after a key of Doris, the comment set with an equals
sign after a parenthesis and before a semicolon, and the last comment of all. The first place that
is there decides, even if its comment is empty. Letter case does not matter.
-/

set_option autoImplicit false

namespace TableSql

/-- Is `c` the letter `letter`, which is in lower case, in any case? The Kelvin sign counts as a
`k`. -/
def isLetter (letter c : Char) : Bool :=
  c == letter || c == letter.toUpper || (letter == 'k' && c == '\u212a')

/-- The text after a word, given in lower case, that it starts with. -/
def afterLetters? : List Char → List Char → Option (List Char)
  | [], cs => some cs
  | w :: ws, c :: cs => if isLetter w c then afterLetters? ws cs else none
  | _ :: _, [] => none

/-- The text after a word that it starts with. -/
def afterKeyword? (word : String) (cs : List Char) : Option (List Char) :=
  afterLetters? word.toList cs

/-- The text after one character that it starts with. -/
def afterChar? (c : Char) : List Char → Option (List Char)
  | [] => none
  | d :: cs => if c = d then some cs else none

/-- A character that opens or closes a comment's text. -/
def isCommentQuote (c : Char) : Bool := c == '\'' || c == '"'

/-- The text between two quotes that a text starts with, and the rest. -/
def commentQuoted? : List Char → Option (List Char × List Char)
  | [] => none
  | c :: cs =>
    if isCommentQuote c then
      match cs.span (!isCommentQuote ·) with
      | (inside, _ :: rest) => some (inside, rest)
      | (_, []) => none
    else none

/-- A comment that a text starts with: COMMENT, an equals sign or none, and the quoted text. -/
def commentHere? (cs : List Char) : Option (List Char × List Char) := do
  let cs ← afterKeyword? "comment" cs
  let cs := Text.stripFront cs
  commentQuoted? (Text.stripFront ((afterChar? '=' cs).getD cs))

/-- A comment with an equals sign that a text starts with. -/
def optionCommentHere? (cs : List Char) : Option (List Char) := do
  let cs ← afterKeyword? "comment" cs
  let cs ← afterChar? '=' (Text.stripFront cs)
  let (inside, _) ← commentQuoted? (Text.stripFront cs)
  return inside

/-- The comment after a key of Doris that a text starts with. -/
def keyCommentHere? (cs : List Char) : Option (List Char) := do
  let cs ← ((afterKeyword? "unique" cs).or (afterKeyword? "duplicate" cs)).or
    (afterKeyword? "aggregate" cs)
  match cs with
  | [] => none
  | c :: _ =>
    if !Text.isBlank c then none
    else
      let cs ← afterKeyword? "key" (Text.stripFront cs)
      let cs ← afterChar? '(' (Text.stripFront cs)
      let cs ← afterChar? ')' (cs.dropWhile (· ≠ ')'))
      let cs ← afterKeyword? "comment" (Text.stripFront cs)
      let (inside, _) ← commentQuoted? (Text.stripFront cs)
      return inside

/-- The first comment after a key of Doris. -/
def keyComment? : List Char → Option (List Char)
  | [] => none
  | c :: cs => (keyCommentHere? (c :: cs)).or (keyComment? cs)

/-- The first comment with an equals sign that has a closing parenthesis before it and no semicolon
between; `closed` says whether such a parenthesis has been passed. -/
def optionComment? (closed : Bool) : List Char → Option (List Char)
  | [] => none
  | c :: cs =>
    (if closed then optionCommentHere? (c :: cs) else none).or
      (optionComment? (c == ')' || (closed && c != ';')) cs)

/-- The last comment of all, none of which overlap. The number counts the characters that belong to
a comment already read. -/
def lastComment? : Nat → List Char → Option (List Char)
  | _, [] => none
  | skip + 1, _ :: cs => lastComment? skip cs
  | 0, c :: cs =>
    match commentHere? (c :: cs) with
    | some (inside, rest) => (lastComment? (cs.length - rest.length) cs).or (some inside)
    | none => lastComment? 0 cs

/-- The comment that a CREATE TABLE statement gives its table, if there is something in it. -/
def findTableComment (statement : String) : Option String :=
  let cs := statement.toList
  (((keyComment? cs).or (optionComment? false cs)).or (lastComment? 0 cs)).bind fun inside =>
    if inside.isEmpty then none else some (String.ofList inside)

end TableSql
