import TableSql.Text.CaseTable

/-!
# Upper and lower case

* `asciiLower`, `asciiUpper` — the letters `A`–`Z` and `a`–`z` only.
* `upper` — the full Unicode upper case, in which one character may become several.
* `lower` — the full Unicode lower case; a capital sigma at the end of a word becomes a final one.

Main statement: `upperChars_append` (upper case looks at one character at a time).
-/

set_option autoImplicit false

namespace TableSql.Text

/-- A text with the letters `A`–`Z` in lower case. -/
def asciiLower (s : String) : String := String.ofList (s.toList.map Char.toLower)

/-- A text with the letters `a`–`z` in upper case. -/
def asciiUpper (s : String) : String := String.ofList (s.toList.map Char.toUpper)

theorem toList_asciiUpper (s : String) : (asciiUpper s).toList = s.toList.map Char.toUpper :=
  String.toList_ofList

/-- Is a character in one of some runs? -/
def inRuns (runs : List (Nat × Nat)) (c : Char) : Bool :=
  runs.any fun (first, last) => first ≤ c.toNat && c.toNat ≤ last

/-- What a character becomes under runs and expansions; a character in neither stays. -/
def mapCase (runs : List CaseRun) (expansions : List (Nat × List Nat)) (c : Char) : List Char :=
  match runs.findSome? fun r => r.apply? c.toNat with
  | some n => [Char.ofNat n]
  | none =>
    match expansions.lookup c.toNat with
    | some ns => ns.map Char.ofNat
    | none => [c]

def upperChar (c : Char) : List Char := mapCase upperRuns upperExpansions c

/-- The lower case of a character that does not depend on its neighbours. -/
def lowerChar (c : Char) : List Char := mapCase lowerRuns lowerExpansions c

/-- The upper case of some characters. -/
def upperChars (cs : List Char) : List Char := cs.flatMap upperChar

def upper (s : String) : String := String.ofList (upperChars s.toList)

/-- Is the first character that is not passed over a cased one? -/
def startsCased (cs : List Char) : Bool :=
  match cs.dropWhile (inRuns caseIgnorableRuns) with
  | c :: _ => inRuns casedRuns c
  | [] => false

/-- The lower case of characters, given those before them in reverse order. A capital sigma is
final when a cased character comes before it and none after it. -/
def lowerCharsAfter (before : List Char) : List Char → List Char
  | [] => []
  | c :: cs =>
    let here :=
      if c = 'Σ' then
        if startsCased before && !startsCased cs then ['ς'] else ['σ']
      else lowerChar c
    here ++ lowerCharsAfter (c :: before) cs

def lower (s : String) : String := String.ofList (lowerCharsAfter [] s.toList)

theorem upperChars_append (a b : List Char) : upperChars (a ++ b) = upperChars a ++ upperChars b :=
  List.flatMap_append

end TableSql.Text
