import TableSql.Yaml.Cursor

/-!
# Scalars in a YAML text

* `plain?`, `quoted?`, `block?` — read a scalar of each style and give the cursor after it.

Line breaks inside a plain or quoted scalar fold: one becomes a space, and of more than one the
first is dropped. Loops are bounded by the length of the text.
-/

set_option autoImplicit false

namespace TableSql.Yaml

/-- White space inside a scalar: gaps on the line so far, or the breaks since the line's content. -/
structure Fold where
  gaps : List Char := []
  broken : Bool := false
  moreBreaks : Nat := 0

/-- What a fold leaves in the scalar. -/
def Fold.text (f : Fold) : List Char :=
  if f.broken then
    if f.moreBreaks = 0 then [' '] else List.replicate f.moreBreaks '\n'
  else f.gaps.reverse

/-- Over the white space inside a plain scalar. A tab cannot indent a line that has content. -/
def plainFold? (indent : Int) : Nat → Fold → Cursor → Option (Fold × Cursor)
  | 0, _, _ => none
  | fuel + 1, f, c =>
    match c.peek with
    | some '\n' =>
      let f : Fold :=
        if c.fresh then { f with moreBreaks := f.moreBreaks + 1 }
        else { f with gaps := [], broken := true }
      plainFold? indent fuel f c.stepBreak
    | some g =>
      if isGap g then
        if !c.fresh then plainFold? indent fuel { f with gaps := g :: f.gaps } c.stepGap
        else if (c.column : Int) < indent && g == '\t' then
          match c.skipRestOfLine? true with
          | some (c, _) => if isBreakOrEnd c.peek then plainFold? indent fuel f c else none
          | none => none
        else plainFold? indent fuel f c.stepGap
      else some (f, c)
    | none => some (f, c)

/-- Can the next character stand in a plain scalar? -/
def isPlainChar (inFlow : Bool) (c : Char) (next : Option Char) : Bool :=
  if c == ':' then
    !(isGapOrEnd next || (inFlow && next.any isFlowMark))
  else !(inFlow && isFlowMark c)

/-- The characters of a plain scalar up to white space or its end. -/
def plainRun (inFlow : Bool) : List Char → List Char
  | [] => []
  | c :: cs =>
    if isGap c || c == '\n' || !isPlainChar inFlow c cs.head? then []
    else c :: plainRun inFlow cs

/-- The pieces of a plain scalar; `read` holds its characters so far, the last one first. -/
def plainPieces? (inFlow : Bool) (indent : Int) :
    Nat → List Char → Fold → Cursor → Option (List Char × Cursor)
  | 0, _, _, _ => none
  | fuel + 1, read, f, c =>
    if (c.column == 0 && c.atDocumentMark) || c.peek == some '#' then some (read, c)
    else if inFlow && c.peek == some '-' && c.peekSecond.any isFlowMark then none
    else
      let run := plainRun inFlow c.rest
      let (read, f, c) :=
        if run.isEmpty then (read, f, c)
        else
          let between := if read.isEmpty then [] else f.text
          (run.reverse ++ between.reverse ++ read, {}, c.steps run.length)
      if c.peek.any fun x => isGap x || x == '\n' then
        match plainFold? indent (c.bound + 1) f c with
        | some (f, c) =>
          if !inFlow && (c.column : Int) < indent then some (read, c)
          else plainPieces? inFlow indent fuel read f c
        | none => none
      else some (read, c)

/-- A plain scalar, indented by at least `indent`. It is not empty. -/
def plain? (inFlow : Bool) (indent : Int) (c : Cursor) : Option (String × Cursor) :=
  if inFlow && (c.column : Int) < indent then none
  else
    match plainPieces? inFlow indent (c.bound + 2) [] {} c with
    | some (read, after) =>
      if read.isEmpty then none else some (String.ofList read.reverse, after)
    | none => none

/-! ## Quoted scalars -/

/-- The character with the number that some hexadecimal digits give. -/
def numbered? (digits : List Char) (count : Nat) : Option Char := do
  let digits := digits.take count
  if digits.length < count then none
  else
    let values ← digits.mapM hexValue?
    let n := values.foldl (fun n d => n * 16 + d) 0
    if n < 0xD800 || (0xE000 ≤ n && n < 0x110000) then some (Char.ofNat n) else none

/-- The character that an escape stands for, and the number of its characters after the
backslash. -/
def escape? : List Char → Option (Char × Nat)
  | [] => none
  | c :: cs =>
    let short (x : Char) : Option (Char × Nat) := some (x, 1)
    match c with
    | '0' => short '\x00'
    | 'a' => short '\x07'
    | 'b' => short '\x08'
    | 't' | '\t' => short '\t'
    | 'n' => short '\n'
    | 'v' => short '\x0b'
    | 'f' => short '\x0c'
    | 'r' => short '\r'
    | 'e' => short '\x1b'
    | ' ' => short ' '
    | '"' => short '"'
    | '/' => short '/'
    | '\\' => short '\\'
    | 'N' => short '\u0085'
    | '_' => short '\u00a0'
    | 'L' => short '\u2028'
    | 'P' => short '\u2029'
    | 'x' => (numbered? cs 2).map fun x => (x, 3)
    | 'u' => (numbered? cs 4).map fun x => (x, 5)
    | 'U' => (numbered? cs 8).map fun x => (x, 9)
    | _ => none

/-- What ends a run of content in a quoted scalar. -/
inductive QuotedStop where
  | quote
  | gap
  /-- A backslash at the end of a line, which joins the next line without a space. -/
  | joined

/-- The content of a quoted scalar up to white space or the closing quote. -/
def quotedRun? (single : Bool) :
    Nat → List Char → Cursor → Option (List Char × QuotedStop × Cursor)
  | 0, _, _ => none
  | fuel + 1, read, c =>
    match c.rest with
    | [] => none
    | x :: rest =>
      if isGap x || x == '\n' then some (read, .gap, c)
      else if single && x == '\'' then
        if rest.head? = some '\'' then quotedRun? single fuel ('\'' :: read) (c.steps 2)
        else some (read, .quote, c)
      else if !single && x == '"' then some (read, .quote, c)
      else if !single && x == '\\' then
        if rest.head? = some '\n' then some (read, .joined, c.step.stepBreak)
        else
          match escape? rest with
          | some (e, n) => quotedRun? single fuel (e :: read) (c.steps (n + 1))
          | none => none
      else quotedRun? single fuel (x :: read) c.step

/-- Over the white space inside a quoted scalar; the truth value says whether a line has ended. -/
def quotedFold? (indent : Int) : Nat → Bool → Fold → Cursor → Option (Fold × Cursor)
  | 0, _, _, _ => none
  | fuel + 1, lines, f, c =>
    match c.peek with
    | some '\n' =>
      let f : Fold :=
        if lines then { f with moreBreaks := f.moreBreaks + 1 }
        else { f with gaps := [], broken := true }
      quotedFold? indent fuel true f c.stepBreak
    | some g =>
      if isGap g then
        if !lines then quotedFold? indent fuel lines { f with gaps := g :: f.gaps } c.stepGap
        else if g == '\t' && (c.column : Int) < indent then none
        else quotedFold? indent fuel lines f c.stepGap
      else some (f, c)
    | none => some (f, c)

/-- The text that white space inside a quoted scalar leaves. After a backslash at the end of a line
only further breaks are left. -/
def quotedGapText (joined : Bool) (f : Fold) : List Char :=
  if joined then List.replicate f.moreBreaks '\n' else f.text

/-- The pieces of a quoted scalar up to the closing quote. Outside brackets, a line whose break is
not escaped is indented by more than `indent` unless it starts with the quote. -/
def quotedPieces? (single inFlow : Bool) (indent : Int) :
    Nat → List Char → Cursor → Option (List Char × Cursor)
  | 0, _, _ => none
  | fuel + 1, read, c =>
    if c.column == 0 && c.atDocumentMark then none
    else
      match quotedRun? single (c.bound + 1) read c with
      | none => none
      | some (read, .quote, c) => some (read, c.step)
      | some (read, stop, c) =>
        let joined := match stop with | .joined => true | _ => false
        match quotedFold? indent (c.bound + 1) joined {} c with
        | none => none
        | some (f, c) =>
          let atQuote := c.peek == some (if single then '\'' else '"')
          if f.broken && !inFlow && !atQuote && (c.column : Int) ≤ indent then none
          else
            quotedPieces? single inFlow indent fuel ((quotedGapText joined f).reverse ++ read) c

/-- A quoted scalar whose opening quote comes next. -/
def quoted? (single inFlow : Bool) (indent : Int) (c : Cursor) : Option (String × Cursor) :=
  (quotedPieces? single inFlow indent (c.bound + 2) [] c.step).map fun (read, c) =>
    (String.ofList read.reverse, c)

/-! ## Block scalars -/

/-- What is done with the line breaks at the end of a block scalar. -/
inductive Chomping where
  | strip
  | clip
  | keep
  deriving DecidableEq

/-- The signs after the mark of a block scalar, in either order: chomping, and indentation from 1
to 9 or 0 if none is given. -/
def blockHeader? (c : Cursor) : Option (Chomping × Nat × Cursor) :=
  let chomping? (c : Cursor) : Option Chomping :=
    match c.peek with
    | some '+' => some .keep
    | some '-' => some .strip
    | _ => none
  let digit? (c : Cursor) : Option Nat :=
    match c.peek with
    | some d => if d.isDigit then some (d.toNat - 48) else none
    | none => none
  match chomping? c, digit? c with
  | some chomping, _ =>
    match digit? c.step with
    | some 0 => none
    | some n => some (chomping, n, c.step.step)
    | none => some (chomping, 0, c.step)
  | none, some 0 => none
  | none, some n =>
    match chomping? c.step with
    | some chomping => some (chomping, n, c.step.step)
    | none => some (.clip, n, c.step)
  | none, none => some (.clip, 0, c)

/-- Over spaces up to a column, and over empty lines; counts the line breaks. -/
def blockIndent (limit : Option Nat) : Nat → Nat → Nat → Cursor → Nat × Nat × Cursor
  | 0, breaks, deepest, c => (breaks, deepest, c)
  | fuel + 1, breaks, deepest, c =>
    match c.peek with
    | some ' ' =>
      if limit.all (c.column < ·) then blockIndent limit fuel breaks deepest c.stepGap
      else (breaks, max deepest c.column, c)
    | some '\n' => blockIndent limit fuel (breaks + 1) (max deepest c.column) c.stepBreak
    | _ => (breaks, max deepest c.column, c)

/-- A block scalar that is being read: its characters so far, the last one first, whether a line
break is pending, and how many empty lines came after it. -/
structure BlockState where
  read : List Char := []
  pending : Bool := false
  empty : Nat := 0
  /-- Did the last line start with a gap? Such lines do not fold. -/
  spaced : Bool := false

/-- The line breaks before the next line of a block scalar. -/
def BlockState.gap (folded spaced : Bool) (s : BlockState) : List Char :=
  if folded && s.pending && !s.spaced && !spaced then
    if s.empty = 0 then [' '] else List.replicate s.empty '\n'
  else List.replicate ((if s.pending then 1 else 0) + s.empty) '\n'

/-- The lines of a block scalar that are indented by `indent`. -/
def blockLines (folded : Bool) (indent : Nat) : Nat → BlockState → Cursor → BlockState × Cursor
  | 0, s, c => (s, c)
  | fuel + 1, s, c =>
    if c.column ≠ indent || c.rest.isEmpty || (indent = 0 && c.startsMark '.') then (s, c)
    else
      let spaced := c.peek.any isGap
      let line := c.rest.takeWhile (· ≠ '\n')
      let read := line.reverse ++ (s.gap folded spaced).reverse ++ s.read
      let c := c.toLineEnd
      if c.rest.isEmpty then ({ read, spaced }, c)
      else
        let (empty, _, c) := blockIndent (some indent) (c.bound + 1) 0 0 c.stepBreak
        blockLines folded indent fuel { read, pending := true, empty, spaced } c

/-- A block scalar whose mark `|` or `>` comes next, inside collections indented by `indent`. -/
def block? (folded : Bool) (indent : Int) (c : Cursor) : Option (String × Cursor) := do
  let startLine := c.line
  let (chomping, increment, c) ← blockHeader? c.step
  let (c, _) ← c.skipRestOfLine? true
  if !isBreakOrEnd c.peek then none
  else
    let c := if c.rest.isEmpty then c else c.stepBreak
    if c.peek = some '\t' then none
    else
      let fuel := c.bound + 1
      let (breaks, deepest, c) :=
        if increment = 0 then blockIndent none fuel 0 0 c
        else blockIndent (some ((max indent 0).toNat + increment)) fuel 0 0 c
      let blockIndentation :=
        if increment = 0 then
          let least := max deepest (indent + 1).toNat
          if indent > 0 then max least 1 else least
        else (max indent 0).toNat + increment
      if c.rest.isEmpty then
        let text :=
          if chomping == .strip || c.line == startLine then ""
          else if chomping == .keep && breaks ≠ 0 then String.ofList (List.replicate breaks '\n')
          else "\n"
        return (text, c)
      else if c.column < blockIndentation && (c.column : Int) > indent then none
      else
        let (s, c) := blockLines folded blockIndentation fuel { empty := breaks } c
        let atEnd := c.rest.isEmpty && c.column ≥ max blockIndentation 1
        let tail :=
          (if chomping == .strip then 0
            else (if s.pending then 1 else 0) + (if atEnd then 1 else 0)) +
          (if chomping == .keep then s.empty else 0)
        return (String.ofList (s.read.reverse ++ List.replicate tail '\n'), c)

end TableSql.Yaml
