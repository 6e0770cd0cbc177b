import TableSql.Proofs.Import.Values

/-!
# The first line of an import

The first line of an import is a comment with the name of the table as it is. An INSERT names the
table once more, between quotes.

* `LineBreaks` — the characters that end a line; `LineBreaks.count` — how many of them there are.
* `LineBreaks.IsComment` — one line that is a comment.
* `ImportBody` — what may stand behind the first line.
* `Confined` — the name of the table stands in the comment and between the quotes, and nowhere else.
* `Table.importTail` — what an INSERT says behind the name of the table, whatever this name is.

Principal results: `Confined.count_eq` (a confined name has its line breaks in an INSERT only),
`not_confined_of_break` (a line break in the name ends the comment) and `import_confined_iff`.
-/

set_option autoImplicit false

namespace TableSql

/-! ## Lines -/

/-- The characters that end a line. A line feed does; blanks and visible ASCII characters do not. -/
structure LineBreaks where
  breaks : Char → Bool
  lineFeed : breaks '\n' = true
  visible : ∀ c, (' ' ≤ c && c ≤ '~') = true → breaks c = false

namespace LineBreaks

/-- Only a line feed ends a line. -/
def lineFeeds : LineBreaks where
  breaks c := c == '\n'
  lineFeed := rfl
  visible := by
    intro c hc
    rw [beq_eq_false_iff_ne]
    rintro rfl
    exact absurd hc (by decide)

variable (lines : LineBreaks)

/-- The number of line breaks in a text. -/
def count (s : String) : Nat := s.toList.countP lines.breaks

/-- One line that is a comment. -/
def IsComment (line : String) : Prop :=
  "--".toList <+: line.toList ∧ ∀ c ∈ line.toList, lines.breaks c = false

theorem count_append (a b : String) : lines.count (a ++ b) = lines.count a + lines.count b := by
  rw [count, String.toList_append, List.countP_append]
  rfl

theorem count_eq_zero_iff {s : String} :
    lines.count s = 0 ↔ ∀ c ∈ s.toList, lines.breaks c = false := by
  simp [count, List.countP_eq_zero]

theorem count_of_visible {s : String} (h : s.toList.all (fun c => ' ' ≤ c && c ≤ '~') = true) :
    lines.count s = 0 := by
  rw [count_eq_zero_iff]
  exact fun c hc => lines.visible c (List.all_eq_true.1 h c hc)

theorem count_singleton {c : Char} (h : lines.breaks c = true) :
    lines.count (String.singleton c) = 1 := by
  simp [count, h]

theorem singleton_lineFeed : String.singleton '\n' = "\n" := by decide

theorem count_lineFeed : lines.count "\n" = 1 := by
  rw [← singleton_lineFeed]
  exact lines.count_singleton lines.lineFeed

/-- Doubling a character that ends no line adds no line break. -/
theorem countP_doubled {quote : Char} (h : lines.breaks quote = false) (cs : List Char) :
    (Text.doubled quote cs).countP lines.breaks = cs.countP lines.breaks := by
  induction cs with
  | nil => rfl
  | cons c cs ih =>
    rw [Text.doubled]
    split
    · rename_i hc
      subst hc
      simp [h, ih]
    · simp [List.countP_cons, ih]

theorem count_quoteName (d : Dialect) (name : String) :
    lines.count (quoteName d name) = lines.count name := by
  have hquote : lines.breaks d.nameQuote = false := lines.visible _ (by cases d <;> decide)
  simp [count, toList_quoteName, Text.enclosedChars, hquote, lines.countP_doubled hquote]

end LineBreaks

/-! ## Where the name of the table may stand -/

/-- What may stand behind the first line of an import: nothing, the remark that there are no rows,
or an INSERT into the table that goes on with the text `tail`. -/
inductive ImportBody (d : Dialect) (table tail : String) : String → Prop
  | nothing : ImportBody d table tail ""
  | remark : ImportBody d table tail "-- No data found"
  | insert : ImportBody d table tail ("INSERT INTO " ++ quoteName d table ++ tail)

/-- The first line of a statement is a comment, and behind its end there is nothing of the name of
the table but its quoted form in an INSERT, which goes on with the text `tail`. -/
inductive Confined (lines : LineBreaks) (d : Dialect) (table tail : String) : String → Prop
  | oneLine {line : String} (comment : lines.IsComment line) : Confined lines d table tail line
  | moreLines {line body : String} {c : Char} (comment : lines.IsComment line)
      (lineBreak : lines.breaks c = true) (behind : ImportBody d table tail body) :
      Confined lines d table tail (line ++ String.singleton c ++ body)

variable {d : Dialect} {table tail : String}

theorem ImportBody.count_eq (lines : LineBreaks) {body : String}
    (h : ImportBody d table tail body) :
    lines.count body = 0 ∨ lines.count body = lines.count table + lines.count tail := by
  cases h with
  | nothing => exact .inl rfl
  | remark => exact .inl (lines.count_of_visible (by decide))
  | insert =>
    right
    rw [lines.count_append, lines.count_append, lines.count_of_visible (by decide),
      lines.count_quoteName, Nat.zero_add]

theorem Confined.count_eq {lines : LineBreaks} {statement : String}
    (h : Confined lines d table tail statement) :
    lines.count statement ≤ 1 ∨
      lines.count statement = 1 + lines.count table + lines.count tail := by
  cases h with
  | oneLine comment =>
    have hline := lines.count_eq_zero_iff.2 comment.2
    omega
  | moreLines comment lineBreak behind =>
    have hline := lines.count_eq_zero_iff.2 comment.2
    have hbody := behind.count_eq lines
    rw [lines.count_append, lines.count_append, lines.count_singleton lineBreak, hline]
    omega

namespace Table

variable (t : Table) (mappings : List Mapping) (s : Sheet)

/-- What an INSERT says behind the name of the table. -/
def importTail (d : Dialect) : String :=
  let bindings := t.bindings mappings s
  let rows := s.rows.filter (!·.isEmpty)
  " (" ++ quoteNames d (bindings.map (·.1)) ++ ") VALUES\n" ++
    ",\n".intercalate (rows.map (importTuple bindings)) ++ ";"

theorem count_importTail_pos (lines : LineBreaks) (d : Dialect) :
    0 < lines.count (t.importTail mappings s d) := by
  have hlead : ") VALUES\n" = ") VALUES" ++ "\n" := rfl
  unfold importTail
  simp only [hlead, lines.count_append, lines.count_lineFeed]
  omega

theorem bindings_eq_nil_iff :
    t.bindings mappings s = [] ↔ ∀ c ∈ t.columns, isMapped mappings c.name = false := by
  rw [← List.map_eq_nil_iff (f := (·.1)), bindings_names, List.map_eq_nil_iff,
    List.filter_eq_nil_iff]
  simp only [Bool.not_eq_true]

theorem exists_importBody (d : Dialect) (h : t.bindings mappings s ≠ []) :
    ∃ body, ImportBody d t.name (t.importTail mappings s d) body ∧
      t.importStatement d mappings s = "-- Import to " ++ t.name ++ "\n" ++ body := by
  have hbound : ¬ (t.bindings mappings s).isEmpty = true := by simpa using h
  unfold importStatement
  simp only [if_neg hbound]
  split
  · exact ⟨_, .remark, rfl⟩
  · refine ⟨_, .insert, ?_⟩
    unfold importTail
    simp only [String.append_assoc]

/-- **A name without line breaks stays where it belongs.** -/
theorem confined_of_no_break (lines : LineBreaks) (d : Dialect) (h : t.bindings mappings s ≠ [])
    (hname : ∀ c ∈ t.name.toList, lines.breaks c = false) :
    Confined lines d t.name (t.importTail mappings s d) (t.importStatement d mappings s) := by
  obtain ⟨body, hbody, hstatement⟩ := t.exists_importBody mappings s d h
  have hcomment : lines.IsComment ("-- Import to " ++ t.name) := by
    refine ⟨?_, ?_⟩
    · rw [String.toList_append]
      exact (show "--".toList <+: "-- Import to ".toList by decide).trans (List.prefix_append _ _)
    · rw [← lines.count_eq_zero_iff, lines.count_append, lines.count_of_visible (by decide),
        Nat.zero_add, lines.count_eq_zero_iff]
      exact hname
  rw [hstatement, ← LineBreaks.singleton_lineFeed]
  exact .moreLines hcomment lines.lineFeed hbody

/-- **A line break in the name ends the comment.** -/
theorem not_confined_of_break (lines : LineBreaks) (d : Dialect) (h : t.bindings mappings s ≠ [])
    {c : Char} (hc : c ∈ t.name.toList) (hbreak : lines.breaks c = true) :
    ¬ Confined lines d t.name (t.importTail mappings s d) (t.importStatement d mappings s) := by
  obtain ⟨body, hbody, hstatement⟩ := t.exists_importBody mappings s d h
  intro hconfined
  have hcount := hconfined.count_eq
  have hactual := hbody.count_eq lines
  have htail := t.count_importTail_pos mappings s lines d
  have hname : lines.count t.name ≠ 0 := by
    intro hzero
    rw [lines.count_eq_zero_iff.1 hzero c hc] at hbreak
    cases hbreak
  rw [hstatement, lines.count_append, lines.count_append, lines.count_append,
    lines.count_lineFeed, lines.count_of_visible (by decide)] at hcount
  omega

/-- **The name of the table stays in the comment and between its quotes, exactly if no column is
mapped (the name is not written at all) or there is no line break in the name.** -/
theorem import_confined_iff (lines : LineBreaks) (d : Dialect) (name : String) :
    Confined lines d name (t.importTail mappings s d)
        (({ t with name := name } : Table).importStatement d mappings s) ↔
      (∀ c ∈ t.columns, isMapped mappings c.name = false) ∨
        ∀ c ∈ name.toList, lines.breaks c = false := by
  -- neither the bindings nor the tail look at the name
  let named : Table := { t with name := name }
  rw [← bindings_eq_nil_iff t mappings s]
  by_cases hbindings : t.bindings mappings s = []
  · have hcomment : lines.IsComment "-- No mappings configured" :=
      ⟨by decide, lines.count_eq_zero_iff.1 (lines.count_of_visible (by decide))⟩
    rw [importStatement_of_no_bindings named mappings s d hbindings]
    exact iff_of_true (.oneLine hcomment) (.inl hbindings)
  · constructor
    · intro hconfined
      right
      intro c hc
      by_contra hbreak
      rw [Bool.not_eq_false] at hbreak
      exact named.not_confined_of_break mappings s lines d hbindings hc hbreak hconfined
    · rintro (hnil | hname)
      · exact absurd hnil hbindings
      · exact named.confined_of_no_break mappings s lines d hbindings hname

/-- A name of two lines: the second one is not part of the comment any more. -/
theorem import_name_leaks :
    let t : Table :=
      { name := "users\nDROP TABLE users;", columns := [{ name := "id", typeName := "int" }] }
    let mappings : List Mapping := [{ column := "id", source := some (.literal "1") }]
    let s : Sheet := { headers := ["id"], rows := [[.null]] }
    t.importStatement .mysql mappings s =
      "-- Import to users\nDROP TABLE users;\n" ++
        "INSERT INTO \x60users\nDROP TABLE users;\x60 (\x60id\x60) VALUES\n('1');" ∧
    ¬ Confined .lineFeeds .mysql t.name (t.importTail mappings s .mysql)
      (t.importStatement .mysql mappings s) := by
  intro t mappings s
  have hbindings : t.bindings mappings s ≠ [] := by decide
  have hmem : '\n' ∈ t.name.toList := by decide
  exact ⟨by decide +kernel,
    t.not_confined_of_break mappings s .lineFeeds .mysql hbindings hmem rfl⟩

end Table

end TableSql
