import TableSql.Proofs.Ddl.Quotes

/-!
# The name of the key constraint

PostgreSQL, Oracle and SQL Server get a named constraint for the key, and comments in statements of
their own. The name of the constraint is made from the table's name and goes in without quotes.

* `WordChars` — a notion of the characters of a plain word.
* `Identifier` — one identifier as it stands in a statement: a plain word or a quoted name.
* `Table.KeepsQuotes` — a scan of the statement finds the names and the comments and nothing else,
  and one identifier names the constraint.

Principal results: `namedStatement_injective` (a statement tells the name of its constraint),
`scan?_of_spells`, and the exact condition: a statement keeps its quotes if and only if there is no
key or the table's name is made of the characters of a plain word.
-/

set_option autoImplicit false

namespace TableSql

/-! ## Identifiers -/

/-- A notion of letters, digits and the underscore, as wide as one likes beyond what the name of a
constraint starts with, but without the quotes. -/
structure WordChars where
  holds : Char → Bool
  lead : ∀ c ∈ "pk_".toList, holds c = true
  quotes : holds '"' = false ∧ holds '\'' = false

/-- The letters `A`–`Z` and `a`–`z`, the digits and the underscore. -/
def WordChars.ascii : WordChars where
  holds c := c.isAlphanum || c == '_'
  lead := List.all_eq_true.mp (by decide)
  quotes := by decide

/-- A text of these characters. -/
def WordChars.Spells (words : WordChars) (s : String) : Prop :=
  ∀ c ∈ s.toList, words.holds c = true

/-- One identifier as it stands in a statement, with the quoted parts in it. -/
inductive Identifier (words : WordChars) (nameQuote : Char) : String → List Quotation → Prop where
  | word {s : String} : s ≠ "" → words.Spells s → Identifier words nameQuote s []
  | quoted (s : String) : Identifier words nameQuote (Text.enclosed nameQuote s) [.name s]

/-! ## Statements with a named constraint -/

namespace Table

/-- The line that names the constraint of the key. -/
def constraintLine (d : Dialect) (t : Table) (constraint : String) : String :=
  "CONSTRAINT " ++ constraint ++ " PRIMARY KEY (" ++ quoteNames d t.keyNames ++ ")"

/-- What follows the parentheses: the end of the statement and the comments. -/
def behindBody (d : Dialect) (t : Table) : String :=
  ";" ++
    if (t.commentStatements d).isEmpty then "" else "\n\n" ++ String.join (t.commentStatements d)

/-- The statement with a constraint of a given name. -/
def namedStatement (d : Dialect) (t : Table) (constraint : String) : String :=
  createBody d t.name (t.columns.map (·.definition d) ++ [t.constraintLine d constraint]) ++
    t.behindBody d

/-- The names in the comment statements: the table and the column for each comment of a column, and
the table for its own. -/
def commentNames (t : Table) : List String :=
  (t.columns.filter (·.commentText.isSome)).flatMap (fun c => [t.name, c.name]) ++
    (t.commentText.map fun _ => t.name).toList

/-- A scan of the statement finds the names and the comments in order and nothing else, apart from
the name of the constraint, which is one identifier. -/
def KeepsQuotes (words : WordChars) (d : Dialect) (t : Table) : Prop :=
  ∃ parts constraintParts : List Quotation,
    scan? d.nameQuote (t.createStatement d) = some parts ∧
    Quotation.names parts = t.name :: t.columnNames ++ Quotation.names constraintParts ++
      t.keyNames ++ t.commentNames ∧
    Quotation.texts parts = t.columns.filterMap (·.commentText) ++ t.commentText.toList ∧
    if t.hasKey then
      ∃ constraint, Identifier words d.nameQuote constraint constraintParts ∧
        t.createStatement d = t.namedStatement d constraint
    else constraintParts = []

theorem hasKey_iff (t : Table) : t.hasKey = true ↔ t.keyColumns ≠ [] := by
  simp [hasKey, keyColumns]

end Table

variable {d : Dialect}

theorem Dialect.nameQuote_of_deferred (hd : d.hasInlineComments = false) : d.nameQuote = '"' := by
  cases d
  case mysql | doris => cases hd
  all_goals rfl

theorem createStatement_of_deferred (hd : d.hasInlineComments = false) (t : Table) :
    t.createStatement d =
      createBody d t.name (t.columns.map (·.definition d) ++
        (t.keyLine ("CONSTRAINT pk_" ++ t.name ++ " ") d).toList) ++ t.behindBody d := by
  have hcreate : t.createStatement d = t.createWithComments d := by
    cases d
    case mysql | doris => cases hd
    all_goals rfl
  rw [hcreate, Table.createWithComments, Table.behindBody, String.append_assoc]

/-- The statement of a table with a key, by the name that its constraint gets. -/
theorem createStatement_of_hasKey (hd : d.hasInlineComments = false) {t : Table}
    (hk : t.hasKey = true) : t.createStatement d = t.namedStatement d ("pk_" ++ t.name) := by
  have hkey : t.keyColumns.isEmpty = false := by
    simpa using t.hasKey_iff.1 hk
  have hlead : "CONSTRAINT pk_" = "CONSTRAINT " ++ "pk_" := by decide
  have hblank : " " ++ ("PRIMARY KEY (" ++ (quoteNames d t.keyNames ++ ")")) =
      " PRIMARY KEY (" ++ (quoteNames d t.keyNames ++ ")") := by
    rw [← String.append_assoc]
    rfl
  rw [createStatement_of_deferred hd]
  unfold Table.namedStatement Table.keyLine Table.constraintLine
  simp only [hkey, hlead, Bool.false_eq_true, if_false, Option.toList_some, String.append_assoc,
    hblank]

/-- Only the last of some lines is open: what stands before it does not depend on it. -/
theorem intercalate_concat (sep : String) (lines : List String) :
    ∃ lead, ∀ line, sep.intercalate (lines ++ [line]) = lead ++ line := by
  by_cases h : lines = []
  · exact ⟨"", fun line => by simp [h]⟩
  · refine ⟨sep.intercalate lines ++ sep, fun line => ?_⟩
    rw [String.intercalate_append_of_ne_nil h (by simp), String.intercalate_singleton]

/-- A statement is the name of its constraint between two texts that do not depend on it. -/
theorem namedStatement_eq (d : Dialect) (t : Table) :
    ∃ before after, ∀ constraint,
      t.namedStatement d constraint = before ++ constraint ++ after := by
  obtain ⟨lead, hlead⟩ :=
    intercalate_concat ",\n" ((t.columns.map (·.definition d)).map indented)
  refine ⟨"CREATE TABLE " ++ quoteName d t.name ++ " (\n" ++ lead ++ "  " ++ "CONSTRAINT ",
    " PRIMARY KEY (" ++ quoteNames d t.keyNames ++ ")" ++ "\n)" ++ t.behindBody d, ?_⟩
  intro constraint
  unfold Table.namedStatement createBody Table.constraintLine
  simp only [List.map_append, List.map_cons, List.map_nil, hlead, indented, String.append_assoc]

theorem namedStatement_injective {t : Table} {a b : String}
    (h : t.namedStatement d a = t.namedStatement d b) : a = b := by
  obtain ⟨before, after, heq⟩ := namedStatement_eq d t
  rw [heq, heq] at h
  exact (String.append_right_inj before).1 ((String.append_left_inj after).1 h)

/-! ## Comments in statements of their own -/

/-- The quoted parts of the comment statements. -/
def Table.commentParts (t : Table) : List Quotation :=
  t.columns.flatMap (fun c => c.commentText.toList.flatMap fun text =>
    [.name t.name, .name c.name, .text text]) ++
  t.commentText.toList.flatMap fun text => [.name t.name, .text text]

theorem names_commentParts (t : Table) : Quotation.names t.commentParts = t.commentNames := by
  have hcolumns (columns : List Column) :
      Quotation.names (columns.flatMap fun c => c.commentText.toList.flatMap fun text =>
        [.name t.name, .name c.name, .text text]) =
      (columns.filter (·.commentText.isSome)).flatMap fun c => [t.name, c.name] := by
    induction columns with
    | nil => rfl
    | cons c cs ih => cases hc : c.commentText <;> simp [hc, ih]
  rw [Table.commentParts, Table.commentNames, Quotation.names_append, hcolumns]
  cases t.commentText <;> simp

theorem texts_commentParts (t : Table) :
    Quotation.texts t.commentParts =
      t.columns.filterMap (·.commentText) ++ t.commentText.toList := by
  have hcolumns (columns : List Column) :
      Quotation.texts (columns.flatMap fun c => c.commentText.toList.flatMap fun text =>
        [.name t.name, .name c.name, .text text]) = columns.filterMap (·.commentText) := by
    induction columns with
    | nil => rfl
    | cons c cs ih => cases hc : c.commentText <;> simp [hc, ih]
  rw [Table.commentParts, Quotation.texts_append, hcolumns]
  cases t.commentText <;> simp

theorem yields_columnComment (t : Table) (c : Column) (text : String) :
    Yields d.nameQuote
      ("COMMENT ON COLUMN " ++ quoteName d t.name ++ "." ++ quoteName d c.name ++ " IS " ++
        quoteText text ++ ";\n")
      [.name t.name, .name c.name, .text text] := by
  have htable := yields_name (show Unquoted d.nameQuote "COMMENT ON COLUMN " by cases d <;> decide)
    (by decide) t.name
  have hcolumn := yields_name (show Unquoted d.nameQuote "." by cases d <;> decide)
    (by decide) c.name
  have htext := yields_text (show Unquoted d.nameQuote " IS " by cases d <;> decide)
    (by decide) text
  have hend : Unquoted d.nameQuote ";\n" := by cases d <;> decide
  have := ((htable.append hcolumn).append htext).append_plain hend
  simp only [String.append_assoc] at this ⊢
  exact this

theorem yields_tableComment (t : Table) (text : String) :
    Yields d.nameQuote
      ("COMMENT ON TABLE " ++ quoteName d t.name ++ " IS " ++ quoteText text ++ ";\n")
      [.name t.name, .text text] := by
  have htable := yields_name (show Unquoted d.nameQuote "COMMENT ON TABLE " by cases d <;> decide)
    (by decide) t.name
  have htext := yields_text (show Unquoted d.nameQuote " IS " by cases d <;> decide)
    (by decide) text
  have hend : Unquoted d.nameQuote ";\n" := by cases d <;> decide
  have := (htable.append htext).append_plain hend
  simp only [String.append_assoc] at this ⊢
  exact this

theorem yields_commentStatements (t : Table) :
    Yields d.nameQuote (String.join (t.commentStatements d)) t.commentParts := by
  rw [Table.commentStatements, String.join_append]
  refine Yields.append ?_ ?_
  · generalize t.columns = columns
    induction columns with
    | nil => exact Unquoted.yields (by simp [Unquoted])
    | cons c cs ih =>
      cases hc : c.commentText with
      | none => simpa [hc] using ih
      | some text =>
        have := (yields_columnComment (d := d) t c text).append ih
        simpa [hc] using this
  · cases t.commentText with
    | none => exact Unquoted.yields (by simp [Unquoted])
    | some text => simpa using yields_tableComment (d := d) t text

theorem yields_behindBody (t : Table) :
    Yields d.nameQuote (t.behindBody d) t.commentParts := by
  have hend : Unquoted d.nameQuote ";" := by cases d <;> decide
  have hlines : Unquoted d.nameQuote "\n\n" := by cases d <;> decide
  have hcomments := yields_commentStatements (d := d) t
  rw [Table.behindBody]
  split
  · rename_i hnone
    rw [List.isEmpty_iff.1 hnone, String.join_nil] at hcomments
    exact hend.yields.append hcomments
  · exact hend.yields.append (hlines.yields.append hcomments)

/-! ## The condition -/

namespace WordChars.Spells

variable {words : WordChars} {name : String}

/-- A plain word behind the lead of a constraint's name makes one identifier. -/
theorem identifier (h : words.Spells name) (nameQuote : Char) :
    Identifier words nameQuote ("pk_" ++ name) [] := by
  refine .word (by simp) ?_
  intro c hc
  rw [String.toList_append, List.mem_append] at hc
  rcases hc with hc | hc
  · exact words.lead c hc
  · exact h c hc

/-- Nothing else does: what starts with `p` is not quoted. -/
theorem of_identifier {parts : List Quotation} (h : Identifier words '"' ("pk_" ++ name) parts) :
    words.Spells name := by
  generalize hs : "pk_" ++ name = s at h
  cases h with
  | word _ hspells =>
    intro c hc
    refine hspells c ?_
    rw [← hs, String.toList_append]
    exact List.mem_append_right _ hc
  | quoted s =>
    have := congrArg (fun s => s.toList.head?) hs
    simp [Text.enclosed, Text.enclosedChars] at this

theorem unquoted (h : words.Spells name) : Unquoted '"' name := by
  refine ⟨fun hm => ?_, fun hm => ?_⟩
  · have := words.quotes.1
    rw [h _ hm] at this
    cases this
  · have := words.quotes.2
    rw [h _ hm] at this
    cases this

end WordChars.Spells

/-- With a plain word for a name, or without a key, a scan finds the names and the comments. -/
theorem scan?_of_spells {words : WordChars} (hd : d.hasInlineComments = false) {t : Table}
    (h : ∀ c ∈ t.columns, c.Plain '"') (hname : t.hasKey = true → words.Spells t.name) :
    ∃ parts, scan? d.nameQuote (t.createStatement d) = some parts ∧
      Quotation.names parts = t.name :: t.columnNames ++ t.keyNames ++ t.commentNames ∧
      Quotation.texts parts = t.columns.filterMap (·.commentText) ++ t.commentText.toList := by
  have hquote := Dialect.nameQuote_of_deferred hd
  have hwords (hk : t.keyColumns ≠ []) :
      Unquoted d.nameQuote ("CONSTRAINT pk_" ++ t.name ++ " ") := by
    rw [hquote]
    exact Unquoted.append (Unquoted.append (by decide) (hname (t.hasKey_iff.2 hk)).unquoted)
      (by decide)
  have hbody := yields_createBody_keyLine hwords (hquote ▸ h)
  rw [createStatement_of_deferred hd]
  refine ⟨_, (hbody.append (yields_behindBody t)).scan?_eq, ?_, ?_⟩
  · simp [names_commentParts, Table.columnNames]
  · simp [texts_commentParts, texts_columnParts_eq_nil hd]

/-- **In a statement of PostgreSQL, Oracle or SQL Server every name and every comment ends where its
own quotes end, and one identifier names the constraint, exactly if there is no key or the table's
name is a plain word.** -/
theorem keepsQuotes_iff (words : WordChars) (hd : d.hasInlineComments = false) (t : Table)
    (h : ∀ c ∈ t.columns, c.Plain '"') :
    t.KeepsQuotes words d ↔ t.hasKey = false ∨ words.Spells t.name := by
  constructor
  · rintro ⟨parts, constraintParts, -, -, -, hconstraint⟩
    cases hk : t.hasKey with
    | false => exact .inl rfl
    | true =>
      rw [hk, if_pos rfl] at hconstraint
      obtain ⟨constraint, hid, hstatement⟩ := hconstraint
      rw [createStatement_of_hasKey hd hk] at hstatement
      rw [← namedStatement_injective hstatement, Dialect.nameQuote_of_deferred hd] at hid
      exact .inr (.of_identifier hid)
  · intro hname
    have hspells : t.hasKey = true → words.Spells t.name := by
      intro hk
      rcases hname with hno | hspells
      · rw [hk] at hno
        cases hno
      · exact hspells
    obtain ⟨parts, hscan, hnames, htexts⟩ := scan?_of_spells hd h hspells
    refine ⟨parts, [], hscan, by simpa using hnames, htexts, ?_⟩
    split
    · rename_i hk
      exact ⟨"pk_" ++ t.name, (hspells hk).identifier _, createStatement_of_hasKey hd hk⟩
    · rfl

/-- A blank in the table's name is enough to break the constraint's name apart. -/
theorem not_keepsQuotes_of_blank_name :
    let t : Table :=
      { name := "order items", columns := [{ name := "id", typeName := "int", isKey := true }] }
    Dialect.oracle.hasInlineComments = false ∧ (∀ c ∈ t.columns, c.Plain '"') ∧
      ¬ t.KeepsQuotes .ascii .oracle := by
  intro t
  have hplain : ∀ c ∈ t.columns, c.Plain '"' := by
    intro c hc
    obtain rfl : c = _ := List.mem_singleton.1 hc
    exact ⟨by decide, fun value h => by cases h⟩
  refine ⟨rfl, hplain, fun h => ?_⟩
  rcases (keepsQuotes_iff .ascii rfl t hplain).1 h with hno | hspells
  · cases hno
  · exact absurd (hspells ' ' (by decide)) (by decide)

/-- A quote in the table's name opens a name in the constraint's line, and the scan never finds its
way out again. -/
theorem quote_in_name_breaks_scan :
    let t : Table :=
      { name := "a\"b", columns := [{ name := "id", typeName := "int", isKey := true }] }
    (∀ c ∈ t.columns, c.Plain '"') ∧ scan? '"' (t.createStatement .postgresql) = none := by
  intro t
  refine ⟨?_, by decide +kernel⟩
  intro c hc
  obtain rfl : c = _ := List.mem_singleton.1 hc
  exact ⟨by decide, fun value h => by cases h⟩

end TableSql
