import TableSql.Data.Config
import TableSql.Data.Mapping
import TableSql.Data.Table
import TableSql.Proofs.Data.Fields
import TableSql.Proofs.Grid.TypeCell

/-!
# Tables, mappings and configurations read from what is written

* `Column.forms`, `Table.forms` — the fields of a column and of a table, and how they may be
  spelled. The items of a table's field for the columns may be spelled as columns.

Principal results: `Column.read?_of_steps`, `Table.read?_of_steps` (a table is read from every
spelling of its record), `Table.read?_eq_none_of_givenTwice`, `Table.read?_eq_none_of_column` (what
is refused), and `written_read_back` (all of it, with mappings and configurations).
-/

set_option autoImplicit false

namespace TableSql

/-! ## Plain values and lists -/

theorem Json.natOf?_ofNat (n : Nat) : natOf? (ofNat n) = some n := by
  simp [natOf?, ofNat]

theorem Json.word32?_ofNat (w : UInt32) : format.word32? (ofNat w.toNat) = some w := by
  change (natOf? (ofNat w.toNat)).bind TableSql.word32? = some w
  rw [natOf?_ofNat]
  exact word32?_eq_some_iff.2 rfl

theorem Json.word64?_ofNat (w : UInt64) : format.word64? (ofNat w.toNat) = some w := by
  have hlt : w.toNat < UInt64.size := w.toNat_lt
  change ((natOf? (ofNat w.toNat)).bind fun n =>
    if n < UInt64.size then some (UInt64.ofNat n) else none) = some w
  rw [natOf?_ofNat, Option.bind_some, if_pos hlt, UInt64.ofNat_toNat]

theorem Json.list?_eq_some {α : Type} {read : Json → Option α} {values : List α}
    {items : List Json} (h : List.Forall₂ (fun value item => read item = some value) values items) :
    format.list? read (.array items) = some values := by
  change items.mapM read = some values
  induction h with
  | nil => rfl
  | cons hitem _ ih => rw [List.mapM_cons, hitem, ih]; rfl

theorem Json.exists_of_list? {α : Type} {read : Json → Option α} {items : List Json}
    {values : List α} (h : format.list? read (.array items) = some values) {item : Json}
    (hitem : item ∈ items) : ∃ value, read item = some value := by
  change items.mapM read = some values at h
  induction items generalizing values with
  | nil => cases hitem
  | cons first items ih =>
    simp only [List.mapM_cons, Option.bind_eq_bind, Option.bind_eq_some_iff] at h
    obtain ⟨value, hfirst, rest, hrest, -⟩ := h
    rcases List.mem_cons.1 hitem with rfl | hitem
    · exact ⟨value, hfirst⟩
    · exact ih hitem hrest

theorem Json.list?_map {α : Type} {read : Json → Option α} {write : α → Json}
    (h : ∀ value, read (write value) = some value) (values : List α) :
    format.list? read (.array (values.map write)) = some values :=
  list?_eq_some (List.forall₂_map_right_iff.2 (List.forall₂_same.2 fun value _ => h value))

namespace FieldForm.Has

variable {names : List String} {fields : List (String × Json)}

theorem text?_eq {text : Option String} (h : (optional names).Has fields (.ofText? text)) :
    Fields.optional? Json.format names Json.format.text? fields = some text := by
  refine (h.optional?_eq rfl).trans ?_
  cases text with
  | none => rfl
  | some s => rfl

theorem word?_eq {number : Option UInt32} (h : (optional names).Has fields (Column.wordJson number)) :
    Fields.optional? Json.format names Json.format.word32? fields = some number := by
  refine (h.optional?_eq rfl).trans ?_
  cases number with
  | none => rfl
  | some n =>
    unfold Column.wordJson
    rw [Json.word32?_ofNat]
    rfl

end FieldForm.Has

/-! ## Columns -/

namespace Column

/-- The fields of a column, and how they may be spelled. -/
def forms : List FieldForm :=
  [.required ["name"], .required ["type", "native_type"], .optional ["length"], .optional ["scale"],
    .withDefault ["nullable"] (.bool true),
    .withDefault ["is_primary_key", "primary_key"] (.bool false),
    .optional ["default_value", "default"], .optional ["comment"]]

theorem namesApart_forms : NamesApart forms := by
  unfold NamesApart
  simp [forms, FieldForm.required, FieldForm.optional, FieldForm.withDefault]

theorem not_changes_of_mem_forms {form : FieldForm} (h : form ∈ forms) (value value' : Json) :
    ¬ form.changes value value' := by
  simp only [forms, List.mem_cons, List.not_mem_nil, or_false] at h
  rcases h with rfl | rfl | rfl | rfl | rfl | rfl | rfl | rfl <;> exact id

/-- **A column is read from every spelling of its record.** -/
theorem read?_of_steps {c : Column} {json : Json}
    (h : Relation.ReflTransGen (JsonStep forms) c.toJson json) :
    read? Json.format json = some c := by
  obtain ⟨fields, rfl, hsteps⟩ := exists_object_of_steps h
  have hkept (form : FieldForm) (hform : form ∈ forms) {held : Json} (hheld : form.Has _ held) :
      form.Has fields held :=
    has_of_steps_of_fixed namesApart_forms hsteps hform (not_changes_of_mem_forms hform) hheld
  have hname : Fields.required? ["name"] Json.format.text? fields = some c.name :=
    (hkept (.required ["name"]) (by simp [forms]) ⟨some _, rfl, rfl⟩).required?_eq rfl
  have htype : Fields.required? typeNames Json.format.text? fields = some c.typeName :=
    (hkept (.required ["type", "native_type"]) (by simp [forms]) ⟨some _, rfl, rfl⟩).required?_eq rfl
  have hlength : Fields.optional? Json.format ["length"] Json.format.word32? fields = some c.length :=
    (hkept (.optional ["length"]) (by simp [forms]) ⟨some _, rfl, rfl⟩).word?_eq
  have hscale : Fields.optional? Json.format ["scale"] Json.format.word32? fields = some c.scale :=
    (hkept (.optional ["scale"]) (by simp [forms]) ⟨some _, rfl, rfl⟩).word?_eq
  have hnullable : Fields.withDefault? ["nullable"] true Json.format.flag? fields = some c.nullable :=
    (hkept (.withDefault ["nullable"] (.bool true)) (by simp [forms])
      ⟨some _, rfl, rfl⟩).withDefault?_eq rfl rfl
  have hkey : Fields.withDefault? keyNames false Json.format.flag? fields = some c.isKey :=
    (hkept (.withDefault ["is_primary_key", "primary_key"] (.bool false)) (by simp [forms])
      ⟨some _, rfl, rfl⟩).withDefault?_eq rfl rfl
  have hdefault : Fields.optional? Json.format defaultNames Json.format.text? fields =
      some c.default? :=
    (hkept (.optional ["default_value", "default"]) (by simp [forms]) ⟨some _, rfl, rfl⟩).text?_eq
  have hcomment : Fields.optional? Json.format ["comment"] Json.format.text? fields =
      some c.comment :=
    (hkept (.optional ["comment"]) (by simp [forms]) ⟨some _, rfl, rfl⟩).text?_eq
  have hfields : Json.format.fields? fieldNames (.object fields) = some fields := rfl
  unfold read?
  simp only [hfields, hname, htype, hlength, hscale, hnullable, hkey, hdefault, hcomment,
    Option.bind_eq_bind, Option.bind_some, Option.pure_def]

theorem find?_ne_none_of_read? {fields : List (String × Json)} {c : Column}
    (h : read? Json.format (.object fields) = some c) {form : FieldForm} (hform : form ∈ forms) :
    Fields.find? form.names fields ≠ none := by
  unfold read? at h
  simp only [Option.bind_eq_bind, Option.bind_eq_some_iff] at h
  obtain ⟨fields, hfields, _, hname, _, htype, _, hlength, _, hscale, _, hnullable, _, hkey,
    _, hdefault, _, hcomment, -⟩ := h
  cases hfields
  simp only [forms, List.mem_cons, List.not_mem_nil, or_false] at hform
  rcases hform with rfl | rfl | rfl | rfl | rfl | rfl | rfl | rfl
  · exact Fields.find?_ne_none_of_required? hname
  · exact Fields.find?_ne_none_of_required? htype
  · exact Fields.find?_ne_none_of_optional? hlength
  · exact Fields.find?_ne_none_of_optional? hscale
  · exact Fields.find?_ne_none_of_withDefault? hnullable
  · exact Fields.find?_ne_none_of_withDefault? hkey
  · exact Fields.find?_ne_none_of_optional? hdefault
  · exact Fields.find?_ne_none_of_optional? hcomment

/-- **A column with a field under two names is refused.** -/
theorem read?_eq_none_of_givenTwice {fields : List (String × Json)} (h : GivenTwice forms fields) :
    read? Json.format (.object fields) = none :=
  h.eq_none fun _ hread _ => find?_ne_none_of_read? hread

end Column

/-! ## Tables -/

namespace Table

/-- The field for the columns. Each item may be spelled as a column. -/
def columnsForm : FieldForm where
  names := ["columns"]
  default? := some (.array [])
  changes := ItemStep (JsonStep Column.forms)

/-- The fields of a table, and how they may be spelled. -/
def forms : List FieldForm :=
  [.required ["name"], columnsForm, .optional ["engine_hint", "engine"], .optional ["comment"]]

theorem namesApart_forms : NamesApart forms := by
  unfold NamesApart
  simp [forms, FieldForm.required, FieldForm.optional, FieldForm.withDefault, columnsForm]

theorem list?_of_steps {columns : List Column} {json : Json}
    (h : Relation.ReflTransGen (ItemStep (JsonStep Column.forms))
      (.array (columns.map Column.toJson)) json) :
    Json.format.list? (Column.read? Json.format) json = some columns := by
  obtain ⟨items, rfl, hitems⟩ := exists_array_of_steps h
  rw [List.forall₂_map_left_iff] at hitems
  exact Json.list?_eq_some (hitems.imp fun _ _ => Column.read?_of_steps)

/-- **A table is read from every spelling of its record and of those of its columns.** -/
theorem read?_of_steps {t : Table} {json : Json}
    (h : Relation.ReflTransGen (JsonStep forms) t.toJson json) :
    read? Json.format json = some t := by
  obtain ⟨fields, rfl, hsteps⟩ := exists_object_of_steps h
  have hkept (form : FieldForm) (hform : form ∈ forms)
      (hfixed : ∀ value value', ¬ form.changes value value') {held : Json}
      (hheld : form.Has _ held) : form.Has fields held :=
    has_of_steps_of_fixed namesApart_forms hsteps hform hfixed hheld
  have hname : Fields.required? ["name"] Json.format.text? fields = some t.name :=
    (hkept (.required ["name"]) (by simp [forms]) (fun _ _ => id)
      ⟨some _, rfl, rfl⟩).required?_eq rfl
  have hengine : Fields.optional? Json.format engineNames Json.format.text? fields =
      some t.engine :=
    (hkept (.optional ["engine_hint", "engine"]) (by simp [forms]) (fun _ _ => id)
      ⟨some _, rfl, rfl⟩).text?_eq
  have hcomment : Fields.optional? Json.format ["comment"] Json.format.text? fields =
      some t.comment :=
    (hkept (.optional ["comment"]) (by simp [forms]) (fun _ _ => id) ⟨some _, rfl, rfl⟩).text?_eq
  have hcolumns : Fields.withDefault? ["columns"] []
      (Json.format.list? (Column.read? Json.format)) fields = some t.columns := by
    have hform : columnsForm ∈ forms := by simp [forms]
    obtain ⟨held, hchanges, hheld⟩ := has_of_steps namesApart_forms hsteps hform
      ⟨some (.array (t.columns.map Column.toJson)), rfl, rfl⟩
    rw [← list?_of_steps hchanges]
    exact hheld.withDefault?_eq rfl rfl
  have hfields : Json.format.fields? fieldNames (.object fields) = some fields := rfl
  unfold read?
  simp only [hfields, hname, hcolumns, hengine, hcomment, Option.bind_eq_bind, Option.bind_some,
    Option.pure_def]

theorem find?_ne_none_of_read? {fields : List (String × Json)} {t : Table}
    (h : read? Json.format (.object fields) = some t) {form : FieldForm} (hform : form ∈ forms) :
    Fields.find? form.names fields ≠ none := by
  unfold read? at h
  simp only [Option.bind_eq_bind, Option.bind_eq_some_iff] at h
  obtain ⟨fields, hfields, _, hname, _, hcolumns, _, hengine, _, hcomment, -⟩ := h
  cases hfields
  simp only [forms, List.mem_cons, List.not_mem_nil, or_false] at hform
  rcases hform with rfl | rfl | rfl | rfl
  · exact Fields.find?_ne_none_of_required? hname
  · exact Fields.find?_ne_none_of_withDefault? hcolumns
  · exact Fields.find?_ne_none_of_optional? hengine
  · exact Fields.find?_ne_none_of_optional? hcomment

/-- **A table with a field under two names is refused.** -/
theorem read?_eq_none_of_givenTwice {fields : List (String × Json)} (h : GivenTwice forms fields) :
    read? Json.format (.object fields) = none :=
  h.eq_none fun _ hread _ => find?_ne_none_of_read? hread

/-- **A table is refused if one of its columns is.** -/
theorem read?_eq_none_of_column {fields : List (String × Json)} {items : List Json} {item : Json}
    (hcolumns : ("columns", .array items) ∈ fields) (hitem : item ∈ items)
    (hnone : Column.read? Json.format item = none) : read? Json.format (.object fields) = none := by
  rw [Option.eq_none_iff_forall_ne_some]
  intro t hread
  unfold read? at hread
  simp only [Option.bind_eq_bind, Option.bind_eq_some_iff] at hread
  obtain ⟨fields, hfields, _, -, columns, hlist, -⟩ := hread
  cases hfields
  simp only [Fields.withDefault?, Option.bind_eq_bind, Option.bind_eq_some_iff] at hlist
  obtain ⟨given, hfind, hlist⟩ := hlist
  obtain rfl := Fields.find?_eq_some_of_mem hcolumns (by simp) hfind
  obtain ⟨c, hc⟩ := Json.exists_of_list? hlist hitem
  rw [hnone] at hc
  cases hc

end Table

/-! ## Mappings and configurations -/

theorem Mapping.read?_toJson (m : Mapping) : read? Json.format m.toJson = some m := by
  obtain ⟨column, source⟩ := m
  rcases source with _ | name | text
  · rfl
  · rfl
  · rfl

theorem NamedTemplate.read?_toJson (t : NamedTemplate) : read? Json.format t.toJson = some t := by
  let fields : List (String × Json) :=
    [("name", .string t.name), ("description", .ofText? t.description)] ++ t.layout.toFields
  have hfields : Json.format.fields? fieldNames t.toJson = some fields := rfl
  have hname : Fields.required? ["name"] Json.format.text? fields = some t.name := rfl
  have hdescription : Fields.optional? Json.format ["description"] Json.format.text? fields =
      some t.description := FieldForm.Has.text?_eq ⟨some _, rfl, rfl⟩
  have hstart : Fields.required? ["data_start_row"] Json.format.word64? fields =
      some t.layout.startRow := Json.word64?_ofNat t.layout.startRow
  have hnames : Fields.required? ["name_col"] Json.format.text? fields =
      some t.layout.nameColumn := rfl
  have htypes : Fields.required? ["type_col"] Json.format.text? fields =
      some t.layout.typeColumn := rfl
  have hcomments : Fields.optional? Json.format ["comment_col"] Json.format.text? fields =
      some t.layout.commentColumn := FieldForm.Has.text?_eq ⟨some _, rfl, rfl⟩
  have hkeys : Fields.optional? Json.format ["pk_col"] Json.format.text? fields =
      some t.layout.keyColumn := FieldForm.Has.text?_eq ⟨some _, rfl, rfl⟩
  unfold read? GridTemplate.ofFields?
  simp only [hfields, hname, hdescription, hstart, hnames, htypes, hcomments, hkeys,
    Option.bind_eq_bind, Option.bind_some, Option.pure_def]

theorem Config.read?_toJson (c : Config) : read? Json.format c.toJson = some c := by
  let fields : List (String × Json) :=
    [("version", .string c.version), ("dialect", .string c.dialect.name),
      ("templates", .array (c.templates.map NamedTemplate.toJson)),
      ("default_template", .string c.defaultTemplate)]
  have hfields : Json.format.fields? fieldNames c.toJson = some fields := rfl
  have hversion (version : String) :
      Fields.withDefault? ["version"] version Json.format.text? fields = some c.version := rfl
  have hdialect (dialect : Dialect) :
      Fields.withDefault? ["dialect"] dialect (dialect? Json.format) fields = some c.dialect :=
    Dialect.ofName?_name c.dialect
  have htemplates (templates : List NamedTemplate) :
      Fields.withDefault? ["templates"] templates
        (Json.format.list? (NamedTemplate.read? Json.format)) fields = some c.templates :=
    Json.list?_map NamedTemplate.read?_toJson c.templates
  have hdefault (name : String) :
      Fields.withDefault? ["default_template"] name Json.format.text? fields =
        some c.defaultTemplate := rfl
  unfold read?
  simp only [hfields, hversion, hdialect, htemplates, hdefault, Option.bind_eq_bind,
    Option.bind_some, Option.pure_def]

/-- **What is written is read back.** A table is read from every spelling of its record: with its
fields and those of its columns in any order, under any of their names, without those that hold
their default, and among fields of unknown names. A table is refused that has a field under two
names, or a column that has one. Mappings and configurations are read from their records. -/
theorem written_read_back :
    (∀ (t : Table) (json : Json),
      Relation.ReflTransGen (JsonStep Table.forms) t.toJson json →
        Table.read? Json.format json = some t) ∧
    (∀ fields : List (String × Json), GivenTwice Table.forms fields →
      Table.read? Json.format (.object fields) = none) ∧
    (∀ fields : List (String × Json), GivenTwice Column.forms fields →
      Column.read? Json.format (.object fields) = none) ∧
    (∀ (fields inner : List (String × Json)) (items : List Json),
      ("columns", .array items) ∈ fields → .object inner ∈ items →
        GivenTwice Column.forms inner → Table.read? Json.format (.object fields) = none) ∧
    (∀ ms : List Mapping,
      Json.format.list? (Mapping.read? Json.format) (.array (ms.map Mapping.toJson)) = some ms) ∧
    ∀ c : Config, Config.read? Json.format c.toJson = some c := by
  refine ⟨fun _ _ => Table.read?_of_steps, fun _ => Table.read?_eq_none_of_givenTwice,
    fun _ => Column.read?_eq_none_of_givenTwice, ?_,
    Json.list?_map Mapping.read?_toJson, Config.read?_toJson⟩
  intro fields inner items hcolumns hitem htwice
  exact Table.read?_eq_none_of_column hcolumns hitem (Column.read?_eq_none_of_givenTwice htwice)

/-- A table whose record has its fields in another order, one that stands for nothing left out and
one of an unknown name added, and whose column goes by the other names throughout and leaves out a
default; and records with a field under two names, their own or a column's. -/
theorem written_read_back_respelled :
    Table.read? Json.format (.object [("owner", .null),
      ("columns", .array [.object [("name", .string "id"), ("native_type", .string "bigint"),
        ("length", .null), ("scale", .null), ("primary_key", .bool true),
        ("default", .string "0"), ("comment", .null)]]),
      ("engine", .string "OLAP"), ("name", .string "users")]) =
        some { name := "users", engine := some "OLAP"
               columns :=
                 [{ name := "id", typeName := "bigint", isKey := true, default? := some "0" }] } ∧
    Table.read? Json.format (.object [("name", .string "users"), ("engine", .string "OLAP"),
      ("engine_hint", .string "OLAP")]) = none ∧
    Column.read? Json.format (.object [("name", .string "id"), ("type", .string "bigint"),
      ("native_type", .string "bigint")]) = none ∧
    Column.read? Json.format (.object [("name", .string "id"), ("type", .string "bigint"),
      ("primary_key", .bool true), ("is_primary_key", .bool true)]) = none ∧
    Column.read? Json.format (.object [("name", .string "id"), ("type", .string "bigint"),
      ("default_value", .string "0"), ("default", .string "0")]) = none ∧
    Table.read? Json.format (.object [("name", .string "users"),
      ("columns", .array [.object [("name", .string "id"), ("type", .string "bigint"),
        ("native_type", .string "bigint")]])]) = none := by
  obtain ⟨hspelled, htwice, hcolumnTwice, hinside, -⟩ := written_read_back
  have hengine : .optional ["engine_hint", "engine"] ∈ Table.forms := by simp [Table.forms]
  have hcomment : .optional ["comment"] ∈ Table.forms := by simp [Table.forms]
  have hcolumns : Table.columnsForm ∈ Table.forms := by simp [Table.forms]
  have htype : .required ["type", "native_type"] ∈ Column.forms := by simp [Column.forms]
  have hkey : .withDefault ["is_primary_key", "primary_key"] (.bool false) ∈ Column.forms := by
    simp [Column.forms]
  have hdefault : .optional ["default_value", "default"] ∈ Column.forms := by simp [Column.forms]
  have hnullable : .withDefault ["nullable"] (.bool true) ∈ Column.forms := by simp [Column.forms]
  have hunknown : ∀ form ∈ Table.forms, "owner" ∉ form.names := by
    simp [Table.forms, FieldForm.required, FieldForm.optional, FieldForm.withDefault,
      Table.columnsForm]
  have hcolumn {item item' : Json} (h : JsonStep Column.forms item item')
      (before after : List (String × Json)) :
      JsonStep Table.forms (.object (before ++ ("columns", .array [item]) :: after))
        (.object (before ++ ("columns", .array [item']) :: after)) :=
    .object (.inside before after _ _ "columns" hcolumns (by decide) (.item [] [] h))
  have hgiven : GivenTwice Column.forms [("name", .string "id"), ("type", .string "bigint"),
      ("native_type", .string "bigint")] :=
    ⟨_, htype, "type", by decide, "native_type", by decide, by decide, by simp, by simp⟩
  refine ⟨hspelled _ _ ?_, htwice _ ⟨_, hengine, "engine", by decide, "engine_hint", by decide,
    by decide, by simp, by simp⟩, hcolumnTwice _ hgiven,
    hcolumnTwice _ ⟨_, hkey, "primary_key", by decide, "is_primary_key", by decide, by decide,
      by simp, by simp⟩,
    hcolumnTwice _ ⟨_, hdefault, "default", by decide, "default_value", by decide, by decide,
      by simp, by simp⟩,
    hinside _ _ _ ?_ (List.mem_singleton_self _) hgiven⟩
  · refine .head (.object (.rename [_, _] [_] _ "engine_hint" "engine" hengine (by decide)
      (by decide))) ?_
    refine .head (.object (.drop [_, _, _] [] .null "comment" hcomment (by decide) rfl)) ?_
    refine .head (hcolumn (.object (.rename [_] [_, _, _, _, _, _] _ "type" "native_type" htype
      (by decide) (by decide))) [_] [_]) ?_
    refine .head (hcolumn (.object (.drop [_, _, _, _] [_, _, _] (.bool true) "nullable" hnullable
      (by decide) rfl)) [_] [_]) ?_
    refine .head (hcolumn (.object (.rename [_, _, _, _] [_, _] _ "is_primary_key" "primary_key"
      hkey (by decide) (by decide))) [_] [_]) ?_
    refine .head (hcolumn (.object (.rename [_, _, _, _, _] [_] _ "default_value" "default"
      hdefault (by decide) (by decide))) [_] [_]) ?_
    refine .head (.object (.add [] _ .null "owner" hunknown)) ?_
    exact .single (.object (.reorder (.cons _ (List.perm_append_singleton _ [_, _]).symm)))
  · simp

end TableSql
