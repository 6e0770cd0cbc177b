import Mathlib.Data.List.Nodup
import TableSql.Config
import TableSql.Proofs.Grid.Extract

/-!
# What the check of a configuration promises

* `Config.Sound` — what holds of a configuration without faults.

Principal results: `NamedTemplate.check?_eq_ok_iff` (a named template without faults is a usable
one), `Config.check?_eq_ok_iff` (the check looks for exactly these faults),
`Config.Sound.template?_eq` (a name finds the one template that has it), and from them that a
checked configuration can always be followed.
-/

set_option autoImplicit false

namespace TableSql

/-! ## Templates -/

theorem checkLetters?_eq_ok_iff {letters : List String} :
    checkLetters? letters = .ok () ↔ ∀ l ∈ letters, NamesColumn l := by
  induction letters with
  | nil => simp [checkLetters?]
  | cons l rest ih =>
    rw [checkLetters?, List.forall_mem_cons, NamesColumn]
    split
    · rename_i place hplace
      simp [hplace, ih]
    · rename_i e he
      simp [he]

/-- **A template without faults has a name and is a usable one.** -/
theorem NamedTemplate.check?_eq_ok_iff {t : NamedTemplate} :
    t.check? = .ok () ↔ Text.isBlankText t.name = false ∧ t.layout.Usable := by
  rw [check?]
  split
  · rename_i hblank
    simp [hblank]
  · rename_i hname
    split
    · rename_i hrow
      simp only [reduceCtorEq, false_iff, not_and]
      exact fun _ husable => husable.startRow hrow
    · rename_i hrow
      rw [Result.mapError_eq_ok, checkLetters?_eq_ok_iff]
      constructor
      · exact fun hletters => ⟨by simpa using hname, hrow, hletters⟩
      · exact fun ⟨_, husable⟩ => husable.letters

/-! ## Configurations -/

/-- The templates are checked in order, each name against those before it. -/
theorem checkTemplates?_eq_ok_iff {templates : List NamedTemplate} {before : List String} :
    checkTemplates? before templates = .ok () ↔
      (∀ t ∈ templates, t.name ∉ before) ∧ (templates.map (·.name)).Nodup ∧
        ∀ t ∈ templates, t.check? = .ok () := by
  induction templates generalizing before with
  | nil => simp [checkTemplates?]
  | cons t ts ih =>
    rw [checkTemplates?]
    by_cases hseen : t.name ∈ before
    · simp [hseen]
    · cases hcheck : t.check? with
      | error fault => simp [hseen, hcheck]
      | ok u =>
        simp only [List.contains_iff_mem, hseen, if_false, ih, List.mem_cons, not_or,
          List.map_cons, List.nodup_cons, List.mem_map, forall_eq_or_imp, hcheck, true_and,
          not_false_eq_true]
        -- the name is new to those behind it: said once for the names, once for each template
        grind

namespace Config

/-- A configuration without faults. -/
structure Sound (c : Config) : Prop where
  version : c.version ≠ ""
  names : (c.templates.map (·.name)).Nodup
  templates : ∀ t ∈ c.templates, t.check? = .ok ()
  default : ∃ t ∈ c.templates, t.name = c.defaultTemplate

variable {c : Config}

/-- **The check looks for exactly these faults.** -/
theorem check?_eq_ok_iff : c.check? = .ok () ↔ c.Sound := by
  have hsound : c.Sound ↔ c.version ≠ "" ∧ checkTemplates? [] c.templates = .ok () ∧
      c.templates.any (·.name == c.defaultTemplate) = true := by
    simp only [checkTemplates?_eq_ok_iff, List.not_mem_nil, not_false_eq_true, implies_true,
      true_and, List.any_eq_true, beq_iff_eq]
    exact ⟨fun ⟨version, names, templates, default⟩ => ⟨version, ⟨names, templates⟩, default⟩,
      fun ⟨version, ⟨names, templates⟩, default⟩ => ⟨version, names, templates, default⟩⟩
  rw [hsound]
  unfold check?
  by_cases hversion : c.version = ""
  · simp [hversion, throw, throwThe, MonadExceptOf.throw, bind, Except.bind]
  · cases checkTemplates? [] c.templates with
    | error fault => simp [hversion, bind, Except.bind]
    | ok u =>
      cases c.templates.any (·.name == c.defaultTemplate) <;>
        simp [hversion, throw, throwThe, MonadExceptOf.throw, bind, Except.bind, pure, Except.pure]

namespace Sound

/-- A name finds the one template that has it. -/
theorem template?_eq (h : c.Sound) {t : NamedTemplate} (ht : t ∈ c.templates) :
    c.template? (some t.name) = .ok t := by
  rw [template?, Option.getD_some]
  cases hfound : c.templates.find? (·.name == t.name) with
  | none => exact absurd (List.find?_eq_none.1 hfound t ht) (by simp)
  | some u =>
    have hname : u.name = t.name := by simpa using List.find?_some hfound
    obtain rfl := List.inj_on_of_nodup_map h.names (List.mem_of_find?_eq_some hfound) ht hname
    rfl

theorem template?_none (h : c.Sound) :
    ∃ t ∈ c.templates, t.name = c.defaultTemplate ∧ c.template? none = .ok t := by
  obtain ⟨t, ht, hname⟩ := h.default
  refine ⟨t, ht, hname, ?_⟩
  have := h.template?_eq ht
  rwa [hname] at this

end Sound

end Config

/-! ## Following a template -/

/-- **The check of a template with a name is exactly what reading a table needs, and a checked
configuration can always be followed:** the default template is there, each name finds its own
template, and with each of them a table is read from any grid. -/
theorem checked_templates_extract :
    (∀ t : NamedTemplate, Text.isBlankText t.name = false →
      (t.check? = .ok () ↔
        ∀ name grid, ∃ table, extractTable? name grid t.layout = .ok table)) ∧
    ∀ c : Config, c.check? = .ok () →
      (∃ t ∈ c.templates, t.name = c.defaultTemplate ∧ c.template? none = .ok t) ∧
      ∀ t ∈ c.templates, c.template? (some t.name) = .ok t ∧
        ∀ name grid, ∃ table, extractTable? name grid t.layout = .ok table := by
  constructor
  · intro t hname
    rw [NamedTemplate.check?_eq_ok_iff]
    constructor
    · exact fun ⟨_, husable⟩ name grid => exists_extractTable?_iff.2 husable
    · exact fun hall => ⟨hname, exists_extractTable?_iff.1 (hall "" [])⟩
  · intro c hcheck
    have hsound := Config.check?_eq_ok_iff.1 hcheck
    refine ⟨hsound.template?_none, fun t ht => ⟨hsound.template?_eq ht, fun name grid => ?_⟩⟩
    have husable := (NamedTemplate.check?_eq_ok_iff.1 (hsound.templates t ht)).2
    exact exists_extractTable?_iff.2 husable

/-- Letters with white space around them, a column of comments that is left out by a blank, and a
grid whose rows do not reach the columns. -/
theorem checked_templates_extract_ragged :
    let t : NamedTemplate :=
      { name := " wide ", layout :=
          { startRow := 2, nameColumn := " b", typeColumn := "AA\t", commentColumn := some "  ",
            keyColumn := some "c" } }
    let c : Config := { templates := builtinTemplates ++ [t], defaultTemplate := " wide " }
    (Text.isBlankText t.name = false ∧ c.check? = .ok () ∧ t ∈ c.templates) ∧
      (t.check? = .ok () ↔
        ∀ name grid, ∃ table, extractTable? name grid t.layout = .ok table) ∧
      (∃ u ∈ c.templates, u.name = c.defaultTemplate ∧ c.template? none = .ok u) ∧
      c.template? (some " wide ") = .ok t ∧
      ∃ table, extractTable? "users" [["Name"], [], ["", "id"], ["x", "y", "z"]] t.layout =
        .ok table := by
  intro t c
  have hname : Text.isBlankText t.name = false := by decide
  have hcheck : c.check? = .ok () := by decide
  have ht : t ∈ c.templates := by decide
  obtain ⟨htemplate, hconfig⟩ := checked_templates_extract
  obtain ⟨hdefault, hall⟩ := hconfig c hcheck
  obtain ⟨hfound, hextract⟩ := hall t ht
  exact ⟨⟨hname, hcheck, ht⟩, htemplate t hname, hdefault, hfound, hextract _ _⟩

end TableSql
