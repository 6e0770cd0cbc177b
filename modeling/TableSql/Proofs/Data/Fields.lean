import Mathlib.Data.List.Forall2
import Mathlib.Data.List.Pairwise
import Mathlib.Logic.Relation
import TableSql.Data.JsonFormat

/-!
# Fields of a record and how they may be spelled

* `FieldForm` — a field: its names, the value that may be left out, and the changes inside its value.
* `FieldsStep`, `JsonStep` — one change to the spelling of a record's fields, and of the record.
* `FieldForm.Has` — what a field holds in a record, given or not.
* `GivenTwice` — fields among which one is given under two names.

Principal results: `FieldsStep.has` (a change keeps what every field holds, apart from the changes
inside), `has_of_steps` (so do many), and what the readers of fields make of what a field holds.
-/

set_option autoImplicit false

namespace TableSql

structure FieldForm where
  /-- The names that it may have, of which only one may be given. -/
  names : List String
  /-- The value that it has where it is not given, if it may be left out. -/
  default? : Option Json := none
  /-- The changes that may be made inside its value. -/
  changes : Json → Json → Prop := fun _ _ => False

def FieldForm.required (names : List String) : FieldForm := { names }

/-- A field that may be left out if it has a default. -/
def FieldForm.withDefault (names : List String) (default : Json) : FieldForm :=
  { names, default? := some default }

/-- A field that may be left out or `null`. -/
def FieldForm.optional (names : List String) : FieldForm := withDefault names .null

variable {forms : List FieldForm} {form : FieldForm}

/-- One change to how the fields of a record are spelled. -/
inductive FieldsStep (forms : List FieldForm) :
    List (String × Json) → List (String × Json) → Prop where
  /-- The fields come in another order. -/
  | reorder {a b : List (String × Json)} : a.Perm b → FieldsStep forms a b
  /-- A field is given under another of its names. -/
  | rename (before after : List (String × Json)) (value : Json) {form : FieldForm}
    (name other : String) : form ∈ forms → name ∈ form.names → other ∈ form.names →
    FieldsStep forms (before ++ (name, value) :: after) (before ++ (other, value) :: after)
  /-- A field that has its default is left out. -/
  | drop (before after : List (String × Json)) (value : Json) {form : FieldForm} (name : String) :
    form ∈ forms → name ∈ form.names → form.default? = some value →
    FieldsStep forms (before ++ (name, value) :: after) (before ++ after)
  /-- A field of an unknown name is added. -/
  | add (before after : List (String × Json)) (value : Json) (name : String) :
    (∀ form ∈ forms, name ∉ form.names) →
    FieldsStep forms (before ++ after) (before ++ (name, value) :: after)
  /-- The value of a field is changed inside. -/
  | inside (before after : List (String × Json)) (value value' : Json) {form : FieldForm}
    (name : String) : form ∈ forms → name ∈ form.names → form.changes value value' →
    FieldsStep forms (before ++ (name, value) :: after) (before ++ (name, value') :: after)

/-- One change to how a record is spelled. -/
inductive JsonStep (forms : List FieldForm) : Json → Json → Prop where
  | object {a b : List (String × Json)} : FieldsStep forms a b →
    JsonStep forms (.object a) (.object b)

/-- One change to how an item of a list is spelled. -/
inductive ItemStep (step : Json → Json → Prop) : Json → Json → Prop where
  | item (before after : List Json) {value value' : Json} : step value value' →
    ItemStep step (.array (before ++ value :: after)) (.array (before ++ value' :: after))

/-! ## Finding a field -/

namespace Fields

variable {names : List String} {fields before after : List (String × Json)} {name : String}
  {value : Json}

theorem find?_perm {fields' : List (String × Json)} (h : fields.Perm fields') :
    find? names fields = find? names fields' := by
  have hfilter := h.filter fun field => names.contains field.1
  unfold find?
  generalize fields.filter (fun field => names.contains field.1) = given at hfilter
  generalize fields'.filter (fun field => names.contains field.1) = given' at hfilter
  match given, given' with
  | [], given' => rw [List.nil_perm.1 hfilter]
  | [field], given' => rw [List.singleton_perm.1 hfilter]
  | _ :: _ :: _, [] => exact absurd hfilter.length_eq (by simp)
  | _ :: _ :: _, [_] => exact absurd hfilter.length_eq (by simp)
  | _ :: _ :: _, _ :: _ :: _ => rfl

theorem find?_skip (h : name ∉ names) :
    find? names (before ++ (name, value) :: after) = find? names (before ++ after) := by
  unfold find?
  rw [List.filter_append, List.filter_cons_of_neg (by simpa using h), ← List.filter_append]

/-- A field is found where there is no other one of its names. -/
theorem find?_here (h : name ∈ names) {given : Option Json} :
    find? names (before ++ (name, value) :: after) = some given ↔
      find? names (before ++ after) = some none ∧ given = some value := by
  unfold find?
  rw [List.filter_append, List.filter_cons_of_pos (by simpa using h), List.filter_append]
  generalize before.filter (fun field => names.contains field.1) = front
  generalize after.filter (fun field => names.contains field.1) = back
  match front, back with
  | [], [] => simp [eq_comm]
  | [], [_] => simp
  | [], _ :: _ :: _ => simp
  | [_], [] => simp
  | [_], _ :: _ => simp
  | _ :: _ :: _, _ => simp

theorem find?_eq_some_of_mem (hmem : (name, value) ∈ fields) (hname : name ∈ names)
    {given : Option Json} (h : find? names fields = some given) : given = some value := by
  obtain ⟨before, after, rfl⟩ := List.append_of_mem hmem
  exact ((find?_here hname).1 h).2

theorem find?_eq_none_of_twice {other : String} (hname : name ∈ names) (hother : other ∈ names)
    (hne : name ≠ other) (hgiven : name ∈ fields.map Prod.fst)
    (hgiven' : other ∈ fields.map Prod.fst) : find? names fields = none := by
  obtain ⟨⟨name, value⟩, hvalue, rfl⟩ := List.mem_map.1 hgiven
  obtain ⟨⟨other, value'⟩, hvalue', rfl⟩ := List.mem_map.1 hgiven'
  obtain ⟨before, after, rfl⟩ := List.append_of_mem hvalue
  rw [Option.eq_none_iff_forall_ne_some]
  intro given hfind
  rw [find?_here hname] at hfind
  have hrest : (other, value') ∈ before ++ after := by
    simp only [List.mem_append, List.mem_cons, Prod.mk.injEq] at hvalue' ⊢
    rcases hvalue' with hbefore | ⟨hsame, -⟩ | hafter
    · exact .inl hbefore
    · exact absurd hsame.symm hne
    · exact .inr hafter
  obtain ⟨front, back, hsplit⟩ := List.append_of_mem hrest
  rw [hsplit, find?_here hother] at hfind
  cases hfind.1.2

variable {α : Type} {read : Json → Option α}

theorem find?_ne_none_of_required? {result : α} (h : required? names read fields = some result) :
    find? names fields ≠ none := by
  intro hnone
  rw [required?, hnone] at h
  cases h

theorem find?_ne_none_of_withDefault? {default result : α}
    (h : withDefault? names default read fields = some result) : find? names fields ≠ none := by
  intro hnone
  rw [withDefault?, hnone] at h
  cases h

theorem find?_ne_none_of_optional? {format : DataFormat Json} {result : Option α}
    (h : optional? format names read fields = some result) : find? names fields ≠ none := by
  intro hnone
  rw [optional?, hnone] at h
  cases h

end Fields

/-- A field is given under two of its names. -/
def GivenTwice (forms : List FieldForm) (fields : List (String × Json)) : Prop :=
  ∃ form ∈ forms, ∃ name ∈ form.names, ∃ other ∈ form.names,
    name ≠ other ∧ name ∈ fields.map Prod.fst ∧ other ∈ fields.map Prod.fst

/-- What needs to find every field refuses one that is given twice. -/
theorem GivenTwice.eq_none {α : Type} {fields : List (String × Json)} {result : Option α}
    (h : GivenTwice forms fields) (hresult : ∀ value, result = some value →
      ∀ form ∈ forms, Fields.find? form.names fields ≠ none) : result = none := by
  obtain ⟨form, hform, name, hname, other, hother, hne, hgiven, hgiven'⟩ := h
  rw [Option.eq_none_iff_forall_ne_some]
  intro value hvalue
  exact hresult value hvalue form hform
    (Fields.find?_eq_none_of_twice hname hother hne hgiven hgiven')

/-! ## What a field holds -/

namespace FieldForm

/-- What a field holds in a record: the value given under one of its names, or else its default. -/
def Has (form : FieldForm) (fields : List (String × Json)) (value : Json) : Prop :=
  ∃ given, Fields.find? form.names fields = some given ∧ given.or form.default? = some value

variable {before after : List (String × Json)} {name : String} {value held : Json}

/-- A field that is given holds what is given, and it is given nowhere else. -/
theorem has_here (h : name ∈ form.names) :
    form.Has (before ++ (name, value) :: after) held ↔
      Fields.find? form.names (before ++ after) = some none ∧ held = value := by
  unfold Has
  simp only [Fields.find?_here h]
  constructor
  · rintro ⟨_, ⟨hnone, rfl⟩, hheld⟩
    exact ⟨hnone, (Option.some.inj hheld).symm⟩
  · rintro ⟨hnone, rfl⟩
    exact ⟨_, ⟨hnone, rfl⟩, rfl⟩

theorem has_skip (h : name ∉ form.names) :
    form.Has (before ++ (name, value) :: after) held ↔ form.Has (before ++ after) held := by
  rw [Has, Has, Fields.find?_skip h]

end FieldForm

namespace FieldForm.Has

variable {α : Type} {read : Json → Option α} {fields : List (String × Json)} {held : Json}

theorem required?_eq (h : form.Has fields held) (hdefault : form.default? = none) :
    Fields.required? form.names read fields = read held := by
  obtain ⟨given, hfind, hheld⟩ := h
  rw [hdefault, Option.or_none] at hheld
  unfold Fields.required?
  rw [hfind, hheld]
  rfl

/-- A field with a default is read from what it holds, if the default is read as what it stands
for. -/
theorem withDefault?_eq {default : α} {value : Json} (h : form.Has fields held)
    (hdefault : form.default? = some value) (hread : read value = some default) :
    Fields.withDefault? form.names default read fields = read held := by
  obtain ⟨given, hfind, hheld⟩ := h
  unfold Fields.withDefault?
  rw [hfind]
  cases given with
  | none =>
    rw [Option.none_or, hdefault] at hheld
    cases hheld
    exact hread.symm
  | some value => cases hheld; rfl

/-- A field that may be left out or `null` is nothing if it holds `null`, else it is read. -/
theorem optional?_eq (h : form.Has fields held) (hdefault : form.default? = some .null) :
    Fields.optional? Json.format form.names read fields =
      if held.isNull then some none else (read held).map some := by
  obtain ⟨given, hfind, hheld⟩ := h
  unfold Fields.optional?
  rw [hfind]
  cases given with
  | none =>
    rw [Option.none_or, hdefault] at hheld
    cases hheld
    rfl
  | some value => cases hheld; rfl

end FieldForm.Has

/-! ## How changes act on what a field holds -/

/-- No name is one of two fields. -/
def NamesApart (forms : List FieldForm) : Prop :=
  forms.Pairwise fun form form' => ∀ name ∈ form.names, name ∉ form'.names

theorem NamesApart.eq_of_mem (h : NamesApart forms) {form form' : FieldForm} (hform : form ∈ forms)
    (hform' : form' ∈ forms) {name : String} (hname : name ∈ form.names)
    (hname' : name ∈ form'.names) : form = form' := by
  by_contra hne
  have hsymm : Std.Symm fun form form' : FieldForm => ∀ name ∈ form.names, name ∉ form'.names :=
    ⟨fun _ _ h name hname hname' => h name hname' hname⟩
  exact List.Pairwise.forall h hform hform' hne name hname hname'

/-- **A change to the spelling keeps what a field holds, unless it is a change inside.** -/
theorem FieldsStep.has (hforms : NamesApart forms) {a b : List (String × Json)}
    (h : FieldsStep forms a b) (hform : form ∈ forms) {held : Json} (ha : form.Has a held) :
    form.Has b held ∨ ∃ held', form.changes held held' ∧ form.Has b held' := by
  cases h with
  | reorder hperm =>
    unfold FieldForm.Has at ha ⊢
    rw [Fields.find?_perm hperm] at ha
    exact .inl ha
  | rename before after value name other hform' hname hother =>
    left
    by_cases hmem : name ∈ form.names
    · obtain rfl := hforms.eq_of_mem hform hform' hmem hname
      rw [FieldForm.has_here hname] at ha
      rwa [FieldForm.has_here hother]
    · have hmem' : other ∉ form.names := by
        intro hmem'
        obtain rfl := hforms.eq_of_mem hform hform' hmem' hother
        exact hmem hname
      rw [FieldForm.has_skip hmem] at ha
      rwa [FieldForm.has_skip hmem']
  | drop before after value name hform' hname hdefault =>
    left
    by_cases hmem : name ∈ form.names
    · obtain rfl := hforms.eq_of_mem hform hform' hmem hname
      rw [FieldForm.has_here hname] at ha
      exact ⟨none, ha.1, by rw [Option.none_or, hdefault, ha.2]⟩
    · rwa [FieldForm.has_skip hmem] at ha
  | add before after value name hunknown =>
    left
    rwa [FieldForm.has_skip (hunknown form hform)]
  | inside before after value value' name hform' hname hchange =>
    by_cases hmem : name ∈ form.names
    · obtain rfl := hforms.eq_of_mem hform hform' hmem hname
      obtain ⟨hnone, rfl⟩ := (FieldForm.has_here hname).1 ha
      exact .inr ⟨value', hchange, (FieldForm.has_here hname).2 ⟨hnone, rfl⟩⟩
    · rw [FieldForm.has_skip hmem] at ha
      exact .inl ((FieldForm.has_skip hmem).2 ha)

/-- **Many changes keep what a field holds, apart from many changes inside.** -/
theorem has_of_steps (hforms : NamesApart forms) {a b : List (String × Json)}
    (h : Relation.ReflTransGen (FieldsStep forms) a b) (hform : form ∈ forms) {held : Json}
    (ha : form.Has a held) :
    ∃ held', Relation.ReflTransGen form.changes held held' ∧ form.Has b held' := by
  induction h with
  | refl => exact ⟨held, .refl, ha⟩
  | tail _ hstep ih =>
    obtain ⟨held', hchanges, hheld'⟩ := ih
    rcases hstep.has hforms hform hheld' with hkept | ⟨held'', hchange, hheld''⟩
    · exact ⟨held', hchanges, hkept⟩
    · exact ⟨held'', hchanges.tail hchange, hheld''⟩

theorem has_of_steps_of_fixed (hforms : NamesApart forms) {a b : List (String × Json)}
    (h : Relation.ReflTransGen (FieldsStep forms) a b) (hform : form ∈ forms)
    (hfixed : ∀ value value', ¬ form.changes value value') {held : Json} (ha : form.Has a held) :
    form.Has b held := by
  obtain ⟨held', hchanges, hb⟩ := has_of_steps hforms h hform ha
  rcases hchanges.cases_head with rfl | ⟨_, hchange, -⟩
  · exact hb
  · exact absurd hchange (hfixed _ _)

theorem exists_object_of_steps {a : List (String × Json)} {json : Json}
    (h : Relation.ReflTransGen (JsonStep forms) (.object a) json) :
    ∃ b, json = .object b ∧ Relation.ReflTransGen (FieldsStep forms) a b := by
  induction h with
  | refl => exact ⟨a, rfl, .refl⟩
  | tail _ hstep ih =>
    obtain ⟨b, rfl, hsteps⟩ := ih
    cases hstep with
    | object hfields => exact ⟨_, rfl, hsteps.tail hfields⟩

theorem forall₂_replace {α β : Type} {R : α → β → Prop} {value value' : β}
    (hstep : ∀ x, R x value → R x value') {after : List β} :
    ∀ {xs : List α} {before : List β}, List.Forall₂ R xs (before ++ value :: after) →
      List.Forall₂ R xs (before ++ value' :: after)
  | _, [], .cons hx hxs => .cons (hstep _ hx) hxs
  | _, _ :: _, .cons hx hxs => .cons hx (forall₂_replace hstep hxs)

/-- However the items of a list are spelled, it is a list of as many items, each changed for
itself. -/
theorem exists_array_of_steps {step : Json → Json → Prop} {items : List Json} {json : Json}
    (h : Relation.ReflTransGen (ItemStep step) (.array items) json) :
    ∃ items', json = .array items' ∧
      List.Forall₂ (Relation.ReflTransGen step) items items' := by
  induction h with
  | refl => exact ⟨items, rfl, List.forall₂_same.2 fun _ _ => .refl⟩
  | tail _ hstep ih =>
    obtain ⟨items', rfl, hitems⟩ := ih
    cases hstep with
    | item before after hvalue =>
      exact ⟨_, rfl, forall₂_replace (fun _ hsteps => hsteps.tail hvalue) hitems⟩

end TableSql
