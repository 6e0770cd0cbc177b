import TableSql.Dialect
import TableSql.Grid.Template
import TableSql.Text.Listing

/-!
# Configurations

* `NamedTemplate`, `Config` — a project's dialect and grid templates.
* `Config.template?` — the template of a name, or the default one.
* `Config.check?` — the first fault of a configuration.
-/

set_option autoImplicit false

namespace TableSql

structure NamedTemplate where
  name : String
  description : Option String := none
  layout : GridTemplate
  deriving DecidableEq, Repr

/-- The templates that need no configuration. -/
def builtinTemplates : List NamedTemplate :=
  [{ name := "standard"
     description := some "Row 1 Header, Data starts Row 2. Col A:Name, B:Type, C:Comment"
     layout :=
      { startRow := 2, nameColumn := "A", typeColumn := "B", commentColumn := some "C" } },
   { name := "simple"
     description := some "Col A: Field Name, Col B: Data Type"
     layout := { startRow := 1, nameColumn := "A", typeColumn := "B" } }]

/-- A project's dialect and grid templates. -/
structure Config where
  version : String := "1.0"
  dialect : Dialect := .mysql
  templates : List NamedTemplate := builtinTemplates
  defaultTemplate : String := "standard"
  deriving DecidableEq, Repr

inductive TemplateFault where
  | unnamed
  | zeroStartRow
  | address (error : TableError)
  deriving DecidableEq, Repr

/-- The wording of a template's fault. -/
def TemplateFault.message : TemplateFault → String
  | unnamed => "Template name is not specified"
  | zeroStartRow => "data_start_row must be 1 or greater"
  | address error => error.message

/-- What is wrong with a configuration. -/
inductive ConfigFault where
  | noVersion
  | duplicateTemplate (name : String)
  | template (name : String) (fault : TemplateFault)
  | noDefaultTemplate (name : String)
  deriving DecidableEq, Repr

/-- The wording of a configuration's fault. -/
def ConfigFault.message : ConfigFault → String
  | noVersion => "Config file version is not specified"
  | duplicateTemplate name => s!"Duplicate template name '{name}'"
  | template name fault => s!"Invalid template '{name}': {fault.message}"
  | noDefaultTemplate name => s!"Default template '{name}' is not defined"

/-- A template that is asked for and not there, with the names of those that are. -/
structure UnknownTemplate where
  name : String
  known : List String
  deriving DecidableEq, Repr

/-- The wording for a template that is not there. -/
def UnknownTemplate.message (u : UnknownTemplate) : String :=
  s!"Template '{u.name}' not found. Available templates: " ++ Text.listing u.known

/-- The first of some letters that name no column. -/
def checkLetters? : List String → Except TableError Unit
  | [] => .ok ()
  | letters :: rest =>
    match columnIndex? letters with
    | .ok _ => checkLetters? rest
    | .error e => .error e

def NamedTemplate.check? (t : NamedTemplate) : Except TemplateFault Unit :=
  if Text.isBlankText t.name then .error .unnamed
  else if t.layout.startRow = 0 then .error .zeroStartRow
  else
    (checkLetters? ([t.layout.nameColumn, t.layout.typeColumn] ++
      t.layout.commentLetters.toList ++ t.layout.keyLetters.toList)).mapError .address

/-- The first fault of some templates, given the names before them. -/
def checkTemplates? (before : List String) : List NamedTemplate → Except ConfigFault Unit
  | [] => .ok ()
  | t :: ts =>
    if before.contains t.name then .error (.duplicateTemplate t.name)
    else
      match t.check? with
      | .error fault => .error (.template t.name fault)
      | .ok () => checkTemplates? (t.name :: before) ts

namespace Config

/-- The template of a name, or else the default one. -/
def template? (c : Config) (name : Option String) : Except UnknownTemplate NamedTemplate :=
  let name := name.getD c.defaultTemplate
  match c.templates.find? (·.name == name) with
  | some t => .ok t
  | none => .error ⟨name, c.templates.map (·.name)⟩

/-- The first fault of a configuration. -/
def check? (c : Config) : Except ConfigFault Unit := do
  if c.version = "" then throw .noVersion
  checkTemplates? [] c.templates
  if !c.templates.any (·.name == c.defaultTemplate) then throw (.noDefaultTemplate c.defaultTemplate)

end Config

end TableSql
