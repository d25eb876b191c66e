import DocAtlas.Config.Basic
import DocAtlas.Toml.Document

/-! # Reading a configuration

* `Config.Draft` — the statements taken in so far
* `Config.parse?` — the configuration a text describes
-/

set_option autoImplicit false

namespace DocAtlas.Config

/-- How the table of sections was begun. -/
inductive SectionsForm where
  /-- As the value of a key; nothing can be added. -/
  | inline
  /-- By keys with a dot. -/
  | dotted
  /-- By a header of its own. -/
  | headed
  deriving DecidableEq

/-- The statements taken in so far. -/
structure Draft where
  values : List (String × Toml.Value) := []
  form : Option SectionsForm := none
  sections : List (String × String) := []
  /-- Whether assignments now belong to the table of sections. -/
  inSections : Bool := false

/-- The kind of value each setting takes: a text, or a list of texts. -/
def textSettings : List String := ["ai_docs", "auto_docs", "master_doc", "output_suffix", "user_docs"]

def listSettings : List String := ["auto_roots", "extensions", "ignore"]

/-- A list of pairs with one more, none if its name is taken. -/
def addFresh {α : Type} (name : String) (value : α) (fields : List (String × α)) :
    Option (List (String × α)) :=
  if (fields.lookup name).isSome then none else some (fields ++ [(name, value)])

/-- The draft with one more section. -/
def Draft.addSection (draft : Draft) (form : SectionsForm) (name key : String) : Option Draft :=
  (addFresh name key draft.sections).map fun sections =>
    { draft with form := some form, sections := sections }

/-- The name under which a moment stands where a table is wanted. -/
def momentField : String := "$__toml_private_datetime"

/-- The draft with the whole table of sections, none if one was begun before. -/
def Draft.setSections (draft : Draft) (fields : List (String × String)) : Option Draft :=
  if draft.form = none then
    (fields.foldlM (fun (d : Draft) field => d.addSection .inline field.1 field.2) draft).map
      fun d => { d with form := some .inline }
  else none

/-- The draft with the value of a setting, none if the setting is unknown, was given before or takes
another kind of value. A moment stands for a table of one field. -/
def Draft.addValue (draft : Draft) (name : String) (value : Toml.Value) : Option Draft :=
  match value with
  | .text _ =>
    if textSettings.contains name then
      (addFresh name value draft.values).map fun values => { draft with values := values }
    else none
  | .list _ =>
    if listSettings.contains name then
      (addFresh name value draft.values).map fun values => { draft with values := values }
    else none
  | .table fields => if name = "sections" then draft.setSections fields else none
  | .moment m => if name = "sections" then draft.setSections [(momentField, m.text)] else none

/-- The draft after one more statement, none if the statement is not allowed there. -/
def Draft.take (draft : Draft) : Toml.Statement → Option Draft
  | .header ["sections"] =>
    if draft.form = none then some { draft with form := some .headed, inSections := true } else none
  | .header _ => none
  | .assign [name] value =>
    if draft.inSections then
      match value with
      | .text key => draft.addSection .headed name key
      | _ => none
    else draft.addValue name value
  | .assign ["sections", name] (.text key) =>
    if draft.inSections = false ∧ (draft.form = none ∨ draft.form = some .dotted) then
      draft.addSection .dotted name key
    else none
  | .assign _ _ => none

def Draft.text? (draft : Draft) (name : String) : Option String :=
  match draft.values.lookup name with
  | some (.text s) => some s
  | _ => none

def Draft.list? (draft : Draft) (name : String) : Option (List String) :=
  match draft.values.lookup name with
  | some (.list items) => some items
  | _ => none

/-- An extension without the dots it may be written with. -/
def withoutDots (s : String) : String := String.ofList (s.toList.dropWhile (· == '.'))

/-- The configuration of a draft: what is not set has its default. -/
def ofDraft (draft : Draft) : Config :=
  let usual : Config := {}
  { userDocs := (draft.text? "user_docs").getD usual.userDocs
    autoDocs := (draft.text? "auto_docs").getD usual.autoDocs
    aiDocs := (draft.text? "ai_docs").getD usual.aiDocs
    autoRoots := (draft.list? "auto_roots").getD usual.autoRoots
    extensions := ((draft.list? "extensions").map (·.map withoutDots)).getD usual.extensions
    ignore := (draft.list? "ignore").getD usual.ignore
    masterDoc := (draft.text? "master_doc").getD usual.masterDoc
    outputSuffix := ((draft.text? "output_suffix").map withoutDots).getD usual.outputSuffix
    sections := draft.sections }

/-- The configuration a text describes, none if the text is not one. -/
def parse? (text : String) : Option Config := do
  let statements ← Toml.document text.toList
  let draft ← statements.foldlM Draft.take {}
  some (ofDraft draft)

end DocAtlas.Config
