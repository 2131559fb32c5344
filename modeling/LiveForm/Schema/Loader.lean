import LiveForm.Json.Parser
import LiveForm.Schema.Codec
import LiveForm.Schema.Structure

/-!
# Loading schemas

A loader turns a document into a schema or gives the first fault, in a fixed order: the root, the
list of fields, the title, the fields one after another, their names, and the cycles of their
dependencies. A title that is not a text counts as no title.
-/

namespace LiveForm

/-- What a loader checks beyond the least structure. -/
structure LoaderOptions where
  /-- Refuse schemas whose title is missing or blank. -/
  requireTitle : Bool := false
  /-- Refuse schemas whose dependencies form a cycle. -/
  rejectCycles : Bool := true
  deriving DecidableEq, Repr, Inhabited

namespace Field

/-- The first core attribute that an element lacks; one that is no object lacks all. -/
def lackingAttribute? (element : Json) : Option CoreAttribute :=
  CoreAttribute.all.find? fun a => (element.get? a.key).all Json.isNull

/-- Loads the element at a place. -/
def load (index : Nat) (element : Json) : Except SchemaError Field :=
  match lackingAttribute? element with
  | some lacking => .error (.missingAttribute index lacking)
  | none => (decode element).mapError (.invalidField index)

/-- Loads elements, the first of which is at a place. -/
def loadAll (index : Nat) : List Json → Except SchemaError (List Field)
  | [] => .ok []
  | element :: rest => do
    let field ← load index element
    let fields ← loadAll (index + 1) rest
    return field :: fields

end Field

namespace LoaderOptions

/-- The title of a document, if it is a text. -/
def title? (entries : Json.Entries) : Option String :=
  match Json.Entries.get? entries "title" with
  | some (.string title) => some title
  | _ => none

/-- Loads a schema from a document. -/
def loadValue (options : LoaderOptions) : Json → Except SchemaError Schema
  | .object entries =>
    match Json.Entries.get? entries "fields" with
    | some (.array elements) => do
      let title := title? entries
      if options.requireTitle && title.all Text.isAllBlank then throw .missingTitle
      let fields ← Field.loadAll 0 elements
      let schema : Schema := { title, fields }
      schema.checkStructure options.rejectCycles
      return schema
    | _ => .error .missingFields
  | _ => .error .notAnObject

/-- Loads a schema from the text of a document. -/
def loadText (options : LoaderOptions) (source : String) : Except SchemaError Schema :=
  match Json.parse? source with
  | some value => options.loadValue value
  | none => .error .malformed

end LoaderOptions

end LiveForm
