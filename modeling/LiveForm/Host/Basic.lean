import LiveForm.Form.Compile
import LiveForm.Form.Message
import LiveForm.Form.Propagation
import LiveForm.Form.Submission
import LiveForm.Schema.Loader

/-!
# Hosts

A host owns a schema, the initial values and the form compiled from both. The form is compiled anew
whenever one of them changes, and nothing of the old form is carried over. A document that cannot be
loaded changes nothing. Accepted submissions are handed to the handler, which is known by its tag.
-/

namespace LiveForm

/-- The owner of a schema and its form. -/
structure Host where
  schema : Option Schema := none
  initialValues : Json.Entries := []
  form : Option Form := none
  loader : LoaderOptions := {}
  submission : SubmitOptions := {}
  /-- The tag of the handler of accepted submissions. -/
  handler : Option String := none
  deriving Inhabited

namespace Host

/-- Something that happens while a host works. -/
inductive Event where
  | form (event : Form.Event)
  | schemaRejected (error : SchemaError)
  /-- The handler with a tag receives the data of a submission. -/
  | handed (tag : String) (data : Json.Entries)

def Event.diagnostic? : Event → Option Diagnostic
  | form event => event.diagnostic?
  | schemaRejected error =>
    some <| .warn ("Schema rejected, keeping current form: " ++ error.message) []
  | handed _ _ => none

/-- A host after an operation, and what happened on the way. -/
structure Outcome where
  host : Host
  trace : List Event

/-- A host with the given options and nothing else. -/
def new (loader : LoaderOptions) (submission : SubmitOptions) : Host :=
  { loader := loader, submission := submission }

/-- Puts the form of an outcome into the host. -/
def adopt (h : Host) (o : Form.Outcome) : Outcome :=
  ⟨{ h with form := some o.form }, o.trace.map .form⟩

/-- Compiles the form anew, if there is a schema. -/
def rebuild (h : Host) : Outcome :=
  match h.schema with
  | some schema => h.adopt (Form.compile schema h.initialValues)
  | none => ⟨h, []⟩

def recompile (h : Host) (schema : Schema) : Outcome := { h with schema := some schema }.rebuild

def setInitialValues (h : Host) (values : Json.Entries) : Outcome :=
  { h with initialValues := values }.rebuild

/-- Loads the text of a document as the new schema. -/
def load (h : Host) (source : String) : Except SchemaError Unit × Outcome :=
  match h.loader.loadText source with
  | .ok schema => (.ok (), h.recompile schema)
  | .error e => (.error e, ⟨h, [.schemaRejected e]⟩)

/-- Registers the handler of submissions in place of any other. -/
def onSubmit (h : Host) (tag : String) : Host := { h with handler := some tag }

/-- The call of the handler for the result of a submission. -/
def handOver (h : Host) : Submission → List Event
  | .submitted data => h.handler.toList.map (.handed · data)
  | .rejected _ => []

/-- Tries to submit the form, if there is one. -/
def submit (h : Host) : Option Submission × Outcome :=
  match h.form with
  | none => (none, ⟨h, []⟩)
  | some f =>
    let attempt := f.submit h.submission
    let adopted := h.adopt attempt.outcome
    (some attempt.result, ⟨adopted.host, adopted.trace ++ h.handOver attempt.result⟩)

/-- The message about the field with a name, empty when there is nothing to say. -/
def errorMessage (h : Host) (name : String) : String :=
  match h.schema, h.form with
  | some schema, some f => ((schema.field? name).map f.errorMessage).getD ""
  | _, _ => ""

end Host

end LiveForm
