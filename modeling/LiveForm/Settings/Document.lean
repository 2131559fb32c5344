import LiveForm.Settings.Basic
import LiveForm.Settings.Environment
import LiveForm.Toml.Parser

/-!
# Settings documents

Settings are written as a TOML document with the tables `loader` and `submission`. Tables and
switches that are missing keep their defaults, and what the settings do not know is passed over. A
table may also be an array of its switches in order, in which further items do not count.
-/

namespace LiveForm.Settings

/-- The switches of a table, by key and place. -/
structure SwitchTable where
  value? : (key : String) → (place : Nat) → Option Toml

/-- Takes a value as a table of switches. A date has parts, but none that is a switch. -/
def SwitchTable.of? : Toml → Option SwitchTable
  | .table _ entries => some ⟨fun key _ => Toml.Entries.get? entries key⟩
  | .tables last earlier =>
    some ⟨fun _ place => ((Toml.table .headed last :: earlier).reverse)[place]?⟩
  | .array items => some ⟨fun _ place => items[place]?⟩
  | .datetime => some ⟨fun _ _ => none⟩
  | _ => none

/-- A switch of a table, with its default. -/
def SwitchTable.switch? (t : SwitchTable) (key : String) (place : Nat) (default : Bool) :
    Option Bool :=
  match t.value? key place with
  | none => some default
  | some (.boolean b) => some b
  | some _ => none

def loaderOf? (value : Toml) : Option LoaderOptions := do
  let table ← SwitchTable.of? value
  let default : LoaderOptions := {}
  let requireTitle ← table.switch? "require_title" 0 default.requireTitle
  let rejectCycles ← table.switch? "reject_dependency_cycles" 1 default.rejectCycles
  return { requireTitle, rejectCycles }

def submissionOf? (value : Toml) : Option SubmitOptions := do
  let table ← SwitchTable.of? value
  let default : SubmitOptions := {}
  return { includeDisabled := ← table.switch? "include_disabled" 0 default.includeDisabled }

/-- The settings of a document. -/
def ofEntries? (root : Toml.Entries) : Option Settings := do
  let loader ← (root.get? "loader").elim (some {}) loaderOf?
  let submission ← (root.get? "submission").elim (some {}) submissionOf?
  return { loader, submission }

def ofText (text : String) : Except Error Settings :=
  match (Toml.parse? text).bind ofEntries? with
  | some settings => .ok settings
  | none => .error .malformed

/-- Reads settings from the bytes of a file, which must be text; nothing stands for a file that is
not there. -/
def ofFile (bytes : Option ByteArray) : Except Error Settings :=
  match bytes.bind String.fromUTF8? with
  | some text => ofText text
  | none => .error .unreadable

end LiveForm.Settings
