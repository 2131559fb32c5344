import LiveForm.Settings.Basic

/-!
# Settings from the environment

Three variables override the three switches. They are applied one after another in a fixed order;
the first that cannot be read ends this, and those before it have been applied.
-/

namespace LiveForm.Settings

/-- A switch that a variable overrides. -/
inductive Switch where
  | requireTitle
  | rejectCycles
  | includeDisabled
  deriving DecidableEq, Repr

namespace Switch

/-- The switches in the order in which they are overridden. -/
def all : List Switch := [requireTitle, rejectCycles, includeDisabled]

def envKey : Switch → String
  | requireTitle => "SCHEMAFORM_REQUIRE_TITLE"
  | rejectCycles => "SCHEMAFORM_REJECT_DEPENDENCY_CYCLES"
  | includeDisabled => "SCHEMAFORM_INCLUDE_DISABLED"

def get (s : Settings) : Switch → Bool
  | requireTitle => s.loader.requireTitle
  | rejectCycles => s.loader.rejectCycles
  | includeDisabled => s.submission.includeDisabled

def set (s : Settings) (value : Bool) : Switch → Settings
  | requireTitle => { s with loader.requireTitle := value }
  | rejectCycles => { s with loader.rejectCycles := value }
  | includeDisabled => { s with submission.includeDisabled := value }

end Switch

/-- Reads a switch the way people write one: `true`, `1`, `yes` or `on`, and their opposites, in any
case and between blanks. -/
def parseBool? (text : String) : Option Bool :=
  let word := Text.lowerAscii (Text.trim text)
  if word ∈ ["true", "1", "yes", "on"] then some true
  else if word ∈ ["false", "0", "no", "off"] then some false
  else none

/-- Why the settings cannot be read. -/
inductive Error where
  /-- The file cannot be read as text. -/
  | unreadable
  /-- The text is no settings document. -/
  | malformed
  /-- A variable has a value that is no switch. -/
  | invalidVariable (key value : String)
  deriving DecidableEq, Repr

def Error.message : Error → String
  | unreadable => "IO error"
  | malformed => "TOML error"
  | invalidVariable key value =>
    "Invalid value for " ++ key ++ ": " ++ Text.quoted value ++
      " (expected true/false, 1/0, yes/no or on/off)"

/-- Settings after overriding: the first error, if there was one, and the switches applied. -/
structure Overriding where
  settings : Settings
  error : Option Error
  applied : List (Switch × Bool)
  deriving DecidableEq

namespace Overriding

/-- Overrides one switch, unless there was an error before. -/
def step (lookup : String → Option String) (o : Overriding) (switch : Switch) : Overriding :=
  match o.error, lookup switch.envKey with
  | some _, _ => o
  | none, none => o
  | none, some raw =>
    match parseBool? raw with
    | some value =>
      { o with settings := switch.set o.settings value, applied := o.applied ++ [(switch, value)] }
    | none => { o with error := some (.invalidVariable switch.envKey raw) }

/-- The reports of the switches applied. -/
def diagnostics (o : Overriding) : List Diagnostic :=
  o.applied.map fun (switch, value) =>
    .debug "Applied environment override"
      [("key", switch.envKey), ("value", if value then "true" else "false")]

end Overriding

/-- Overrides the switches whose variables are set. -/
def override (s : Settings) (lookup : String → Option String) : Overriding :=
  Switch.all.foldl (Overriding.step lookup) ⟨s, none, []⟩

/-- Overrides the switches or gives the first error. -/
def overridden (s : Settings) (lookup : String → Option String) : Except Error Settings :=
  let o := s.override lookup
  match o.error with
  | some e => .error e
  | none => .ok o.settings

end LiveForm.Settings
