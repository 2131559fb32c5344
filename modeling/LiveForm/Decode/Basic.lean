import LiveForm.Decode.Fault

/-!
# Reading JSON values as typed values

A `Decoder` reads a JSON value or gives its first fault. Records are written as objects, or as
arrays of their attributes in the order of declaration. In an object the entries are checked in
the order of the document, before any attribute is found missing; keys that the record does not
know are passed over.
-/

namespace LiveForm

/-- A way to read a JSON value. -/
abbrev Decoder (α : Type) := Json → Except Fault α

namespace Decoder

/-- The fault of meeting a value where something else was wanted. -/
def wrong (value : Json) (wanted : Wanted) : Fault := .wrongType (.ofJson value) wanted

def boolean : Decoder Bool
  | .bool b => .ok b
  | v => .error (wrong v .boolean)

def string : Decoder String
  | .string s => .ok s
  | v => .error (wrong v .string)

/-- A natural number. A negative integer has the right type and the wrong value. -/
def count : Decoder Nat
  | .number (.int n) =>
    if 0 ≤ n then .ok n.toNat else .error (.wrongValue (.integer n) .count)
  | v => .error (wrong v .count)

def double : Decoder Double
  | .number n => .ok n.toDouble
  | v => .error (wrong v .number)

def any : Decoder Json := .ok

def list {α : Type} (item : Decoder α) : Decoder (List α)
  | .array items => items.mapM item
  | v => .error (wrong v .sequence)

/-- `null` for nothing. -/
def optional {α : Type} (some? : Decoder α) : Decoder (Option α)
  | .null => .ok none
  | v => (some? v).map some

/-- `null` for the default. -/
def nullOr {α : Type} (default : α) (read : Decoder α) : Decoder α
  | .null => .ok default
  | v => read v

/-- One of a set of names, by itself or as the only key of an object, beside a `null`. -/
def choice {α : Type} (named? : String → Option α) (known : List String) : Decoder α
  | .string s => (named? s).elim (.error (.unknownName s known)) .ok
  | .object [(key, value)] =>
    match named? key, value with
    | none, _ => .error (.unknownName key known)
    | some a, .null => .ok a
    | some _, v => .error (wrong v .unit)
  | .object _ => .error (.wrongValue .mapping .singleKey)
  | v => .error (wrong v .choice)

end Decoder

/-- One attribute of a record: its key, how it is read, and what stands in for it where an object
lacks it and where an array ends before it. -/
structure Attribute (α : Type) where
  key : String
  read : Decoder α
  absent : Option α
  beyond : Option α

namespace Attribute

variable {α : Type}

def required (key : String) (read : Decoder α) : Attribute α := ⟨key, read, none, none⟩

def defaulted (key : String) (default : α) (read : Decoder α) : Attribute α :=
  ⟨key, read, some default, some default⟩

/-- An attribute that may be left out for nothing, in objects and in arrays. -/
def optional (key : String) (read : Decoder α) : Attribute (Option α) :=
  defaulted key none (.optional read)

/-- An attribute that may be left out of an object for nothing, but not of an array. -/
def nullable (key : String) (read : Decoder α) : Attribute (Option α) :=
  ⟨key, .optional read, some none, none⟩

/-- The fault of a value as this attribute. -/
def fault? (a : Attribute α) (value : Json) : Option Fault :=
  match a.read value with
  | .ok _ => none
  | .error fault => some fault

/-- The key together with the check of a value. -/
def check (a : Attribute α) : String × (Json → Option Fault) := (a.key, a.fault?)

end Attribute

/-- Where the attributes of a record are taken from. -/
inductive RecordSource where
  | entries (entries : Json.Entries)
  | items (items : List Json)

/-- The written form of a record. -/
structure Record where
  name : String
  /-- The number of attributes. -/
  size : Nat
  source : RecordSource

namespace Record

variable {α : Type}

/-- The first fault among the entries of an object, in their order. -/
def firstFault? (checks : List (String × (Json → Option Fault))) (entries : Json.Entries) :
    Option Fault :=
  entries.findSome? fun (key, value) =>
    match checks.find? fun check => check.1 = key with
    | some check => check.2 value
    | none => none

/-- Takes a value as the written form of a record. -/
def enter (name : String) (checks : List (String × (Json → Option Fault))) : Decoder Record
  | .object entries =>
    match firstFault? checks entries with
    | some fault => .error fault
    | none => .ok ⟨name, checks.length, .entries entries⟩
  | .array items => .ok ⟨name, checks.length, .items items⟩
  | v => .error (Decoder.wrong v (.record name))

/-- The attribute at a place of the declaration. -/
def take (r : Record) (place : Nat) (a : Attribute α) : Except Fault α :=
  match r.source with
  | .entries entries =>
    match Json.Entries.get? entries a.key with
    | some value => a.read value
    | none => a.absent.elim (.error (.missing a.key)) .ok
  | .items items =>
    match items[place]? with
    | some value => a.read value
    | none => a.beyond.elim (.error (.tooShort place r.name r.size)) .ok

/-- Ends a record: an array must have no further items. -/
def finish (r : Record) : Except Fault Unit :=
  match r.source with
  | .entries _ => .ok ()
  | .items items => if r.size < items.length then .error (.tooLong items.length) else .ok ()

end Record

end LiveForm
