/-!
# TOML documents

A document is a tree of tables. Of a scalar only what a reader of switches can tell is kept:
whether it is a Boolean, a date or a time, or anything else.

A table may be built up in several places of a document, and how it came about decides where it
may be extended. A table with a header of its own is not defined again, neither by a header nor by
dotted keys; one that dotted keys made is extended by dotted keys of the same section alone; one
that was only named on the way to another may still get its header. Inline tables and arrays are
complete as they are written.
-/

namespace LiveForm

namespace Toml

/-- How a table came about. -/
inductive TableKind where
  /-- It has a header of its own, or is the root. -/
  | headed
  /-- It was named on the way to another table. -/
  | implied
  /-- Dotted keys made it. -/
  | dotted
  /-- It is written in braces. -/
  | inline
  deriving DecidableEq

end Toml

inductive Toml where
  | boolean (value : Bool)
  /-- A date, a time, or both. -/
  | datetime
  /-- A text or a number. -/
  | scalar
  | array (items : List Toml)
  | table (kind : Toml.TableKind) (entries : List (String × Toml))
  /-- An array of tables with headers: the last table, which further headers extend, and those
  before it in reverse. -/
  | tables (last : List (String × Toml)) (earlier : List Toml)
  deriving Inhabited

namespace Toml

abbrev Entries := List (String × Toml)

namespace Entries

def get? (entries : Entries) (key : String) : Option Toml :=
  (entries.find? fun e => e.1 = key).map Prod.snd

/-- Replaces the value of a key where it stands, or adds the key at the end. -/
def put (entries : Entries) (key : String) (value : Toml) : Entries :=
  if entries.any fun e => e.1 = key then
    entries.map fun e => if e.1 = key then (key, value) else e
  else entries ++ [(key, value)]

end Entries

/-- Changes the table at the end of a path, making the tables on the way that are missing. A path
of dotted keys passes only through tables that have no header. -/
def changeAt (dotted : Bool) (change : TableKind → Entries → Option Entries) :
    (path : List String) → TableKind → Entries → Option Entries
  | [], kind, entries => change kind entries
  | key :: path, _, entries =>
    match entries.get? key with
    | none => do
      let kind := if dotted then .dotted else .implied
      return entries.put key (.table kind (← changeAt dotted change path kind []))
    | some (.table kind inner) =>
      if kind = .inline ∨ (dotted ∧ kind = .headed) then none
      else do return entries.put key (.table kind (← changeAt dotted change path kind inner))
    | some (.tables last earlier) =>
      if dotted then none
      else do return entries.put key (.tables (← changeAt dotted change path .headed last) earlier)
    | some _ => none

def addValue (path : List String) (key : String) (value : Toml) :
    TableKind → Entries → Option Entries :=
  changeAt true (fun kind entries =>
    if decide (kind = .dotted) = path.isEmpty then none
    else if (entries.get? key).isSome then none
    else some (entries.put key value)) path

/-- Begins the section of a table: a new one, or one that was only named so far. -/
def openTable (path : List String) (key : String) : Entries → Option Entries :=
  changeAt false (fun _ entries =>
    match entries.get? key with
    | none => some (entries.put key (.table .headed []))
    | some (.table .implied inner) => some (entries.put key (.table .headed inner))
    | some _ => none) path .headed

/-- Begins the section of a further table of an array. -/
def openTables (path : List String) (key : String) : Entries → Option Entries :=
  changeAt false (fun _ entries =>
    match entries.get? key with
    | none => some (entries.put key (.tables [] []))
    | some (.tables last earlier) =>
      some (entries.put key (.tables [] (.table .headed last :: earlier)))
    | some _ => none) path .headed

end Toml

end LiveForm
