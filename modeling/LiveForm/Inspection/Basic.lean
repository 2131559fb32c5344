import LiveForm.Text.Quoted

/-!
# Inspections

An inspection is a value laid out for a person to look at: named records and tuples, lists,
sets, mappings, and single words.
-/

namespace LiveForm

/-- A value laid out for a person to look at. -/
inductive Inspection where
  | word (text : String)
  | record (name : String) (fields : List (String × Inspection))
  | tuple (name : String) (items : List Inspection)
  | list (items : List Inspection)
  | set (items : List Inspection)
  | mapping (entries : List (Inspection × Inspection))
  /-- A list or mapping with a name in front. -/
  | labelled (name : String) (content : Inspection)
  deriving Inhabited

namespace Inspection

def text (s : String) : Inspection := word (Text.quoted s)

def boolean (b : Bool) : Inspection := word (if b then "true" else "false")

def natural (n : Nat) : Inspection := word (toString n)

def optional {α : Type} (inspect : α → Inspection) : Option α → Inspection
  | none => word "None"
  | some a => tuple "Some" [inspect a]

mutual

/-- The one line that shows an inspection. -/
def render : Inspection → String
  | word text => text
  | record name [] => name
  | record name fields =>
    name ++ " \x7b " ++ String.intercalate ", " (renderFields fields) ++ " \x7d"
  | tuple name items => name ++ "(" ++ String.intercalate ", " (renderAll items) ++ ")"
  | list items => "[" ++ String.intercalate ", " (renderAll items) ++ "]"
  | set items => "\x7b" ++ String.intercalate ", " (renderAll items) ++ "\x7d"
  | mapping entries => "\x7b" ++ String.intercalate ", " (renderEntries entries) ++ "\x7d"
  | labelled name content => name ++ " " ++ render content

def renderAll : List Inspection → List String
  | [] => []
  | item :: rest => render item :: renderAll rest

def renderFields : List (String × Inspection) → List String
  | [] => []
  | (name, item) :: rest => (name ++ ": " ++ render item) :: renderFields rest

def renderEntries : List (Inspection × Inspection) → List String
  | [] => []
  | (key, item) :: rest => (render key ++ ": " ++ render item) :: renderEntries rest

end

end Inspection

end LiveForm
