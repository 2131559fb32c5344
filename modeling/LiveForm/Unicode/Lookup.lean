import LiveForm.Unicode.Age
import LiveForm.Unicode.GraphemeBreak
import LiveForm.Unicode.SentenceBreak
import LiveForm.Unicode.WordBreak

/-!
# Finding a class of characters by name

Names are compared without case, spaces, hyphens and underscores, and a leading `is` does not
count. A bare name is a binary property, a general category or a script, in this order; a name
with a value asks for the category, the script, the script extensions, the age or the class under
one of the rules for breaks.
-/

namespace LiveForm.Unicode

/-- A letter in lower case, without what does not count in names. -/
def normalizeChar (c : Char) : Option Char :=
  if c = ' ' ∨ c = '_' ∨ c = '-' then none
  else if c.toNat < 0x80 then some c.toLower
  else none

/-- The form in which names are compared. The one short name that begins with `is` stays whole. -/
def normalizeName (name : String) : String :=
  match name.toList with
  | i :: s :: rest =>
    if i.toLower = 'i' ∧ s.toLower = 's' then
      let word := rest.filterMap normalizeChar
      if word = ['c'] then "isc" else String.ofList word
    else String.ofList ((i :: s :: rest).filterMap normalizeChar)
  | chars => String.ofList (chars.filterMap normalizeChar)

/-- The characters of a category or a group of categories, by normalized name. -/
def categoryNamed? (name : String) : Option CharSet :=
  match name with
  | "any" => some .full
  | "assigned" => some (Category.set .unassigned).compl
  | "ascii" => some (.range 0 0x7F)
  | name =>
    match Category.all.find? fun c => c.names.contains name with
    | some c => some c.set
    | none =>
      (CategoryGroup.all.find? fun g => g.names.contains name).map fun g => Category.sets g.members

/-- The characters that a bare name stands for. -/
def classNamed? (name : String) : Option CharSet :=
  let name := normalizeName name
  (Property.named? name).map Property.set <|> categoryNamed? name <|>
    (Script.named? name).map Script.set

/-- The characters for which a property has a value. -/
def classValued? (property value : String) : Option CharSet :=
  let value := normalizeName value
  match normalizeName property with
  | "gc" | "generalcategory" => categoryNamed? value
  | "sc" | "script" => (Script.named? value).map Script.set
  | "scx" | "scriptextensions" => (Script.named? value).map Script.extensions
  | "age" => Age.named? value
  | "gcb" | "graphemeclusterbreak" => BreakClass.named? GraphemeBreak.classes value
  | "wb" | "wordbreak" => BreakClass.named? WordBreak.classes value
  | "sb" | "sentencebreak" => BreakClass.named? SentenceBreak.classes value
  | _ => none

end LiveForm.Unicode
