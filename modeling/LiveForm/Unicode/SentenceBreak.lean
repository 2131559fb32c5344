import LiveForm.Unicode.BreakClass
import LiveForm.Unicode.Property

/-!
# Breaks between sentences

A sentence ends after a full stop, a question mark or the like, together with closing brackets and
spaces, unless what follows shows that it goes on.
-/

namespace LiveForm.Unicode.SentenceBreak

open Category

/-- Characters that stay with the one before them. -/
def extend : CharSet :=
  .unions [Property.graphemeExtend, set .spacingMark, .ofText "200d"]

/-- Format characters that a sentence may contain anywhere. -/
def format : CharSet :=
  (set .format).diff (.unions [Property.prependedConcatenationMark.diff (.ofText "70f"),
    Property.graphemeExtend, Property.joinControl])

/-- Spaces that do not end a paragraph. -/
def space : CharSet := Property.whiteSpace.diff (.ofText "a d 85 2028-2029")

def lower : CharSet :=
  Property.lowercase.diff (Property.graphemeExtend.union (.ofText "10d0-10fa 10fd-10ff"))

def upper : CharSet :=
  (Property.uppercase.union (set .titlecaseLetter)).diff (.ofText "1c90-1cba 1cbd-1cbf")

/-- Letters without case. -/
def otherLetter : CharSet :=
  (Property.alphabetic.union (.ofText "5f3")).diff (.unions [lower, upper, extend])

def numeric : CharSet :=
  (set .decimalNumber).union (.ofText "600-605 66b-66c 6dd 890-891 8e2 19da 110bd 110cd")

/-- Full stops, which may also end an abbreviation. -/
def ambiguousTerminal : CharSet := .ofText "2e 2024 fe52 ff0e"

/-- Brackets and quotation marks. -/
def close : CharSet :=
  ((sets [.openPunctuation, .closePunctuation, .initialPunctuation, .finalPunctuation]).union
    (.ofText "22 27 275b-2760 2e00-2e01 2e06-2e08 2e0b 1f676-1f678"))

/-- Punctuation after which a sentence goes on. -/
def goesOn : CharSet := .ofText "
2c-2d 3a-3b 37e 55d 60c-60d 7f8 1802 1808 2013-2014 3001 fe10-fe11 fe13-fe14 fe31-fe32 fe50-fe51
fe54-fe55 fe58 fe63 ff0c-ff0d ff1a-ff1b ff64"

def classes : List BreakClass := [
  ⟨["cr"], .ofText "d"⟩,
  ⟨["lf"], .ofText "a"⟩,
  ⟨["se", "sep"], .ofText "85 2028-2029"⟩,
  ⟨["ex", "extend"], extend⟩,
  ⟨["fo", "format"], format⟩,
  ⟨["sp"], space⟩,
  ⟨["lo", "lower"], lower⟩,
  ⟨["up", "upper"], upper⟩,
  ⟨["le", "oletter"], otherLetter⟩,
  ⟨["nu", "numeric"], numeric⟩,
  ⟨["at", "aterm"], ambiguousTerminal⟩,
  ⟨["st", "sterm"], Property.sentenceTerminal.diff ambiguousTerminal⟩,
  ⟨["cl", "close"], close⟩,
  ⟨["sc", "scontinue"], goesOn⟩]

end LiveForm.Unicode.SentenceBreak
