import LiveForm.Unicode.BreakClass
import LiveForm.Unicode.Property

/-!
# Breaks between user-perceived characters

Marks stay with the character before them, the parts of a Hangul syllable stay together, and so do
the two halves of a flag. Controls stand alone.
-/

namespace LiveForm.Unicode.GraphemeBreak

open Category

/-- Characters that stay with the one before them. -/
def extend : CharSet := Property.graphemeExtend.union Property.emojiModifier

def control : CharSet :=
  ((sets [.control, .format, .lineSeparator, .paragraphSeparator]).union
    (Property.defaultIgnorable.inter (set .unassigned))).diff
    (.unions [.ofText "a d", Property.prependedConcatenationMark, Property.joinControl,
      Property.graphemeExtend])

/-- Spacing marks that stay with the character before them. -/
def spacingMark : CharSet :=
  ((set .spacingMark).union (.ofText "e33 eb3")).diff (extend.union (.ofText "
102b-102c 1038 1062-1064 1067-106d 1083 1087-108c 108f 109a-109c 1a61 1a63-1a64 aa7b aa7d
11720-11721"))

/-- All Hangul syllables. -/
def hangulSyllable : CharSet := .range 0xAC00 0xD7A3

/-- The syllables without a final consonant, which are every twenty-eighth. -/
def openSyllable : CharSet := .ofPoints ((List.range 399).map fun i => 0xAC00 + 28 * i)

def classes : List BreakClass := [
  ⟨["cr"], .ofText "d"⟩,
  ⟨["lf"], .ofText "a"⟩,
  ⟨["cn", "control"], control⟩,
  ⟨["ex", "extend"], extend⟩,
  ⟨["zwj"], .ofText "200d"⟩,
  ⟨["ri", "regionalindicator"], Property.regionalIndicator⟩,
  ⟨["pp", "prepend"], .ofText "
600-605 6dd 70f 890-891 8e2 d4e 110bd 110cd 111c2-111c3 113d1 1193f 11941 11a3a 11a84-11a89 11d46
11f02"⟩,
  ⟨["sm", "spacingmark"], spacingMark⟩,
  ⟨["l"], .ofText "1100-115f a960-a97c"⟩,
  ⟨["v"], .ofText "1160-11a7 d7b0-d7c6 16d63 16d67-16d6a"⟩,
  ⟨["t"], .ofText "11a8-11ff d7cb-d7fb"⟩,
  ⟨["lv"], openSyllable⟩,
  ⟨["lvt"], hangulSyllable.diff openSyllable⟩]

end LiveForm.Unicode.GraphemeBreak
