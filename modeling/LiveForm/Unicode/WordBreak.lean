import LiveForm.Unicode.BreakClass
import LiveForm.Unicode.Property
import LiveForm.Unicode.Script

/-!
# Breaks between words

Letters and digits make up words; some punctuation belongs to a word when it stands between
letters or between digits. Scripts whose words only a dictionary can find have no letters here.
-/

namespace LiveForm.Unicode.WordBreak

open Category

/-- Characters that stay with the one before them. -/
def extend : CharSet :=
  (CharSet.unions [Property.graphemeExtend, set .spacingMark, Property.emojiModifier]).diff
    (.ofText "200d")

/-- Format characters that a word may contain anywhere. -/
def format : CharSet :=
  (set .format).diff (.unions [Property.prependedConcatenationMark, Property.graphemeExtend,
    .ofText "200b-200d"])

/-- The members of a script, by its name. -/
def ofScript (name : String) : CharSet := ((Script.named? name).map Script.set).getD .empty

def katakana : CharSet := (ofScript "kana").union (.ofText "3031-3035 309b-309c 30a0 30fc ff70")

def hebrewLetter : CharSet := (ofScript "hebr").inter (set .otherLetter)

/-- Characters that are no letters by themselves and yet make up words. -/
def letterLike : CharSet := .ofText "
2c2-2c5 2d2-2d7 2de-2df 2e5-2eb 2ed 2ef-2ff 55a-55c 55e 58a 5f3 70f a708-a716 a720-a721 a789-a78a
ab5b"

/-- Letters of scripts that are written without a mark between words. -/
def unspacedLetter : CharSet := .ofText "
e01-e30 e32-e33 e40-e46 e81-e82 e84 e86-e8a e8c-ea3 ea5 ea7-eb0 eb2-eb3 ebd ec0-ec4 ec6 edc-edf
1000-102a 103f 1050-1055 105a-105d 1061 1065-1066 106e-1070 1075-1081 108e 1780-17b3 17d7 17dc
1950-196d 1970-1974 1980-19ab 19b0-19c9 1a20-1a54 1aa7 a9e0-a9e4 a9e6-a9ef a9fa-a9fe aa60-aa76
aa7a aa7e-aaaf aab1 aab5-aab6 aab9-aabd aac0 aac2 aadb-aadd 11700-1171a 11740-11746"

def letter : CharSet :=
  (Property.alphabetic.union letterLike).diff
    (.unions [Property.ideographic, katakana, ofScript "hira", extend, hebrewLetter,
      unspacedLetter])

def numeric : CharSet :=
  (set .decimalNumber).union (.ofText "600-605 66b 6dd 890-891 8e2 19da 110bd 110cd")

def classes : List BreakClass := [
  ⟨["cr"], .ofText "d"⟩,
  ⟨["lf"], .ofText "a"⟩,
  ⟨["nl", "newline"], .ofText "b-c 85 2028-2029"⟩,
  ⟨["extend"], extend⟩,
  ⟨["zwj"], .ofText "200d"⟩,
  ⟨["ri", "regionalindicator"], Property.regionalIndicator⟩,
  ⟨["fo", "format"], format⟩,
  ⟨["ka", "katakana"], katakana⟩,
  ⟨["hl", "hebrewletter"], hebrewLetter⟩,
  ⟨["le", "aletter"], letter⟩,
  ⟨["sq", "singlequote"], .ofText "27"⟩,
  ⟨["dq", "doublequote"], .ofText "22"⟩,
  ⟨["mb", "midnumlet"], .ofText "2e 2018-2019 2024 fe52 ff07 ff0e"⟩,
  ⟨["ml", "midletter"], .ofText "3a b7 387 55f 5f4 2027 fe13 fe55 ff1a"⟩,
  ⟨["mn", "midnum"], .ofText "2c 3b 37e 589 60c-60d 66c 7f8 2044 fe50 fe54 ff0c ff1b"⟩,
  ⟨["nu", "numeric"], numeric⟩,
  ⟨["ex", "extendnumlet"], (set .connectorPunctuation).union (.ofText "202f")⟩,
  ⟨["wsegspace"], .ofText "20 1680 2000-2006 2008-200a 205f 3000"⟩]

end LiveForm.Unicode.WordBreak
