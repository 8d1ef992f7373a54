import XmlTemplate.Text.CharacterName.Alias
import XmlTemplate.Text.CharacterName.BasicPlane
import XmlTemplate.Text.CharacterName.HigherPlanes
import XmlTemplate.Text.Digits
import XmlTemplate.Text.Hangul

/-!
# Characters by name

String literals can name a character by its entry in version 14 of the character database. Most
names stand in tables (`characterNames`). Syllables, ideographs and variation selectors, and the
characters of some more families, have names that are formed by a rule. Letters may be small or
capital, but not in the names of syllables and unified ideographs.
-/

set_option autoImplicit false

namespace XmlTemplate

/-- Capital letters of the basic alphabet for small ones. -/
def capitals (s : Text) : Text := s.map Char.toUpper

/-- The names in a run, last character first, given the text of the name that is being read and the
starts of that name up to each of its words, longest first; all of these texts are reversed. -/
def reversedNames (starts : List Text) (name : Text) : Text → List Text
  | [] => [name]
  | c :: s =>
    if c = '\n' then reversedNames starts name s
    else if c = ' ' then reversedNames ((c :: name) :: starts) (c :: name) s
    else if c.isLower then
      let kept := starts.drop (starts.length - 1 - (c.toNat - 'a'.toNat))
      name :: reversedNames kept (kept.headD []) s
    else reversedNames starts (c :: name) s

/-- Runs of consecutive characters: the first code point, and the reversed names. -/
def characterNames : List (Nat × List Text) :=
  (basicPlaneNames ++ higherPlaneNames).map fun run =>
    (run.1, (reversedNames [[]] [] run.2.toList).tail)

/-- The character with a name from the tables. -/
def listedCharacter? (name : Text) : Option Nat :=
  match furtherNames.find? fun entry => entry.2.toList = name with
  | some (n, _) => some n
  | none =>
    let wanted := name.reverse
    characterNames.findSome? fun run => (run.2.idxOf? wanted).map (run.1 + ·)

/-- The text after a stem, for a text that starts with it. -/
def afterStem? (stem : String) (name : Text) : Option Text :=
  if stem.toList.isPrefixOf name then some (name.drop stem.toList.length) else none

/-- The number that digits in base sixteen, with capital letters, stand for. -/
def codePoint? (digits : Text) : Option Nat :=
  if digits.any Char.isLower then none else number? 16 digits

/-- The unified ideographs. -/
def ideographRanges : List (Nat × Nat) :=
  [(0x3400, 0x4DBF), (0x4E00, 0x9FFF), (0x20000, 0x2A6DF), (0x2A700, 0x2B738), (0x2B740, 0x2B81D),
   (0x2B820, 0x2CEA1), (0x2CEB0, 0x2EBE0), (0x30000, 0x3134A)]

/-- The unified ideograph that the digits after the stem of its name mean: four or five of them,
leading zeros among them. -/
def ideograph? (digits : Text) : Option Nat :=
  if digits.length = 4 || digits.length = 5 then
    (codePoint? digits).filter (inRanges ideographRanges)
  else none

/-- Families whose members are named by their code points: the stem of the names, and the first and
the last member. -/
def codedFamilies : List (String × Nat × Nat) :=
  [("CJK COMPATIBILITY IDEOGRAPH-", 0xF900, 0xFA6D),
   ("CJK COMPATIBILITY IDEOGRAPH-", 0xFA70, 0xFAD9),
   ("CJK COMPATIBILITY IDEOGRAPH-", 0x2F800, 0x2FA1D), ("NUSHU CHARACTER-", 0x1B170, 0x1B2FB),
   ("KHITAN SMALL SCRIPT CHARACTER-", 0x18B00, 0x18CD5)]

/-- The character with a name that is formed from its code point, without leading zeros. -/
def codedCharacter? (name : Text) : Option Nat :=
  codedFamilies.findSome? fun (stem, first, last) =>
    match afterStem? stem name with
    | none => none
    | some digits =>
      if digits.head? = some '0' then none
      else (codePoint? digits).filter fun n => first ≤ n && n ≤ last

/-- The stems of the names of variation selectors. -/
def selectorStems : List String := ["VS", "VARIATION SELECTOR-"]

/-- The variation selectors are numbered from 1 to 256; the first sixteen stand apart. -/
def variationSelector? (name : Text) : Option Nat :=
  match selectorStems.findSome? fun stem => afterStem? stem name with
  | none => none
  | some digits =>
    match (List.range 256).find? fun i => Text.ofNat (i + 1) = digits with
    | some i => some (if i < 16 then 0xFE00 + i else 0xE0100 + (i - 16))
    | none => none

/-- The code point of the character with a name. -/
def codePointNamed? (name : Text) : Option Nat :=
  match afterStem? "HANGUL SYLLABLE " name with
  | some rest => Hangul.named? rest
  | none =>
    match afterStem? "CJK UNIFIED IDEOGRAPH-" name with
    | some digits => ideograph? digits
    | none =>
      let name := capitals name
      (variationSelector? name).or ((codedCharacter? name).or (listedCharacter? name))

/-- The character with a name. -/
def characterNamed? (name : Text) : Option Char := (codePointNamed? name).map Char.ofNat

end XmlTemplate
