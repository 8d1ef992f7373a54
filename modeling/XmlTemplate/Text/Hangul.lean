import XmlTemplate.Text.Basic

/-!
# Hangul syllables

A syllable has a leading consonant, a vowel and at most one trailing consonant, and the syllables
stand in the order of these parts, so that their code points, their names and their parts are
matters of arithmetic. `parts?` takes apart what `syllable` puts together (`parts?_syllable`).
-/

set_option autoImplicit false

namespace XmlTemplate.Hangul

/-- Code points of the first syllable, leading consonant and vowel, and the one before the first
trailing consonant. -/
def syllableBase : Nat := 0xAC00

@[inherit_doc syllableBase]
def leadBase : Nat := 0x1100

@[inherit_doc syllableBase]
def vowelBase : Nat := 0x1161

@[inherit_doc syllableBase]
def trailBase : Nat := 0x11A7

/-- How many leading consonants there are. -/
def leadCount : Nat := 19

/-- How many vowels there are. -/
def vowelCount : Nat := 21

/-- How many trailing consonants there are, none at all counting as one. -/
def trailCount : Nat := 28

/-- The code point of the syllable with the given parts, each by its place in the order. -/
def syllable (lead vowel trail : Nat) : Nat :=
  syllableBase + (lead * vowelCount + vowel) * trailCount + trail

/-- The parts of the syllable with the given code point. -/
def parts? (n : Nat) : Option (Nat × Nat × Nat) :=
  if syllableBase ≤ n ∧ n < syllableBase + leadCount * vowelCount * trailCount then
    let i := n - syllableBase
    some (i / trailCount / vowelCount, i / trailCount % vowelCount, i % trailCount)
  else none

theorem parts?_syllable {lead vowel trail : Nat} (hl : lead < leadCount) (hv : vowel < vowelCount)
    (ht : trail < trailCount) : parts? (syllable lead vowel trail) = some (lead, vowel, trail) := by
  unfold parts? syllable
  unfold leadCount vowelCount trailCount at *
  split
  · simp only [Option.some.injEq, Prod.mk.injEq]
    omega
  · omega

/-- The names of the leading consonants, in order. -/
def leadNames : List Text :=
  ["G", "GG", "N", "D", "DD", "R", "M", "B", "BB", "S", "SS", "", "J", "JJ", "C", "K", "T", "P",
   "H"].map String.toList

/-- The names of the vowels, in order. -/
def vowelNames : List Text :=
  ["A", "AE", "YA", "YAE", "EO", "E", "YEO", "YE", "O", "WA", "WAE", "OE", "YO", "U", "WEO", "WE",
   "WI", "YU", "EU", "YI", "I"].map String.toList

/-- The names of the trailing consonants, in order. -/
def trailNames : List Text :=
  ["", "G", "GG", "GS", "N", "NJ", "NH", "D", "L", "LG", "LM", "LB", "LS", "LT", "LP", "LH", "M",
   "B", "BS", "S", "SS", "NG", "J", "C", "K", "T", "P", "H"].map String.toList

/-- The longest of the names that the text starts with: its place, and the text after it. -/
def takeName (names : List Text) (s : Text) : Option (Nat × Text) :=
  let found := names.zipIdx.filter fun name => name.1.isPrefixOf s
  match found.find? fun name => found.all fun other => other.1.length ≤ name.1.length with
  | some (name, i) => some (i, s.drop name.length)
  | none => none

/-- The code point of the syllable with the given name. -/
def named? (name : Text) : Option Nat :=
  match takeName leadNames name with
  | none => none
  | some (lead, s) =>
    match takeName vowelNames s with
    | none => none
    | some (vowel, s) =>
      match takeName trailNames s with
      | some (trail, []) => some (syllable lead vowel trail)
      | _ => none

end XmlTemplate.Hangul
