import XmlTemplate.Text.Digits
import XmlTemplate.Text.Hangul
import XmlTemplate.Text.NormalForm.Table

/-!
# The normal form of names

Script names that differ only in how their characters are put together or in how they look are the
same name: a name counts by its compatibility composition (normal form KC). Every character is
decomposed as far as possible, marks that follow a letter are brought into the order of their
combining classes, and letters are composed with the marks after them where one character stands for
both. A text of the basic alphabet is its own normal form (`normalized_of_basic`).
-/

set_option autoImplicit false

namespace XmlTemplate

/-- The rows of a table, given the digits of the number and the numbers of the row that are being
read, last first. -/
def numberRows (digits : Text) (row : List Nat) : Text → List (List Nat)
  | [] => [(digitsValue 16 digits.reverse :: row).reverse]
  | c :: s =>
    if c = ' ' then numberRows [] (digitsValue 16 digits.reverse :: row) s
    else if c = ';' || c = '\n' then
      (digitsValue 16 digits.reverse :: row).reverse :: numberRows [] [] s
    else numberRows (c :: digits) row s

/-- The rows of a table. -/
def tableRows (table : String) : List (List Nat) := numberRows [] [] table.toList

namespace NormalForm

/-- Characters with a decomposition of their own. -/
def decompositions : List (Nat × List Nat) :=
  (tableRows decompositionRows).filterMap fun row => row.head?.map fun n => (n, row.tail)

/-- Runs of first and last character, and a number. -/
def runsOf (table : String) : List (Nat × Nat × Nat) :=
  (tableRows table).filterMap fun
    | [first, last, n] => some (first, last, n)
    | _ => none

/-- Runs of characters that decompose to a run of characters. -/
def shifts : List (Nat × Nat × Nat) := runsOf decompositionRuns

/-- Runs of marks of one combining class. -/
def classes : List (Nat × Nat × Nat) := runsOf combiningRuns

/-- Pairs of characters and what they compose. -/
def compositions : List (Nat × Nat × Nat) := runsOf compositionRows

/-- The run that a code point is in. -/
def runAt? (runs : List (Nat × Nat × Nat)) (n : Nat) : Option (Nat × Nat × Nat) :=
  runs.find? fun run => run.1 ≤ n && n ≤ run.2.1

/-- The full decomposition of a code point. -/
def decompose (n : Nat) : List Nat :=
  if n < 0x80 then [n]
  else match Hangul.parts? n with
    | some (lead, vowel, trail) =>
      [Hangul.leadBase + lead, Hangul.vowelBase + vowel]
        ++ if trail = 0 then [] else [Hangul.trailBase + trail]
    | none =>
      match decompositions.lookup n, runAt? shifts n with
      | some several, _ => several
      | none, some (first, _, image) => [image + (n - first)]
      | none, none => [n]

/-- The combining class of a code point, zero where it is no mark. -/
def combiningClass (n : Nat) : Nat :=
  if n < 0x80 then 0
  else match runAt? classes n with
    | some (_, _, k) => k
    | none => 0

/-- Put a character at the end of a reversed text, before the marks of higher classes there. -/
def insertMark (n : Nat) : List Nat → List Nat
  | [] => [n]
  | m :: before =>
    if combiningClass n ≠ 0 && combiningClass m > combiningClass n then m :: insertMark n before
    else n :: m :: before

/-- The characters with their marks in the order of the combining classes. -/
def orderMarks (s : List Nat) : List Nat :=
  (s.foldl (fun before n => insertMark n before) []).reverse

/-- The character that two characters compose. -/
def compose? (n m : Nat) : Option Nat :=
  match Hangul.parts? n with
  | some (lead, vowel, 0) =>
    if Hangul.trailBase < m ∧ m < Hangul.trailBase + Hangul.trailCount then
      some (Hangul.syllable lead vowel (m - Hangul.trailBase))
    else none
  | _ =>
    if Hangul.leadBase ≤ n ∧ n < Hangul.leadBase + Hangul.leadCount
        ∧ Hangul.vowelBase ≤ m ∧ m < Hangul.vowelBase + Hangul.vowelCount then
      some (Hangul.syllable (n - Hangul.leadBase) (m - Hangul.vowelBase) 0)
    else (compositions.find? fun c => c.1 == n && c.2.1 == m).map fun c => c.2.2

/-- The composition of a text that starts with a letter and marks that do not compose with it, last
first. A mark composes with the letter unless one of its class or a higher one stands between. -/
def composeFrom (letter : Nat) (marks : List Nat) : List Nat → List Nat
  | [] => letter :: marks.reverse
  | n :: s =>
    let blocked :=
      match marks with
      | [] => false
      | m :: _ => combiningClass m ≥ combiningClass n
    match if blocked then none else compose? letter n with
    | some composite => composeFrom composite marks s
    | none =>
      if combiningClass n = 0 then letter :: marks.reverse ++ composeFrom n [] s
      else composeFrom letter (n :: marks) s

/-- The composition of a decomposed text in order. -/
def compose : List Nat → List Nat
  | [] => []
  | n :: s => composeFrom n [] s

end NormalForm

/-- Characters of the basic alphabet. -/
def isBasic (c : Char) : Bool := c.toNat < 0x80

/-- The normal form of a name. -/
def Text.normalized (s : Text) : Text :=
  if s.all isBasic then s
  else
    let decomposed := s.flatMap fun c => NormalForm.decompose c.toNat
    (NormalForm.compose (NormalForm.orderMarks decomposed)).map Char.ofNat

theorem Text.normalized_of_basic {s : Text} (h : s.all isBasic = true) : s.normalized = s := by
  rw [Text.normalized, if_pos h]

end XmlTemplate
