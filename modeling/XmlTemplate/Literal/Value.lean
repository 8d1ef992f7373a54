import XmlTemplate.Literal.Extent
import XmlTemplate.Text.CharacterName
import XmlTemplate.Text.Digits

/-!
# What a string literal means

The letters before a literal choose its flavour: raw literals keep their backslashes, and byte
literals hold bytes and no text. In any other literal a backslash and what follows it stand for a
character, or for none at the end of a line; a backslash before a character without a meaning stays.
`Literal.read` reads the literal at the head of a text.
-/

set_option autoImplicit false

namespace XmlTemplate.Literal

/-- Whether backslashes are kept, and whether the literal holds bytes. -/
structure Flavour where
  raw : Bool
  bytes : Bool
  deriving DecidableEq, Repr

/-- The flavour that letters before a quote choose, in small or capital letters. -/
def flavour? (marks : Text) : Option Flavour :=
  match marks.map Char.toLower with
  | [] => some ⟨false, false⟩
  | ['u'] => some ⟨false, false⟩
  | ['r'] => some ⟨true, false⟩
  | ['b'] => some ⟨false, true⟩
  | ['b', 'r'] => some ⟨true, true⟩
  | ['r', 'b'] => some ⟨true, true⟩
  | _ => none

/-- The character with a code point. -/
def character? (n : Nat) : Option Char := if n.isValidChar then some (Char.ofNat n) else none

/-- A character written as `width` digits in base sixteen after a letter. -/
def hexEscape (width : Nat) (s : Text) : Option (Text × Nat) :=
  if s.length < width then none
  else ((number? 16 (s.take width)).bind character?).map fun c => ([c], width + 1)

/-- A character written by its name in curly brackets after a letter. -/
def nameEscape : Text → Option (Text × Nat)
  | '{' :: s =>
    let name := s.takeWhile (· != '}')
    if name.length < s.length then (characterNamed? name).map fun c => ([c], name.length + 3)
    else none
  | _ => none

/-- The octal digits, three at most, at the head of a text. -/
def octalDigits (s : Text) : Text := (s.take 3).takeWhile fun c => '0' ≤ c && c ≤ '7'

/-- What a backslash with the given text after it stands for, and how many characters of that text
belong to it. -/
def escapeAt (bytes : Bool) : Text → Option (Text × Nat)
  | [] => none
  | c :: s =>
    if c = '\n' then some ([], 1)
    else if c = '\\' || c = '\'' || c = '"' then some ([c], 1)
    else if c = 'a' then some (['\x07'], 1)
    else if c = 'b' then some (['\x08'], 1)
    else if c = 'f' then some (['\x0c'], 1)
    else if c = 'n' then some (['\n'], 1)
    else if c = 'r' then some (['\r'], 1)
    else if c = 't' then some (['\t'], 1)
    else if c = 'v' then some (['\x0b'], 1)
    else if '0' ≤ c && c ≤ '7' then
      let digits := octalDigits (c :: s)
      ((number? 8 digits).bind character?).map fun d => ([d], digits.length)
    else if c = 'x' then hexEscape 2 s
    else if c = 'u' && !bytes then hexEscape 4 s
    else if c = 'U' && !bytes then hexEscape 8 s
    else if c = 'N' && !bytes then nameEscape s
    else some (['\\', c], 1)

/-- The text that a body with escapes stands for; the first `skip` characters belong to an escape
that has been read. -/
def unescape (bytes : Bool) : (skip : Nat) → Text → Option Text
  | _, [] => some []
  | skip + 1, _ :: s => unescape bytes skip s
  | 0, c :: s =>
    if c = '\\' then
      match escapeAt bytes s with
      | some (out, n) => (unescape bytes n s).map (out ++ ·)
      | none => none
    else (unescape bytes 0 s).map (c :: ·)

/-- The value of a literal: text, or bytes, whose content plays no part. -/
inductive Meaning where
  | text (value : Text)
  | bytes
  deriving DecidableEq, Repr

/-- The meaning of a body between quotes. -/
def meaning? (flavour : Flavour) (body : Text) : Option Meaning :=
  if flavour.bytes then
    if body.all fun c => c.toNat < 128 then
      if flavour.raw then some .bytes else (unescape true 0 body).map fun _ => .bytes
    else none
  else if flavour.raw then some (.text body)
  else (unescape false 0 body).map .text

/-- The body of the literal whose opening quote has been read, and its length with the closing
quotes; three quotes in a row always open a long literal. -/
def body? (quote : Char) (s : Text) : Option (Text × Nat) :=
  if s.take 2 = [quote, quote] then
    (longEnd quote (s.drop 2)).map fun n => ((s.drop 2).take (n - 3), n + 2)
  else (shortEnd quote s).map fun n => (s.take (n - 1), n)

/-- Whether a literal starts at the head of the text. -/
def startsAt (s : Text) : Bool :=
  match s.drop (stringMarks s) with
  | [] => false
  | c :: _ => isQuote c

/-- The literal at the head of the text: its meaning, and how many characters it covers. -/
def read (s : Text) : Option (Meaning × Nat) :=
  match flavour? (s.take (stringMarks s)), s.drop (stringMarks s) with
  | some flavour, quote :: rest =>
    if isQuote quote then
      match body? quote rest with
      | some (body, n) => (meaning? flavour body).map fun m => (m, stringMarks s + 1 + n)
      | none => none
    else none
  | _, _ => none

end XmlTemplate.Literal
