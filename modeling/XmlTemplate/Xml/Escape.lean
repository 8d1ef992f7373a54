import XmlTemplate.Text.Basic

/-!
# Escaping character data

Text is written with an entity for each character that would be read as markup, and in pieces: the
runs of characters that stay as they are, and the entities between them. `escape` joins the pieces,
which comes to replacing every special character on its own (`escape_cons`).
-/

set_option autoImplicit false

namespace XmlTemplate

/-- Where a text is written: between tags, or between the double quotes of an attribute value. -/
inductive Place where
  | content
  | value
  deriving DecidableEq, Repr

/-- Characters that are written as entities: angle brackets and the ampersand, and in an attribute
value the double quote too. -/
def isSpecial : Place → Char → Bool
  | .content, c => c == '<' || c == '>' || c == '&'
  | .value, c => c == '<' || c == '>' || c == '&' || c == '"'

/-- The entity that stands for a special character. -/
def entity (c : Char) : Text :=
  if c = '<' then ['&', 'l', 't', ';']
  else if c = '>' then ['&', 'g', 't', ';']
  else if c = '&' then ['&', 'a', 'm', 'p', ';']
  else ['&', 'q', 'u', 'o', 't', ';']

/-- A piece of an escaped text: a run of characters kept as they are, or one that is replaced. -/
inductive Piece where
  | run (text : Text)
  | special (char : Char)
  deriving DecidableEq, Repr

/-- What a piece writes. -/
def Piece.text : Piece → Text
  | .run s => s
  | .special c => entity c

/-- The pieces of a text, from left to right; a run is as long as possible and never empty. -/
def pieces (place : Place) : Text → List Piece
  | [] => []
  | c :: s =>
    if isSpecial place c then .special c :: pieces place s
    else match pieces place s with
      | .run t :: rest => .run (c :: t) :: rest
      | rest => .run [c] :: rest

/-- The escaped text. -/
def escape (place : Place) (s : Text) : Text := (pieces place s).flatMap Piece.text

@[simp]
theorem escape_nil (place : Place) : escape place [] = [] := rfl

theorem escape_cons (place : Place) (c : Char) (s : Text) :
    escape place (c :: s) = (if isSpecial place c then entity c else [c]) ++ escape place s := by
  rw [escape, escape, pieces]
  by_cases hc : isSpecial place c = true
  · rw [if_pos hc, if_pos hc]
    rfl
  · rw [if_neg hc, if_neg hc]
    split
    · next t rest hs => rw [hs]; rfl
    · rfl

end XmlTemplate
