import XmlTemplate.Text.Basic

/-!
# Places in a source text

Lines and columns count from one and offsets from zero, all in characters; only a line feed ends a
line. The place after a text is reached part by part (`Position.after_append`).
-/

set_option autoImplicit false

namespace XmlTemplate

/-- The place of one character, or of the end of the text. -/
structure Position where
  line : Nat
  column : Nat
  offset : Nat
  deriving DecidableEq, Repr

/-- The place of the first character. -/
def Position.first : Position := ⟨1, 1, 0⟩

/-- The place after one more character. -/
def Position.next (p : Position) (c : Char) : Position :=
  if c = '\n' then ⟨p.line + 1, 1, p.offset + 1⟩ else ⟨p.line, p.column + 1, p.offset + 1⟩

/-- The place after a text. -/
def Position.after (p : Position) (s : Text) : Position := s.foldl Position.next p

theorem Position.after_append (p : Position) (s t : Text) :
    p.after (s ++ t) = (p.after s).after t := List.foldl_append

theorem Position.offset_next (p : Position) (c : Char) : (p.next c).offset = p.offset + 1 := by
  rw [Position.next]
  split <;> rfl

/-- Offsets count every character. -/
theorem Position.offset_after (p : Position) (s : Text) :
    (p.after s).offset = p.offset + s.length := by
  induction s generalizing p with
  | nil => rfl
  | cons c s ih =>
    have step : p.after (c :: s) = (p.next c).after s := rfl
    rw [step, ih, Position.offset_next, List.length_cons]
    omega

/-- A stretch of the source: line, column and offset of its first character, and the offset just
after its last. -/
structure Span where
  line : Nat
  column : Nat
  start : Nat
  stop : Nat
  deriving DecidableEq, Repr

/-- The stretch of `length` characters from a place on. -/
def Position.span (p : Position) (length : Nat) : Span :=
  ⟨p.line, p.column, p.offset, p.offset + length⟩

/-- The characters of the source in the stretch. -/
def Span.cut (span : Span) (source : Text) : Text :=
  (source.drop span.start).take (span.stop - span.start)

end XmlTemplate
