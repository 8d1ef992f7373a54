import XmlTemplate.Proofs.Template.ReadMarkup
import XmlTemplate.Proofs.Token.Written

/-!
# Text in a literal

Every text can be a string literal of a template. Between double quotes, few characters have to be
escaped for that: the backslash, the double quote itself, ends of lines and the null character. The
lexer and the reader of constants look at such a literal in different ways, and agree on it: the
lexer finds its end and takes it for one token, whatever comes next, and the token stands for the
text again (`text_of_sparingQuote`).
-/

set_option autoImplicit false

namespace XmlTemplate

namespace Literal

/-- A character as it has to stand between double quotes: single quotes need no escape there. -/
def sparingEscape (c : Char) : Text := if c = '\'' then ['\''] else escape c

/-- The literal between double quotes with no more escapes than it needs. -/
def sparingQuote (s : Text) : Text := '"' :: (s.flatMap sparingEscape ++ ['"'])

theorem writes_sparingEscape (c : Char) : Writes c (sparingEscape c) := by
  unfold sparingEscape
  split
  · next hc =>
    rw [hc]
    exact .plain (by decide) (by decide) (by decide) (by decide) (by decide)
  · exact writes_escape c

theorem isBody_sparing (s : Text) : IsBody s (s.flatMap sparingEscape) :=
  .flatMap writes_sparingEscape s

end Literal

namespace Parse

open Grammar

variable {t : Token} {s : Text}

theorem stringValue_of_spells (h : Spells t s) (c : Cursor) : stringValue t c = .ok s c :=
  (reads_stringValue t c.tokens c.enclosing s c).2 ⟨c.tokens, ⟨h, rfl⟩, rfl⟩

theorem isKind_of_spells (h : Spells t s) : t.isKind .string = true := by
  cases h
  rfl

/-- In the content of an element, the text arrives as it is. -/
theorem child_of_spells (h : Spells t s) (permission : Permission) (room depth : Nat)
    (rest : List Token) (enclosing : Option Span) :
    child permission room (depth + 1) ⟨t :: rest, enclosing⟩ = .ok (.text s) ⟨rest, enclosing⟩ := by
  rw [child]
  change (if t.isKind .string = true then _ else _ : Parse Child) ⟨rest, enclosing⟩ = _
  rw [if_pos (isKind_of_spells h)]
  exact bind_of_ok (stringValue_of_spells h _) _

/-- As the value of an attribute, the text arrives as it is. -/
theorem attributeValue_of_spells (h : Spells t s) (room : Nat) (rest : List Token)
    (enclosing : Option Span) :
    attributeValue room ⟨t :: rest, enclosing⟩ = .ok (.literal s) ⟨rest, enclosing⟩ :=
  (reads_attributeValue room _ enclosing _ _).2 ⟨rest, ⟨t, rfl, .literal h, trivial⟩, rfl⟩

end Parse

/-- The token of the literal for a text. -/
def literalToken (s : Text) (p : Span) : Token := .leaf .string (Literal.sparingQuote s) p

theorem spells_literalToken (s : Text) (p : Span) : Grammar.Spells (literalToken s p) s :=
  .string rfl (Script.readConstant_of_isBody (Literal.isBody_sparing s))

/-- The first token of a source that starts with the literal, and the tokens after it. -/
theorem Lexes.of_sparingQuote {s r : Text} {pos : Position} {ts : List Token}
    (hr : r.head? ≠ some '"') (h : Lexes false (Literal.sparingQuote s ++ r) [] pos ts) :
    ∃ us, Token.lex r = .ok us ∧
      ts = literalToken s (pos.span (Literal.sparingQuote s).length) ::
        Token.movedAll (pos.after (Literal.sparingQuote s)) us := by
  obtain ⟨vs, rfl, hvs⟩ :=
    h.of_doubleQuoted (Literal.isBody_sparing s) (.inr (by rwa [List.append_nil]))
  obtain ⟨us, hus, rfl⟩ := hvs.exists_lex
  exact ⟨us, hus, rfl⟩

theorem lex_sparingQuote (s : Text) :
    Token.lex (Literal.sparingQuote s) =
      .ok [literalToken s (Position.first.span (Literal.sparingQuote s).length)] := by
  have hquoted := Lexes.doubleQuoted (Literal.isBody_sparing s) (.inr (by simp))
    (.nil false [] (Position.first.after (Literal.sparingQuote s)))
  rw [List.append_nil] at hquoted
  exact Token.lex_eq_ok_iff.2 hquoted

/-- Literals express every text. The literal of a text is one token by itself; in front of anything
but a further double quote it is the first token, with those of the rest behind it; wherever it
stands, the token has the text for its value, and so have the text child and the attribute value
that are read from it. -/
theorem text_of_sparingQuote (s r : Text) (hr : r.head? ≠ some '"') :
    Token.lex (Literal.sparingQuote s) =
        .ok [literalToken s (Position.first.span (Literal.sparingQuote s).length)] ∧
      (∀ ts, Token.lex (Literal.sparingQuote s ++ r) = .ok ts →
        ∃ us, Token.lex r = .ok us ∧
          ts = literalToken s (Position.first.span (Literal.sparingQuote s).length) ::
            Token.movedAll (Position.first.after (Literal.sparingQuote s)) us) ∧
      ∀ (p : Span) (rest : List Token) (enclosing : Option Span),
        Parse.stringValue (literalToken s p) ⟨rest, enclosing⟩ = .ok s ⟨rest, enclosing⟩ ∧
        (∀ permission room depth,
          Parse.child permission room (depth + 1) ⟨literalToken s p :: rest, enclosing⟩ =
            .ok (.text s) ⟨rest, enclosing⟩) ∧
        ∀ room, Parse.attributeValue room ⟨literalToken s p :: rest, enclosing⟩ =
          .ok (.literal s) ⟨rest, enclosing⟩ := by
  refine ⟨lex_sparingQuote s, ?_, ?_⟩
  · intro ts h
    exact (Token.lex_eq_ok_iff.1 h).of_sparingQuote hr
  · intro p rest enclosing
    have hspells := spells_literalToken s p
    refine ⟨Parse.stringValue_of_spells hspells _, ?_, ?_⟩
    · intro permission room depth
      exact Parse.child_of_spells hspells permission room depth rest enclosing
    · intro room
      exact Parse.attributeValue_of_spells hspells room rest enclosing

/-- Quotes of both kinds, a backslash and the end of a line. -/
def quotesAndEnd : Text := ['"', '\'', '\\', '\n']

/-- The literal in front of the end of a tag. -/
theorem text_of_sparingQuote_quotesAndEnd :
    Literal.sparingQuote quotesAndEnd = ['"', '\\', '"', '\'', '\\', '\\', '\\', 'n', '"'] ∧
      Token.lex (Literal.sparingQuote quotesAndEnd ++ ['>']) =
        .ok [literalToken quotesAndEnd ⟨1, 1, 0, 9⟩, .leaf .punctuation ['>'] ⟨1, 10, 9, 10⟩] ∧
      (∃ us, Token.lex ['>'] = .ok us ∧
        Token.movedAll ⟨1, 10, 9⟩ us = [.leaf .punctuation ['>'] ⟨1, 10, 9, 10⟩]) ∧
      Parse.stringValue (literalToken quotesAndEnd ⟨1, 1, 0, 9⟩) ⟨[], none⟩ =
        .ok quotesAndEnd ⟨[], none⟩ := by
  have hlex : Token.lex (Literal.sparingQuote quotesAndEnd ++ ['>']) =
      .ok [literalToken quotesAndEnd ⟨1, 1, 0, 9⟩, .leaf .punctuation ['>'] ⟨1, 10, 9, 10⟩] := by
    apply Token.lex_eq_ok_iff.2
    exact .doubleQuoted (Literal.isBody_sparing quotesAndEnd) (.inr (by decide))
      (.mark (isMark_of_mem (by decide)) (.nil _ _ _))
  obtain ⟨-, hfirst, hvalue⟩ := text_of_sparingQuote quotesAndEnd ['>'] (by decide)
  obtain ⟨us, hus, htokens⟩ := hfirst _ hlex
  exact ⟨rfl, hlex, ⟨us, hus, (List.cons.inj htokens).2.symm⟩, (hvalue _ _ _).1⟩

end XmlTemplate
