import XmlTemplate.Error
import XmlTemplate.Token.Lexeme

/-!
# From source text to tokens

The lexer is a machine that takes one lexeme at a time off the head of the source. It keeps the
place it has come to, a frame for each group that is still open, and the tokens of the innermost
group read so far, newest first. A frame remembers the source after its opening delimiter, so that
the text of a group is cut from the source as it is. Every lexeme covers at least one character,
which bounds the run.
-/

set_option autoImplicit false

namespace XmlTemplate

/-- A group that is still open: its delimiters, the place of the opening one, the source after it,
and the tokens before the group, newest first. -/
structure Frame where
  delimiter : Delimiter
  opened : Position
  inner : Text
  before : List Token

/-- The group that ends with the closing delimiter at the given place. -/
def Frame.close (f : Frame) (closing : Position) (inside : List Token) : Token :=
  .group f.delimiter (f.inner.take (closing.offset - f.opened.offset - 1))
    ⟨f.opened.line, f.opened.column, f.opened.offset, closing.offset + 1⟩ inside.reverse

/-- The tokens of the source, given what is left of it and what has been read. -/
def lexFrom (rest : Text) (pos : Position) (frames : List Frame) (done : List Token) :
    Except ParseError (List Token) :=
  match rest with
  | [] =>
    match frames with
    | [] => .ok done.reverse
    | f :: _ => .error ⟨.unclosed f.delimiter.opener, some (f.opened.span 1)⟩
  | c :: s =>
    let length := (lexeme (!frames.isEmpty) c s).2
    let shown := (c :: s).take length
    let left := (c :: s).drop length
    let next := pos.after shown
    match (lexeme (!frames.isEmpty) c s).1 with
    | .blanks | .comment => lexFrom left next frames done
    | .leaf kind => lexFrom left next frames (.leaf kind shown (pos.span length) :: done)
    | .opening d => lexFrom left next (⟨d, pos, left, done⟩ :: frames) []
    | .closing d =>
      match frames with
      | [] => .error ⟨.unbalanced c, some (pos.span 1)⟩
      | f :: outer =>
        if f.delimiter = d then lexFrom left next outer (f.close pos done :: f.before)
        else .error ⟨.unbalanced c, some (pos.span 1)⟩
    | .openQuote => .error ⟨.unterminatedString, some (pos.span 1)⟩
termination_by rest.length
decreasing_by
  all_goals
    have := lexeme_length_pos (!frames.isEmpty) c s
    simp only [List.length_drop, List.length_cons]
    omega

/-- The tokens at the top level of a source text. -/
def Token.lex (source : Text) : Except ParseError (List Token) := lexFrom source .first [] []

end XmlTemplate
