import XmlTemplate.Proofs.Template.Spacing
import XmlTemplate.Proofs.Token.Group
import XmlTemplate.Proofs.Token.Spacing

/-!
# The tokens of a program and of its body

A program has the tokens of the body that it is made from, one for one (`lex_bodySource`). The
lines are moved without looking at what they hold, so that a string which goes over the end of a
line gets other blanks there; every other token is kept as it is, and so is every string without
the end of a line in it.
-/

set_option autoImplicit false

namespace XmlTemplate

/-- Between braces, a body and its program have the same parts of tokens, but for the runs of blanks
at the ends of lines in strings; without strings that have such an end in them they are the same. -/
theorem lex_bodySource {body : Text} {p : Span} {children : List Token}
    (h : Token.lex ('\x7b' :: (body ++ ['\x7d'])) = .ok [.group .curly body p children]) :
    ∃ p' children', Token.lex ('\x7b' :: (bodySource body ++ ['\n', '\x7d'])) =
        .ok [.group .curly (bodySource body ++ ['\n']) p' children'] ∧
      List.Forall₂ (Token.Part.Respaced (bodyEnds body)) (Token.partsAll children)
        (Token.partsAll children') ∧
      ((∀ s, .leaf .string s ∈ Token.partsAll children → ∀ c ∈ s, bodyEnds body c = false) →
        Token.partsAll children' = Token.partsAll children) := by
  obtain ⟨base, after, -, hinside⟩ := (Token.lex_eq_ok_iff.1 h).group_of_occurs (.here [])
  have hend : Calmer [] after := fun _ _ _ => rfl
  have hstop := Delimiter.curly.isStop_closer
  have halone := hinside.keep rfl hstop hend
  have hline := halone.append_newline rfl hstop Delimiter.curly.isLone_closer.notBlank
  have hrespaced := respaced_bodySource body ['\x7d']
  have hsplit : body ++ '\n' :: ['\x7d'] = body ++ ['\n'] ++ Delimiter.curly.closer :: [] := by
    simp [Delimiter.closer]
  rw [hsplit] at hrespaced
  obtain ⟨shown, rest, children', heq, hlexes, hrest, hparts⟩ :=
    hline.respaced rfl hrespaced (Position.first.next '\x7b')
  obtain ⟨r, rfl, hr⟩ := hrest.cons_inv Delimiter.curly.isLone_closer.notBlank
  obtain rfl := hr.nil_inv
  have heq' : bodySource body ++ ['\n'] ++ ['\x7d'] = shown ++ ['\x7d'] := by
    rw [List.append_assoc]
    exact heq
  obtain rfl := List.append_cancel_right heq'
  have hlex : Token.lex ('\x7b' :: (bodySource body ++ ['\n', '\x7d'])) = .ok [.group .curly
      (bodySource body ++ ['\n'])
      (Position.first.span ((bodySource body ++ ['\n']).length + 2)) children'] := by
    rw [heq, Token.lex_eq_ok_iff]
    exact .group .curly hlexes (.nil false [] _)
  exact ⟨_, children', hlex, hparts, parts_eq_of_respaced hparts⟩

/-- A string that goes over the end of a line. -/
def spannedString : Text := ['\'', '\'', '\'', 'a', '\n', ' ', 'b', '\'', '\'', '\'']

/-- The string without the blank in it. -/
def flushString : Text := ['\'', '\'', '\'', 'a', '\n', 'b', '\'', '\'', '\'']

/-- A body of one string on two lines, both of them indented. -/
def spannedBody : Text := '\n' :: ' ' :: spannedString

theorem lex_spannedBody :
    Token.lex ('\x7b' :: (spannedBody ++ ['\x7d'])) = .ok [.group .curly spannedBody ⟨1, 1, 0, 14⟩
      [.leaf .string spannedString ⟨2, 2, 3, 13⟩]] := by
  apply Token.lex_eq_ok_iff.2
  have hinner : Lexes true spannedBody ['\x7d'] ⟨1, 2, 1⟩
      [.leaf .string spannedString ⟨2, 2, 3, 13⟩] :=
    .skip (s := [' ']) (.inl rfl) (by decide +kernel)
      (.leaf (s := ['\'', '\'', 'a', '\n', ' ', 'b', '\'', '\'', '\'']) (t := [])
        (by decide +kernel) (.nil _ _ _))
  exact .group .curly (t := []) hinner (.nil _ _ _)

theorem lex_bodySource_of_spannedBody :
    Token.lex ('\x7b' :: (bodySource spannedBody ++ ['\n', '\x7d'])) =
      .ok [.group .curly (flushString ++ ['\n']) ⟨1, 1, 0, 12⟩
        [.leaf .string flushString ⟨1, 2, 1, 10⟩]] := by
  have hsource : bodySource spannedBody = flushString := by decide +kernel
  rw [hsource]
  have hinner : Lexes true (flushString ++ ['\n']) ['\x7d'] ⟨1, 2, 1⟩
      [.leaf .string flushString ⟨1, 2, 1, 10⟩] :=
    .leaf (s := ['\'', '\'', 'a', '\n', 'b', '\'', '\'', '\'']) (by decide +kernel)
      (.skip (s := []) (t := []) (.inl rfl) (by decide +kernel) (.nil _ _ _))
  have hgroup : Lexes false ('\x7b' :: (flushString ++ ['\n'] ++ ['\x7d'])) [] .first _ :=
    .group .curly (t := []) hinner (.nil _ _ _)
  exact Token.lex_eq_ok_iff.2 hgroup

/-- The program has the one string, without the blank at the start of its second line. -/
theorem lex_bodySource_spannedBody :
    ∃ p' children', Token.lex ('\x7b' :: (bodySource spannedBody ++ ['\n', '\x7d'])) =
        .ok [.group .curly (bodySource spannedBody ++ ['\n']) p' children'] ∧
      List.Forall₂ (Token.Part.Respaced (bodyEnds spannedBody)) [.leaf .string spannedString]
        (Token.partsAll children') ∧
      Token.partsAll children' = [.leaf .string flushString] := by
  obtain ⟨p', children', hlex, hparts, -⟩ := lex_bodySource lex_spannedBody
  refine ⟨p', children', hlex, hparts, ?_⟩
  rw [lex_bodySource_of_spannedBody] at hlex
  cases hlex
  rfl

end XmlTemplate
