import XmlTemplate.Proofs.Token.Swap

/-!
# A group on its own

A group can be cut out of its source and read on its own. What stands around it decides neither
where it ends nor which tokens are in it, although a string looks for quotes beyond the group, a
comment may cover a closing delimiter, and a number sign before a square bracket is a mark outside
of groups only: its content is a stretch inside of a group with the closing delimiter next, and such
a stretch keeps its tokens when the source ends there (`Lexes.keep`) and when it stands elsewhere
(`Lexes.moved`). The main result is `lex_group_alone`.
-/

set_option autoImplicit false

namespace XmlTemplate

/-- The token stands among the tokens or, at any depth, in a group among them. -/
inductive Token.Occurs (t : Token) : List Token → Prop
  | here (ts : List Token) : Token.Occurs t (t :: ts)
  | later (u : Token) {ts : List Token} (h : Token.Occurs t ts) : Token.Occurs t (u :: ts)
  | inside (d : Delimiter) (text : Text) (p : Span) {children : List Token} (ts : List Token)
      (h : Token.Occurs t children) : Token.Occurs t (.group d text p children :: ts)

theorem Token.Occurs.of_mem {t : Token} {ts : List Token} (h : t ∈ ts) : t.Occurs ts := by
  induction ts with
  | nil => cases h
  | cons u ts ih =>
    obtain rfl | h := List.mem_cons.1 h
    · exact .here ts
    · exact .later u (ih h)

/-- A group at any depth stands at some place, and its content is a stretch that the closing
delimiter comes after. -/
theorem Lexes.group_of_occurs {grouped : Bool} {shown rest : Text} {pos : Position}
    {ts : List Token} (h : Lexes grouped shown rest pos ts) {d : Delimiter} {text : Text} {p : Span}
    {children : List Token} (hg : Token.Occurs (.group d text p children) ts) :
    ∃ (base : Position) (after : Text), p = base.span (text.length + 2) ∧
      Lexes true text (d.closer :: after) (base.next d.opener) children := by
  -- the rules that read the source put a token in front, so that only the token in front and what
  -- is in it have to be looked at
  induction h with
  | nil => cases hg
  | skip _ _ _ ih => exact ih hg
  | leaf _ _ ih =>
    cases hg with
    | later _ hg => exact ih hg
  | @group _ e inner t rest pos _ _ inside _ ihInside ihAfter =>
    cases hg with
    | here => exact ⟨pos, t ++ rest, rfl, inside⟩
    | later _ hg => exact ihAfter hg
    | inside _ _ _ _ hg => exact ihInside hg

/-- The content of a group, read on its own, has the same tokens, moved to where the group
stands. -/
theorem Lexes.group_alone {d : Delimiter} {text after : Text} {base : Position}
    {children : List Token}
    (h : Lexes true text (d.closer :: after) (base.next d.opener) children) :
    ∃ us, Lexes true text [d.closer] (Position.first.next d.opener) us ∧
      Token.movedAll base us = children := by
  -- nothing is calmer than the end of the source
  have hend : Calmer [] after := fun _ _ _ => rfl
  obtain ⟨us, rfl, hus⟩ := (h.keep rfl d.isStop_closer hend).moved
  refine ⟨_, hus (Position.first.next d.opener), ?_⟩
  exact Token.movedAll_after base [d.opener] us

/-- Reading groups does not depend on what stands around them: a group of a source, at any depth, is
the one token that its text between its delimiters has on its own, moved to where the group starts.
Offsets and lines are shifted throughout, columns on the first line of the group alone
(`Span.moved`); kinds, delimiters and texts are the same. -/
theorem lex_group_alone {source : Text} {ts : List Token} (h : Token.lex source = .ok ts)
    {d : Delimiter} {text : Text} {p : Span} {children : List Token}
    (hg : Token.Occurs (.group d text p children) ts) :
    ∃ g, Token.lex (d.opener :: (text ++ [d.closer])) = .ok [g] ∧
      g.moved ⟨p.line, p.column, p.start⟩ = .group d text p children := by
  obtain ⟨base, after, rfl, hinside⟩ := (Token.lex_eq_ok_iff.1 h).group_of_occurs hg
  obtain ⟨us, hus, rfl⟩ := hinside.group_alone
  refine ⟨.group d text (Position.first.span (text.length + 2)) us, ?_, ?_⟩
  · apply Token.lex_eq_ok_iff.2
    exact .group d hus (.nil false [] _)
  · change Token.moved base _ = _
    rw [Token.moved, ← Position.span_moved, Position.moved_first]

/-- The content of a group on two lines; its three quotes are an empty string and the start of
another one, because no three quotes follow. -/
def quotesText : Text := [' ', '\'', '\'', '\'', 'x', '\'', '\n']

/-- A word and, on the next line, two groups inside of one another. -/
def quotesSource : Text := 'a' :: '\n' :: '\x7b' :: ('[' :: (quotesText ++ [']']) ++ ['\x7d'])

/-- The tokens of the inner group. -/
def quotesTokens : List Token :=
  [.leaf .string ['\'', '\''] ⟨2, 4, 5, 7⟩, .leaf .string ['\'', 'x', '\''] ⟨2, 6, 7, 10⟩]

theorem lex_quotesSource :
    Token.lex quotesSource = .ok [.leaf .identifier ['a'] ⟨1, 1, 0, 1⟩,
      .group .curly ('[' :: (quotesText ++ [']'])) ⟨2, 1, 2, 13⟩
        [.group .square quotesText ⟨2, 2, 3, 12⟩ quotesTokens]] := by
  apply Token.lex_eq_ok_iff.2
  have hinner : Lexes true quotesText [']', '\x7d'] ⟨2, 3, 4⟩ quotesTokens :=
    .skip (s := []) (.inl rfl) (by decide +kernel)
      (.leaf (s := ['\'']) (by decide +kernel)
        (.leaf (s := ['x', '\'']) (by decide +kernel)
          (.skip (s := []) (t := []) (.inl rfl) (by decide +kernel) (.nil _ _ _))))
  exact .leaf (s := []) (by decide +kernel)
    (.skip (s := []) (.inl rfl) (by decide +kernel)
      (.group .curly (.group .square (t := []) hinner (.nil _ _ _)) (.nil _ _ _)))

/-- The inner group starts at the second character of the second line. -/
theorem lex_group_alone_quotes :
    ∃ g, Token.lex ('[' :: (quotesText ++ [']'])) = .ok [g] ∧
      g.moved ⟨2, 2, 3⟩ = .group .square quotesText ⟨2, 2, 3, 12⟩ quotesTokens := by
  have hinner : Token.Occurs (.group .square quotesText ⟨2, 2, 3, 12⟩ quotesTokens)
      [.leaf .identifier ['a'] ⟨1, 1, 0, 1⟩,
        .group .curly ('[' :: (quotesText ++ [']'])) ⟨2, 1, 2, 13⟩
          [.group .square quotesText ⟨2, 2, 3, 12⟩ quotesTokens]] :=
    .later _ (.inside _ _ _ _ (.here _))
  exact lex_group_alone lex_quotesSource hinner

end XmlTemplate
