import XmlTemplate.Proofs.Token.Lexing

/-!
# A stretch of source in another place

Where a stretch stands decides the places of its tokens and nothing else. `Position.moved` says where
a place of a text is in the source once the first character of the text stands at `base`: lines and
offsets are added up, and columns on the first line alone, because every later line starts within
the text. A place is thereby taken for the extent of what stands before it, and extents add up:
`Position.moved_moved` is the associative law, with `Position.first` as the empty extent.

The main result is `Lexes.moved`: the tokens of a stretch are those that it has at the head of a
source, moved to where it stands, and in every other place they are the same ones moved there.
-/

set_option autoImplicit false

namespace XmlTemplate

/-! ## Places and spans -/

/-- The place in the source of a place in a text that stands at `base`. -/
def Position.moved (base p : Position) : Position where
  line := base.line + (p.line - 1)
  column := if p.line ≤ 1 then base.column + (p.column - 1) else p.column
  offset := base.offset + p.offset

/-- The stretch of the source that a stretch of a text is when the text stands at `base`. -/
def Span.moved (base : Position) (p : Span) : Span where
  line := base.line + (p.line - 1)
  column := if p.line ≤ 1 then base.column + (p.column - 1) else p.column
  start := base.offset + p.start
  stop := base.offset + p.stop

/-- A place whose line and column count from one. -/
structure Position.IsCounted (p : Position) : Prop where
  line : 1 ≤ p.line
  column : 1 ≤ p.column

theorem Position.isCounted_first : Position.first.IsCounted := ⟨Nat.le_refl 1, Nat.le_refl 1⟩

theorem Position.IsCounted.next {p : Position} (h : p.IsCounted) (c : Char) :
    (p.next c).IsCounted := by
  rw [Position.next]
  split
  · exact ⟨Nat.le_add_left 1 p.line, Nat.le_refl 1⟩
  · exact ⟨h.line, Nat.le_add_left 1 p.column⟩

theorem Position.IsCounted.after {p : Position} (h : p.IsCounted) (s : Text) :
    (p.after s).IsCounted := by
  induction s generalizing p with
  | nil => exact h
  | cons c s ih => exact ih (h.next c)

theorem Position.moved_first (base : Position) : base.moved .first = base := by
  simp [Position.moved, Position.first]

theorem Position.next_moved (base : Position) {p : Position} (h : p.IsCounted) (c : Char) :
    (base.moved p).next c = base.moved (p.next c) := by
  obtain ⟨hline, hcolumn⟩ := h
  by_cases hc : c = '\n'
  · -- a new line starts in the text as well, with columns of its own
    have hlater : ¬p.line + 1 ≤ 1 := by omega
    have hlines : base.line + (p.line - 1) + 1 = base.line + p.line := by omega
    simp [Position.next, Position.moved, hc, hlater, hlines, Nat.add_assoc]
  · by_cases hfirst : p.line ≤ 1
    · have hcolumns : base.column + (p.column - 1) + 1 = base.column + p.column := by omega
      simp [Position.next, Position.moved, hc, hfirst, hcolumns, Nat.add_assoc]
    · simp [Position.next, Position.moved, hc, hfirst, Nat.add_assoc]

theorem Position.after_moved (base : Position) {p : Position} (h : p.IsCounted) (s : Text) :
    (base.moved p).after s = base.moved (p.after s) := by
  induction s generalizing p with
  | nil => rfl
  | cons c s ih => rw [Position.after_cons, Position.after_cons, base.next_moved h, ih (h.next c)]

/-- The place after a text is reached by the extent of the text. -/
theorem Position.moved_after_first (base : Position) (s : Text) :
    base.moved (Position.first.after s) = base.after s := by
  rw [← base.after_moved isCounted_first, base.moved_first]

theorem Position.span_moved (base p : Position) (n : Nat) :
    (base.moved p).span n = (p.span n).moved base := by
  rw [Position.span, Position.moved, Span.moved, Nat.add_assoc]
  rfl

/-- Extents add up in any grouping. -/
theorem Span.moved_moved (base : Position) {p : Position} (h : p.IsCounted) (q : Span) :
    (q.moved p).moved base = q.moved (base.moved p) := by
  obtain ⟨hline, hcolumn⟩ := h
  have hlines : base.line + (p.line + (q.line - 1) - 1) =
      base.line + (p.line - 1) + (q.line - 1) := by omega
  by_cases hq : q.line ≤ 1
  · have hsame : q.line - 1 = 0 := by omega
    by_cases hp : p.line ≤ 1
    · have hcolumns : base.column + (p.column + (q.column - 1) - 1) =
          base.column + (p.column - 1) + (q.column - 1) := by omega
      simp [Span.moved, Position.moved, hq, hp, hsame, hcolumns, Nat.add_assoc]
    · simp [Span.moved, Position.moved, hq, hp, hsame, Nat.add_assoc]
  · have hlater : ¬p.line + (q.line - 1) ≤ 1 := by omega
    simp [Span.moved, Position.moved, hq, hlater, hlines, Nat.add_assoc]

/-! ## Tokens -/

mutual

/-- The token with every place in it moved. -/
def Token.moved (base : Position) : Token → Token
  | .leaf kind text p => .leaf kind text (p.moved base)
  | .group d text p children => .group d text (p.moved base) (Token.movedAll base children)

/-- The tokens with every place in them moved. -/
def Token.movedAll (base : Position) : List Token → List Token
  | [] => []
  | t :: ts => t.moved base :: Token.movedAll base ts

end

mutual

theorem Token.moved_moved (base : Position) {p : Position} (h : p.IsCounted) :
    ∀ t : Token, (t.moved p).moved base = t.moved (base.moved p)
  | .leaf kind text q => by
    rw [Token.moved, Token.moved, Token.moved, Span.moved_moved base h]
  | .group d text q children => by
    rw [Token.moved, Token.moved, Token.moved, Span.moved_moved base h,
      Token.movedAll_movedAll base h children]

theorem Token.movedAll_movedAll (base : Position) {p : Position} (h : p.IsCounted) :
    ∀ ts : List Token,
      Token.movedAll base (Token.movedAll p ts) = Token.movedAll (base.moved p) ts
  | [] => rfl
  | t :: ts => by
    rw [Token.movedAll, Token.movedAll, Token.movedAll, Token.moved_moved base h t,
      Token.movedAll_movedAll base h ts]

end

/-- Tokens after a text, moved with the text that they stand in. -/
theorem Token.movedAll_after (base : Position) (s : Text) (ts : List Token) :
    Token.movedAll base (Token.movedAll (Position.first.after s) ts) =
      Token.movedAll (base.after s) ts := by
  rw [Token.movedAll_movedAll base (Position.isCounted_first.after s), base.moved_after_first]

/-! ## Stretches -/

/-- The tokens of a stretch do not depend on its place but for their own places, which move with the
stretch. -/
theorem Lexes.moved {grouped : Bool} {shown rest : Text} {pos : Position} {ts : List Token}
    (h : Lexes grouped shown rest pos ts) :
    ∃ us, ts = Token.movedAll pos us ∧
      ∀ base, Lexes grouped shown rest base (Token.movedAll base us) := by
  -- `us` are the tokens of the stretch at the head of a source; what comes after a lexeme has been
  -- moved there by the extent of the lexeme
  induction h with
  | nil => exact ⟨[], rfl, fun base => .nil _ _ base⟩
  | @skip grouped c s t rest pos ts k hk here after ih =>
    obtain ⟨us, rfl, hus⟩ := ih
    refine ⟨Token.movedAll (Position.first.after (c :: s)) us, ?_, ?_⟩
    · rw [Token.movedAll_after]
    · intro base
      rw [Token.movedAll_after]
      exact .skip hk here (hus _)
  | @leaf grouped c s t rest pos ts kind here after ih =>
    obtain ⟨us, rfl, hus⟩ := ih
    have hmoved : ∀ base : Position,
        Token.movedAll base (.leaf kind (c :: s) (Position.first.span (s.length + 1)) ::
          Token.movedAll (Position.first.after (c :: s)) us) =
        .leaf kind (c :: s) (base.span (s.length + 1)) ::
          Token.movedAll (base.after (c :: s)) us := by
      intro base
      rw [Token.movedAll, Token.movedAll_after, Token.moved, ← Position.span_moved,
        Position.moved_first]
    refine ⟨_, (hmoved pos).symm, ?_⟩
    intro base
    rw [hmoved base]
    exact .leaf here (hus _)
  | @group grouped d inner t rest pos children ts inside after ihInside ihAfter =>
    obtain ⟨vs, rfl, hvs⟩ := ihInside
    obtain ⟨us, rfl, hus⟩ := ihAfter
    -- at the head of a source the content stands after the opener, and what comes next after the group
    have hclosed : ∀ base : Position, base.after (d.opener :: (inner ++ [d.closer])) =
        ((base.next d.opener).after inner).next d.closer := by
      intro base
      rw [Position.after_cons, Position.after_append]
      rfl
    have hmoved : ∀ base : Position,
        Token.movedAll base
          (.group d inner (Position.first.span (inner.length + 2))
              (Token.movedAll (Position.first.after [d.opener]) vs) ::
            Token.movedAll (Position.first.after (d.opener :: (inner ++ [d.closer]))) us) =
        .group d inner (base.span (inner.length + 2)) (Token.movedAll (base.next d.opener) vs) ::
          Token.movedAll (((base.next d.opener).after inner).next d.closer) us := by
      intro base
      rw [Token.movedAll, Token.movedAll_after, Token.moved, Token.movedAll_after,
        ← Position.span_moved, Position.moved_first, hclosed]
      rfl
    refine ⟨_, (hmoved pos).symm, ?_⟩
    intro base
    rw [hmoved base]
    exact .group d (hvs _) (hus _)

/-- What is left of a source is a source of its own; its tokens are moved to where it stands. -/
theorem Lexes.exists_lex {rest : Text} {pos : Position} {ts : List Token}
    (h : Lexes false rest [] pos ts) :
    ∃ us, Token.lex rest = .ok us ∧ ts = Token.movedAll pos us := by
  obtain ⟨us, rfl, hus⟩ := h.moved
  refine ⟨Token.movedAll .first us, Token.lex_eq_ok_iff.2 (hus .first), ?_⟩
  rw [Token.movedAll_movedAll pos Position.isCounted_first, Position.moved_first]

end XmlTemplate
