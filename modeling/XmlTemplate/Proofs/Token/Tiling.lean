import XmlTemplate.Proofs.Token.Lexing

/-!
# Tokens tile the source

Nothing of the source is lost on the way to tokens, and every token knows its place. `Tiles` says so
of a stretch of the source given by offsets: its tokens follow one another, between them stand
blanks and comments alone (`Filler`), a leaf is what the source shows between its offsets, a group
starts and ends with its delimiters and its tokens tile what stands between these. Lines and columns
agree with the offsets (`Span.IsExact`). The main result is that the tokens of a source tile it
(`lex_tiles`).
-/

set_option autoImplicit false

namespace XmlTemplate

/-! ## Places -/

/-- The offset just after the last line feed before an offset, zero if there is none. -/
def lineStart (source : Text) : Nat → Nat
  | 0 => 0
  | i + 1 => if source[i]? = some '\n' then i + 1 else lineStart source i

/-- A span whose line and column are those of its first offset in the source. -/
structure Span.IsExact (source : Text) (p : Span) : Prop where
  line : p.line = 1 + (source.take p.start).count '\n'
  column : p.column = p.start - lineStart source p.start + 1

theorem lineStart_le (source : Text) (i : Nat) : lineStart source i ≤ i := by
  induction i with
  | zero => exact Nat.le_refl 0
  | succ i ih =>
    rw [lineStart]
    split
    · exact Nat.le_refl _
    · exact Nat.le_succ_of_le ih

theorem drop_eq_cons {source s : Text} {i : Nat} {c : Char} (h : source.drop i = c :: s) :
    source[i]? = some c ∧ source.drop (i + 1) = s := by
  constructor
  · rw [← List.head?_drop, h]
    rfl
  · rw [← List.drop_drop, h]
    rfl

/-- The place in a source before `rest`, with the line and the column of its offset. -/
structure Position.IsBefore (source rest : Text) (p : Position) : Prop where
  line : p.line = 1 + (source.take p.offset).count '\n'
  column : p.column = p.offset - lineStart source p.offset + 1
  left : source.drop p.offset = rest

namespace Position.IsBefore

variable {source rest : Text} {p : Position}

theorem first (source : Text) : Position.first.IsBefore source source := ⟨rfl, rfl, rfl⟩

theorem next {c : Char} (h : p.IsBefore source (c :: rest)) : (p.next c).IsBefore source rest := by
  obtain ⟨hc, hleft⟩ := drop_eq_cons h.left
  have hline := h.line
  have hcolumn := h.column
  have hstart := lineStart_le source p.offset
  have hcount : (source.take (p.offset + 1)).count '\n' =
      (source.take p.offset).count '\n' + if c = '\n' then 1 else 0 := by
    rw [List.take_add_one, hc, List.count_append]
    simp [List.count_singleton]
  rw [Position.next]
  split
  · next hn =>
    refine ⟨?_, ?_, hleft⟩
    · rw [hcount, if_pos hn, hline, Nat.add_assoc]
    · simp only [lineStart, hc, hn, if_true]
      omega
  · next hn =>
    refine ⟨?_, ?_, hleft⟩
    · rw [hcount, if_neg hn, hline]
      rfl
    · simp only [lineStart, hc, Option.some.injEq, hn, if_false, hcolumn]
      omega

theorem after (shown : Text) (h : p.IsBefore source (shown ++ rest)) :
    (p.after shown).IsBefore source rest := by
  induction shown generalizing p with
  | nil => exact h
  | cons c s ih => exact ih h.next

theorem isExact_span (h : p.IsBefore source rest) (n : Nat) : (p.span n).IsExact source :=
  ⟨h.line, h.column⟩

theorem cut_span (shown : Text) (h : p.IsBefore source (shown ++ rest)) :
    (p.span shown.length).cut source = shown := by
  simp only [Span.cut, Position.span, h.left, Nat.add_sub_cancel_left, List.take_left']

end Position.IsBefore

/-! ## What stands between tokens -/

/-- The source between two offsets is made of blanks and comments; a comment reaches from a number
sign up to the next line feed or the end of the source. -/
inductive Filler (source : Text) : Nat → Nat → Prop
  | none (i : Nat) : Filler source i i
  | blank {i j : Nat} {c : Char} (here : source[i]? = some c) (hc : isBlank c = true)
      (after : Filler source (i + 1) j) : Filler source i j
  | comment {i j k : Nat} (here : source[i]? = some '#') (hik : i < k)
      (inside : ∀ n, i ≤ n → n < k → source[n]? ≠ some '\n')
      (ends : k = source.length ∨ source[k]? = some '\n')
      (after : Filler source k j) : Filler source i j

/-- The tokens tile the source between two offsets. -/
inductive Tiles (source : Text) : Nat → Nat → List Token → Prop
  | none {i j : Nat} (gap : Filler source i j) : Tiles source i j []
  | leaf {i j : Nat} {kind : Kind} {text : Text} {p : Span} {ts : List Token}
      (gap : Filler source i p.start) (place : p.IsExact source) (shown : text = p.cut source)
      (filled : text ≠ []) (after : Tiles source p.stop j ts) :
      Tiles source i j (.leaf kind text p :: ts)
  | group {i j : Nat} {d : Delimiter} {text : Text} {p : Span} {children ts : List Token}
      (gap : Filler source i p.start) (place : p.IsExact source)
      (opens : source[p.start]? = some d.opener) (closes : source[p.stop - 1]? = some d.closer)
      (shown : text = (source.drop (p.start + 1)).take (p.stop - 1 - (p.start + 1)))
      (inside : Tiles source (p.start + 1) (p.stop - 1) children)
      (after : Tiles source p.stop j ts) :
      Tiles source i j (.group d text p children :: ts)

theorem Filler.trans {source : Text} {i j k : Nat} (h : Filler source i j)
    (h' : Filler source j k) : Filler source i k := by
  induction h with
  | none => exact h'
  | blank here hc _ ih => exact .blank here hc (ih h')
  | comment here hik inside ends _ ih => exact .comment here hik inside ends (ih h')

theorem Filler.le {source : Text} {i j : Nat} (h : Filler source i j) : i ≤ j := by
  induction h with
  | none i => exact Nat.le_refl i
  | blank _ _ _ ih => exact Nat.le_of_succ_le ih
  | comment _ hik _ _ _ ih => exact Nat.le_trans (Nat.le_of_lt hik) ih

/-- Blanks and comments before a tiled stretch belong to it. -/
theorem Tiles.before {source : Text} {i j k : Nat} {ts : List Token} (h : Filler source i j)
    (h' : Tiles source j k ts) : Tiles source i k ts := by
  cases h' with
  | none gap => exact .none (h.trans gap)
  | leaf gap place shown filled after => exact .leaf (h.trans gap) place shown filled after
  | group gap place opens closes shown inside after =>
    exact .group (h.trans gap) place opens closes shown inside after

theorem Span.lt_of_cut_ne_nil {source : Text} {p : Span} (h : p.cut source ≠ []) :
    p.start < p.stop := by
  rcases Nat.lt_or_ge p.start p.stop with hlt | hle
  · exact hlt
  · rw [Span.cut, Nat.sub_eq_zero_of_le hle, List.take_zero] at h
    exact absurd rfl h

theorem Tiles.le {source : Text} {i j : Nat} {ts : List Token} (h : Tiles source i j ts) :
    i ≤ j := by
  induction h with
  | none gap => exact gap.le
  | leaf gap _ shown filled _ ih =>
    have hfilled := Span.lt_of_cut_ne_nil (shown ▸ filled)
    have := gap.le
    omega
  | group gap _ _ _ _ _ _ ihInside ih =>
    have := gap.le
    omega

/-- A leaf of a tiled stretch is what the source shows in its place. -/
theorem Tiles.text_eq_cut {source : Text} {i j : Nat} {ts : List Token} {kind : Kind}
    {text : Text} {p : Span} (h : Tiles source i j ts) (ht : .leaf kind text p ∈ ts) :
    text = p.cut source := by
  induction h with
  | none => cases ht
  | leaf _ _ shown _ _ ih =>
    rcases List.mem_cons.1 ht with heq | ht
    · cases heq
      exact shown
    · exact ih ht
  | group _ _ _ _ _ _ _ _ ih =>
    rcases List.mem_cons.1 ht with heq | ht
    · cases heq
    · exact ih ht

/-- The tokens in a group of a tiled stretch tile what stands between its delimiters. -/
theorem Tiles.inside {source : Text} {i j : Nat} {ts children : List Token} {d : Delimiter}
    {text : Text} {p : Span} (h : Tiles source i j ts) (ht : .group d text p children ∈ ts) :
    Tiles source (p.start + 1) (p.stop - 1) children := by
  induction h with
  | none => cases ht
  | leaf _ _ _ _ _ ih =>
    rcases List.mem_cons.1 ht with heq | ht
    · cases heq
    · exact ih ht
  | group _ _ _ _ _ inside _ _ ih =>
    rcases List.mem_cons.1 ht with heq | ht
    · cases heq
      exact inside
    · exact ih ht

/-- Tokens between two offsets of which none is empty and each one ends before the next. -/
def InOrder (i j : Nat) (ts : List Token) : Prop :=
  (∀ t ∈ ts, i ≤ t.span.start ∧ t.span.start < t.span.stop ∧ t.span.stop ≤ j) ∧
    ts.Pairwise fun t u => t.span.stop ≤ u.span.start

theorem InOrder.cons {i j : Nat} {t : Token} {ts : List Token} (hi : i ≤ t.span.start)
    (hfilled : t.span.start < t.span.stop) (hj : t.span.stop ≤ j) (h : InOrder t.span.stop j ts) :
    InOrder i j (t :: ts) := by
  obtain ⟨hall, hpairs⟩ := h
  refine ⟨?_, List.pairwise_cons.2 ⟨fun u hu => (hall u hu).1, hpairs⟩⟩
  intro u hu
  rcases List.mem_cons.1 hu with rfl | hu
  · exact ⟨hi, hfilled, hj⟩
  · have := hall u hu
    omega

/-- Tokens that tile a stretch stand in it in order. -/
theorem Tiles.inOrder {source : Text} {i j : Nat} {ts : List Token} (h : Tiles source i j ts) :
    InOrder i j ts := by
  induction h with
  | none => exact ⟨fun _ h => absurd h List.not_mem_nil, .nil⟩
  | leaf gap _ shown filled after ih =>
    exact .cons gap.le (Span.lt_of_cut_ne_nil (shown ▸ filled)) after.le ih
  | @group _ _ d text p children _ gap _ _ _ _ inside after _ ih =>
    have hinside := inside.le
    have hfilled : (Token.group d text p children).span.start <
        (Token.group d text p children).span.stop := by
      simp only [Token.span]
      omega
    exact .cons gap.le hfilled after.le ih

theorem filler_of_blanks {source rest : Text} (s : Text) {i : Nat}
    (hsource : source.drop i = s ++ rest) (hs : ∀ c ∈ s, isBlank c = true) :
    Filler source i (i + s.length) := by
  induction s generalizing i with
  | nil => exact .none i
  | cons c s ih =>
    obtain ⟨hc, hs⟩ := List.forall_mem_cons.1 hs
    obtain ⟨here, hrest⟩ := drop_eq_cons hsource
    rw [List.length_cons, ← Nat.succ_add_eq_add_succ]
    exact .blank here hc (ih hrest hs)

theorem filler_of_comment {source rest : Text} {s : Text} {i : Nat}
    (hsource : source.drop i = '#' :: (s ++ rest)) (hs : ∀ c ∈ s, c ≠ '\n')
    (hrest : ∀ c ∈ rest.head?, c = '\n') : Filler source i (i + (s.length + 1)) := by
  have hat : ∀ n, source[i + n]? = ('#' :: (s ++ rest))[n]? := by
    intro n
    rw [← hsource, List.getElem?_drop]
  obtain ⟨here, -⟩ := drop_eq_cons hsource
  refine .comment here (by omega) ?_ ?_ (.none _)
  · intro n hin hnk
    obtain ⟨m, rfl⟩ := Nat.exists_eq_add_of_le hin
    rw [hat]
    cases m with
    | zero => simp
    | succ m =>
      have hm : m < s.length := by omega
      rw [List.getElem?_cons_succ, List.getElem?_append_left hm, List.getElem?_eq_getElem hm]
      intro heq
      exact hs _ (List.getElem_mem hm) (Option.some.inj heq)
  · have hnext : source[i + (s.length + 1)]? = rest.head? := by
      rw [hat, List.getElem?_cons_succ, List.getElem?_append_right (Nat.le_refl _), Nat.sub_self,
        List.head?_eq_getElem?]
    cases hr : rest.head? with
    | none =>
      left
      rw [hr] at hnext
      have hlength := congrArg List.length hsource
      rw [List.head?_eq_none_iff.1 hr, List.append_nil, List.length_drop, List.length_cons]
        at hlength
      omega
    | some c =>
      right
      rw [hnext, hr, hrest c hr]

/-- What a skipped lexeme covers is made of blanks or a comment. -/
theorem filler_of_skipped {source rest : Text} {grouped : Bool} {c : Char} {s : Text} {i : Nat}
    {k : Lexeme} (hk : k = .blanks ∨ k = .comment)
    (here : lexeme grouped c (s ++ rest) = (k, s.length + 1))
    (hsource : source.drop i = c :: (s ++ rest)) : Filler source i (i + (s.length + 1)) := by
  rcases hk with rfl | rfl
  · obtain ⟨hc, hlength⟩ := lexeme_eq_blanks here
    obtain ⟨hs, -⟩ := takeWhile_cut (Nat.succ.inj hlength).symm
    exact filler_of_blanks (c :: s) hsource (List.forall_mem_cons.2 ⟨hc, hs⟩)
  · obtain ⟨rfl, hlength⟩ := lexeme_eq_comment here
    obtain ⟨hs, hrest⟩ := takeWhile_cut (Nat.succ.inj hlength).symm
    exact filler_of_comment hsource (fun d hd => by simpa using hs d hd)
      fun d hd => by simpa using hrest d hd

/-! ## The tokens of a source tile it -/

/-- The tokens of a stretch tile it: reading keeps to exact places, and lexeme after lexeme is a
token or fills the gap before the next one. -/
theorem tiles_of_lexes {source : Text} {grouped : Bool} {shown rest : Text} {pos : Position}
    {ts : List Token} (h : Lexes grouped shown rest pos ts)
    (hpos : pos.IsBefore source (shown ++ rest)) :
    Tiles source pos.offset (pos.offset + shown.length) ts := by
  induction h with
  | nil => exact .none (.none _)
  | @skip _ c s t rest pos ts _ hk here _ ih =>
    rw [List.cons_append, List.append_assoc] at hpos
    -- what is skipped belongs to the gap before the next token
    have hgap := filler_of_skipped hk here hpos.left
    have hafter := ih (hpos.after (c :: s))
    have hstop : (pos.after (c :: s)).offset = pos.offset + (s.length + 1) := pos.offset_after _
    have hend : pos.offset + (c :: (s ++ t)).length =
        pos.offset + (s.length + 1) + t.length := by
      rw [List.length_cons, List.length_append]
      omega
    rw [hstop, ← hend] at hafter
    exact hafter.before hgap
  | @leaf _ c s t rest pos ts kind here _ ih =>
    rw [List.cons_append, List.append_assoc] at hpos
    have hafter := ih (hpos.after (c :: s))
    have hstop : (pos.after (c :: s)).offset = pos.offset + (s.length + 1) := pos.offset_after _
    have hend : pos.offset + (c :: (s ++ t)).length =
        pos.offset + (s.length + 1) + t.length := by
      rw [List.length_cons, List.length_append]
      omega
    rw [hstop, ← hend] at hafter
    have hcut : (pos.span (s.length + 1)).cut source = c :: s := hpos.cut_span (c :: s)
    exact .leaf (.none _) (hpos.isExact_span _) hcut.symm (List.cons_ne_nil c s) hafter
  | @group _ d inner t rest pos children ts _ _ ihInside ihAfter =>
    have hsource : d.opener :: (inner ++ d.closer :: t) ++ rest =
        d.opener :: (inner ++ d.closer :: (t ++ rest)) := by simp
    rw [hsource] at hpos
    -- the places inside of the group and after it, as offsets
    have hinner := hpos.next
    have hcloser := hinner.after inner
    have hinside := ihInside hinner
    have hafter := ihAfter hcloser.next
    have hstart : (pos.next d.opener).offset = pos.offset + 1 := pos.offset_next _
    have hclose : ((pos.next d.opener).after inner).offset = pos.offset + 1 + inner.length := by
      rw [Position.offset_after, hstart]
    have hstop : (((pos.next d.opener).after inner).next d.closer).offset =
        pos.offset + (inner.length + 2) := by
      rw [Position.offset_next, hclose]
      omega
    have hlast : pos.offset + (inner.length + 2) - 1 = pos.offset + 1 + inner.length := by omega
    have hend : pos.offset + (d.opener :: (inner ++ d.closer :: t)).length =
        pos.offset + (inner.length + 2) + t.length := by
      rw [List.length_cons, List.length_append, List.length_cons]
      omega
    rw [hstart] at hinside
    rw [hstop, ← hend] at hafter
    refine .group (.none _) (hpos.isExact_span _) (drop_eq_cons hpos.left).1 ?_ ?_ ?_ hafter
    · have hc := (drop_eq_cons hcloser.left).1
      rwa [hclose, ← hlast] at hc
    · have hcut : (source.drop (pos.offset + 1)).take inner.length = inner := by
        have hleft := hinner.left
        rw [hstart] at hleft
        rw [hleft, List.take_left]
      have hwidth : pos.offset + (inner.length + 2) - 1 - (pos.offset + 1) = inner.length := by
        omega
      simp only [Position.span, hwidth, hcut]
    · simp only [Position.span, hlast]
      exact hinside

/-- Reading a source into tokens loses nothing of it, and every token knows its place: the tokens
tile the source from its start to its end. -/
theorem lex_tiles {source : Text} {ts : List Token} (h : Token.lex source = .ok ts) :
    Tiles source 0 source.length ts := by
  have hlexes := Token.lex_eq_ok_iff.1 h
  have hfirst : Position.first.IsBefore source (source ++ []) := by
    rw [List.append_nil]
    exact .first source
  have htiles := tiles_of_lexes hlexes hfirst
  rwa [show Position.first.offset = 0 from rfl, Nat.zero_add] at htiles

/-- A directive, a group over three lines with a comment and a long string in it, and a name. -/
def tiledSource : Text := "#[x] \x7b'''a\n'''# b\n\x7d c".toList

theorem lex_tiles_tiledSource :
    ∃ ts, Token.lex tiledSource = .ok ts ∧
      ts.map Token.text = ["#".toList, "x".toList, "'''a\n'''# b\n".toList, "c".toList] ∧
      Tiles tiledSource 0 tiledSource.length ts := by
  have hread : (Token.lex tiledSource).toOption.map (List.map Token.text) =
      some ["#".toList, "x".toList, "'''a\n'''# b\n".toList, "c".toList] := by decide +kernel
  cases hlex : Token.lex tiledSource with
  | error e =>
    rw [hlex] at hread
    cases hread
  | ok ts =>
    rw [hlex] at hread
    exact ⟨ts, rfl, Option.some.inj hread, lex_tiles hlex⟩

end XmlTemplate
