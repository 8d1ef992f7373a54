import XmlTemplate.Proofs.Token.Group
import XmlTemplate.Proofs.Token.Shows
import XmlTemplate.Proofs.Token.Tiling

/-!
# Three quotes at the start of a string

Three quotes in a row open a long string, and the next three quotes that no backslash reaches close
it. `Closed` says what it is to be closed, without reference to the scan that looks for the end:
some body of whole units stands between the opening quotes and three more. The scan finds the
shortest such body (`longEnd_eq_some_iff`) and gives up only if there is none at all
(`calm_iff`).

A token that starts with three quotes is thus a long string up to its first closing quotes, if there
are any. If there are none, this is no error of its own: the first two quotes are an empty string,
and the third starts another token (`longString_of_lex`).
-/

set_option autoImplicit false

namespace XmlTemplate

/-- Texts of whole units: no backslash is without the character that it takes with it. -/
inductive WholeUnits : Text → Prop
  | nil : WholeUnits []
  | plain {c : Char} {s : Text} (hc : c ≠ '\\') (h : WholeUnits s) : WholeUnits (c :: s)
  | escaped (c : Char) {s : Text} (h : WholeUnits s) : WholeUnits ('\\' :: c :: s)

/-- After the body, three quotes stand in the text that no backslash reaches. -/
structure Closed (q : Char) (s body : Text) : Prop where
  whole : WholeUnits body
  quotes : body ++ [q, q, q] <+: s

/-- The three quotes after the body are the first ones in the text that no backslash reaches. -/
structure FirstClosed (q : Char) (s body : Text) : Prop extends Closed q s body where
  first : ∀ other, Closed q s other → body.length ≤ other.length

section

variable {q : Char} {s body : Text}

theorem Closed.cons {c : Char} (hc : c ≠ '\\') (h : Closed q s body) :
    Closed q (c :: s) (c :: body) :=
  ⟨.plain hc h.whole, (List.prefix_cons_inj c).2 h.quotes⟩

theorem Closed.escaped (c : Char) (h : Closed q s body) :
    Closed q ('\\' :: c :: s) ('\\' :: c :: body) :=
  ⟨.escaped c h.whole, (List.prefix_cons_inj _).2 ((List.prefix_cons_inj c).2 h.quotes)⟩

/-- Where the scan ends, a body is closed. -/
theorem exists_closed_of_longEnd (hq : q ≠ '\\') {n : Nat} (h : longEnd q s = some n) :
    ∃ body, Closed q s body ∧ n = body.length + 3 := by
  induction s using calm_induction generalizing n with
  | nil => cases h
  | backslash =>
    rw [show longEnd q ['\\'] = none from calm_backslash hq] at h
    cases h
  | escaped c s ih =>
    rw [longEnd_escaped hq] at h
    obtain ⟨m, hm, rfl⟩ := Option.map_eq_some_iff.1 h
    obtain ⟨body, hbody, rfl⟩ := ih hm
    exact ⟨_, hbody.escaped c, rfl⟩
  | plain c s hc ih =>
    have hrest : ∀ {m}, (longEnd q s).map (· + 1) = some m →
        ∃ body, Closed q (c :: s) body ∧ m = body.length + 3 := by
      intro m hm
      obtain ⟨k, hk, rfl⟩ := Option.map_eq_some_iff.1 hm
      obtain ⟨body, hbody, rfl⟩ := ih hk
      exact ⟨_, hbody.cons hc, rfl⟩
    by_cases hcq : c = q
    · subst hcq
      rw [longEnd_quote hq] at h
      split at h
      · next htake =>
        -- three quotes: the body ends before them
        cases h
        refine ⟨[], ⟨.nil, ?_⟩, rfl⟩
        rw [List.nil_append, List.prefix_cons_inj, ← htake]
        exact List.take_prefix 2 s
      · exact hrest h
    · rw [longEnd_plain hcq hc] at h
      exact hrest h

/-- The scan ends with every closed body at the latest: it goes over the units of the body one by
one and may only stop before. -/
theorem longEnd_of_closed (hq : q ≠ '\\') (h : Closed q s body) :
    ∃ n, longEnd q s = some n ∧ n ≤ body.length + 3 := by
  obtain ⟨hwhole, after, rfl⟩ := h
  induction hwhole with
  | nil =>
    refine ⟨3, ?_, Nat.le_refl 3⟩
    rw [List.nil_append, List.cons_append, longEnd_quote hq]
    exact if_pos rfl
  | @plain c body hc _ ih =>
    obtain ⟨n, hn, hle⟩ := ih
    have hlonger : (longEnd q (body ++ [q, q, q] ++ after)).map (· + 1) = some (n + 1) := by
      rw [hn]
      rfl
    rw [List.cons_append, List.cons_append, List.length_cons]
    by_cases hcq : c = q
    · subst hcq
      rw [longEnd_quote hq]
      -- a quote of the body may be the first of three, and then the scan ends there
      split
      · exact ⟨3, rfl, by omega⟩
      · exact ⟨n + 1, hlonger, by omega⟩
    · rw [longEnd_plain hcq hc]
      exact ⟨n + 1, hlonger, by omega⟩
  | escaped c _ ih =>
    obtain ⟨n, hn, hle⟩ := ih
    refine ⟨n + 2, ?_, by simp only [List.length_cons]; omega⟩
    rw [List.cons_append, List.cons_append, List.cons_append, List.cons_append,
      longEnd_escaped hq, hn]
    rfl

/-- The scan finds the first closing quotes. -/
theorem longEnd_eq_some_iff (hq : q ≠ '\\') {n : Nat} :
    longEnd q s = some n ↔ ∃ body, FirstClosed q s body ∧ n = body.length + 3 := by
  constructor
  · intro h
    obtain ⟨body, hbody, rfl⟩ := exists_closed_of_longEnd hq h
    refine ⟨body, ⟨hbody, fun other hother => ?_⟩, rfl⟩
    obtain ⟨m, hm, hle⟩ := longEnd_of_closed hq hother
    rw [h] at hm
    cases hm
    omega
  · rintro ⟨body, hbody, rfl⟩
    obtain ⟨m, hm, hle⟩ := longEnd_of_closed hq hbody.toClosed
    obtain ⟨other, hother, rfl⟩ := exists_closed_of_longEnd hq hm
    have := hbody.first other hother
    rw [hm, show other.length = body.length by omega]

/-- The scan gives up only where no quotes close the string. -/
theorem calm_iff (hq : q ≠ '\\') : Calm q s ↔ ∀ body, ¬Closed q s body := by
  constructor
  · intro h body hbody
    obtain ⟨n, hn, -⟩ := longEnd_of_closed hq hbody
    rw [h] at hn
    cases hn
  · intro h
    apply Option.eq_none_iff_forall_ne_some.2
    intro n hn
    obtain ⟨body, hbody, -⟩ := exists_closed_of_longEnd hq hn
    exact h body hbody

end

/-! ## Strings in a source -/

section

variable {grouped : Bool} {shown s rest : Text} {pos : Position} {t : Token} {ts : List Token}

/-- A token is the string that stands at its place. -/
theorem Shows.eq_string {marks inner after : Text} {q : Char} (h : Shows grouped s rest pos t)
    (hmarks : ∀ c ∈ marks, isStringMark c = true) (hlength : marks.length ≤ 2)
    (hq : isQuote q = true) (hs : s ++ rest = marks ++ q :: (inner ++ after))
    (hend : quotedEnd q (inner ++ after) = some inner.length) :
    s = marks ++ q :: inner ∧ rest = after ∧
      t = .leaf .string (marks ++ q :: inner) (pos.span (marks ++ q :: inner).length) := by
  have hstring : stringLength (s ++ rest) = some (marks ++ q :: inner).length := by
    rw [hs, stringLength_append hmarks hlength hq, hend]
    simp only [Option.map_some, List.length_append, List.length_cons, Option.some.injEq]
    omega
  cases h with
  | @leaf c s _ _ kind here =>
    have hlexeme : lexeme grouped c (s ++ rest) = (.leaf .string, (marks ++ q :: inner).length) :=
      lexeme_eq_iff.2 (.string hstring)
    rw [here] at hlexeme
    obtain ⟨hkind, hlen⟩ := Prod.mk.inj hlexeme
    cases hkind
    have hall : (c :: s) ++ rest = (marks ++ q :: inner) ++ after := by
      rw [hs, List.append_assoc, List.cons_append]
    obtain ⟨hshown, hafter⟩ := List.append_inj hall (by rw [List.length_cons, hlen])
    rw [hshown, hlen]
    exact ⟨rfl, hafter, rfl⟩
  | group d =>
    rw [List.cons_append, stringLength_of_notMark (isStringMark_of_notWord d.isLone_opener.notWord)
      d.isLone_opener.notQuote] at hstring
    cases hstring

/-- A stretch that starts with a quote starts with a string. -/
theorem Lexes.exists_string {q : Char} {u : Text} (h : Lexes grouped (q :: u) rest pos ts)
    (hq : isQuote q = true) :
    ∃ t ∈ ts, t.isKind .string = true ∧ t.span.start = pos.offset := by
  obtain ⟨n, hn⟩ := Option.ne_none_iff_exists'.1 (h.stringLength_ne_none hq)
  have hlexeme : lexeme grouped q (u ++ rest) = (.leaf .string, n) := lexeme_eq_iff.2 (.string hn)
  generalize hshown : q :: u = shown at h
  cases h with
  | nil => cases hshown
  | skip hk here =>
    obtain ⟨rfl, rfl⟩ := List.cons.inj hshown
    rw [List.append_assoc, here] at hlexeme
    rcases hk with rfl | rfl <;> cases hlexeme
  | leaf here =>
    obtain ⟨rfl, rfl⟩ := List.cons.inj hshown
    rw [List.append_assoc, here] at hlexeme
    cases (Prod.mk.inj hlexeme).1
    exact ⟨_, List.mem_cons_self, rfl, rfl⟩
  | group d =>
    obtain ⟨rfl, -⟩ := List.cons.inj hshown
    rw [d.isLone_opener.notQuote] at hq
    cases hq

/-- What may come after a stretch that is not cut off: the end of the source or of a group. -/
def EndsStretch (rest : Text) : Prop := ∀ c ∈ rest.head?, ∃ d : Delimiter, c = d.closer

theorem endsStretch_nil : EndsStretch [] := fun _ h => nomatch h

theorem endsStretch_closer (d : Delimiter) (r : Text) : EndsStretch (d.closer :: r) :=
  fun _ h => ⟨d, (Option.some.inj h).symm⟩

/-- The token is shown at the place by the text `s` of the source, and right behind it comes the
stretch `next`, whose tokens are among those that occur with it. -/
structure Token.StandsAt (source : Text) (ts : List Token) (grouped : Bool) (pos : Position)
    (s next after : Text) (t : Token) : Prop where
  place : pos.IsBefore source (s ++ (next ++ after))
  shows : Shows grouped s (next ++ after) pos t
  behind : ∃ us, Lexes grouped next after (pos.after s) us ∧ ∀ u ∈ us, u.Occurs ts
  ends : EndsStretch after

theorem Token.StandsAt.mono {source next after : Text} {us : List Token}
    (h : Token.StandsAt source ts grouped pos s next after t)
    (hall : ∀ u : Token, u.Occurs ts → u.Occurs us) :
    Token.StandsAt source us grouped pos s next after t := by
  obtain ⟨vs, hnext, hvs⟩ := h.behind
  exact ⟨h.place, h.shows, ⟨vs, hnext, fun u hu => hall u (hvs u hu)⟩, h.ends⟩

/-- Every token, at any depth, stands at its place. -/
theorem Lexes.standsAt_of_occurs {source : Text} (h : Lexes grouped shown rest pos ts)
    (hpos : pos.IsBefore source (shown ++ rest)) (hrest : EndsStretch rest) (ht : t.Occurs ts) :
    ∃ (g : Bool) (base : Position) (s next after : Text),
      Token.StandsAt source ts g base s next after t := by
  induction h with
  | nil => cases ht
  | skip _ _ _ ih =>
    rw [← List.cons_append, List.append_assoc] at hpos
    exact ih (hpos.after _) hrest ht
  | @leaf g c s t' rest pos us kind here hafter ih =>
    rw [← List.cons_append, List.append_assoc] at hpos
    cases ht with
    | here =>
      exact ⟨g, pos, c :: s, t', rest, hpos, .leaf here,
        ⟨us, hafter, fun u hu => .later _ (.of_mem hu)⟩, hrest⟩
    | later _ ht =>
      obtain ⟨g, base, s, next, after, hstands⟩ := ih (hpos.after _) hrest ht
      exact ⟨g, base, s, next, after, hstands.mono fun u hu => .later _ hu⟩
  | @group g d inner t' rest pos children us hinside hafter ihInside ihAfter =>
    rw [List.cons_append, List.append_assoc, List.cons_append] at hpos
    cases ht with
    | here =>
      refine ⟨g, pos, d.opener :: (inner ++ [d.closer]), t', rest, ?_, .group d hinside,
        ⟨us, ?_, fun u hu => .later _ (.of_mem hu)⟩, hrest⟩
      · rwa [List.cons_append, List.append_assoc]
      · rwa [Position.after_cons, Position.after_append]
    | later _ ht =>
      obtain ⟨g, base, s, next, after, hstands⟩ := ihAfter (hpos.next.after inner).next hrest ht
      exact ⟨g, base, s, next, after, hstands.mono fun u hu => .later _ hu⟩
    | inside _ _ _ _ ht =>
      obtain ⟨g, base, s, next, after, hstands⟩ := ihInside hpos.next (endsStretch_closer d _) ht
      exact ⟨g, base, s, next, after, hstands.mono fun u hu => .inside _ _ _ _ hu⟩

end

/-- What becomes of three quotes at the start of a token, in every source that has tokens and at any
depth. If quotes close the string, the token is the long string up to the first of them. If none do,
the token is an empty string of two quotes, and the third quote starts the next string: the source
is not rejected for the open string. -/
theorem longString_of_lex {source : Text} {ts : List Token} (h : Token.lex source = .ok ts)
    {t : Token} (ht : t.Occurs ts) {marks rest : Text} {q : Char}
    (hmarks : ∀ c ∈ marks, isStringMark c = true) (hlength : marks.length ≤ 2)
    (hq : isQuote q = true) (hsource : source.drop t.span.start = marks ++ q :: q :: q :: rest) :
    t.isKind .string = true ∧
      ((∃ body, FirstClosed q rest body ∧ t.text = marks ++ q :: q :: q :: (body ++ [q, q, q])) ∨
        (∀ body, ¬Closed q rest body) ∧ t.text = marks ++ [q, q] ∧
          ∃ u : Token, u.Occurs ts ∧ u.isKind .string = true ∧ u.span.start = t.span.stop) := by
  have hb := ne_backslash_of_isQuote hq
  have hfirst : Position.first.IsBefore source (source ++ []) := by
    rw [List.append_nil]
    exact .first source
  obtain ⟨g, base, s, next, after, hbase, hshows, ⟨us, hnext, hus⟩, hends⟩ :=
    (Token.lex_eq_ok_iff.1 h).standsAt_of_occurs hfirst endsStretch_nil ht
  have hstart : t.span.start = base.offset := by rw [hshows.span_eq.2]; rfl
  have hall : s ++ (next ++ after) = marks ++ q :: q :: q :: rest := by
    rw [← hbase.left, ← hstart, hsource]
  -- both ways, it is the scan for a long string that decides
  cases hlong : longEnd q rest with
  | some n =>
    obtain ⟨body, hbody, rfl⟩ := (longEnd_eq_some_iff hb).1 hlong
    obtain ⟨tail, rfl⟩ := hbody.quotes
    have hend : quotedEnd q (q :: q :: (body ++ [q, q, q]) ++ tail) =
        some (q :: q :: (body ++ [q, q, q])).length := by
      rw [List.cons_append, List.cons_append, quotedEnd_of_take rfl, List.drop_succ_cons,
        List.drop_succ_cons, List.drop_zero, hlong]
      simp
    obtain ⟨-, -, rfl⟩ := hshows.eq_string hmarks hlength hq hall hend
    exact ⟨rfl, .inl ⟨body, hbody, rfl⟩⟩
  | none =>
    have hend : quotedEnd q ([q] ++ q :: rest) = some [q].length := by
      rw [List.singleton_append, quotedEnd_of_take rfl, List.drop_succ_cons, List.drop_succ_cons,
        List.drop_zero, hlong]
      rfl
    obtain ⟨rfl, hrest, rfl⟩ := hshows.eq_string hmarks hlength hq hall hend
    refine ⟨rfl, .inr ⟨(calm_iff hb).1 hlong, rfl, ?_⟩⟩
    -- the third quote is no closing delimiter, and so the stretch goes on with it
    cases next with
    | nil =>
      rw [List.nil_append] at hrest
      obtain ⟨d, hd⟩ := hends q (by simp [hrest])
      rw [hd, d.isLone_closer.notQuote] at hq
      cases hq
    | cons c next =>
      obtain rfl : c = q := (List.cons.inj hrest).1
      obtain ⟨u, hu, hkind, hoffset⟩ := hnext.exists_string hq
      refine ⟨u, hus u hu, hkind, ?_⟩
      rw [hoffset, Position.offset_after]
      rfl

/-- Three quotes inside of two groups, without quotes that close them. -/
theorem longString_of_lex_quotes :
    quotesSource.drop 5 = ['\'', '\'', '\'', 'x', '\'', '\n', ']', '\x7d'] ∧
      (∀ body, ¬Closed '\'' ['x', '\'', '\n', ']', '\x7d'] body) ∧
        ∃ ts, Token.lex quotesSource = .ok ts ∧
          ∃ u : Token, u.Occurs ts ∧ u.isKind .string = true ∧ u.span.start = 7 := by
  have hoccurs : Token.Occurs (.leaf .string ['\'', '\''] ⟨2, 4, 5, 7⟩)
      [.leaf .identifier ['a'] ⟨1, 1, 0, 1⟩,
        .group .curly ('[' :: (quotesText ++ [']'])) ⟨2, 1, 2, 13⟩
          [.group .square quotesText ⟨2, 2, 3, 12⟩ quotesTokens]] :=
    .later _ (.inside _ _ _ _ (.inside _ _ _ _ (.here _)))
  have hmarks : ∀ c ∈ ([] : Text), isStringMark c = true := by simp
  obtain ⟨-, ⟨body, -, htext⟩ | ⟨hopen, -, hnext⟩⟩ :=
    longString_of_lex lex_quotesSource hoccurs hmarks (by simp) rfl rfl
  · exact absurd (congrArg List.length htext) (by simp [Token.text])
  · exact ⟨rfl, hopen, _, lex_quotesSource, hnext⟩

end XmlTemplate
