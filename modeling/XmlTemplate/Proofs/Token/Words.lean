import XmlTemplate.Proofs.Token.LongString
import XmlTemplate.Proofs.Token.Portions

/-!
# Words stand apart

Two words in a row have a blank between them: an identifier or a number goes on for as long as it
can, so that something has to stand before the next word, and of blanks and comments the last
character before a word is a blank, because a comment reaches up to a line feed. Every character of
a word outside of strings and comments stands in an identifier, in a number or in the letters before
a string, and punctuation has none (`wordsApart_of_lex`).
-/

set_option autoImplicit false

namespace XmlTemplate

/-- Whether the token is an identifier or a number. -/
def Token.isWord (t : Token) : Bool := t.isKind .identifier || t.isKind .number

/-- The tokens that stand side by side: those at the top level, or those of a group at any depth. -/
inductive Token.Row (ts : List Token) : List Token → Prop
  | top : Token.Row ts ts
  | inside {d : Delimiter} {text : Text} {p : Span} {children : List Token}
      (h : Token.Occurs (.group d text p children) ts) : Token.Row ts children

/-- An offset in a comment of the source. -/
def InComment (source : Text) (i : Nat) : Prop :=
  ∃ p ∈ source.portions, p.kind = .comment ∧ p.Covers i

/-- An offset between the quotes of a string, or at one of them. -/
def InQuotes (ts : List Token) (i : Nat) : Prop :=
  ∃ s p, Token.Occurs (.leaf .string s p) ts ∧ p.start + stringMarks s ≤ i ∧ i < p.stop

/-! ## Tokens where the source has them -/

section

variable {source shown rest text : Text} {grouped : Bool} {pos : Position} {ts us : List Token}
  {p : Span} {d : Delimiter} {kind : Kind} {children : List Token}

/-- Every token of a source, at any depth, is shown at its place. -/
theorem shows_of_lex {t : Token} (h : Token.lex source = .ok ts) (ht : t.Occurs ts) :
    ∃ grouped base s rest, Shows grouped s rest base t ∧ base.IsBefore source (s ++ rest) := by
  have hfirst : Position.first.IsBefore source (source ++ []) := by
    rw [List.append_nil]
    exact .first source
  obtain ⟨grouped, base, s, next, after, hstands⟩ :=
    (Token.lex_eq_ok_iff.1 h).standsAt_of_occurs hfirst endsStretch_nil ht
  exact ⟨grouped, base, s, next ++ after, hstands.shows, hstands.place⟩

/-- Tokens that stand side by side are those of one stretch. -/
theorem Token.Row.lexes (hrow : Token.Row ts us) (h : Token.lex source = .ok ts) :
    ∃ grouped shown rest pos, Lexes grouped shown rest pos us ∧
      pos.IsBefore source (shown ++ rest) := by
  cases hrow with
  | top =>
    refine ⟨false, source, [], .first, Token.lex_eq_ok_iff.1 h, ?_⟩
    rw [List.append_nil]
    exact .first source
  | inside hg =>
    obtain ⟨grouped, base, s, rest, hshows, hbase⟩ := shows_of_lex h hg
    cases hshows with
    | group d hinside =>
      rw [List.cons_append, List.append_assoc] at hbase
      exact ⟨true, _, _, _, hinside, hbase.next⟩

/-! ## Words go on for as long as they can -/

/-- An identifier or a number starts with a character of words, and none comes after it. -/
theorem Shows.of_isWord {s : Text} {t : Token} (h : Shows grouped s rest pos t)
    (ht : t.isWord = true) :
    (∃ c ∈ s.head?, isWord c = true) ∧ ∀ c ∈ rest.head?, isWord c = false := by
  cases h with
  | group d => cases ht
  | @leaf c s _ _ kind here =>
    have hkind : kind = .identifier ∨ kind = .number := by
      simpa [Token.isWord, Token.isKind] using ht
    rw [lexeme_eq_iff] at here
    generalize hn : s.length + 1 = n at here
    generalize hk : Lexeme.leaf kind = k at here
    cases here with
    | blanks | comment | openQuote | opening | closing => cases hk
    | sign | string | punctuation =>
      cases hk
      simp at hkind
    | number hc =>
      exact ⟨⟨c, rfl, isWord_of_isDecimal hc⟩, (numberLength_cases (w := c :: s) hn.symm).1⟩
    | identifier hc => exact ⟨⟨c, rfl, hc⟩, (takeWhile_cut (s := c :: s) hn.symm).2⟩

/-- Something stands between two words in a row, and what stands before the second one is a
blank. -/
theorem Lexes.blank_between {t u : Token} {ts : List Token}
    (h : Lexes grouped shown rest pos (t :: u :: ts)) (ht : t.isWord = true)
    (hu : u.isWord = true) (hpos : pos.IsBefore source (shown ++ rest)) :
    t.span.stop < u.span.start ∧
      ∃ i c, t.span.stop ≤ i ∧ i < u.span.start ∧ source[i]? = some c ∧ isBlank c = true := by
  obtain ⟨f, s, v, rfl, -, hs, hv⟩ := h.split
  obtain ⟨g, s', v', rfl, hg, hs', -⟩ := hv.split
  obtain ⟨-, hend⟩ := hs.of_isWord ht
  obtain ⟨⟨c, hc, hword⟩, -⟩ := hs'.of_isWord hu
  obtain ⟨-, hspan⟩ := hs.span_eq
  obtain ⟨-, hspan'⟩ := hs'.span_eq
  have hhead : (s' ++ (v' ++ rest)).head? = some c := by
    rw [List.head?_append, Option.mem_def.1 hc, Option.some_or]
  -- without anything between them the second word would belong to the first one
  have hgap : g ≠ [] := by
    rintro rfl
    rw [List.nil_append, List.append_assoc] at hend
    rw [hend c hhead] at hword
    cases hword
  have hline : c ≠ '\n' := by
    rintro rfl
    exact absurd (isBlank_of_isWord hword) (by decide)
  obtain ⟨b, hb, hblank⟩ := hg.getLast_of_nil hgap ⟨c, hhead, hline⟩
  obtain ⟨g, rfl⟩ : ∃ g', g = g' ++ [b] := by
    obtain ⟨g', hg'⟩ := List.getLast?_eq_some_iff.1 hb
    exact ⟨g', hg'⟩
  -- where the source has the blank
  have hsource : f ++ (s ++ (g ++ [b] ++ (s' ++ v'))) ++ rest =
      (f ++ (s ++ g)) ++ b :: (s' ++ (v' ++ rest)) := by simp
  rw [hsource] at hpos
  have hat := (drop_eq_cons (hpos.after (f ++ (s ++ g))).left).1
  have hstop : t.span.stop = pos.offset + f.length + s.length := by
    rw [hspan, Position.span, Position.offset_after]
  have hstart : u.span.start = pos.offset + f.length + s.length + (g.length + 1) := by
    rw [hspan', Position.span]
    simp only [Position.offset_after, List.length_append, List.length_singleton]
  have hplace : (pos.after (f ++ (s ++ g))).offset =
      pos.offset + f.length + s.length + g.length := by
    rw [Position.offset_after]
    simp only [List.length_append]
    omega
  rw [hplace] at hat
  exact ⟨by omega, _, b, by omega, by omega, hat, hblank⟩

/-! ## Characters of words -/

mutual

/-- A solid portion of a token that is a leaf is a leaf in it. -/
theorem Token.occurs_of_portions {t : Token} {q : Portion} (h : q ∈ t.portions)
    (hq : q.kind = .leaf kind) (us : List Token) :
    ∃ p : Span, p.start = q.start ∧ Token.Occurs (.leaf kind q.text p) (t :: us) := by
  cases t with
  | leaf k s p =>
    rw [Token.portions, List.mem_singleton] at h
    subst h
    cases hq
    exact ⟨p, rfl, .here us⟩
  | group d text p children =>
    rw [Token.portions] at h
    rcases List.mem_cons.1 h with rfl | h
    · cases hq
    · rcases List.mem_append.1 h with h | h
      · obtain ⟨p', hp', hin⟩ := Token.occurs_of_portionsAll h hq
        exact ⟨p', hp', .inside d text p us hin⟩
      · rw [List.mem_singleton] at h
        subst h
        cases hq

theorem Token.occurs_of_portionsAll {ts : List Token} {q : Portion}
    (h : q ∈ Token.portionsAll ts) (hq : q.kind = .leaf kind) :
    ∃ p : Span, p.start = q.start ∧ Token.Occurs (.leaf kind q.text p) ts := by
  cases ts with
  | nil => cases h
  | cons t ts =>
    rw [Token.portionsAll] at h
    rcases List.mem_append.1 h with h | h
    · exact Token.occurs_of_portions h hq ts
    · obtain ⟨p, hp, hin⟩ := Token.occurs_of_portionsAll h hq
      exact ⟨p, hp, .later t hin⟩

end

/-- A lexeme with a character of words in it is a comment, a word or a string. -/
theorem kind_of_isWord {c d : Char} {s : Text} {k : Lexeme}
    (here : lexeme grouped d (s ++ rest) = (k, s.length + 1)) (hc : c ∈ d :: s)
    (hword : isWord c = true) :
    k = .comment ∨ k = .leaf .string ∨ k = .leaf .number ∨ k = .leaf .identifier := by
  rw [lexeme_eq_iff] at here
  generalize hn : s.length + 1 = n at here
  -- the other lexemes are a character that is no part of a word, or blanks
  have hsingle : 1 = s.length + 1 → isWord d = false → False := by
    intro h hd
    obtain rfl : s = [] := List.length_eq_zero_iff.1 (by omega)
    rw [List.mem_singleton.1 hc, hd] at hword
    cases hword
  cases here with
  | blanks hd =>
    obtain ⟨hs, -⟩ := takeWhile_cut (Nat.succ.inj hn).symm
    have hall : ∀ e ∈ d :: s, isBlank e = true := List.forall_mem_cons.2 ⟨hd, hs⟩
    have hblank := hall c hc
    rw [isBlank_of_isWord hword] at hblank
    cases hblank
  | comment => exact .inl rfl
  | sign hd => exact (hsingle hn.symm (hd ▸ isWord_of_mark (by decide))).elim
  | string => exact .inr (.inl rfl)
  | openQuote hd => exact (hsingle hn.symm (isWord_of_isQuote hd)).elim
  | number => exact .inr (.inr (.inl rfl))
  | identifier => exact .inr (.inr (.inr rfl))
  | opening e hd => exact (hsingle hn.symm (hd ▸ e.isLone_opener.notWord)).elim
  | closing e hd => exact (hsingle hn.symm (hd ▸ e.isLone_closer.notWord)).elim
  | punctuation hd => exact (hsingle hn.symm hd.notWord).elim

/-- A leaf reaches as far as its text. -/
theorem stop_of_occurs (h : Token.lex source = .ok ts) (hl : Token.Occurs (.leaf kind text p) ts) :
    p.stop = p.start + text.length := by
  obtain ⟨grouped, base, s, rest, hshows, -⟩ := shows_of_lex h hl
  cases hshows with
  | leaf => rfl

/-- A character of words that is neither in a comment nor between quotes stands in an identifier, in
a number or in the letters before a string. -/
theorem exists_word_of_isWord (h : Token.lex source = .ok ts) {i : Nat} {c : Char}
    (hi : source[i]? = some c) (hc : isWord c = true) (hcomment : ¬InComment source i)
    (hquotes : ¬InQuotes ts i) :
    ∃ kind s p, Token.Occurs (.leaf kind s p) ts ∧ p.start ≤ i ∧ i < p.stop ∧
      (kind = .identifier ∨ kind = .number ∨
        kind = .string ∧ i < p.start + stringMarks s) := by
  obtain ⟨hcuts, hsource, hsolid⟩ := cuts_portions h
  obtain ⟨hlt, -⟩ := List.getElem?_eq_some_iff.1 hi
  rw [← hsource] at hlt
  obtain ⟨q, hq, hcovers, hat⟩ := hcuts.exists_covers hlt
  rw [hsource, hi] at hat
  rw [Nat.zero_add] at hcovers
  obtain ⟨grouped, d, s, after, htext, here⟩ := hcuts.lexeme_of_mem hq
  have hmem : c ∈ d :: s := htext ▸ List.mem_of_getElem? hat
  have hkind := kind_of_isWord here hmem hc
  -- the leaf that the portion is
  have hleaf : ∀ k, q.kind = .leaf k →
      ∃ p : Span, Token.Occurs (.leaf k q.text p) ts ∧ p.start ≤ i ∧ i < p.stop := by
    intro k hk
    have hmark : Portion.isSolid q = true := by rw [Portion.isSolid, hk]
    have hin : q ∈ Token.portionsAll ts := hsolid ▸ List.mem_filter.2 ⟨hq, hmark⟩
    obtain ⟨p, hp, hoccurs⟩ := Token.occurs_of_portionsAll hin hk
    refine ⟨p, hoccurs, hp ▸ hcovers.1, ?_⟩
    rw [stop_of_occurs h hoccurs, hp]
    exact hcovers.2
  rcases hkind with hk | hk | hk | hk
  · exact absurd ⟨q, hq, hk, hcovers⟩ hcomment
  · obtain ⟨p, hoccurs, hstart, hstop⟩ := hleaf _ hk
    refine ⟨_, _, p, hoccurs, hstart, hstop, .inr (.inr ⟨rfl, ?_⟩)⟩
    rcases Nat.lt_or_ge i (p.start + stringMarks q.text) with hlt | hge
    · exact hlt
    · exact absurd ⟨q.text, p, hoccurs, hge, hstop⟩ hquotes
  · obtain ⟨p, hoccurs, hstart, hstop⟩ := hleaf _ hk
    exact ⟨_, _, p, hoccurs, hstart, hstop, .inr (.inl rfl)⟩
  · obtain ⟨p, hoccurs, hstart, hstop⟩ := hleaf _ hk
    exact ⟨_, _, p, hoccurs, hstart, hstop, .inl rfl⟩

/-- Punctuation covers no character of words. -/
theorem isWord_of_punctuation (h : Token.lex source = .ok ts)
    (hl : Token.Occurs (.leaf .punctuation text p) ts) {i : Nat} {c : Char} (hstart : p.start ≤ i)
    (hstop : i < p.stop) (hi : source[i]? = some c) : isWord c = false := by
  obtain ⟨grouped, base, s, rest, hshows, hbase⟩ := shows_of_lex h hl
  cases hshows with
  | @leaf d s rest base _ here =>
    rw [Bool.eq_false_iff]
    intro hword
    -- the character stands in the text of the token
    obtain ⟨n, rfl⟩ := Nat.exists_eq_add_of_le hstart
    have hn : n < (d :: s).length := Nat.lt_of_add_lt_add_left hstop
    have hat : (d :: s)[n]? = some c := by
      have hleft : (d :: s ++ rest)[n]? = (d :: s)[n]? := List.getElem?_append_left hn
      rw [← hi, ← hleft, ← hbase.left, List.getElem?_drop]
      rfl
    have hkind := kind_of_isWord here (List.mem_of_getElem? hat) hword
    simp at hkind

end

/-! ## Sources -/

/-- What keeps the words of a source apart. -/
structure WordsApart (source : Text) (ts : List Token) : Prop where
  /-- Of two words in a row, wherever they stand, the first one ends before the second one starts,
  and a blank stands between them. -/
  blank : ∀ (us before after : List Token) (t u : Token), Token.Row ts us →
    us = before ++ t :: u :: after → t.isWord = true → u.isWord = true →
      t.span.stop < u.span.start ∧
        ∃ i c, t.span.stop ≤ i ∧ i < u.span.start ∧ source[i]? = some c ∧ isBlank c = true
  /-- A character of words outside of comments and quotes belongs to a word or to the letters before
  a string. -/
  belongs : ∀ i c, source[i]? = some c → isWord c = true → ¬InComment source i →
    ¬InQuotes ts i → ∃ kind s p, Token.Occurs (.leaf kind s p) ts ∧ p.start ≤ i ∧ i < p.stop ∧
      (kind = .identifier ∨ kind = .number ∨ kind = .string ∧ i < p.start + stringMarks s)
  /-- No punctuation covers a character of words. -/
  punctuation : ∀ s p, Token.Occurs (.leaf .punctuation s p) ts → ∀ i c, p.start ≤ i → i < p.stop →
    source[i]? = some c → isWord c = false

/-- Words in a row were separated by a blank, and what words are made of stands in words, in every
source that has tokens and at any depth. -/
theorem wordsApart_of_lex {source : Text} {ts : List Token} (h : Token.lex source = .ok ts) :
    WordsApart source ts := by
  refine ⟨?_, ?_, ?_⟩
  · rintro us before after t u hrow rfl ht hu
    obtain ⟨grouped, shown, rest, pos, hlexes, hpos⟩ := hrow.lexes h
    -- the stretch is cut before the first of the two words
    obtain ⟨a, b, rfl, -, hb, -, -⟩ := hlexes.split_append before
    rw [List.append_assoc] at hpos
    exact hb.blank_between ht hu (hpos.after a)
  · intro i c hi hc hcomment hquotes
    exact exists_word_of_isWord h hi hc hcomment hquotes
  · intro s p hl i c hstart hstop hi
    exact isWord_of_punctuation h hl hstart hstop hi

/-- In a group a word, a comment, another word and a number with a fraction; after it a string with
a letter before it. -/
def wordsSource : Text := "(a#1\nb 1.5)r''".toList

theorem wordsApart_of_lex_wordsSource :
    ∃ ts, Token.lex wordsSource = .ok ts ∧
      ts.map (fun t => t.children.map fun u => (u.text, u.isWord)) =
        [[(['a'], true), (['b'], true), (['1', '.', '5'], true)], []] ∧
      WordsApart wordsSource ts := by
  have hread : (Token.lex wordsSource).toOption.map
      (List.map fun t => t.children.map fun u => (u.text, u.isWord)) =
        some [[(['a'], true), (['b'], true), (['1', '.', '5'], true)], []] := by
    decide +kernel
  cases hlex : Token.lex wordsSource with
  | error e =>
    rw [hlex] at hread
    cases hread
  | ok ts =>
    rw [hlex] at hread
    exact ⟨ts, rfl, Option.some.inj hread, wordsApart_of_lex hlex⟩

end XmlTemplate
