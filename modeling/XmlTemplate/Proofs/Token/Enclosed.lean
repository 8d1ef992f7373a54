import XmlTemplate.Literal.Value
import XmlTemplate.Proofs.Token.Swap

/-!
# Texts whose brackets close

Of a text inside of a group, little counts for where the group ends: strings, comments and brackets.
`Enclosed` says that every string of a text ends and that its brackets close one another, apart from
given ones that were opened before; all other characters are alike to it (`IsPlain`). Such a text has
tokens, whatever they are (`Enclosed.lexes`).
-/

set_option autoImplicit false

namespace XmlTemplate

/-- Characters that start a string or a comment or open or close a group. -/
def bracketing : List Char := ['\'', '"', '#', '(', ')', '[', ']', '{', '}']

/-- All other characters. -/
def IsPlain (c : Char) : Prop := c ∉ bracketing

instance (c : Char) : Decidable (IsPlain c) := inferInstanceAs (Decidable (c ∉ bracketing))

/-- Every string ends, and brackets close one another and those in the list, innermost first. -/
inductive Enclosed : List Delimiter → Text → Prop
  | nil : Enclosed [] []
  | plain {ds : List Delimiter} {c : Char} {s : Text} (hc : IsPlain c) (after : Enclosed ds s) :
      Enclosed ds (c :: s)
  | comment {ds : List Delimiter} {s t : Text} (line : ∀ c ∈ s, c ≠ '\n')
      (ends : ∀ c ∈ t.head?, c = '\n') (after : Enclosed ds t) : Enclosed ds ('#' :: (s ++ t))
  | string {ds : List Delimiter} {q : Char} {s t body : Text} (hq : isQuote q = true)
      (here : Literal.body? q (s ++ t) = some (body, s.length)) (after : Enclosed ds t) :
      Enclosed ds (q :: (s ++ t))
  | opening {ds : List Delimiter} {s : Text} (d : Delimiter) (after : Enclosed (d :: ds) s) :
      Enclosed ds (d.opener :: s)
  | closing {ds : List Delimiter} {s : Text} (d : Delimiter) (after : Enclosed ds s) :
      Enclosed (d :: ds) (d.closer :: s)

/-- A class of characters that holds none of the others holds plain characters alone. -/
theorem isPlain_of_apart {p : Char → Bool} (hp : (bracketing.all fun c => !p c) = true) {c : Char}
    (hc : p c = true) : IsPlain c := by
  intro h
  have hno := List.all_eq_true.1 hp c h
  rw [hc] at hno
  cases hno

theorem isPlain_of_isWord {c : Char} (h : isWord c = true) : IsPlain c := by
  have hmarks : (bracketing.all fun c => inRanges markRanges c.toNat) = true := by decide
  intro hc
  rw [isWord_of_mark (List.all_eq_true.1 hmarks c hc)] at h
  cases h

theorem isPlain_of_isBlank {c : Char} (h : isBlank c = true) : IsPlain c :=
  isPlain_of_apart (by decide) h

theorem IsPlain.notQuote {c : Char} (h : IsPlain c) : isQuote c = false := by
  rw [Bool.eq_false_iff]
  intro hq
  rcases isQuote_iff.1 hq with rfl | rfl <;> exact h (by decide)

theorem not_isPlain_opener (d : Delimiter) : ¬IsPlain d.opener := by
  cases d <;> decide

theorem not_isPlain_closer (d : Delimiter) : ¬IsPlain d.closer := by
  cases d <;> decide

/-! ## What is left after a part -/

theorem Enclosed.of_append {ds : List Delimiter} {s t : Text} (hs : ∀ c ∈ s, IsPlain c)
    (h : Enclosed ds (s ++ t)) : Enclosed ds t := by
  induction s with
  | nil => exact h
  | cons c s ih =>
    obtain ⟨hc, hs⟩ := List.forall_mem_cons.1 hs
    rw [List.cons_append] at h
    refine ih hs ?_
    generalize hu : s ++ t = u at h
    cases h with
    | plain _ after => exact after
    | comment => exact absurd hc (by decide)
    | string hq =>
      rw [hc.notQuote] at hq
      cases hq
    | opening d => exact absurd hc (not_isPlain_opener d)
    | closing d => exact absurd hc (not_isPlain_closer d)

theorem Enclosed.of_quote {ds : List Delimiter} {q : Char} {u : Text} (hq : isQuote q = true)
    (h : Enclosed ds (q :: u)) :
    ∃ s t body, u = s ++ t ∧ Literal.body? q (s ++ t) = some (body, s.length) ∧ Enclosed ds t := by
  cases h with
  | plain hc =>
    rw [hc.notQuote] at hq
    cases hq
  | comment => exact absurd hq (by decide)
  | string _ here after => exact ⟨_, _, _, rfl, here, after⟩
  | opening d =>
    rw [d.isLone_opener.notQuote] at hq
    cases hq
  | closing d =>
    rw [d.isLone_closer.notQuote] at hq
    cases hq

/-- A string ends where it ends, if no further quote comes after the text. -/
theorem quotedEnd_of_body? {q : Char} {s t rest body : Text} (hq : isQuote q = true)
    (hrest : ∀ c ∈ rest.head?, isQuote c = false)
    (h : Literal.body? q (s ++ t) = some (body, s.length)) :
    quotedEnd q (s ++ (t ++ rest)) = some s.length := by
  have hb := ne_backslash_of_isQuote hq
  rw [Literal.body?] at h
  split at h
  · next htake =>
    obtain ⟨n, hn, heq⟩ := Option.map_eq_some_iff.1 h
    have hlength : n + 2 = s.length := congrArg Prod.snd heq
    obtain ⟨u, rfl⟩ : ∃ u, s = q :: q :: u := by
      rcases s with _ | ⟨c, _ | ⟨d, u⟩⟩
      · simp at hlength
      · simp only [List.length_singleton] at hlength
        omega
      · simp only [List.cons_append, List.take_succ_cons, List.take_zero, List.cons.injEq,
          and_true] at htake
        exact ⟨u, by rw [htake.1, htake.2]⟩
    simp only [List.length_cons] at hlength
    obtain rfl : n = u.length := by omega
    have hlong : longEnd q (u ++ t) = some u.length := hn
    rw [longEnd_append_iff hb (Nat.le_refl _)] at hlong
    rw [quotedEnd_of_take rfl]
    show ((longEnd q (u ++ (t ++ rest))).map (· + 2)).or _ = _
    rw [(longEnd_append_iff hb (Nat.le_refl _)).2 hlong]
    rfl
  · next htake =>
    obtain ⟨n, hn, heq⟩ := Option.map_eq_some_iff.1 h
    obtain rfl : n = s.length := congrArg Prod.snd heq
    rw [shortEnd_append_iff hb (Nat.le_refl _)] at hn
    have htake' : ¬(s ++ (t ++ rest)).take 2 = [q, q] := by
      intro h
      rw [← List.append_assoc] at h
      generalize s ++ t = u at h htake
      rcases u with _ | ⟨c, _ | ⟨d, u⟩⟩
      · obtain ⟨v, rfl⟩ : ∃ v, rest = q :: v := by
          cases rest with
          | nil => cases h
          | cons c v => exact ⟨v, by rw [(List.cons.inj h).1]⟩
        rw [hrest q rfl] at hq
        cases hq
      · obtain ⟨v, rfl⟩ : ∃ v, rest = q :: v := by
          cases rest with
          | nil => cases h
          | cons d v =>
            simp only [List.singleton_append, List.take_succ_cons, List.take_zero,
              List.cons.injEq] at h
            exact ⟨v, by rw [h.2.1]⟩
        rw [hrest q rfl] at hq
        cases hq
      · exact htake h
    rw [quotedEnd, if_neg htake']
    exact (shortEnd_append_iff hb (Nat.le_refl _)).2 hn

/-! ## The tokens of an enclosed text -/

/-- The text has tokens up to the closing delimiters of the groups in the list, one after the other,
and after the last one. -/
def Ends (rest : Text) : List Delimiter → Text → Position → Prop
  | [], s, pos => ∃ ts, Lexes true s rest pos ts
  | d :: ds, s, pos => ∃ inner t ts, s = inner ++ d.closer :: t ∧
      Lexes true inner (d.closer :: (t ++ rest)) pos ts ∧
        Ends rest ds t ((pos.after inner).next d.closer)

/-- What stands before a text can be read with it. -/
theorem Ends.before {rest a s : Text} {ds : List Delimiter} {pos : Position}
    (h : Ends rest ds s (pos.after a))
    (step : ∀ t left ts, s ++ rest = t ++ left → Lexes true t left (pos.after a) ts →
      ∃ us, Lexes true (a ++ t) left pos us) : Ends rest ds (a ++ s) pos := by
  cases ds with
  | nil =>
    obtain ⟨ts, h⟩ := h
    exact step s rest ts rfl h
  | cons d ds =>
    obtain ⟨inner, t, ts, rfl, hinner, h⟩ := h
    obtain ⟨us, hus⟩ := step inner _ ts (by simp) hinner
    refine ⟨a ++ inner, t, us, by simp, hus, ?_⟩
    rwa [Position.after_append]

section

variable {d : Delimiter} {r : Text}

/-- Plain characters at the head of a text with a closing delimiter after it belong to the text. -/
theorem exists_of_plain {s t u : Text} (ht : ∀ c ∈ t, IsPlain c) (h : s ++ d.closer :: r = t ++ u) :
    ∃ b, s = t ++ b ∧ u = b ++ d.closer :: r := by
  rcases List.append_eq_append_iff.1 h with ⟨m, rfl, hm⟩ | ⟨m, rfl, hm⟩
  · cases m with
    | nil => exact ⟨[], by simp, hm.symm⟩
    | cons c m =>
      obtain ⟨rfl, -⟩ := List.cons.inj hm
      exact absurd (ht _ (by simp)) (not_isPlain_closer d)
  · exact ⟨m, rfl, hm⟩

/-- The lexeme at a plain character covers plain characters, or it is a string. -/
theorem isPlain_of_lexeme {grouped : Bool} {c : Char} {s t : Text} {k : Lexeme} (hc : IsPlain c)
    (here : lexeme grouped c (s ++ t) = (k, s.length + 1)) (hk : k ≠ .leaf .string) :
    (k = .blanks ∨ ∃ kind, k = .leaf kind) ∧ ∀ d ∈ s, IsPlain d := by
  rw [lexeme_eq_iff] at here
  generalize hn : s.length + 1 = n at here
  have hsingle : 1 = s.length + 1 → ∀ d ∈ s, IsPlain d := by
    intro h
    obtain rfl : s = [] := List.length_eq_zero_iff.1 (by omega)
    simp
  cases here with
  | blanks =>
    obtain ⟨hs, -⟩ := takeWhile_cut (Nat.succ.inj hn).symm
    exact ⟨.inl rfl, fun d hd => isPlain_of_isBlank (hs d hd)⟩
  | comment hsign | sign hsign => exact absurd (hsign ▸ hc) (by decide)
  | string => exact absurd rfl hk
  | openQuote hq =>
    rw [hc.notQuote] at hq
    cases hq
  | number =>
    refine ⟨.inr ⟨_, rfl⟩, ?_⟩
    obtain ⟨-, ⟨hw, -⟩ | ⟨w, e, v, hcut, hw, he, hv⟩⟩ := numberLength_cases (w := c :: s) hn.symm
    · exact fun d hd => isPlain_of_isWord (hw d (List.mem_cons_of_mem _ hd))
    · intro d hd
      have hmem : d ∈ w ++ '.' :: e :: v := hcut ▸ List.mem_cons_of_mem c hd
      rcases List.mem_append.1 hmem with hd | hd
      · exact isPlain_of_isWord (hw d hd)
      · rcases List.mem_cons.1 hd with rfl | hd
        · decide
        · rcases List.mem_cons.1 hd with rfl | hd
          · exact isPlain_of_isWord (isWord_of_isDecimal he)
          · exact isPlain_of_isWord (hv d hd)
  | identifier =>
    obtain ⟨hw, -⟩ := takeWhile_cut (s := c :: s) hn.symm
    exact ⟨.inr ⟨_, rfl⟩, fun d hd => isPlain_of_isWord (hw d (List.mem_cons_of_mem _ hd))⟩
  | opening d hd => exact absurd (hd ▸ hc) (not_isPlain_opener d)
  | closing d hd => exact absurd (hd ▸ hc) (not_isPlain_closer d)
  | punctuation => exact ⟨.inr ⟨_, rfl⟩, hsingle hn.symm⟩

/-- A string that starts with a letter or a quote of the text ends in it. -/
theorem Enclosed.string_cut {ds : List Delimiter} {c : Char} {s : Text} {n : Nat}
    (h : Enclosed ds (c :: s)) (hlength : stringLength (c :: (s ++ d.closer :: r)) = some n) :
    ∃ a b, s = a ++ b ∧ n = a.length + 1 ∧ Enclosed ds b := by
  obtain ⟨marks, q, u, k, heq, hmarks, -, hq, hk, rfl⟩ := stringLength_eq_some hlength
  have hplain : ∀ c ∈ marks, IsPlain c := fun c hc =>
    isPlain_of_isWord (isWord_of_isStringMark (hmarks c hc))
  rw [← List.cons_append] at heq
  obtain ⟨b, hs, hu⟩ := exists_of_plain hplain heq
  obtain ⟨b, rfl⟩ : ∃ b', b = q :: b' := by
    cases b with
    | nil =>
      obtain ⟨rfl, -⟩ := List.cons.inj hu
      rw [d.isLone_closer.notQuote] at hq
      cases hq
    | cons e b => exact ⟨b, by rw [(List.cons.inj hu).1]⟩
  obtain rfl : u = b ++ d.closer :: r := (List.cons.inj hu).2
  rw [hs] at h
  obtain ⟨x, t, body, rfl, hbody, ht⟩ := (h.of_append hplain).of_quote hq
  have hrest : ∀ c ∈ (d.closer :: r).head?, isQuote c = false := by
    rintro _ ⟨⟩
    exact d.isLone_closer.notQuote
  rw [List.append_assoc, quotedEnd_of_body? hq hrest hbody] at hk
  cases hk
  have hcut : c :: s = (marks ++ q :: x) ++ t := by
    rw [hs]
    simp
  cases marks with
  | nil =>
    obtain ⟨rfl, rfl⟩ := List.cons.inj hcut
    exact ⟨x, t, rfl, rfl, ht⟩
  | cons e marks =>
    obtain ⟨rfl, rfl⟩ := List.cons.inj hcut
    refine ⟨marks ++ q :: x, t, rfl, ?_, ht⟩
    simp only [List.length_append, List.length_cons]
    omega

/-- An enclosed text whose last line is complete has tokens, up to the closing delimiter of each open
group. The induction is on the length of the text, since a lexeme covers any number of characters. -/
theorem Enclosed.ends {ds : List Delimiter} {s : Text} (h : Enclosed ds s)
    (hlast : ∀ c ∈ s.getLast?, c = '\n') (pos : Position) : Ends (d.closer :: r) ds s pos := by
  -- on the length, because a lexeme may be longer than the character that a case of `h` takes away
  induction hn : s.length using Nat.strongRecOn generalizing ds s pos with
  | _ n ih =>
    have hrest : ∀ {a b : Text} {ds : List Delimiter} (pos : Position), s = a ++ b → a ≠ [] →
        Enclosed ds b → Ends (d.closer :: r) ds b pos := by
      intro a b ds pos hs ha hb
      have hshorter : b.length < n := by
        have := List.length_pos_iff.2 ha
        rw [← hn, hs, List.length_append]
        omega
      refine ih _ hshorter hb (fun c hc => hlast c ?_) pos rfl
      rw [hs, List.getLast?_append, Option.mem_def.1 hc]
      rfl
    cases h with
    | nil => exact ⟨[], .nil _ _ _⟩
    | @plain ds c s hc after =>
      obtain ⟨t, u, heq, here⟩ := lexeme_cut true c (s ++ d.closer :: r)
      generalize (lexeme true c (t ++ u)).1 = k at here
      -- a string is the one lexeme that may reach over characters that are not plain
      by_cases hstring : k = .leaf .string
      · subst hstring
        have hlength : stringLength (c :: (s ++ d.closer :: r)) = some (t.length + 1) := by
          rw [lexeme_eq_iff] at here
          generalize t.length + 1 = m at here
          rw [heq]
          cases here with
          | string h => exact h
        obtain ⟨a, b, rfl, hm, hb⟩ := (Enclosed.plain hc after).string_cut hlength
        obtain ⟨rfl, rfl⟩ : a = t ∧ b ++ d.closer :: r = u := by
          rw [List.append_assoc] at heq
          exact List.append_inj heq (by omega)
        refine Ends.before (a := c :: a) (hrest _ rfl (List.cons_ne_nil c a) hb) ?_
        intro t left ts hleft hts
        rw [hleft] at here
        exact ⟨_, .leaf here hts⟩
      · obtain ⟨hk, hplain⟩ := isPlain_of_lexeme hc here hstring
        obtain ⟨b, rfl, rfl⟩ := exists_of_plain hplain heq
        refine Ends.before (a := c :: t) (hrest _ rfl (List.cons_ne_nil c t)
          (after.of_append hplain)) ?_
        intro t' left ts hleft hts
        rw [hleft] at here
        rcases hk with rfl | ⟨kind, rfl⟩
        · exact ⟨_, .skip (.inl rfl) here hts⟩
        · exact ⟨_, .leaf here hts⟩
    | @comment ds s t line ends after =>
      -- the comment ends within the text, whose last character is a new line
      obtain ⟨t, rfl⟩ : ∃ t', t = '\n' :: t' := by
        cases t with
        | nil =>
          have hmem : '\n' ∈ '#' :: s := by
            rw [List.append_nil, List.getLast?_eq_some_getLast (List.cons_ne_nil _ _)] at hlast
            rw [← hlast _ rfl]
            exact List.getLast_mem _
          rcases List.mem_cons.1 hmem with h | h
          · cases h
          · exact absurd rfl (line _ h)
        | cons c t => exact ⟨t, by rw [ends c rfl]⟩
      refine Ends.before (a := '#' :: s) (hrest _ rfl (List.cons_ne_nil _ s) after) ?_
      intro t' left ts hleft hts
      refine ⟨_, .skip (.inr rfl) ?_ hts⟩
      rw [← hleft, lexeme_eq_iff]
      have hline : ((s ++ ('\n' :: t ++ d.closer :: r)).takeWhile (· != '\n')).length =
          s.length := by
        rw [List.takeWhile_append_of_pos fun c hc => by simpa using line c hc]
        simp
      rw [← hline]
      exact .comment rfl rfl
    | @string ds q s t body hq here after =>
      refine Ends.before (a := q :: s) (hrest _ rfl (List.cons_ne_nil q s) after) ?_
      intro t' left ts hleft hts
      -- the closing delimiter that follows is no quote, so that the string ends where it did
      have hcloser : ∀ c ∈ (d.closer :: r).head?, isQuote c = false := by
        rintro _ ⟨⟩
        exact d.isLone_closer.notQuote
      have hstring : lexeme true q (s ++ (t' ++ left)) = (.leaf .string, s.length + 1) := by
        rw [← hleft, lexeme_eq_iff]
        refine .string ?_
        rw [stringLength_of_isQuote hq, quotedEnd_of_body? hq hcloser here]
        rfl
      exact ⟨_, .leaf hstring hts⟩
    | @opening ds s e after =>
      -- the rest first ends the group that opens here, and goes on as the rest of the group around it
      obtain ⟨inner, t, ts, rfl, hinner, h⟩ := hrest (a := [e.opener]) (pos.next e.opener) rfl
        (List.cons_ne_nil _ _) after
      have hsplit : e.opener :: (inner ++ e.closer :: t) = (e.opener :: (inner ++ [e.closer])) ++ t := by
        simp
      rw [hsplit]
      have hafter : pos.after (e.opener :: (inner ++ [e.closer])) =
          ((pos.next e.opener).after inner).next e.closer := by
        rw [Position.after_cons, Position.after_append]
        rfl
      refine Ends.before (hafter ▸ h) ?_
      intro t' left us hleft hus
      rw [hleft] at hinner
      rw [hafter] at hus
      have hsame : e.opener :: (inner ++ [e.closer]) ++ t' =
          e.opener :: (inner ++ e.closer :: t') := by simp
      exact ⟨_, hsame ▸ Lexes.group e hinner hus⟩
    | @closing ds s e after =>
      exact ⟨[], s, [], rfl, .nil _ _ _, hrest (a := [e.closer]) _ rfl (List.cons_ne_nil _ _) after⟩

/-- An enclosed text whose last line is complete has tokens before a closing delimiter. -/
theorem Enclosed.lexes {s : Text} (h : Enclosed [] s) (hlast : ∀ c ∈ s.getLast?, c = '\n')
    (pos : Position) : ∃ ts, Lexes true s (d.closer :: r) pos ts := h.ends hlast pos

end

end XmlTemplate
