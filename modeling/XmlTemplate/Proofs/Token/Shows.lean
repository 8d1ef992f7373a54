import XmlTemplate.Proofs.Token.Swap

/-!
# Token by token

A stretch of source with tokens in it starts with blanks and comments, goes on with the text of the
first token and ends with a stretch that holds the others (`Lexes.split`). `Shows` says of a text
that it is one token, at a place and before the rest of the source. Calmness goes over to what comes
after a token (`Shows.calmer`), unless the token is a backslash, which would take the next character
with it.
-/

set_option autoImplicit false

namespace XmlTemplate

/-- The text, at a place before `rest`, is one token from end to end. -/
inductive Shows (grouped : Bool) : (shown rest : Text) → Position → Token → Prop
  | leaf {c : Char} {s rest : Text} {pos : Position} {kind : Kind}
      (here : lexeme grouped c (s ++ rest) = (.leaf kind, s.length + 1)) :
      Shows grouped (c :: s) rest pos (.leaf kind (c :: s) (pos.span (s.length + 1)))
  | group (d : Delimiter) {inner rest : Text} {pos : Position} {children : List Token}
      (inside : Lexes true inner (d.closer :: rest) (pos.next d.opener) children) :
      Shows grouped (d.opener :: (inner ++ [d.closer])) rest pos
        (.group d inner (pos.span (inner.length + 2)) children)

section

variable {grouped : Bool} {shown s t rest : Text} {pos : Position} {u : Token} {us ts : List Token}

/-- A token and a stretch after it. -/
theorem Lexes.cons (h : Shows grouped s (t ++ rest) pos u) (h' : Lexes grouped t rest (pos.after s) ts) :
    Lexes grouped (s ++ t) rest pos (u :: ts) := by
  cases h with
  | leaf here => exact .leaf here h'
  | group d inside =>
    rw [List.cons_append, List.append_assoc]
    refine .group d inside ?_
    rwa [Position.after_cons, Position.after_append] at h'

/-- A stretch and a stretch after it. -/
theorem Lexes.append (h : Lexes grouped s (t ++ rest) pos us)
    (h' : Lexes grouped t rest (pos.after s) ts) : Lexes grouped (s ++ t) rest pos (us ++ ts) := by
  generalize hv : t ++ rest = v at h
  induction h with
  | nil => exact h'
  | @skip _ c a b _ pos _ k hk here _ ih =>
    subst hv
    rw [List.cons_append, List.append_assoc]
    rw [Position.after_cons, Position.after_append] at h'
    refine .skip hk ?_ (ih ?_ rfl)
    · rwa [List.append_assoc]
    · rwa [Position.after_cons]
  | @leaf _ c a b _ pos _ kind here _ ih =>
    subst hv
    rw [List.cons_append, List.append_assoc]
    rw [Position.after_cons, Position.after_append] at h'
    refine .leaf ?_ (ih ?_ rfl)
    · rwa [List.append_assoc]
    · rwa [Position.after_cons]
  | @group _ d inner b _ pos children _ inside _ _ ih =>
    subst hv
    rw [List.cons_append, List.append_assoc, List.cons_append]
    rw [Position.after_cons, Position.after_append] at h'
    refine .group d ?_ (ih h' rfl)
    rwa [List.append_assoc]

/-- The first token of a stretch, what stands before it, and the stretch after it. -/
theorem Lexes.split (h : Lexes grouped shown rest pos (u :: ts)) :
    ∃ f s t, shown = f ++ (s ++ t) ∧ Lexes grouped f (s ++ (t ++ rest)) pos [] ∧
      Shows grouped s (t ++ rest) (pos.after f) u ∧
        Lexes grouped t rest ((pos.after f).after s) ts := by
  generalize hus : u :: ts = us at h
  induction h with
  | nil => cases hus
  | @skip _ c a b rest pos _ k hk here _ ih =>
    obtain ⟨f, s, t, rfl, hf, hs, ht⟩ := ih hus
    refine ⟨c :: (a ++ f), s, t, by simp, ?_, ?_, ?_⟩
    · refine .skip hk ?_ hf
      simpa using here
    · rwa [Position.after_cons, Position.after_append, ← Position.after_cons]
    · rwa [Position.after_cons, Position.after_append, ← Position.after_cons]
  | @leaf _ c a b rest pos _ kind here after =>
    cases hus
    exact ⟨[], c :: a, b, rfl, .nil _ _ _, .leaf here, after⟩
  | @group _ d inner b rest pos children _ inside after =>
    cases hus
    refine ⟨[], d.opener :: (inner ++ [d.closer]), b, by simp, .nil _ _ _, .group d inside, ?_⟩
    have hpos : (pos.after []).after (d.opener :: (inner ++ [d.closer])) =
        ((pos.next d.opener).after inner).next d.closer := by
      rw [Position.after_cons, Position.after_append]
      rfl
    rwa [hpos]

/-- Where a leaf stands at the head of a stretch, it is the first token. -/
theorem Lexes.of_leaf {c : Char} {kind : Kind} (h : Lexes grouped (c :: (s ++ t)) rest pos ts)
    (here : lexeme grouped c (s ++ (t ++ rest)) = (.leaf kind, s.length + 1)) :
    ∃ us, ts = .leaf kind (c :: s) (pos.span (s.length + 1)) :: us ∧
      Lexes grouped t rest (pos.after (c :: s)) us := by
  rw [← List.append_assoc] at here
  generalize hshown : c :: (s ++ t) = shown at h
  cases h with
  | nil => cases hshown
  | @skip _ _ a b _ _ _ k hk here' =>
    obtain ⟨rfl, hst⟩ := List.cons.inj hshown
    rw [← List.append_assoc, ← hst, here] at here'
    rcases hk with rfl | rfl <;> cases (Prod.mk.inj here').1
  | @leaf _ _ a b _ _ us kind' here' hafter =>
    obtain ⟨rfl, hst⟩ := List.cons.inj hshown
    rw [← List.append_assoc, ← hst, here] at here'
    obtain ⟨hkind, hlength⟩ := Prod.mk.inj here'
    cases hkind
    obtain ⟨rfl, rfl⟩ := List.append_inj hst (Nat.succ.inj hlength)
    exact ⟨us, rfl, hafter⟩
  | group d =>
    obtain ⟨rfl, -⟩ := List.cons.inj hshown
    rw [lexeme_opener] at here
    cases (Prod.mk.inj here).1

/-- A token covers a character, and its span covers its text. -/
theorem Shows.span_eq (h : Shows grouped s rest pos u) : s ≠ [] ∧ u.span = pos.span s.length := by
  cases h with
  | leaf => exact ⟨List.cons_ne_nil _ _, rfl⟩
  | group d => exact ⟨List.cons_ne_nil _ _, by simp [Token.span]⟩

/-- Blanks and comments before something that does not start a new line end with a blank. -/
theorem Lexes.getLast_of_nil (h : Lexes grouped s rest pos []) (hs : s ≠ [])
    (hrest : ∃ c ∈ rest.head?, c ≠ '\n') : ∃ c ∈ s.getLast?, isBlank c = true := by
  generalize hus : ([] : List Token) = us at h
  induction h with
  | nil => exact absurd rfl hs
  | @skip _ c a b rest pos _ k hk here after ih =>
    by_cases hb : b = []
    · subst hb
      rw [List.append_nil]
      rcases hk with rfl | rfl
      · obtain ⟨hc, hlength⟩ := lexeme_eq_blanks here
        obtain ⟨ha, -⟩ := takeWhile_cut (Nat.succ.inj hlength).symm
        have hall : ∀ d ∈ c :: a, isBlank d = true := List.forall_mem_cons.2 ⟨hc, ha⟩
        exact ⟨_, List.getLast?_eq_some_getLast (List.cons_ne_nil c a),
          hall _ (List.getLast_mem _)⟩
      · obtain ⟨-, hlength⟩ := lexeme_eq_comment here
        obtain ⟨-, hend⟩ := takeWhile_cut (Nat.succ.inj hlength).symm
        obtain ⟨d, hd, hne⟩ := hrest
        have := hend d hd
        simp at this
        exact absurd this hne
    · obtain ⟨d, hd, hblank⟩ := ih hb hrest hus
      refine ⟨d, ?_, hblank⟩
      rw [← List.cons_append, List.getLast?_append, Option.mem_def.1 hd]
      rfl
  | leaf => cases hus
  | group => cases hus

/-! ## What stands before and after a cut -/

/-- A stretch parts after any of its tokens. -/
theorem Lexes.split_append (us : List Token) (h : Lexes grouped shown rest pos (us ++ ts)) :
    ∃ a b, shown = a ++ b ∧ Lexes grouped a (b ++ rest) pos us ∧
      Lexes grouped b rest (pos.after a) ts ∧ (us = [] → a = []) ∧
        ∀ u ∈ us.getLast?, ∃ f s, a = f ++ s ∧ Shows grouped s (b ++ rest) (pos.after f) u := by
  induction us generalizing shown pos with
  | nil => exact ⟨[], shown, rfl, .nil _ _ _, h, fun _ => rfl, by simp⟩
  | cons u us ih =>
    obtain ⟨f, s, t, rfl, hf, hs, ht⟩ := h.split
    obtain ⟨a, b, rfl, ha, hb, hnil, hlast⟩ := ih ht
    rw [List.append_assoc] at hf hs
    rw [← List.append_assoc] at hf
    refine ⟨f ++ (s ++ a), b, by simp, hf.append (.cons hs ha), ?_, by simp, ?_⟩
    · rwa [Position.after_append, Position.after_append]
    · intro v hv
      cases us with
      | nil =>
        cases hv
        rw [hnil rfl, List.append_nil]
        rw [hnil rfl, List.nil_append] at hs
        exact ⟨f, s, rfl, hs⟩
      | cons w us =>
        rw [List.getLast?_cons_cons] at hv
        obtain ⟨g, s', rfl, hv⟩ := hlast v hv
        refine ⟨f ++ (s ++ g), s', by simp, ?_⟩
        rwa [Position.after_append, Position.after_append]

/-- A stretch parts before any of its tokens. -/
theorem Lexes.split_at (us : List Token) (h : Lexes grouped shown rest pos (us ++ u :: ts)) :
    ∃ f s t, shown = f ++ (s ++ t) ∧ Lexes grouped f (s ++ (t ++ rest)) pos us ∧
      Shows grouped s (t ++ rest) (pos.after f) u ∧
        Lexes grouped t rest ((pos.after f).after s) ts := by
  obtain ⟨a, b, rfl, ha, hb, -, -⟩ := h.split_append us
  obtain ⟨f, s, t, rfl, hf, hs, ht⟩ := hb.split
  rw [← Position.after_append pos a f] at hs ht
  refine ⟨a ++ f, s, t, by simp, ?_, hs, ht⟩
  have hboth : Lexes grouped (a ++ f) (s ++ (t ++ rest)) pos (us ++ []) :=
    .append (by simpa using ha) hf
  rwa [List.append_nil] at hboth

theorem exists_of_quotedEnd {q : Char} {n : Nat} (hq : isQuote q = true)
    (h : quotedEnd q s = some n) : ∃ b r, s = b ++ q :: r ∧ n = b.length + 1 := by
  have hb := ne_backslash_of_isQuote hq
  rw [quotedEnd] at h
  split at h
  · next htake =>
    split at h
    · next m hm =>
      cases h
      obtain ⟨b, r, hdrop, rfl⟩ := exists_of_longEnd hb hm
      refine ⟨q :: q :: b, r, ?_, rfl⟩
      rw [← List.take_append_drop 2 s, htake, hdrop]
      rfl
    · exact exists_of_shortEnd hb h
  · exact exists_of_shortEnd hb h

/-- Tokens do not end with a backslash, but for the backslash itself. -/
theorem Shows.getLast_ne (h : Shows grouped s rest pos u) (hu : u.isPunctuation ['\\'] = false) :
    s.getLast? ≠ some '\\' := by
  have hword : isWord '\\' = false := isWord_of_mark (by decide)
  -- a token that ends with a character of a word
  have hlast : ∀ {w v : Text} {d : Char}, (∀ c ∈ d :: w, isWord c = true) →
      (v ++ d :: w).getLast? ≠ some '\\' := by
    intro w v d hw h
    have hmem : '\\' ∈ d :: w := by
      rw [List.getLast?_append, List.getLast?_eq_some_getLast (List.cons_ne_nil d w),
        Option.some_or] at h
      rw [← Option.some.inj h]
      exact List.getLast_mem _
    rw [hw _ hmem] at hword
    cases hword
  cases h with
  | group d =>
    rw [← List.cons_append, List.getLast?_concat]
    cases d <;> decide
  | @leaf c s _ _ kind here =>
    rw [lexeme_eq_iff] at here
    generalize hn : s.length + 1 = n at here
    generalize hk : Lexeme.leaf kind = k at here
    cases here with
    | blanks | comment | openQuote | opening | closing => cases hk
    | sign hc =>
      obtain rfl : s = [] := List.length_eq_zero_iff.1 (Nat.succ.inj hn)
      rw [hc]
      decide
    | string hs =>
      obtain ⟨marks, q, b, k, heq, -, -, hq, hk, rfl⟩ := stringLength_eq_some hs
      obtain ⟨b, r, rfl, rfl⟩ := exists_of_quotedEnd hq hk
      have hcut : c :: s = marks ++ q :: (b ++ [q]) := by
        have hall : c :: s ++ rest = (marks ++ q :: (b ++ [q])) ++ r := by
          rw [List.cons_append, heq]
          simp
        refine (List.append_inj hall ?_).1
        simp only [List.length_append, List.length_cons, List.length_nil]
        omega
      rw [hcut, ← List.cons_append, ← List.append_assoc, List.getLast?_concat]
      intro h
      exact ne_backslash_of_isQuote hq (Option.some.inj h)
    | number =>
      obtain ⟨-, ⟨hw, -⟩ | ⟨w, d, v, hcut, -, hd, hv⟩⟩ := numberLength_cases (w := c :: s) hn.symm
      · exact hlast (v := []) hw
      · rw [hcut]
        have := hlast (v := w ++ ['.']) (List.forall_mem_cons.2 ⟨isWord_of_isDecimal hd, hv⟩)
        simpa using this
    | identifier =>
      exact hlast (v := []) (takeWhile_cut (s := c :: s) hn.symm).1
    | punctuation =>
      obtain rfl : s = [] := List.length_eq_zero_iff.1 (Nat.succ.inj hn)
      cases hk
      intro h
      obtain rfl : c = '\\' := by simpa using h
      cases hu

/-- What comes after a token is calm where the token and it are. -/
theorem Shows.calmer (h : Shows grouped s rest pos u) (hu : u.isPunctuation ['\\'] = false)
    (f : Text) : Calmer rest (f ++ (s ++ rest)) := by
  intro q hq hcalm
  rw [← List.append_assoc] at hcalm
  refine hcalm.of_append_right (ne_backslash_of_isQuote hq) ?_
  intro hlast
  cases hs : s.getLast? with
  | none => exact h.span_eq.1 (List.getLast?_eq_none_iff.1 hs)
  | some c =>
    rw [List.getLast?_append, hs, Option.some_or] at hlast
    exact h.getLast_ne hu (hs.trans hlast)

/-- What comes after blanks and comments is calm where they and it are. -/
theorem Lexes.calmer_of_nil (h : Lexes grouped s rest pos []) (hrest : rest.head? ≠ some '\n') :
    Calmer rest (s ++ rest) := by
  intro q hq hcalm
  cases rest with
  | nil => exact calm_nil q
  | cons d rest =>
    refine hcalm.of_append_right (ne_backslash_of_isQuote hq) ?_
    intro hlast
    by_cases hs : s = []
    · rw [hs] at hlast
      cases hlast
    · obtain ⟨c, hc, hblank⟩ := h.getLast_of_nil hs ⟨d, rfl, fun hd => hrest (congrArg some hd)⟩
      rw [Option.mem_def.1 hc] at hlast
      rw [Option.some.inj hlast] at hblank
      exact absurd hblank (by decide)

end

end XmlTemplate
