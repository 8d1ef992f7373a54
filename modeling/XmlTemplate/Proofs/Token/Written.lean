import XmlTemplate.Proofs.Token.Shows

/-!
# Writing tokens

What has to be written for a token to be read: marks, words and string literals, each as the first
token of a stretch.
-/

set_option autoImplicit false

namespace XmlTemplate

/-- Punctuation that is written for itself. -/
structure IsMark (c : Char) : Prop where
  lone : IsLone c
  notOpener : Delimiter.ofOpener? c = none
  notCloser : Delimiter.ofCloser? c = none
  notBackslash : c ≠ '\\'

theorem isMark_of_mem {c : Char} (h : c ∈ ['<', '>', '/', '=', '?', ',', '.', '|']) : IsMark c := by
  simp only [List.mem_cons, List.not_mem_nil, or_false] at h
  rcases h with rfl | rfl | rfl | rfl | rfl | rfl | rfl | rfl <;>
    exact ⟨⟨by decide, by decide, by decide, isWord_of_mark (by decide)⟩, by decide, by decide,
      by decide⟩

/-- Characters of words, of which the first is no digit. -/
structure IsWordText (w : Text) : Prop where
  filled : w ≠ []
  word : ∀ c ∈ w, isWord c = true
  noDigit : ∀ c ∈ w.head?, isDecimal c = false

variable {grouped : Bool} {s rest : Text} {pos : Position} {us : List Token}

theorem Lexes.mark {c : Char} (hc : IsMark c) (h : Lexes grouped s rest (pos.next c) us) :
    Lexes grouped (c :: s) rest pos (.leaf .punctuation [c] (pos.span 1) :: us) := by
  have here : lexeme grouped c ([] ++ (s ++ rest)) = (.leaf .punctuation, 1) :=
    lexeme_eq_iff.2 (.punctuation hc.lone hc.notOpener hc.notCloser)
  exact .leaf here h

/-- A mark at the head of a stretch is its first token. -/
theorem Lexes.of_mark {c : Char} (hc : IsMark c) {ts : List Token}
    (h : Lexes grouped (c :: s) rest pos ts) :
    ∃ us, ts = .leaf .punctuation [c] (pos.span 1) :: us ∧
      Lexes grouped s rest (pos.next c) us := by
  have here : lexeme grouped c ([] ++ (s ++ rest)) = (.leaf .punctuation, 1) :=
    lexeme_eq_iff.2 (.punctuation hc.lone hc.notOpener hc.notCloser)
  exact Lexes.of_leaf (s := []) h here

/-- A number sign before a square bracket. -/
theorem Lexes.sign (h : Lexes false ('[' :: s) rest (pos.next '#') us) :
    Lexes false ('#' :: '[' :: s) rest pos (.leaf .punctuation ['#'] (pos.span 1) :: us) := by
  have here : lexeme false '#' ([] ++ ('[' :: s ++ rest)) = (.leaf .punctuation, 1) :=
    lexeme_eq_iff.2 (.sign rfl rfl rfl)
  exact .leaf here h

theorem Lexes.space (hs : ∀ c ∈ (s ++ rest).head?, isBlank c = false)
    (h : Lexes grouped s rest (pos.next ' ') us) : Lexes grouped (' ' :: s) rest pos us := by
  have hblanks : (s ++ rest).takeWhile isBlank = [] := by
    cases h : s ++ rest with
    | nil => rfl
    | cons c t => rw [List.takeWhile_cons_of_neg (by simp [hs c (by rw [h]; rfl)])]
  have here : lexeme grouped ' ' ([] ++ (s ++ rest)) = (.blanks, 1) := by
    have hhere : IsLexeme grouped ' ' (s ++ rest) .blanks (((s ++ rest).takeWhile isBlank).length + 1) :=
      .blanks (by decide)
    rw [hblanks] at hhere
    exact lexeme_eq_iff.2 hhere
  exact .skip (.inl rfl) here h

/-- No string starts with a word that is not followed by a quote. -/
theorem stringLength_word {w v : Text} (hw : ∀ c ∈ w, isWord c = true)
    (hv : ∀ c ∈ v.head?, isWord c = false ∧ isQuote c = false) : stringLength (w ++ v) = none := by
  cases hs : stringLength (w ++ v) with
  | none => rfl
  | some n =>
    obtain ⟨q, u, rfl, hq, -⟩ := stringLength_word_quote hw (fun c hc => (hv c hc).1) hs
    rw [(hv q rfl).2] at hq
    cases hq

theorem Lexes.word {w : Text} (hw : IsWordText w)
    (hs : ∀ c ∈ (s ++ rest).head?, isWord c = false ∧ isQuote c = false)
    (h : Lexes grouped s rest (pos.after w) us) :
    Lexes grouped (w ++ s) rest pos (.leaf .identifier w (pos.span w.length) :: us) := by
  obtain ⟨c, t, rfl⟩ := List.exists_cons_of_ne_nil hw.filled
  have hlength : wordLength (c :: t ++ (s ++ rest)) = t.length + 1 :=
    wordLength_append hw.word fun d hd => (hs d hd).1
  have here : lexeme grouped c (t ++ (s ++ rest)) = (.leaf .identifier, t.length + 1) := by
    rw [← hlength, lexeme_eq_iff]
    exact .identifier (hw.word c (by simp)) (hw.noDigit c rfl) (stringLength_word hw.word hs)
  exact .leaf here h

/-- A literal between double quotes, which is a short one unless it is empty and a further quote
follows. -/
theorem lexeme_doubleQuoted {t body v : Text} (hbody : Literal.IsBody t body)
    (hv : t ≠ [] ∨ v.head? ≠ some '"') :
    lexeme grouped '"' ((body ++ ['"']) ++ v) = (.leaf .string, (body ++ ['"']).length + 1) := by
  have hend : quotedEnd '"' (body ++ '"' :: v) = some (body.length + 1) := by
    rw [quotedEnd, if_neg (hbody.take_two hv), hbody.shortEnd_append]
  have hlength : stringLength ('"' :: (body ++ '"' :: v)) = some (body.length + 1 + 1) := by
    rw [stringLength_of_isQuote rfl, hend]
    rfl
  rw [lexeme_eq_iff, List.append_assoc, List.length_append]
  exact .string hlength

/-- Such a literal is one token of a stretch that starts with it. -/
theorem Lexes.doubleQuoted {t body : Text} (hbody : Literal.IsBody t body)
    (hs : t ≠ [] ∨ (s ++ rest).head? ≠ some '"')
    (h : Lexes grouped s rest (pos.after ('"' :: (body ++ ['"']))) us) :
    Lexes grouped ('"' :: ((body ++ ['"']) ++ s)) rest pos
      (.leaf .string ('"' :: (body ++ ['"'])) (pos.span ((body ++ ['"']).length + 1)) :: us) :=
  .leaf (lexeme_doubleQuoted hbody hs) h

/-- There are no other tokens of a stretch that starts with such a literal. -/
theorem Lexes.of_doubleQuoted {t body : Text} {ts : List Token} (hbody : Literal.IsBody t body)
    (hs : t ≠ [] ∨ (s ++ rest).head? ≠ some '"')
    (h : Lexes grouped ('"' :: ((body ++ ['"']) ++ s)) rest pos ts) :
    ∃ us, ts = .leaf .string ('"' :: (body ++ ['"'])) (pos.span ((body ++ ['"']).length + 1)) :: us ∧
      Lexes grouped s rest (pos.after ('"' :: (body ++ ['"']))) us :=
  h.of_leaf (lexeme_doubleQuoted hbody hs)

/-- A literal between double quotes, if no further one follows. -/
theorem Lexes.quote {t : Text} (hs : (s ++ rest).head? ≠ some '"')
    (h : Lexes grouped s rest (pos.after (Literal.quote t)) us) :
    Lexes grouped (Literal.quote t ++ s) rest pos
      (.leaf .string (Literal.quote t) (pos.span (Literal.quote t).length) :: us) :=
  .doubleQuoted (Literal.isBody_quoteBody t) (.inr hs) h

end XmlTemplate
