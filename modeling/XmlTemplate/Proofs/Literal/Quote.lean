import XmlTemplate.Script.Constant

/-!
# A literal for every text

Every text is the value of a string literal between double quotes: quotes of both kinds and
backslashes are escaped, and so are the characters that a literal may not hold as they are. The
literal is read back as the text (`readConstant_quote`), whatever the text is. Most characters may
be written in more ways than one, and what is said here holds for all of them (`IsBody`).
-/

set_option autoImplicit false

namespace XmlTemplate

theorem shortEnd_plain {quote c : Char} (hq : c ≠ quote) (hn : c ≠ '\n') (hb : c ≠ '\\')
    (s : Text) : shortEnd quote (c :: s) = (shortEnd quote s).map (· + 1) := by
  rw [shortEnd.eq_def]
  simp only [if_neg hq, if_neg hn, if_neg hb]

theorem shortEnd_escaped {quote : Char} (hq : '\\' ≠ quote) (c : Char) (s : Text) :
    shortEnd quote ('\\' :: c :: s) = (shortEnd quote s).map (· + 2) := by
  rw [shortEnd.eq_def]
  simp only [if_neg hq, if_true]
  rfl

namespace Literal

/-- A character as it stands in a literal between double quotes. -/
def escape (c : Char) : Text :=
  if c = '\\' || c = '\'' || c = '"' then ['\\', c]
  else if c = '\n' then ['\\', 'n']
  else if c = '\r' then ['\\', 'r']
  else if c = '\x00' then ['\\', 'x', '0', '0']
  else [c]

/-- The characters of a text between the quotes of a literal. -/
def quoteBody (s : Text) : Text := s.flatMap escape

/-- The literal between double quotes that stands for a text. -/
def quote (s : Text) : Text := '"' :: (quoteBody s ++ ['"'])

/-- The cases of an escape: a backslash with a character that stands for itself, one that stands for
the end of a line, the escape of the null character, and a character as it is. -/
theorem escape_cases (c : Char) :
    (escape c = ['\\', c] ∧ (c = '\\' ∨ c = '\'' ∨ c = '"')) ∨
    (escape c = ['\\', 'n'] ∧ c = '\n') ∨ (escape c = ['\\', 'r'] ∧ c = '\r') ∨
    (escape c = ['\\', 'x', '0', '0'] ∧ c = '\x00') ∨
    (escape c = [c] ∧ c ≠ '\\' ∧ c ≠ '\'' ∧ c ≠ '"' ∧ c ≠ '\n' ∧ c ≠ '\r' ∧ c ≠ '\x00') := by
  unfold escape
  split
  · next h => exact .inl ⟨rfl, by simpa [or_assoc] using h⟩
  · next h =>
    simp only [Bool.or_eq_true, decide_eq_true_eq, not_or] at h
    split
    · next hn => exact .inr (.inl ⟨rfl, hn⟩)
    · next hn =>
      split
      · next hr => exact .inr (.inr (.inl ⟨rfl, hr⟩))
      · next hr =>
        split
        · next h0 => exact .inr (.inr (.inr (.inl ⟨rfl, h0⟩)))
        · next h0 => exact .inr (.inr (.inr (.inr ⟨rfl, h.1.1, h.1.2, h.2, hn, hr, h0⟩)))

/-! ## Writing between double quotes -/

/-- The ways to write a character between double quotes: as it is, behind a backslash, or as the
escape of one that a literal may not hold. -/
inductive Writes : Char → Text → Prop
  | plain {c : Char} (hb : c ≠ '\\') (hq : c ≠ '"') (hn : c ≠ '\n') (hr : c ≠ '\r')
      (h0 : c ≠ '\x00') : Writes c [c]
  | backed {c : Char} (h : c = '\\' ∨ c = '\'' ∨ c = '"') : Writes c ['\\', c]
  | lineFeed : Writes '\n' ['\\', 'n']
  | carriageReturn : Writes '\r' ['\\', 'r']
  | null : Writes '\x00' ['\\', 'x', '0', '0']

/-- The text is written by the body, character by character. -/
inductive IsBody : (s body : Text) → Prop
  | nil : IsBody [] []
  | cons {c : Char} {e s body : Text} (first : Writes c e) (more : IsBody s body) :
      IsBody (c :: s) (e ++ body)

theorem IsBody.flatMap {f : Char → Text} (h : ∀ c, Writes c (f c)) (s : Text) :
    IsBody s (s.flatMap f) := by
  induction s with
  | nil => exact .nil
  | cons c s ih => exact .cons (h c) ih

theorem writes_escape (c : Char) : Writes c (escape c) := by
  rcases escape_cases c with
    ⟨he, h⟩ | ⟨he, rfl⟩ | ⟨he, rfl⟩ | ⟨he, rfl⟩ | ⟨he, hb, -, hq, hn, hr, h0⟩
  · rw [he]
    exact .backed h
  · rw [he]
    exact .lineFeed
  · rw [he]
    exact .carriageReturn
  · rw [he]
    exact .null
  · rw [he]
    exact .plain hb hq hn hr h0

/-- A text without a character that needs an escape is written as it is. -/
theorem IsBody.of_plain {s : Text} (h : ∀ c ∈ s, Writes c [c]) : IsBody s s := by
  induction s with
  | nil => exact .nil
  | cons c s ih =>
    obtain ⟨hc, hs⟩ := List.forall_mem_cons.1 h
    exact .cons hc (ih hs)

theorem isBody_quoteBody (s : Text) : IsBody s (quoteBody s) := .flatMap writes_escape s

section

variable {s body rest : Text}

/-- Line ends and null characters are never written as they are. -/
theorem IsBody.of_mem (h : IsBody s body) {c : Char} (hc : c ∈ body) :
    c ≠ '\n' ∧ c ≠ '\r' ∧ c ≠ '\x00' := by
  induction h with
  | nil => cases hc
  | cons first _ ih =>
    rcases List.mem_append.1 hc with hc | hc
    · cases first with
      | plain _ _ hn hr h0 =>
        obtain rfl := List.mem_singleton.1 hc
        exact ⟨hn, hr, h0⟩
      | backed h =>
        rcases h with rfl | rfl | rfl <;> simp at hc <;> rcases hc with rfl | rfl <;> decide
      | lineFeed | carriageReturn => simp at hc; rcases hc with rfl | rfl <;> decide
      | null => simp at hc; rcases hc with rfl | rfl | rfl <;> decide
    · exact ih hc

/-! ## Where the literal ends -/

theorem Writes.shortEnd_append {c : Char} {e : Text} (h : Writes c e) (s : Text) :
    shortEnd '"' (e ++ s) = (shortEnd '"' s).map (· + e.length) := by
  have hb : '\\' ≠ '"' := by decide
  cases h with
  | plain hb hq hn => exact shortEnd_plain hq hn hb s
  | backed | lineFeed | carriageReturn => exact shortEnd_escaped hb _ s
  | null =>
    refine (shortEnd_escaped hb 'x' ('0' :: '0' :: s)).trans ?_
    rw [shortEnd_plain (by decide) (by decide) (by decide),
      shortEnd_plain (by decide) (by decide) (by decide)]
    cases shortEnd '"' s <;> rfl

/-- The literal ends at its closing quote. -/
theorem IsBody.shortEnd_append (h : IsBody s body) (rest : Text) :
    shortEnd '"' (body ++ '"' :: rest) = some (body.length + 1) := by
  induction h with
  | nil =>
    rw [List.nil_append, shortEnd.eq_def]
    rfl
  | cons first _ ih =>
    rw [List.append_assoc, first.shortEnd_append, ih, List.length_append]
    simp only [Option.map_some, Option.some.injEq]
    omega

/-- The literal is a short one, unless it is empty and a further quote follows. -/
theorem IsBody.take_two (h : IsBody s body) (hrest : s ≠ [] ∨ rest.head? ≠ some '"') :
    (body ++ '"' :: rest).take 2 ≠ ['"', '"'] := by
  cases h with
  | nil =>
    intro htake
    cases rest with
    | nil => cases htake
    | cons c rest =>
      simp only [List.nil_append, List.take_succ_cons, List.take_zero, List.cons.injEq] at htake
      exact hrest.elim (fun h => h rfl) (fun h => h (congrArg some htake.2.1))
  | cons first =>
    -- what is written for a character does not start with a double quote
    intro htake
    cases first with
    | plain _ hq => exact hq (List.cons.inj htake).1
    | backed | lineFeed | carriageReturn | null => cases htake

/-! ## What it means -/

theorem Writes.unescape_append {c : Char} {e : Text} (h : Writes c e) (s : Text) :
    unescape false 0 (e ++ s) = (unescape false 0 s).map (c :: ·) := by
  cases h with
  | plain hb => simp [unescape, hb]
  | backed h => rcases h with rfl | rfl | rfl <;> simp [unescape, escapeAt]
  | lineFeed | carriageReturn => simp [unescape, escapeAt]
  | null =>
    have hnull : hexEscape 2 ('0' :: '0' :: s) = some (['\x00'], 3) := by
      have hvalue : (number? 16 ['0', '0']).bind character? = some '\x00' := by decide +kernel
      simp [hexEscape, hvalue]
    simp [unescape, escapeAt, hnull]

/-- The body of the literal stands for the text. -/
theorem IsBody.unescape_eq (h : IsBody s body) : unescape false 0 body = some s := by
  induction h with
  | nil => rfl
  | cons first _ ih => rw [first.unescape_append, ih]; rfl

theorem IsBody.read_eq (h : IsBody s body) :
    read ('"' :: (body ++ ['"'])) = some (.text s, ('"' :: (body ++ ['"'])).length) := by
  have hmarks : stringMarks ('"' :: (body ++ ['"'])) = 0 := by
    cases hs : body ++ ['"'] with
    | nil => simp at hs
    | cons d t => cases t <;> simp [stringMarks, isStringMark]
  have hbody : body? '"' (body ++ ['"']) = some (body, body.length + 1) := by
    rw [body?, if_neg (h.take_two (.inr (by simp))), h.shortEnd_append]
    simp
  have hflavour : flavour? (('"' :: (body ++ ['"'])).take 0) = some ⟨false, false⟩ := rfl
  rw [read, hmarks, hflavour]
  simp only [List.drop_zero, hbody]
  simp [isQuote, meaning?, h.unescape_eq]
  omega

end

end Literal

namespace Script

open Literal

/-- Only carriage returns are changed where line ends are made the same. -/
theorem unifyLineEnds_of_notMem {s : Text} (h : '\r' ∉ s) : unifyLineEnds s = s := by
  fun_induction unifyLineEnds s with
  | case1 => simp at h
  | case2 c s hcr ih =>
    obtain ⟨hc, hs⟩ : '\r' ≠ c ∧ '\r' ∉ s := by simpa [not_or] using h
    rw [if_neg (Ne.symm hc), ih hs]
  | case3 => rfl

/-- A literal between double quotes is a constant, the text that its body is written for. -/
theorem readConstant_of_isBody {s body : Text} (h : IsBody s body) :
    readConstant ('"' :: (body ++ ['"'])) = .ok (.text s) := by
  have hmem : ∀ c ∈ '"' :: (body ++ ['"']), c ≠ '\r' ∧ c ≠ '\x00' := by
    intro c hc
    simp only [List.mem_cons, List.mem_append, List.not_mem_nil, or_false] at hc
    rcases hc with rfl | hc | rfl
    · decide
    · exact (h.of_mem hc).2
    · decide
  have hunify := unifyLineEnds_of_notMem fun h => (hmem _ h).1 rfl
  have hdrop : ('"' :: (body ++ ['"'])).dropWhile (fun c => c == ' ' || c == '\t') =
      '"' :: (body ++ ['"']) := rfl
  have hnull : ('"' :: (body ++ ['"'])).contains '\x00' = false := by
    simp only [List.contains_eq_mem, decide_eq_false_iff_not]
    exact fun h => (hmem _ h).2 rfl
  rw [readConstant, hunify]
  simp only [hdrop, hnull, h.read_eq]
  simp [Constant.ofMeaning]

theorem readConstant_quote (s : Text) : readConstant (quote s) = .ok (.text s) :=
  readConstant_of_isBody (isBody_quoteBody s)

end Script

end XmlTemplate
