import XmlTemplate.Text.Basic

/-!
# Where a string literal ends

A string literal stands between quotes, single or double, one on each side or three, and up to two
letters may stand before it. A backslash takes the next character with it, so that an escaped quote
closes nothing. The functions here find the end of a literal and do not look at what it means; both
ends lie inside the text (`shortEnd_bounds`, `longEnd_bounds`).
-/

set_option autoImplicit false

namespace XmlTemplate

/-- The characters around strings. -/
def isQuote (c : Char) : Bool := c == '\'' || c == '"'

/-- The letters that may stand before a string. -/
def isStringMark (c : Char) : Bool :=
  c == 'r' || c == 'R' || c == 'b' || c == 'B' || c == 'u' || c == 'U' || c == 'f' || c == 'F'

/-- The number of letters, two at most, that stand before a quote. -/
def stringMarks : Text → Nat
  | c :: d :: e :: _ =>
    if isStringMark c && isStringMark d && isQuote e then 2
    else if isStringMark c && isQuote d then 1 else 0
  | [c, d] => if isStringMark c && isQuote d then 1 else 0
  | _ => 0

/-- The length up to and with the quote that closes a short string; a backslash takes the next
character with it, and a line feed may only stand after one. -/
def shortEnd (quote : Char) : Text → Option Nat
  | [] => none
  | c :: s =>
    if c = quote then some 1
    else if c = '\n' then none
    else if c = '\\' then
      match s with
      | [] => none
      | _ :: s' => (shortEnd quote s').map (· + 2)
    else (shortEnd quote s).map (· + 1)

/-- The length up to and with the three quotes that close a long string. -/
def longEnd (quote : Char) : Text → Option Nat
  | [] => none
  | c :: s =>
    if c = quote && s.take 2 == [quote, quote] then some 3
    else if c = '\\' then
      match s with
      | [] => none
      | _ :: s' => (longEnd quote s').map (· + 2)
    else (longEnd quote s).map (· + 1)

theorem shortEnd_bounds (quote : Char) (s : Text) (n : Nat) (h : shortEnd quote s = some n) :
    0 < n ∧ n ≤ s.length := by
  fun_induction shortEnd quote s generalizing n with
  | case1 => simp at h
  | case2 => simp only [Option.some.injEq, List.length_cons] at *; omega
  | case3 => simp at h
  | case4 => simp at h
  | case5 _ _ _ _ ih =>
    obtain ⟨m, hm, rfl⟩ := Option.map_eq_some_iff.1 h
    have := ih m hm
    simp only [List.length_cons]; omega
  | case6 _ s _ _ _ ih =>
    obtain ⟨m, hm, rfl⟩ := Option.map_eq_some_iff.1 h
    have := ih m hm
    simp only [List.length_cons]; omega

theorem longEnd_bounds (quote : Char) (s : Text) (n : Nat) (h : longEnd quote s = some n) :
    0 < n ∧ n ≤ s.length := by
  fun_induction longEnd quote s generalizing n with
  | case1 => simp at h
  | case2 c s hc =>
    simp only [Bool.and_eq_true, decide_eq_true_eq, beq_iff_eq] at hc
    have hl : (s.take 2).length = 2 := by rw [hc.2]; rfl
    simp only [List.length_take] at hl
    simp only [Option.some.injEq, List.length_cons] at *
    omega
  | case3 => simp at h
  | case4 _ _ _ ih =>
    obtain ⟨m, hm, rfl⟩ := Option.map_eq_some_iff.1 h
    have := ih m hm
    simp only [List.length_cons]; omega
  | case5 _ s _ _ ih =>
    obtain ⟨m, hm, rfl⟩ := Option.map_eq_some_iff.1 h
    have := ih m hm
    simp only [List.length_cons]; omega

end XmlTemplate
