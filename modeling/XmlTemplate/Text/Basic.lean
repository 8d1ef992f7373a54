/-!
# Text

Text is a list of characters: offsets count characters, and every scan is a recursion on the list.
Character classes are tables of code point ranges.
-/

set_option autoImplicit false

namespace XmlTemplate

/-- A text is the list of its characters. -/
abbrev Text := List Char

/-- Membership in one of the ranges, both ends included. -/
def inRanges (ranges : List (Nat × Nat)) (n : Nat) : Bool :=
  ranges.any fun r => decide (r.1 ≤ n) && decide (n ≤ r.2)

/-- Whether each range of the first table lies inside one range of the second. In ascending tables
the ranges inside of one range stand together, so that a single walk is enough. -/
def rangesWithin (inner outer : List (Nat × Nat)) : Bool :=
  (outer.foldl (fun left t => left.dropWhile fun r => decide (t.1 ≤ r.1) && decide (r.2 ≤ t.2))
    inner).isEmpty

/-- Whether no range of the first table meets a range of the second. -/
def rangesApart (left right : List (Nat × Nat)) : Bool :=
  left.all fun r => right.all fun t => decide (r.2 < t.1) || decide (t.2 < r.1)

theorem inRanges_iff {ranges : List (Nat × Nat)} {n : Nat} :
    inRanges ranges n = true ↔ ∃ r ∈ ranges, r.1 ≤ n ∧ n ≤ r.2 := by
  simp [inRanges]

theorem exists_of_rangesWithin {inner outer : List (Nat × Nat)} (h : rangesWithin inner outer = true)
    {r : Nat × Nat} (hr : r ∈ inner) : ∃ t ∈ outer, t.1 ≤ r.1 ∧ r.2 ≤ t.2 := by
  induction outer generalizing inner with
  | nil =>
    have hempty : inner = [] := List.isEmpty_iff.1 h
    rw [hempty] at hr
    cases hr
  | cons t outer ih =>
    rw [← List.takeWhile_append_dropWhile (l := inner)
      (p := fun r => decide (t.1 ≤ r.1) && decide (r.2 ≤ t.2)), List.mem_append] at hr
    rcases hr with hr | hr
    · have hinside := List.all_eq_true.1 List.all_takeWhile r hr
      simp only [Bool.and_eq_true, decide_eq_true_eq] at hinside
      exact ⟨t, List.mem_cons_self, hinside⟩
    · obtain ⟨u, hu, hinside⟩ := ih h hr
      exact ⟨u, List.mem_cons_of_mem t hu, hinside⟩

theorem inRanges_of_within {inner outer : List (Nat × Nat)} {n : Nat}
    (h : rangesWithin inner outer = true) (hn : inRanges inner n = true) :
    inRanges outer n = true := by
  obtain ⟨r, hr, h₁, h₂⟩ := inRanges_iff.1 hn
  obtain ⟨t, ht, h₃, h₄⟩ := exists_of_rangesWithin h hr
  exact inRanges_iff.2 ⟨t, ht, by omega, by omega⟩

theorem not_inRanges_of_apart {left right : List (Nat × Nat)} {n : Nat}
    (h : rangesApart left right = true) (hn : inRanges left n = true) :
    inRanges right n = false := by
  obtain ⟨r, hr, h₁, h₂⟩ := inRanges_iff.1 hn
  simp only [rangesApart, List.all_eq_true, Bool.or_eq_true, decide_eq_true_eq] at h
  rw [Bool.eq_false_iff]
  intro hm
  obtain ⟨t, ht, h₃, h₄⟩ := inRanges_iff.1 hm
  have := h r hr t ht
  omega

namespace Text

/-- The text without the longest end of characters in the class. -/
def dropWhileEnd (p : Char → Bool) (s : Text) : Text := (s.reverse.dropWhile p).reverse

/-- The text without the characters of the class at both ends. -/
def trimWhile (p : Char → Bool) (s : Text) : Text := dropWhileEnd p (s.dropWhile p)

/-- Whether the text occurs in the other as a run of neighbouring characters. -/
def occursIn (s : Text) : Text → Bool
  | [] => s.isEmpty
  | c :: t => s.isPrefixOf (c :: t) || occursIn s t

/-- The digits of a number in base ten. -/
def ofNat (n : Nat) : Text := Nat.toDigits 10 n

/-- A whole number in base ten, with a sign where it is negative. -/
def ofInt : Int → Text
  | .ofNat n => ofNat n
  | .negSucc n => '-' :: ofNat (n + 1)

/-- The last `width` digits of a number in base sixteen, small letters, filled up with zeros. -/
def ofHex : (width : Nat) → Nat → Text
  | 0, _ => []
  | width + 1, n => ofHex width (n / 16) ++ [Nat.digitChar (n % 16)]

end Text

end XmlTemplate
