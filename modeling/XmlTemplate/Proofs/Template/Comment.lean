import Mathlib.Data.List.TakeWhile
import XmlTemplate.Proofs.Template.Body
import XmlTemplate.Script.Parser

/-!
# A comment on the line of the argument

The lines below the line of the argument become its block if that line ends with a colon, and what
the line ends with is its last character that is not blank, whether that is code or belongs to a
comment. So a comment leaves the block as it is exactly if it ends with a colon where the code
before it does (`bodyBlock_comment_iff`).
-/

set_option autoImplicit false

namespace XmlTemplate

open Text

variable {s t f c r : Text}

/-! ## What a text ends with -/

namespace Text

/-- What is left without an end in the class ends with the last character outside of it. -/
theorem getLast?_dropWhileEnd (p : Char → Bool) (s : Text) :
    (dropWhileEnd p s).getLast? = s.reverse.find? (fun d => !p d) := by
  rw [dropWhileEnd, List.getLast?_reverse, List.find?_not_eq_head?_dropWhile]

/-- Nothing that is trimmed at the start stands at the end of what is left. -/
theorem getLast?_trimWhile (p : Char → Bool) (s : Text) :
    (trimWhile p s).getLast? = (dropWhileEnd p s).getLast? := by
  have hstart : (s.takeWhile p).reverse.find? (fun d => !p d) = none := by
    rw [List.find?_eq_none]
    intro d hd
    simp [List.all_eq_true.1 List.all_takeWhile d (List.mem_reverse.1 hd)]
  have hcut := congrArg List.reverse (List.takeWhile_append_dropWhile (p := p) (l := s))
  rw [List.reverse_append] at hcut
  rw [trimWhile, getLast?_dropWhileEnd, getLast?_dropWhileEnd, ← hcut, List.find?_append, hstart,
    Option.or_none]

/-- Behind a comment sign, a line ends as the comment does, or with the sign. -/
theorem getLast?_trimEnd_comment (f c : Text) :
    (trimEnd (f ++ ' ' :: '#' :: c)).getLast? = c.trimEnd.getLast?.or (some '#') := by
  have hsign : ('#' :: ' ' :: f.reverse).find? (fun d => !isBlank d) = some '#' := rfl
  rw [trimEnd, getLast?_dropWhileEnd, trimEnd, getLast?_dropWhileEnd, ← hsign, ← List.find?_append]
  simp

end Text

/-! ## The block of the first line -/

/-- Whether the lines below become a block hangs on the last character of the first line. -/
theorem bodyBlock_append_cons (hf : '\n' ∉ f) :
    bodyBlock (f ++ '\n' :: r) = if f.trimEnd.getLast? = some ':'
      then indentLines blockMargin (bodyBelow ('\n' :: r)) else bodyBelow ('\n' :: r) := by
  rw [bodyBlock, bodyFirst_append_cons hf, bodyBelow_append_cons hf, trim, getLast?_trimWhile,
    trimEnd]

/-- Behind a comment the lines below become a block if the comment ends with a colon, whatever the
code before it is. -/
theorem bodyBlock_comment (hf : '\n' ∉ f) (hc : '\n' ∉ c) :
    bodyBlock (f ++ ' ' :: '#' :: c ++ '\n' :: r) = if c.trimEnd.getLast? = some ':'
      then indentLines blockMargin (bodyBelow ('\n' :: r)) else bodyBelow ('\n' :: r) := by
  have hline : '\n' ∉ f ++ ' ' :: '#' :: c := by simp [hf, hc]
  have hlast : (trimEnd (f ++ ' ' :: '#' :: c)).getLast? = some ':' ↔
      c.trimEnd.getLast? = some ':' := by
    rw [getLast?_trimEnd_comment]
    cases c.trimEnd.getLast? <;> simp
  rw [bodyBlock_append_cons hline]
  simp only [hlast]

/-- A comment on the line of the argument leaves the lines below as they stand in the program exactly
if there are none, or the comment ends with a colon where the code before it does. -/
theorem bodyBlock_comment_iff (hf : '\n' ∉ f) (hc : '\n' ∉ c) :
    bodySource (f ++ '\n' :: r) = stacked f.trim (bodyBlock (f ++ '\n' :: r)) ∧
    bodySource (f ++ ' ' :: '#' :: c ++ '\n' :: r) =
      stacked (trim (f ++ ' ' :: '#' :: c)) (bodyBlock (f ++ ' ' :: '#' :: c ++ '\n' :: r)) ∧
    (bodyBlock (f ++ ' ' :: '#' :: c ++ '\n' :: r) = bodyBlock (f ++ '\n' :: r) ↔
      bodyBelow ('\n' :: r) = [] ∨
        (f.trimEnd.getLast? = some ':' ↔ c.trimEnd.getLast? = some ':')) := by
  have hline : '\n' ∉ f ++ ' ' :: '#' :: c := by simp [hf, hc]
  refine ⟨?_, ?_, ?_⟩
  · rw [bodySource_eq_stacked, bodyFirst_append_cons hf]
  · rw [bodySource_eq_stacked, bodyFirst_append_cons hline]
  by_cases hbelow : bodyBelow ('\n' :: r) = []
  · rw [bodyBlock_comment hf hc, bodyBlock_append_cons hf, hbelow]
    simp [indentLines, lines]
  · have hindent := indentLines_ne_self (m := blockMargin) (by decide) (allBlank_bodyBelow hbelow)
    rw [bodyBlock_comment hf hc, bodyBlock_append_cons hf]
    by_cases hcode : f.trimEnd.getLast? = some ':' <;>
      by_cases hcomment : c.trimEnd.getLast? = some ':' <;>
      simp [hcode, hcomment, hbelow, hindent, hindent.symm]

-- a comment that ends with a colon makes a block below a statement that opens none
example : Script.program? (bodySource " d.text(1) # note\n  d.text(2)".toList) ≠ none ∧
    Script.program? (bodySource " d.text(1) # note:\n  d.text(2)".toList) = none := by
  decide +kernel

/-- A comment behind the colon of a loop takes the lines below out of its block, and the body, which
was a program, is none any more. -/
theorem bodyBlock_comment_iff_opener :
    ('\n' ∉ " for x in xs:".toList ∧ '\n' ∉ " each".toList) ∧
      bodyBlock " for x in xs: # each\n  d.text(x)".toList ≠
        bodyBlock " for x in xs:\n  d.text(x)".toList ∧
      (Script.program? (bodySource " for x in xs:\n  d.text(x)".toList)).isSome = true ∧
      (Script.program? (bodySource " for x in xs: # each\n  d.text(x)".toList)).isSome = false := by
  have hf : '\n' ∉ " for x in xs:".toList := by decide
  have hc : '\n' ∉ " each".toList := by decide
  refine ⟨⟨hf, hc⟩, ?_, by decide +kernel, by decide +kernel⟩
  intro heq
  have := (bodyBlock_comment_iff (r := "  d.text(x)".toList) hf hc).2.2.1 heq
  revert this
  decide +kernel

end XmlTemplate
