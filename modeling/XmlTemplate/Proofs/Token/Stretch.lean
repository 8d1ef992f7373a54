import XmlTemplate.Proofs.Token.Shows

/-!
# A stretch outside of groups

Outside of groups a number sign may be a mark, which depends on what comes after it: on a square
bracket that follows on the same line. A stretch that ends with a token keeps its tokens when what
comes after it is exchanged (`Lexes.swap_end`), as it does inside of a group, if no number sign at
its end could be a mark.
-/

set_option autoImplicit false

namespace XmlTemplate

/-! ## Marks -/

theorem opensDirective_space {c : Char} (h : (c == ' ' || c == '\t') = true) (s : Text) :
    opensDirective (c :: s) = opensDirective s := by
  rw [opensDirective, List.dropWhile_cons_of_pos (by simpa using h), opensDirective]

theorem opensDirective_other {c : Char} (h : (c == ' ' || c == '\t') = false) (s : Text) :
    opensDirective (c :: s) = (c == '[') := by
  rw [opensDirective, List.dropWhile_cons_of_neg (by simp [h])]
  split
  · next heq =>
    obtain ⟨rfl, -⟩ := List.cons.inj heq
    rfl
  · next hne =>
    symm
    rw [beq_eq_false_iff_ne]
    rintro rfl
    exact hne s rfl

/-- Whether a number sign is a mark is settled by the first character that is neither a space nor a
tab. -/
theorem opensDirective_append {s : Text} (h : ∃ c ∈ s, (c == ' ' || c == '\t') = false)
    (v v' : Text) : opensDirective (s ++ v) = opensDirective (s ++ v') := by
  induction s with
  | nil =>
    obtain ⟨c, hc, -⟩ := h
    cases hc
  | cons c s ih =>
    rw [List.cons_append, List.cons_append]
    cases hc : c == ' ' || c == '\t' with
    | true =>
      rw [opensDirective_space hc, opensDirective_space hc]
      obtain ⟨d, hd, hno⟩ := h
      rcases List.mem_cons.1 hd with rfl | hd
      · rw [hc] at hno
        cases hno
      · exact ih ⟨d, hd, hno⟩
    | false => rw [opensDirective_other hc, opensDirective_other hc]

/-- Blanks before something that makes no number sign a mark make none either. -/
theorem opensDirective_of_blanks {s v : Text} (h : ∀ c ∈ s, isBlank c = true)
    (hv : opensDirective v = false) : opensDirective (s ++ v) = false := by
  induction s with
  | nil => exact hv
  | cons c s ih =>
    obtain ⟨hblank, hs⟩ := List.forall_mem_cons.1 h
    rw [List.cons_append]
    cases hc : c == ' ' || c == '\t' with
    | true => rw [opensDirective_space hc, ih hs]
    | false =>
      rw [opensDirective_other hc, beq_eq_false_iff_ne]
      rintro rfl
      exact absurd hblank (by decide)

theorem Lexes.opensDirective_of_nil {grouped : Bool} {s rest : Text} {pos : Position}
    (h : Lexes grouped s rest pos []) (hrest : opensDirective rest = false) :
    opensDirective (s ++ rest) = false := by
  generalize hus : ([] : List Token) = us at h
  induction h with
  | nil => exact hrest
  | @skip _ c s t rest pos _ k hk here _ ih =>
    rw [← List.cons_append, List.append_assoc]
    rcases hk with rfl | rfl
    · obtain ⟨hc, hlength⟩ := lexeme_eq_blanks here
      obtain ⟨hs, -⟩ := takeWhile_cut (Nat.succ.inj hlength).symm
      exact opensDirective_of_blanks (s := c :: s) (List.forall_mem_cons.2 ⟨hc, hs⟩) (ih hrest hus)
    · obtain ⟨rfl, -⟩ := lexeme_eq_comment here
      exact opensDirective_other rfl _
  | leaf => cases hus
  | group => cases hus

/-- A number sign that is a token is a mark. -/
theorem lexeme_eq_sign {grouped : Bool} {s : Text} {kind : Kind} {n : Nat}
    (h : lexeme grouped '#' s = (.leaf kind, n)) :
    grouped = false ∧ opensDirective s = true ∧ kind = .punctuation ∧ n = 1 := by
  have hw : isWord '#' = false := isWord_of_mark (by decide)
  rw [lexeme_eq_iff] at h
  generalize hk : Lexeme.leaf kind = k at h
  cases h with
  | blanks | comment | openQuote | opening | closing => cases hk
  | sign _ hg h => exact ⟨hg, h, Lexeme.leaf.inj hk, rfl⟩
  | string h =>
    rw [stringLength_of_notMark (isStringMark_of_notWord hw) rfl] at h
    cases h
  | number h =>
    rw [isDecimal_of_notWord hw] at h
    cases h
  | identifier h =>
    rw [hw] at h
    cases h
  | punctuation h => exact absurd rfl h.notSign

/-! ## Stretches -/

theorem mem_getLast?_cons {t u : Token} {ts : List Token} (h : u ∈ ts.getLast?) :
    u ∈ (t :: ts).getLast? := by
  cases ts with
  | nil => cases h
  | cons v vs => rwa [List.getLast?_cons_cons]

/-- A comment goes up to the end of its line, so that its number sign stays none. -/
theorem opensDirective_of_comment {c d : Char} {s t v : Text} {grouped : Bool}
    (here : lexeme grouped c (s ++ (d :: t ++ v)) = (.comment, s.length + 1)) (v' : Text) :
    opensDirective (s ++ (d :: t ++ v)) = opensDirective (s ++ (d :: t ++ v')) := by
  obtain ⟨-, hlength⟩ := lexeme_eq_comment here
  obtain ⟨-, hend⟩ := takeWhile_cut (Nat.succ.inj hlength).symm
  obtain rfl : d = '\n' := by simpa using hend d rfl
  rw [← List.append_assoc, ← List.append_assoc]
  exact opensDirective_append ⟨'\n', by simp, rfl⟩ v v'

/-- A stretch outside of groups that ends with a token keeps its tokens. -/
theorem Lexes.keep_end {shown rest : Text} {pos : Position} {ts : List Token}
    (h : Lexes false shown rest pos ts) (hnil : ts = [] → shown = [])
    (hlast : ∀ u ∈ ts.getLast?, u.span.stop = pos.offset + shown.length) {x x' : Char} {r r' : Text}
    (hrest : rest = x :: r) (hx : IsStop x) (hopens : opensDirective rest = false) (hx' : IsStop x')
    (hr : Calmer r' r) : Lexes false shown (x' :: r') pos ts := by
  generalize hg : false = grouped at h
  induction h with
  | nil => exact hg ▸ .nil _ _ _
  | @skip grouped c s t rest pos ts k hk here after ih =>
    subst hg hrest
    have hfilled : ts ≠ [] := fun h => by cases hnil h
    -- the token at the end stands after these blanks or this comment
    obtain ⟨d, t, rfl⟩ : ∃ d u, t = d :: u := by
      cases t with
      | nil =>
        cases after
        exact absurd rfl hfilled
      | cons d t => exact ⟨d, t, rfl⟩
    have hlexes := ih (fun h => absurd h hfilled) (fun u hu => by
      rw [hlast u hu, Position.offset_after]
      simp only [List.length_cons, List.length_append]
      omega) rfl hopens rfl
    refine .skip hk (lexeme_skip_swap (v := d :: t ++ x :: r) hk rfl ?_ here) hlexes
    rintro rfl
    rw [opensDirective_of_comment here]
  | @leaf grouped c s t rest pos ts kind here after ih =>
    subst hg hrest
    have hempty : ts = [] → t = [] := by
      rintro rfl
      have hstop := hlast (.leaf kind (c :: s) (pos.span (s.length + 1))) rfl
      simp only [Token.span, Position.span, List.length_cons, List.length_append] at hstop
      exact List.length_eq_zero_iff.1 (by omega)
    have hlexes := ih hempty (fun u hu => by
      rw [hlast u (mem_getLast?_cons hu), Position.offset_after]
      simp only [List.length_cons, List.length_append]
      omega) rfl hopens rfl
    refine .leaf ?_ hlexes
    by_cases hc : c = '#'
    · -- the bracket that makes the number sign a mark stands in the stretch
      subst hc
      obtain ⟨-, hmark, rfl, hn⟩ := lexeme_eq_sign here
      obtain rfl : s = [] := List.length_eq_zero_iff.1 (Nat.succ.inj hn)
      have hbracket : ∃ d ∈ t, (d == ' ' || d == '\t') = false := by
        by_cases h : ∃ d ∈ t, (d == ' ' || d == '\t') = false
        · exact h
        · have hspaces : ∀ d ∈ t, isBlank d = true := by
            intro d hd
            cases hspace : d == ' ' || d == '\t' with
            | false => exact absurd ⟨d, hd, hspace⟩ h
            | true =>
              rw [Bool.or_eq_true] at hspace
              rcases hspace with h | h <;> rw [eq_of_beq h] <;> decide
          rw [List.nil_append, opensDirective_of_blanks hspaces hopens] at hmark
          cases hmark
      rw [List.nil_append, opensDirective_append hbracket (x :: r) (x' :: r')] at hmark
      exact lexeme_eq_iff.2 (.sign rfl rfl hmark)
    · refine lexeme_leaf_swap hx hx' hr hc ?_ here
      rintro q u rfl hq
      exact after.stringLength_ne_none hq
  | @group grouped d inner t rest pos children ts inside after _ ih =>
    subst hg hrest
    have hempty : ts = [] → t = [] := by
      rintro rfl
      have hstop := hlast (.group d inner (pos.span (inner.length + 2)) children) rfl
      simp only [Token.span, Position.span, List.length_cons, List.length_append] at hstop
      exact List.length_eq_zero_iff.1 (by omega)
    have hinside := inside.keep rfl d.isStop_closer (hr.append_cons hx hx' t)
    have hlexes := ih hempty (fun u hu => by
      rw [hlast u (mem_getLast?_cons hu)]
      simp only [Position.offset_next, Position.offset_after, List.length_cons, List.length_append]
      omega) rfl hopens rfl
    exact .group d hinside hlexes

/-- A stretch outside of groups that ends with a token keeps its tokens wherever it stands. -/
theorem Lexes.swap_end {shown rest : Text} {pos : Position} {ts : List Token}
    (h : Lexes false shown rest pos ts) (hnil : ts = [] → shown = [])
    (hlast : ∀ u ∈ ts.getLast?, u.span.stop = pos.offset + shown.length) {x x' : Char} {r r' : Text}
    (hrest : rest = x :: r) (hx : IsStop x) (hopens : opensDirective rest = false) (hx' : IsStop x')
    (hr : Calmer r' r) {i j : Nat} {pos' : Position} (hpos : pos.offset + j = pos'.offset + i) :
    ∃ ts', Lexes false shown (x' :: r') pos' ts' ∧ ShiftedAll i j ts ts' :=
  (h.keep_end hnil hlast hrest hx hopens hx' hr).shifted hpos

end XmlTemplate
