import XmlTemplate.Proofs.Literal.Calm
import XmlTemplate.Proofs.Text.Spacing

/-!
# Strings with other blanks in them

Where the runs of blanks in a text are exchanged, a long string ends if it did before, after the
same quotes (`longEnd_respaced`), and a short string that ended ends there as well
(`shortEnd_respaced`). A run cannot slip out of reach of a backslash before it, since no run becomes
empty; and a run with a line feed that only a backslash allows to stand in a short string is a line
feed with blanks of the same line after it, and stays one.
-/

set_option autoImplicit false

namespace XmlTemplate

variable {ends : Char → Bool} {q c : Char} {s t w v a b : Text} {n m : Nat}

/-- Respaced texts parted after `n` characters and after `m` have respaced parts. -/
structure CutAlike (ends : Char → Bool) (s t : Text) (n m : Nat) : Prop where
  before : Respaced ends (s.take n) (t.take m)
  after : Respaced ends (s.drop n) (t.drop m)

namespace CutAlike

theorem append (h : CutAlike ends s t n m) (hw : Respaced ends w v) :
    CutAlike ends (w ++ s) (v ++ t) (n + w.length) (m + v.length) := by
  rw [Nat.add_comm n, Nat.add_comm m]
  constructor
  · rw [List.take_length_add_append, List.take_length_add_append]
    exact hw.append h.before
  · rw [List.drop_length_add_append, List.drop_length_add_append]
    exact h.after

/-- A filled stretch in front, with the cut after it. -/
theorem of_append (hw : Respaced ends w v) (h : Respaced ends s t) :
    CutAlike ends (w ++ s) (v ++ t) w.length v.length := by
  have hcut : CutAlike ends s t 0 0 := ⟨.nil, h⟩
  have := hcut.append hw
  rwa [Nat.zero_add, Nat.zero_add] at this

end CutAlike

theorem Respaced.take_two (hq : isBlank q = false) (h : Respaced ends s t) :
    s.take 2 = [q, q] ↔ t.take 2 = [q, q] := by
  have hshape : ∀ {u : Text}, u.take 2 = [q, q] ↔ ∃ r, u = [q, q] ++ r := by
    intro u
    constructor
    · intro htake
      exact ⟨u.drop 2, by rw [← htake, List.take_append_drop]⟩
    · rintro ⟨r, rfl⟩
      rfl
  rw [hshape, hshape]
  constructor
  · rintro ⟨r, rfl⟩
    obtain ⟨t, rfl, -⟩ := h.append_inv (by simpa using hq)
    exact ⟨t, rfl⟩
  · rintro ⟨r, rfl⟩
    obtain ⟨s, rfl, hs⟩ := h.cons_inv_right hq
    obtain ⟨s, rfl, -⟩ := hs.cons_inv_right hq
    exact ⟨s, rfl⟩

/-! ## Blanks within strings -/

theorem ne_of_isBlank (hq : isQuote q = true) (hc : isBlank c = true) : c ≠ q ∧ c ≠ '\\' := by
  refine ⟨?_, ?_⟩ <;> rintro rfl
  · rcases (by simpa [isQuote] using hq : c = '\'' ∨ c = '"') with rfl | rfl <;>
      exact absurd hc (by decide)
  · exact absurd hc (by decide)

theorem longEnd_blanks (hq : isQuote q = true) (hw : ∀ c ∈ w, isBlank c = true) (s : Text) :
    longEnd q (w ++ s) = (longEnd q s).map (· + w.length) := by
  induction w with
  | nil => simp
  | cons c w ih =>
    obtain ⟨hc, hw⟩ := List.forall_mem_cons.1 hw
    obtain ⟨hcq, hcb⟩ := ne_of_isBlank hq hc
    rw [List.cons_append, longEnd_plain hcq hcb, ih hw, Option.map_map]
    rfl

theorem shortEnd_blanks (hq : isQuote q = true) (hw : ∀ c ∈ w, isBlank c = true)
    (hline : '\n' ∉ w) (s : Text) : shortEnd q (w ++ s) = (shortEnd q s).map (· + w.length) := by
  induction w with
  | nil => simp
  | cons c w ih =>
    obtain ⟨hc, hw⟩ := List.forall_mem_cons.1 hw
    obtain ⟨hcq, hcb⟩ := ne_of_isBlank hq hc
    simp only [List.mem_cons, not_or] at hline
    rw [List.cons_append, shortEnd_plain hcq (Ne.symm hline.1) hcb, ih hw hline.2, Option.map_map]
    rfl

/-- No short string goes on after a line feed. -/
theorem shortEnd_line (hq : isQuote q = true) (hw : ∀ c ∈ w, isBlank c = true) (hline : '\n' ∈ w)
    (s : Text) : shortEnd q (w ++ s) = none := by
  have hn : '\n' ≠ q := (ne_of_isBlank hq (by decide)).1
  obtain ⟨x, y, rfl, hx⟩ := List.eq_append_cons_of_mem hline
  have hend : shortEnd q ('\n' :: (y ++ s)) = none := by
    rw [shortEnd.eq_def]
    simp only [if_neg hn, if_true]
  rw [List.append_assoc, List.cons_append, shortEnd_blanks hq (fun c hc => hw c (by simp [hc])) hx,
    hend]
  rfl

/-! ## The ends of strings -/

/-- A backslash in front takes the same character with it in both texts, or one blank of a run. -/
theorem Respaced.escaped_inv (h : Respaced ends ('\\' :: s) t) :
    (s = [] ∧ t = ['\\']) ∨
      (∃ c s' t', s = c :: s' ∧ t = '\\' :: c :: t' ∧ isBlank c = false ∧ Respaced ends s' t') ∨
      ∃ c d w v s' t', s = c :: (w ++ s') ∧ t = '\\' :: d :: (v ++ t') ∧
        Spaces ends (c :: w) (d :: v) ∧ Respaced ends s' t' := by
  obtain ⟨t, rfl, hrest⟩ := h.cons_inv (by decide)
  cases hrest with
  | nil => exact .inl ⟨rfl, rfl⟩
  | @cons c s' t' filled rest => exact .inr (.inl ⟨c, s', t', rfl, rfl, filled, rest⟩)
  | @gap w v s' t' spaces filled filled' rest =>
    obtain ⟨c, w, rfl⟩ := List.exists_cons_of_ne_nil spaces.before.1
    obtain ⟨d, v, rfl⟩ := List.exists_cons_of_ne_nil spaces.after.1
    exact .inr (.inr ⟨c, d, w, v, s', t', rfl, rfl, spaces, rest⟩)

/-- A long string ends in both texts or in none. -/
theorem longEnd_respaced (hq : isQuote q = true) (h : Respaced ends s t) :
    Option.Rel (CutAlike ends s t) (longEnd q s) (longEnd q t) := by
  have hb := ne_backslash_of_isQuote hq
  have hfilled : isBlank q = false := by
    rw [Bool.eq_false_iff]
    intro hblank
    exact (ne_of_isBlank hq hblank).1 rfl
  -- a stretch in front that no string ends in
  have hfront : ∀ {w v s t : Text} {x y : Option Nat}, Respaced ends w v →
      Option.Rel (CutAlike ends s t) x y →
      Option.Rel (CutAlike ends (w ++ s) (v ++ t)) (x.map (· + w.length)) (y.map (· + v.length)) := by
    intro w v s t x y hw hrel
    cases hrel with
    | none => exact .none
    | some hcut => exact .some (hcut.append hw)
  -- on the length, since a backslash takes a character with it
  induction hn : s.length using Nat.strongRecOn generalizing s t with
  | _ n ih =>
    cases h with
    | nil => exact .none
    | @gap w v s t spaces filled filled' rest =>
      have hpos := List.length_pos_iff.2 spaces.before.1
      rw [longEnd_blanks hq spaces.before.2, longEnd_blanks hq spaces.after.2]
      refine hfront (.of_spaces spaces) (ih s.length ?_ rest rfl)
      rw [← hn, List.length_append]
      omega
    | @cons c s t filled rest =>
      rw [List.length_cons] at hn
      by_cases hcq : c = q
      · subst hcq
        rw [longEnd_quote hb, longEnd_quote hb]
        have htwo := rest.take_two filled
        by_cases htake : s.take 2 = [c, c]
        · rw [if_pos htake, if_pos (htwo.1 htake)]
          obtain ⟨r, rfl⟩ : ∃ r, s = [c, c] ++ r :=
            ⟨s.drop 2, by rw [← htake, List.take_append_drop]⟩
          obtain ⟨r', rfl, hr⟩ := rest.append_inv (by simpa using filled)
          exact .some (CutAlike.of_append (w := [c, c, c]) (v := [c, c, c]) (.refl ends _) hr)
        · rw [if_neg htake, if_neg (mt htwo.2 htake)]
          exact hfront (w := [c]) (v := [c]) (.refl ends _) (ih s.length (by omega) rest rfl)
      · by_cases hcb : c = '\\'
        · subst hcb
          rcases (Respaced.cons filled rest).escaped_inv with
            ⟨rfl, ht⟩ | ⟨c, s', t', rfl, ht, hc, hrest⟩ |
            ⟨c, d, w, v, s', t', rfl, ht, spaces, hrest⟩
          · obtain rfl := (List.cons.inj ht).2
            have hnone : longEnd q ['\\'] = none := calm_backslash hb
            rw [hnone]
            exact .none
          · obtain rfl := (List.cons.inj ht).2
            rw [longEnd_escaped hb, longEnd_escaped hb]
            refine hfront (w := ['\\', c]) (v := ['\\', c]) (.refl ends _) (ih s'.length ?_ hrest rfl)
            rw [← hn, List.length_cons]
            omega
          · obtain rfl := (List.cons.inj ht).2
            obtain ⟨-, hw⟩ := List.forall_mem_cons.1 spaces.before.2
            obtain ⟨-, hv⟩ := List.forall_mem_cons.1 spaces.after.2
            rw [longEnd_escaped hb, longEnd_escaped hb, longEnd_blanks hq hw, longEnd_blanks hq hv,
              Option.map_map, Option.map_map]
            refine hfront (.cons filled (.of_spaces spaces)) (ih s'.length ?_ hrest rfl)
            rw [← hn, List.length_cons, List.length_append]
            omega
        · rw [longEnd_plain hcq hcb, longEnd_plain hcq hcb]
          exact hfront (w := [c]) (v := [c]) (.refl ends _) (ih s.length (by omega) rest rfl)

/-- A short string that ends in the first text ends in the other one as well. -/
theorem shortEnd_respaced (hq : isQuote q = true) (h : Respaced ends s t) {n : Nat}
    (hs : shortEnd q s = some n) : ∃ m, shortEnd q t = some m ∧ CutAlike ends s t n m := by
  have hb := ne_backslash_of_isQuote hq
  have hline : ∀ {w s : Text} {k : Nat}, (∀ c ∈ w, isBlank c = true) →
      shortEnd q (w ++ s) = some k → '\n' ∉ w ∧ ∃ l, shortEnd q s = some l ∧ k = l + w.length := by
    intro w s k hw hs
    by_cases hmem : '\n' ∈ w
    · rw [shortEnd_line hq hw hmem] at hs
      cases hs
    · rw [shortEnd_blanks hq hw hmem] at hs
      obtain ⟨l, hl, rfl⟩ := Option.map_eq_some_iff.1 hs
      exact ⟨hmem, l, hl, rfl⟩
  -- on the length, since a backslash takes a character with it
  induction hlength : s.length using Nat.strongRecOn generalizing s t n with
  | _ k ih =>
    cases h with
    | nil => cases hs
    | @gap w v s t spaces filled filled' rest =>
      have hpos := List.length_pos_iff.2 spaces.before.1
      obtain ⟨hmem, l, hl, rfl⟩ := hline spaces.before.2 hs
      obtain ⟨m, hm, hcut⟩ := ih s.length (by
        rw [← hlength, List.length_append]
        omega) rest hl rfl
      refine ⟨m + v.length, ?_, hcut.append (.of_spaces spaces)⟩
      rw [shortEnd_blanks hq spaces.after.2 (mt spaces.line.2 hmem), hm]
      rfl
    | @cons c s t filled rest =>
      rw [List.length_cons] at hlength
      by_cases hcq : c = q
      · subst hcq
        have hend : ∀ u, shortEnd c (c :: u) = some 1 := by
          intro u
          rw [shortEnd.eq_def]
          simp
        rw [hend] at hs
        cases hs
        exact ⟨1, hend t, CutAlike.of_append (w := [c]) (v := [c]) (.refl ends _) rest⟩
      · by_cases hcb : c = '\\'
        · subst hcb
          rcases (Respaced.cons filled rest).escaped_inv with
            ⟨rfl, -⟩ | ⟨c, s', t', rfl, ht, hc, hrest⟩ |
            ⟨c, d, w, v, s', t', rfl, ht, spaces, hrest⟩
          · rw [shortEnd.eq_def] at hs
            simp [hb.symm] at hs
          · obtain rfl := (List.cons.inj ht).2
            rw [shortEnd_escaped hb.symm] at hs ⊢
            obtain ⟨l, hl, rfl⟩ := Option.map_eq_some_iff.1 hs
            obtain ⟨m, hm, hcut⟩ := ih s'.length (by
              rw [← hlength, List.length_cons]
              omega) hrest hl rfl
            refine ⟨m + 2, by rw [hm]; rfl, ?_⟩
            exact hcut.append (w := ['\\', c]) (v := ['\\', c]) (.refl ends _)
          · obtain rfl := (List.cons.inj ht).2
            obtain ⟨-, hw⟩ := List.forall_mem_cons.1 spaces.before.2
            obtain ⟨-, hv⟩ := List.forall_mem_cons.1 spaces.after.2
            rw [shortEnd_escaped hb.symm] at hs ⊢
            obtain ⟨l, hl, rfl⟩ := Option.map_eq_some_iff.1 hs
            obtain ⟨hmem, k', hk', rfl⟩ := hline hw hl
            obtain ⟨m, hm, hcut⟩ := ih s'.length (by
              rw [← hlength, List.length_cons, List.length_append]
              omega) hrest hk' rfl
            rw [shortEnd_blanks hq hv (spaces.tail_line hmem), hm]
            exact ⟨_, rfl, hcut.append (.cons filled (.of_spaces spaces))⟩
        · have hcn : c ≠ '\n' := by
            rintro rfl
            exact absurd filled (by decide)
          rw [shortEnd_plain hcq hcn hcb] at hs ⊢
          obtain ⟨l, hl, rfl⟩ := Option.map_eq_some_iff.1 hs
          obtain ⟨m, hm, hcut⟩ := ih s.length (by omega) rest hl rfl
          exact ⟨m + 1, by rw [hm]; rfl, hcut.append (w := [c]) (v := [c]) (.refl ends _)⟩

end XmlTemplate
