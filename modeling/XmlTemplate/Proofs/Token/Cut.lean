import Mathlib.Data.List.Basic
import XmlTemplate.Proofs.Token.Tiling

/-!
# Stretches of a source

`ShowsAt` says which text the source shows between two offsets. A group stands there with its
delimiters around its text (`Tiles.showsAt_group`), and from a token in it or from the end of that
token on, the text of the group is cut where the source shows the rest of it
(`Tiles.showsAt_innerFrom`, `Tiles.showsAt_innerAfter`), although it is cut by offsets that count
from the group.
-/

set_option autoImplicit false

namespace XmlTemplate

/-- The source shows a text from one offset up to another one. -/
def ShowsAt (source : Text) (i : Nat) (s : Text) (j : Nat) : Prop :=
  ∃ before after, source = before ++ s ++ after ∧ before.length = i ∧ before.length + s.length = j

variable {source s t text : Text} {i j : Nat} {c : Char} {d : Delimiter} {p : Span}
  {ts us children : List Token}

theorem drop_of_getElem? (h : source[i]? = some c) : source.drop i = c :: source.drop (i + 1) := by
  obtain ⟨hi, rfl⟩ := List.getElem?_eq_some_iff.1 h
  exact List.drop_eq_getElem_cons hi

/-- What is left of the source from an offset on begins with what it shows there. -/
theorem showsAt_of_drop (hi : i ≤ source.length) (h : source.drop i = s ++ t) :
    ShowsAt source i s (i + s.length) := by
  have hlength : (source.take i).length = i := by rw [List.length_take, Nat.min_eq_left hi]
  refine ⟨source.take i, t, ?_, hlength, by rw [hlength]⟩
  rw [List.append_assoc, ← h, List.take_append_drop]

theorem showsAt_cut (hij : i ≤ j) (hj : j ≤ source.length) :
    ShowsAt source i ((source.drop i).take (j - i)) j := by
  have hshows := showsAt_of_drop (Nat.le_trans hij hj) (List.take_append_drop (j - i) _).symm
  have hlength : i + ((source.drop i).take (j - i)).length = j := by
    rw [List.length_take, List.length_drop]
    omega
  rwa [hlength] at hshows

/-- The second part of a text starts where the first one ends. -/
theorem ShowsAt.right (h : ShowsAt source i (s ++ t) j) : ShowsAt source (i + s.length) t j := by
  obtain ⟨before, after, rfl, rfl, rfl⟩ := h
  refine ⟨before ++ s, after, ?_, ?_, ?_⟩ <;> simp [Nat.add_assoc]

/-! ## Groups in their places -/

/-- Between its two delimiters the source shows the text of a group. -/
theorem showsAt_enclosed (hij : i + 1 ≤ j - 1) (opens : source[i]? = some d.opener)
    (closes : source[j - 1]? = some d.closer)
    (shown : text = (source.drop (i + 1)).take (j - 1 - (i + 1))) :
    ShowsAt source i (d.opener :: (text ++ [d.closer])) j := by
  obtain ⟨hstart, -⟩ := List.getElem?_eq_some_iff.1 opens
  obtain ⟨hstop, -⟩ := List.getElem?_eq_some_iff.1 closes
  have hinner : source.drop (i + 1) = text ++ source.drop (j - 1) := by
    have hsplit := List.take_append_drop (j - 1 - (i + 1)) (source.drop (i + 1))
    rw [← shown, List.drop_drop, Nat.add_sub_cancel' hij] at hsplit
    exact hsplit.symm
  have hdrop : source.drop i =
      d.opener :: (text ++ [d.closer]) ++ source.drop (j - 1 + 1) := by
    calc source.drop i = d.opener :: source.drop (i + 1) := drop_of_getElem? opens
      _ = d.opener :: (text ++ source.drop (j - 1)) := by rw [hinner]
      _ = d.opener :: (text ++ d.closer :: source.drop (j - 1 + 1)) := by
        rw [drop_of_getElem? closes]
      _ = d.opener :: (text ++ [d.closer]) ++ source.drop (j - 1 + 1) := by simp
  have hlength : i + (d.opener :: (text ++ [d.closer])).length = j := by
    rw [shown]
    simp only [List.length_cons, List.length_append, List.length_take, List.length_drop,
      List.length_nil]
    omega
  have hshows := showsAt_of_drop (Nat.le_of_lt hstart) hdrop
  rwa [hlength] at hshows

/-- A group of a tiled stretch stands in the source with its delimiters around its text. -/
theorem Tiles.showsAt_group (h : Tiles source i j ts) (ht : .group d text p children ∈ ts) :
    ShowsAt source p.start (d.opener :: (text ++ [d.closer])) p.stop := by
  induction h with
  | none => cases ht
  | leaf _ _ _ _ _ ih =>
    rcases List.mem_cons.1 ht with heq | ht
    · cases heq
    · exact ih ht
  | group _ _ opens closes shown inside _ _ ih =>
    rcases List.mem_cons.1 ht with heq | ht
    · cases heq
      exact showsAt_enclosed inside.le opens closes shown
    · exact ih ht

/-- From any offset inside on, the text of a group is cut where the source shows it. -/
theorem ShowsAt.inner (h : ShowsAt source p.start (d.opener :: (text ++ [d.closer])) p.stop)
    (hi : p.start + 1 ≤ i) (hle : i ≤ p.stop - 1) :
    ShowsAt source i (text.drop (i - p.start - 1) ++ [d.closer]) p.stop := by
  have hlength : p.start + (text.length + 2) = p.stop := by
    obtain ⟨before, after, -, hstart, hstop⟩ := h
    rw [← hstart, ← hstop]
    simp
  have hsplit : d.opener :: (text ++ [d.closer]) =
      d.opener :: text.take (i - p.start - 1) ++ (text.drop (i - p.start - 1) ++ [d.closer]) := by
    rw [List.cons_append, ← List.append_assoc, List.take_append_drop]
  have hbegin : p.start + (d.opener :: text.take (i - p.start - 1)).length = i := by
    rw [List.length_cons, List.length_take]
    omega
  rw [hsplit] at h
  have hright := h.right
  rwa [hbegin] at hright

/-- From a token in a group on, the group is cut where the source shows it. -/
theorem Tiles.showsAt_innerFrom {t : Token} (h : Tiles source i j ts)
    (hg : .group d text p children ∈ ts) (ht : t ∈ children) :
    ShowsAt source t.span.start ((Token.group d text p children).innerFrom t ++ [d.closer])
      p.stop := by
  obtain ⟨hfirst, hfilled, hlast⟩ := (h.inside hg).inOrder.1 t ht
  exact (h.showsAt_group hg).inner hfirst (by omega)

/-- Likewise from the end of a token in it on. -/
theorem Tiles.showsAt_innerAfter {t : Token} (h : Tiles source i j ts)
    (hg : .group d text p children ∈ ts) (ht : t ∈ children) :
    ShowsAt source t.span.stop ((Token.group d text p children).innerAfter t ++ [d.closer])
      p.stop := by
  obtain ⟨hfirst, hfilled, hlast⟩ := (h.inside hg).inOrder.1 t ht
  exact (h.showsAt_group hg).inner (by omega) hlast

/-! ## Some of the tokens -/

/-- The tokens after the first ones tile the rest of the stretch. -/
theorem Tiles.behind (us : List Token) (h : Tiles source i j (us ++ ts)) :
    ∃ k, Tiles source k j ts := by
  induction us generalizing i with
  | nil => exact ⟨i, h⟩
  | cons u us ih =>
    cases h with
    | leaf _ _ _ _ after => exact ih after
    | group _ _ _ _ _ _ after => exact ih after

/-- The first of some tokens in order starts before the last one ends. -/
theorem InOrder.start_le_stop {first last : Token} (h : InOrder i j (ts ++ us))
    (hfirst : ts.head? = some first) (hlast : ts.getLast? = some last) :
    first.span.start ≤ last.span.stop ∧ last.span.stop ≤ j := by
  have hmem : last ∈ ts ++ us := List.mem_append_left us (List.mem_of_getLast? hlast)
  obtain ⟨-, hfilled, hstop⟩ := h.1 last hmem
  refine ⟨?_, hstop⟩
  cases ts with
  | nil => cases hfirst
  | cons t ts =>
    cases hfirst
    rcases List.mem_cons.1 (List.mem_of_getLast? hlast) with rfl | hlater
    · exact Nat.le_of_lt hfilled
    · obtain ⟨-, hstart, -⟩ := h.1 first List.mem_cons_self
      have hbefore := (List.pairwise_cons.1 h.2).1 last (List.mem_append_left us hlater)
      omega

end XmlTemplate
