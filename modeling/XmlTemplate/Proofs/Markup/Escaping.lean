import Mathlib.Data.List.Chain
import XmlTemplate.Proofs.Markup.Marks

/-!
# Escaping piece by piece

A text is escaped without a copy being made of it: the writer looks for one special character after
the other, keeps the offset just behind the last one, and writes the run between the two and then
the entity (`writesFrom`). What it writes are the pieces of the text (`writes_eq_pieces`). Runs are
as long as can be, and no two of them stand side by side.

The writer can be undone. No special character but the ampersand is left, every ampersand begins an
entity, and one pass from left to right that replaces entities gives the text back
(`replaceEntities_escape`), whatever the text looked like before.
-/

set_option autoImplicit false

namespace XmlTemplate

variable {place : Place} {s t : Text} {c : Char}

/-! ## Special characters and entities -/

/-- The characters that are special in some place. -/
def specials : List Char := ['<', '>', '&', '"']

theorem mem_specials (h : isSpecial place c = true) : c ∈ specials := by
  cases place with
  | content =>
    simp only [isSpecial, Bool.or_eq_true, beq_iff_eq] at h
    rcases h with (rfl | rfl) | rfl <;> decide
  | value =>
    simp only [isSpecial, Bool.or_eq_true, beq_iff_eq] at h
    rcases h with ((rfl | rfl) | rfl) | rfl <;> decide

/-- An entity is an ampersand and a name for the character without another one. -/
theorem entity_eq (c : Char) : ∃ e, entity c = '&' :: e ∧ '&' ∉ e := by
  rw [entity]
  split
  · exact ⟨_, rfl, by decide⟩
  split
  · exact ⟨_, rfl, by decide⟩
  split
  · exact ⟨_, rfl, by decide⟩
  · exact ⟨_, rfl, by decide⟩

/-- What is written for one character. -/
def escapeChar (place : Place) (c : Char) : Text := if isSpecial place c then entity c else [c]

theorem escape_eq_flatMap (place : Place) (s : Text) :
    escape place s = s.flatMap (escapeChar place) := by
  induction s with
  | nil => rfl
  | cons c s ih => rw [escape_cons, ih, List.flatMap_cons, escapeChar]

/-! ## Pieces -/

/-- Whether a piece is kept as it is. -/
def Piece.isRun : Piece → Bool
  | .run _ => true
  | .special _ => false

/-- The part of the text that a piece stands for. -/
def Piece.original : Piece → Text
  | .run s => s
  | .special c => [c]

theorem pieces_special (hc : isSpecial place c = true) (s : Text) :
    pieces place (c :: s) = .special c :: pieces place s := by
  rw [pieces, if_pos hc]

/-- A longest run of other characters is one piece. -/
theorem pieces_run (hne : t ≠ []) (ht : ∀ c ∈ t, isSpecial place c = false)
    (hs : ∀ c ∈ s.head?, isSpecial place c = true) :
    pieces place (t ++ s) = .run t :: pieces place s := by
  induction t with
  | nil => exact absurd rfl hne
  | cons c t ih =>
    obtain ⟨hc, ht⟩ := List.forall_mem_cons.1 ht
    rw [List.cons_append, pieces, hc, if_neg Bool.false_ne_true]
    cases t with
    | nil =>
      -- what comes after the run starts with a special character, whose piece is no run
      cases s with
      | nil => rfl
      | cons d s =>
        rw [List.nil_append, pieces_special (hs d rfl)]
    | cons d t => rw [ih (List.cons_ne_nil d t) ht]

/-- A text is taken apart by its special characters and the longest runs between them. -/
theorem runs_induction {motive : Text → Prop} (place : Place) (nil : motive [])
    (special : ∀ c s, isSpecial place c = true → motive s → motive (c :: s))
    (run : ∀ t s, t ≠ [] → (∀ c ∈ t, isSpecial place c = false) →
      (∀ c ∈ s.head?, isSpecial place c = true) → motive s → motive (t ++ s)) (s : Text) :
    motive s := by
  -- on the length, since a run may have any number of characters
  induction hn : s.length using Nat.strongRecOn generalizing s with
  | _ n ih =>
    cases s with
    | nil => exact nil
    | cons c s =>
      cases hc : isSpecial place c with
      | true => exact special c s hc (ih s.length (by rw [← hn]; exact Nat.lt_succ_self _) s rfl)
      | false =>
        have hcut : c :: s = (c :: s.takeWhile fun d => !isSpecial place d) ++
            s.dropWhile fun d => !isSpecial place d := by
          rw [List.cons_append, List.takeWhile_append_dropWhile]
        have hshorter : (s.dropWhile fun d => !isSpecial place d).length < n := by
          have := (List.dropWhile_sublist (l := s) fun d => !isSpecial place d).length_le
          rw [← hn, List.length_cons]
          omega
        rw [hcut]
        apply run
        · exact List.cons_ne_nil _ _
        · refine List.forall_mem_cons.2 ⟨hc, ?_⟩
          intro d hd
          simpa using List.all_eq_true.1 List.all_takeWhile d hd
        · intro d hd
          have hnot := List.head?_dropWhile_not (fun d => !isSpecial place d) s
          rw [Option.mem_def.1 hd] at hnot
          simpa using hnot
        · exact ih _ hshorter _ rfl

/-- Together the pieces stand for the text. -/
theorem original_pieces (place : Place) (s : Text) :
    (pieces place s).flatMap Piece.original = s := by
  induction s using runs_induction place with
  | nil => rfl
  | special c s hc ih =>
    rw [pieces_special hc, List.flatMap_cons, ih]
    rfl
  | run t s hne ht hs ih =>
    rw [pieces_run hne ht hs, List.flatMap_cons, ih]
    rfl

/-- What a piece is: a special character, or other characters, of which there is at least one. -/
def Piece.IsCut (place : Place) : Piece → Prop
  | .run t => t ≠ [] ∧ ∀ c ∈ t, isSpecial place c = false
  | .special c => isSpecial place c = true

theorem isCut_of_mem_pieces {p : Piece} (h : p ∈ pieces place s) : p.IsCut place := by
  induction s using runs_induction place with
  | nil => cases h
  | special c s hc ih =>
    rw [pieces_special hc] at h
    rcases List.mem_cons.1 h with rfl | h
    · exact hc
    · exact ih h
  | run t s hne ht hs ih =>
    rw [pieces_run hne ht hs] at h
    rcases List.mem_cons.1 h with rfl | h
    · exact ⟨hne, ht⟩
    · exact ih h

theorem Piece.IsCut.text_ne_nil {p : Piece} (h : p.IsCut place) : p.text ≠ [] := by
  cases p with
  | run t => exact h.1
  | special c =>
    obtain ⟨e, he, -⟩ := entity_eq c
    rw [Piece.text, he]
    exact List.cons_ne_nil _ _

/-- A piece that is no run stands for a special character. -/
theorem Piece.IsCut.of_notRun {p : Piece} (h : p.IsCut place) (hp : p.isRun = false) :
    ∃ c, p.original = [c] ∧ isSpecial place c = true := by
  cases p with
  | run => cases hp
  | special c => exact ⟨c, rfl, h⟩

/-- A special piece comes first in a text that starts with a special character. -/
theorem isRun_head?_pieces (hs : ∀ c ∈ s.head?, isSpecial place c = true) {p : Piece}
    (hp : p ∈ (pieces place s).head?) : p.isRun = false := by
  cases s with
  | nil => cases hp
  | cons c s =>
    rw [pieces_special (hs c rfl)] at hp
    cases hp
    rfl

/-- Of two pieces side by side, one is special. -/
theorem isChain_pieces (place : Place) (s : Text) :
    (pieces place s).IsChain fun p q => p.isRun = false ∨ q.isRun = false := by
  induction s using runs_induction place with
  | nil => exact .nil
  | special c s hc ih =>
    rw [pieces_special hc, List.isChain_cons]
    exact ⟨fun _ _ => .inl rfl, ih⟩
  | run t s hne ht hs ih =>
    rw [pieces_run hne ht hs, List.isChain_cons]
    exact ⟨fun p hp => .inr (isRun_head?_pieces hs hp), ih⟩

/-- A longest run of characters that are not special, in its place. -/
structure IsLongestRun (place : Place) (before t after : Text) : Prop where
  filled : t ≠ []
  plain : ∀ c ∈ t, isSpecial place c = false
  starts : ∀ c ∈ before.getLast?, isSpecial place c = true
  ends : ∀ c ∈ after.head?, isSpecial place c = true

/-- The runs among the pieces are longest runs of the text, because what stands beside one of them
is special. -/
theorem isLongestRun_of_pieces {ps qs : List Piece} (h : pieces place s = ps ++ .run t :: qs) :
    IsLongestRun place (ps.flatMap Piece.original) t (qs.flatMap Piece.original) := by
  have hcut : ∀ p ∈ ps ++ .run t :: qs, p.IsCut place := by
    intro p hp
    rw [← h] at hp
    exact isCut_of_mem_pieces hp
  have hchain := isChain_pieces place s
  rw [h, List.isChain_append] at hchain
  obtain ⟨-, hright, hleft⟩ := hchain
  rw [List.isChain_cons] at hright
  obtain ⟨hfilled, hplain⟩ := hcut (.run t) (by simp)
  refine ⟨hfilled, hplain, ?_, ?_⟩
  · intro c hc
    rcases List.eq_nil_or_concat ps with rfl | ⟨ps, p, rfl⟩
    · cases hc
    · rcases hleft p (by simp) (.run t) rfl with hp | hp
      · obtain ⟨d, hd, hspecial⟩ := (hcut p (by simp)).of_notRun hp
        obtain rfl : d = c := by simpa [hd] using hc
        exact hspecial
      · cases hp
  · intro c hc
    cases qs with
    | nil => cases hc
    | cons q qs =>
      rcases hright.1 q rfl with hq | hq
      · cases hq
      · obtain ⟨d, hd, hspecial⟩ := (hcut q (by simp)).of_notRun hq
        obtain rfl : d = c := by simpa [hd] using hc
        exact hspecial

/-! ## Writing while looking ahead -/

/-- The special characters of a text, each with its offset, where the text starts at an offset. -/
def matchesFrom (place : Place) (offset : Nat) : Text → List (Nat × Char)
  | [] => []
  | c :: s =>
    if isSpecial place c then (offset, c) :: matchesFrom place (offset + 1) s
    else matchesFrom place (offset + 1) s

/-- What is written for the text from the offset `pos` on, given the special characters from there
on. Where none has been found, the text is written as a whole. -/
def writesFrom (text : Text) (pos : Nat) : List (Nat × Char) → List Text
  | [] =>
    if pos = 0 then if text = [] then [] else [text]
    else if pos < text.length then [text.drop pos] else []
  | (start, c) :: found =>
    if pos < start then
      (text.drop pos).take (start - pos) :: entity c :: writesFrom text (start + 1) found
    else entity c :: writesFrom text (start + 1) found

/-- What is written for a text, one write after the other. -/
def writes (place : Place) (text : Text) : List Text := writesFrom text 0 (matchesFrom place 0 text)

/-- At the end, what has not been written yet is written, if there is anything. -/
theorem writesFrom_nil (a t : Text) :
    writesFrom (a ++ t) a.length [] = if t = [] then [] else [t] := by
  cases a with
  | nil => rfl
  | cons c a =>
    rw [writesFrom, if_neg (by simp), List.drop_left, List.length_append]
    cases t with
    | nil => simp
    | cons d t => simp

/-- The loop of the writer. It has written `a` and passed the run `t`, which has no special
character and is not written yet; it stands before `s`. -/
theorem writesFrom_matchesFrom (a : Text) {t : Text} (ht : ∀ c ∈ t, isSpecial place c = false)
    (s : Text) :
    writesFrom (a ++ (t ++ s)) a.length (matchesFrom place (a.length + t.length) s) =
      (pieces place (t ++ s)).map Piece.text := by
  induction s generalizing a t with
  | nil =>
    rw [matchesFrom, writesFrom_nil, List.append_nil]
    cases t with
    | nil => rfl
    | cons c t =>
      have hrun := pieces_run (s := []) (List.cons_ne_nil c t) ht (by simp)
      rw [List.append_nil] at hrun
      rw [hrun]
      rfl
  | cons c s ih =>
    cases hc : isSpecial place c with
    | false =>
      -- the run goes on
      have hnext : ∀ d ∈ t ++ [c], isSpecial place d = false := by
        intro d hd
        rcases List.mem_append.1 hd with hd | hd
        · exact ht d hd
        · rw [List.mem_singleton.1 hd, hc]
      have hrest := ih a hnext
      rw [List.length_append, List.length_singleton, ← Nat.add_assoc, List.append_assoc] at hrest
      rw [matchesFrom, hc, if_neg Bool.false_ne_true]
      exact hrest
    | true =>
      -- the run and the entity are written, and the next run starts behind the character
      have hrest := ih (a ++ (t ++ [c])) (t := []) (by simp)
      have hshape : a ++ (t ++ [c]) ++ ([] ++ s) = a ++ (t ++ c :: s) := by simp
      have hlength : (a ++ (t ++ [c])).length = a.length + t.length + 1 := by simp [Nat.add_assoc]
      rw [hshape, hlength, List.length_nil, Nat.add_zero, List.nil_append] at hrest
      rw [matchesFrom, if_pos hc, writesFrom, hrest]
      cases t with
      | nil => rw [if_neg (by simp), List.nil_append, pieces_special hc]; rfl
      | cons d t =>
        have hstart : a.length < a.length + (d :: t).length := by simp
        have hcut : ((a ++ (d :: t ++ c :: s)).drop a.length).take
            (a.length + (d :: t).length - a.length) = d :: t := by
          rw [List.drop_left, Nat.add_sub_cancel_left, List.take_left]
        have hpieces := pieces_run (s := c :: s) (List.cons_ne_nil d t) ht
          (by rintro _ ⟨⟩; exact hc)
        rw [if_pos hstart, hcut, hpieces, pieces_special hc]
        rfl

theorem writes_eq_pieces (place : Place) (s : Text) :
    writes place s = (pieces place s).map Piece.text :=
  writesFrom_matchesFrom [] (t := []) (by simp) s

/-! ## Replacing entities -/

/-- The special character whose entity the text starts with. -/
def entityHead? (place : Place) (s : Text) : Option Char :=
  specials.find? fun c => isSpecial place c && (entity c).isPrefixOf s

/-- The text with its entities replaced, in one pass from left to right; the first `skip` characters
belong to an entity that has been replaced. -/
def replaceEntities (place : Place) : (skip : Nat) → Text → Text
  | _, [] => []
  | skip + 1, _ :: s => replaceEntities place skip s
  | 0, c :: s =>
    match entityHead? place (c :: s) with
    | some d => d :: replaceEntities place ((entity d).length - 1) s
    | none => c :: replaceEntities place 0 s

theorem replaceEntities_skip (t s : Text) :
    replaceEntities place t.length (t ++ s) = replaceEntities place 0 s := by
  induction t with
  | nil => rfl
  | cons c t ih => rw [List.length_cons, List.cons_append, replaceEntities, ih]

theorem entityHead?_entity (hc : isSpecial place c = true) (s : Text) :
    entityHead? place (entity c ++ s) = some c := by
  have hmem := mem_specials hc
  simp only [specials, List.mem_cons, List.not_mem_nil, or_false] at hmem
  cases place with
  | content => rcases hmem with rfl | rfl | rfl | rfl <;> first | rfl | cases hc
  | value => rcases hmem with rfl | rfl | rfl | rfl <;> rfl

/-- Only an ampersand begins an entity. -/
theorem entityHead?_of_ne (hc : c ≠ '&') (s : Text) : entityHead? place (c :: s) = none := by
  rw [entityHead?, List.find?_eq_none]
  intro d _
  obtain ⟨e, he, -⟩ := entity_eq d
  have hno : (entity d).isPrefixOf (c :: s) = false := by
    rw [he, List.isPrefixOf, beq_false_of_ne (Ne.symm hc), Bool.false_and]
  rw [hno, Bool.and_false]
  exact Bool.false_ne_true

theorem replaceEntities_entity (hc : isSpecial place c = true) (s : Text) :
    replaceEntities place 0 (entity c ++ s) = c :: replaceEntities place 0 s := by
  have hhead := entityHead?_entity hc s
  obtain ⟨e, he, -⟩ := entity_eq c
  rw [he, List.cons_append] at hhead ⊢
  rw [replaceEntities, hhead]
  dsimp only
  rw [he, List.length_cons, Nat.add_sub_cancel, replaceEntities_skip]

/-- The ampersand is special everywhere, so that one that is left begins an entity. -/
theorem ne_ampersand (hc : isSpecial place c = false) : c ≠ '&' := by
  rintro rfl
  cases place <;> cases hc

/-- Replacing entities undoes escaping. The pass goes on behind an entity that it has replaced, so
that the ampersand it gives is not taken for the beginning of another one. -/
theorem replaceEntities_escape (place : Place) (s : Text) :
    replaceEntities place 0 (escape place s) = s := by
  induction s with
  | nil => rfl
  | cons c s ih =>
    rw [escape_cons]
    cases hc : isSpecial place c with
    | true => rw [if_pos rfl, replaceEntities_entity hc, ih]
    | false =>
      rw [if_neg Bool.false_ne_true, List.singleton_append, replaceEntities,
        entityHead?_of_ne (ne_ampersand hc), ih]

/-! ## The escaped text -/

/-- No special character is left but the ampersands of entities. -/
theorem eq_ampersand_of_mem_escape (hmem : c ∈ escape place s) (hc : isSpecial place c = true) :
    c = '&' := by
  have hflat := isFlat_escape place s c hmem
  have hspecial := mem_specials hc
  simp only [specials, List.mem_cons, List.not_mem_nil, or_false] at hspecial
  rcases hspecial with rfl | rfl | rfl | rfl
  · exact absurd rfl hflat.1
  · exact absurd rfl hflat.2
  · rfl
  · cases place with
    | content => cases hc
    | value => exact absurd hmem (quote_notMem_escape s)

/-- Every ampersand begins the entity of a character that is special in the place. -/
theorem entity_of_escape {before after : Text} (h : escape place s = before ++ '&' :: after) :
    ∃ c, isSpecial place c = true ∧ entity c <+: '&' :: after := by
  induction s generalizing before with
  | nil => cases before <;> cases h
  | cons c s ih =>
    rw [escape_cons] at h
    cases hc : isSpecial place c with
    | true =>
      obtain ⟨e, he, hno⟩ := entity_eq c
      rw [hc, if_pos rfl, he, List.cons_append] at h
      rcases ampersand_cases hno h with rfl | ⟨b, hb⟩
      · exact ⟨c, hc, he ▸ List.prefix_append ('&' :: e) _⟩
      · exact ih hb
    | false =>
      rw [hc, if_neg Bool.false_ne_true, List.singleton_append] at h
      cases before with
      | nil => exact absurd (List.cons.inj h).1 (ne_ampersand hc)
      | cons d b => exact ih (List.cons.inj h).2

/-- The writer gives the pieces of the text: none is empty, no two runs stand side by side, and each
run is a longest run of the text without special characters. Joined, they are the text with an
entity for each special character and with every other character as it is. Of the special characters
only ampersands are left, each of them begins an entity, and replacing entities in one pass gives
the text back. -/
theorem escape_by_pieces (place : Place) (s : Text) :
    writes place s = (pieces place s).map Piece.text ∧
      (∀ w ∈ writes place s, w ≠ []) ∧
      (pieces place s).flatMap Piece.original = s ∧
      (pieces place s).IsChain (fun p q => p.isRun = false ∨ q.isRun = false) ∧
      (∀ ps t qs, pieces place s = ps ++ .run t :: qs →
        IsLongestRun place (ps.flatMap Piece.original) t (qs.flatMap Piece.original)) ∧
      (∀ c, .special c ∈ pieces place s → isSpecial place c = true) ∧
      (writes place s).flatten = escape place s ∧
      escape place s = s.flatMap (escapeChar place) ∧
      (∀ c ∈ escape place s, isSpecial place c = true → c = '&') ∧
      (∀ before after, escape place s = before ++ '&' :: after →
        ∃ c, isSpecial place c = true ∧ entity c <+: '&' :: after) ∧
      replaceEntities place 0 (escape place s) = s := by
  have hwrites := writes_eq_pieces place s
  refine ⟨hwrites, ?_, original_pieces place s, isChain_pieces place s,
    fun _ _ _ h => isLongestRun_of_pieces h, ?_, ?_, escape_eq_flatMap place s,
    fun _ hmem hc => eq_ampersand_of_mem_escape hmem hc, fun _ _ h => entity_of_escape h,
    replaceEntities_escape place s⟩
  · intro w hw
    rw [hwrites] at hw
    obtain ⟨p, hp, rfl⟩ := List.mem_map.1 hw
    exact (isCut_of_mem_pieces hp).text_ne_nil
  · intro c hc
    have hcut := isCut_of_mem_pieces hc
    exact hcut
  · rw [hwrites, Document.flatten_pieces]

/-- Text that looks like an entity already is escaped once more. -/
example : (writes .value "a&lt;\"\"b".toList).map String.ofList =
    ["a", "&amp;", "lt;", "&quot;", "&quot;", "b"] := by decide +kernel

end XmlTemplate
