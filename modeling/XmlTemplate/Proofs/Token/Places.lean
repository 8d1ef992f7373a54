import XmlTemplate.Proofs.Token.Tiling

/-!
# Places in a source

A place in a source is a stretch of it that holds a character and whose line and column are those of
its first one (`Span.IsIn`). Every token of a source and every token directly in a group of it stands
in such a place (`isIn_of_lex`), and where the source cannot be read into tokens, the error names one
(`exists_isIn_of_lex_error`).
-/

set_option autoImplicit false

namespace XmlTemplate

/-- A stretch of the source with at least one character, with the line and the column of its first
one. -/
structure Span.IsIn (source : Text) (p : Span) : Prop where
  filled : p.start < p.stop
  stop_le : p.stop ≤ source.length
  place : p.IsExact source

/-! ## Tokens -/

theorem Tiles.isExact {source : Text} {i j : Nat} {ts : List Token} (h : Tiles source i j ts) :
    ∀ t ∈ ts, t.span.IsExact source := by
  induction h with
  | none => exact List.forall_mem_nil _
  | leaf _ place _ _ _ ih => exact List.forall_mem_cons.2 ⟨place, ih⟩
  | group _ place _ _ _ _ _ _ ih => exact List.forall_mem_cons.2 ⟨place, ih⟩

/-- Tokens that tile a stretch of the source stand in it. -/
theorem Tiles.isIn {source : Text} {i j : Nat} {ts : List Token} (h : Tiles source i j ts)
    (hj : j ≤ source.length) : ∀ t ∈ ts, t.span.IsIn source := by
  intro t ht
  obtain ⟨-, hfilled, hstop⟩ := h.inOrder.1 t ht
  exact ⟨hfilled, Nat.le_trans hstop hj, h.isExact t ht⟩

theorem tiles_of_lex {source : Text} {ts : List Token} (h : Token.lex source = .ok ts) :
    Tiles source Position.first.offset (Position.first.offset + source.length) ts := by
  have hfirst : Position.first.IsBefore source (source ++ []) := by
    rw [List.append_nil]
    exact .first source
  exact tiles_of_lexes (Token.lex_eq_ok_iff.1 h) hfirst

/-- The tokens of a source and those directly in its groups stand in it. -/
theorem isIn_of_lex {source : Text} {ts : List Token} (h : Token.lex source = .ok ts) :
    ∀ t ∈ ts, t.span.IsIn source ∧ ∀ u ∈ t.children, u.span.IsIn source := by
  have htiles := tiles_of_lex h
  intro t ht
  have hin := htiles.isIn (Nat.le_of_eq (Nat.zero_add _)) t ht
  refine ⟨hin, ?_⟩
  cases t with
  | leaf => exact List.forall_mem_nil _
  | group d text p children =>
    exact (htiles.inside ht).isIn (Nat.le_trans (Nat.sub_le _ _) hin.stop_le)

/-- A leaf is as long as its text. -/
theorem stop_of_lex {source : Text} {ts : List Token} {kind : Kind} {text : Text} {p : Span}
    (h : Token.lex source = .ok ts) (ht : .leaf kind text p ∈ ts) :
    p.stop = p.start + text.length := by
  obtain ⟨hfilled, hstop, -⟩ := (isIn_of_lex h _ ht).1
  have htext := congrArg List.length ((tiles_of_lex h).text_eq_cut ht)
  rw [Span.cut, List.length_take, List.length_drop] at htext
  simp only [Token.span] at hfilled hstop
  omega

/-! ## Errors -/

/-- The character that comes next stands in the source. -/
theorem Position.IsBefore.isIn_span {source rest : Text} {c : Char} {p : Position}
    (h : p.IsBefore source (c :: rest)) : (p.span 1).IsIn source := by
  refine ⟨Nat.lt_succ_self _, ?_, h.isExact_span 1⟩
  have hlength := congrArg List.length h.left
  rw [List.length_drop, List.length_cons] at hlength
  simp only [Position.span]
  omega

/-- Where reading a source into tokens fails, at a delimiter or at a quote, the error names the place
of that character. The induction is on the source that is left; what it carries is that the machine
stands where it says and that every open group begins in the source. -/
theorem exists_isIn_of_lexFrom_error {source rest : Text} {pos : Position} {frames : List Frame}
    {done : List Token} {e : ParseError} (h : lexFrom rest pos frames done = .error e)
    (hpos : pos.IsBefore source rest)
    (hframes : ∀ f ∈ frames, (f.opened.span 1).IsIn source) :
    e.cause.stage? = some .lexing ∧ ∃ p, e.span = some p ∧ p.IsIn source := by
  induction hn : rest.length using Nat.strongRecOn generalizing rest pos frames done with
  | _ n ih =>
    cases rest with
    | nil =>
      cases frames with
      | nil =>
        rw [lexFrom] at h
        cases h
      | cons f frames =>
        -- the innermost group that is still open is to blame
        rw [lexFrom] at h
        cases h
        exact ⟨rfl, _, rfl, hframes f List.mem_cons_self⟩
    | cons c s =>
      obtain ⟨t, u, rfl, here⟩ := lexeme_cut (!frames.isEmpty) c s
      have hshorter : u.length < n := by
        rw [← hn, List.length_cons, List.length_append]
        omega
      have hafter : (pos.after (c :: t)).IsBefore source u := hpos.after (c :: t)
      have hhere : (pos.span 1).IsIn source := hpos.isIn_span
      cases hk : (lexeme (!frames.isEmpty) c (t ++ u)).1 with
      | blanks =>
        rw [hk] at here
        rw [lexFrom_skip (.inl rfl) here] at h
        exact ih _ hshorter h hafter hframes rfl
      | comment =>
        rw [hk] at here
        rw [lexFrom_skip (.inr rfl) here] at h
        exact ih _ hshorter h hafter hframes rfl
      | leaf kind =>
        rw [hk] at here
        rw [lexFrom_leaf here] at h
        exact ih _ hshorter h hafter hframes rfl
      | opening d =>
        rw [hk] at here
        obtain ⟨rfl, ht⟩ := lexeme_eq_opening here
        obtain rfl : t = [] := List.length_eq_zero_iff.1 (Nat.succ.inj ht)
        rw [List.nil_append, lexFrom_opener] at h
        exact ih _ hshorter h hafter (List.forall_mem_cons.2 ⟨hhere, hframes⟩) rfl
      | closing d =>
        rw [hk] at here
        obtain ⟨rfl, ht⟩ := lexeme_eq_closing here
        obtain rfl : t = [] := List.length_eq_zero_iff.1 (Nat.succ.inj ht)
        rw [List.nil_append] at h hk
        -- a closer is to blame itself where it closes nothing or not what is open
        cases frames with
        | nil =>
          rw [lexFrom, hk] at h
          cases h
          exact ⟨rfl, _, rfl, hhere⟩
        | cons f frames =>
          by_cases hd : f.delimiter = d
          · subst hd
            rw [lexFrom_closer] at h
            exact ih _ hshorter h hafter (List.forall_mem_cons.1 hframes).2 rfl
          · rw [lexFrom, hk] at h
            simp only [if_neg hd] at h
            cases h
            exact ⟨rfl, _, rfl, hhere⟩
      | openQuote =>
        rw [lexFrom, hk] at h
        cases h
        exact ⟨rfl, _, rfl, hhere⟩

/-- A source that cannot be read into tokens has a place that is to blame. -/
theorem exists_isIn_of_lex_error {source : Text} {e : ParseError}
    (h : Token.lex source = .error e) :
    e.cause.stage? = some .lexing ∧ ∃ p, e.span = some p ∧ p.IsIn source :=
  exists_isIn_of_lexFrom_error h (.first source) (List.forall_mem_nil _)

end XmlTemplate
