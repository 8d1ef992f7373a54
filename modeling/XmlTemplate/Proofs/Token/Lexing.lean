import XmlTemplate.Proofs.Token.Lexeme
import XmlTemplate.Token.Lexer

/-!
# The tokens of a stretch of source

`Lexes` says which tokens a stretch of source holds, given where it stands and what comes after it:
one rule for each kind of lexeme, and one for a group, whose content is a stretch of its own. The
machine with its stack of frames computes this relation: it runs through a stretch and adds its
tokens (`lexFrom_of_lexes`), and it succeeds on nothing else (`Token.lex_eq_ok_iff`). What the open
frames still ask of the source is written down as `Closes`.
-/

set_option autoImplicit false

namespace XmlTemplate

/-- The tokens of the stretch `shown`, which stands at a place before `rest`, inside of a group or
outside. -/
inductive Lexes : (grouped : Bool) → (shown rest : Text) → Position → List Token → Prop
  | nil (grouped : Bool) (rest : Text) (pos : Position) : Lexes grouped [] rest pos []
  | skip {grouped : Bool} {c : Char} {s t rest : Text} {pos : Position} {ts : List Token}
      {k : Lexeme} (hk : k = .blanks ∨ k = .comment)
      (here : lexeme grouped c (s ++ (t ++ rest)) = (k, s.length + 1))
      (after : Lexes grouped t rest (pos.after (c :: s)) ts) :
      Lexes grouped (c :: (s ++ t)) rest pos ts
  | leaf {grouped : Bool} {c : Char} {s t rest : Text} {pos : Position} {ts : List Token}
      {kind : Kind} (here : lexeme grouped c (s ++ (t ++ rest)) = (.leaf kind, s.length + 1))
      (after : Lexes grouped t rest (pos.after (c :: s)) ts) :
      Lexes grouped (c :: (s ++ t)) rest pos
        (.leaf kind (c :: s) (pos.span (s.length + 1)) :: ts)
  | group {grouped : Bool} (d : Delimiter) {inner t rest : Text} {pos : Position}
      {children ts : List Token}
      (inside : Lexes true inner (d.closer :: (t ++ rest)) (pos.next d.opener) children)
      (after : Lexes grouped t rest (((pos.next d.opener).after inner).next d.closer) ts) :
      Lexes grouped (d.opener :: (inner ++ d.closer :: t)) rest pos
        (.group d inner (pos.span (inner.length + 2)) children :: ts)

theorem Position.after_cons (p : Position) (c : Char) (s : Text) :
    p.after (c :: s) = (p.next c).after s := rfl

/-! ## One step of the machine -/

section Step

variable {rest s : Text} {c : Char} {pos : Position} {frames : List Frame} {done : List Token}

theorem lexFrom_skip {k : Lexeme} (hk : k = .blanks ∨ k = .comment)
    (h : lexeme (!frames.isEmpty) c (s ++ rest) = (k, s.length + 1)) :
    lexFrom (c :: (s ++ rest)) pos frames done =
      lexFrom rest (pos.after (c :: s)) frames done := by
  rw [lexFrom]
  rcases hk with rfl | rfl <;> simp [h]

theorem lexFrom_leaf {kind : Kind}
    (h : lexeme (!frames.isEmpty) c (s ++ rest) = (.leaf kind, s.length + 1)) :
    lexFrom (c :: (s ++ rest)) pos frames done =
      lexFrom rest (pos.after (c :: s)) frames
        (.leaf kind (c :: s) (pos.span (s.length + 1)) :: done) := by
  rw [lexFrom]
  simp [h]

theorem lexFrom_opener (d : Delimiter) :
    lexFrom (d.opener :: rest) pos frames done =
      lexFrom rest (pos.next d.opener) (⟨d, pos, rest, done⟩ :: frames) [] := by
  rw [lexFrom]
  simp [lexeme_opener, Position.after]

theorem lexFrom_closer (f : Frame) :
    lexFrom (f.delimiter.closer :: rest) pos (f :: frames) done =
      lexFrom rest (pos.next f.delimiter.closer) frames (f.close pos done :: f.before) := by
  rw [lexFrom]
  simp [lexeme_closer, Position.after]

end Step

/-- The group that a frame becomes where its content has been read. -/
theorem Frame.close_eq (d : Delimiter) (pos : Position) (inner rest : Text) (before : List Token)
    (children : List Token) :
    Frame.close ⟨d, pos, inner ++ rest, before⟩ ((pos.next d.opener).after inner)
        children.reverse =
      .group d inner (pos.span (inner.length + 2)) children := by
  have hoffset : ((pos.next d.opener).after inner).offset = pos.offset + 1 + inner.length := by
    rw [Position.offset_after, Position.offset_next]
  have hlength : pos.offset + 1 + inner.length - pos.offset - 1 = inner.length := by omega
  have hstop : pos.offset + 1 + inner.length + 1 = pos.offset + (inner.length + 2) := by omega
  simp only [Frame.close, hoffset, hlength, hstop, List.take_left', List.reverse_reverse,
    Position.span]

/-! ## The machine runs through a stretch -/

/-- Reading a stretch takes it off the source and adds its tokens. -/
theorem lexFrom_of_lexes {grouped : Bool} {shown rest : Text} {pos : Position} {ts : List Token}
    (h : Lexes grouped shown rest pos ts) (frames : List Frame) (done : List Token)
    (hframes : (!frames.isEmpty) = grouped) :
    lexFrom (shown ++ rest) pos frames done =
      lexFrom rest (pos.after shown) frames (ts.reverse ++ done) := by
  induction h generalizing frames done with
  | nil => rfl
  | skip hk here _ ih =>
    subst hframes
    rw [List.cons_append, List.append_assoc, lexFrom_skip hk here, ih _ done rfl,
      ← Position.after_append, List.cons_append]
  | leaf here _ ih =>
    subst hframes
    rw [List.cons_append, List.append_assoc, lexFrom_leaf here, ih _ _ rfl,
      ← Position.after_append, List.cons_append, List.reverse_cons, List.append_assoc]
    rfl
  | @group _ d inner t rest pos children ts _ _ ihInside ihAfter =>
    have hpos : pos.after (d.opener :: (inner ++ d.closer :: t)) =
        (((pos.next d.opener).after inner).next d.closer).after t := by
      rw [Position.after_cons, Position.after_append, Position.after_cons]
    rw [List.cons_append, List.append_assoc, lexFrom_opener, List.cons_append, ihInside _ [] rfl,
      lexFrom_closer ⟨d, pos, _, done⟩, List.append_nil, Frame.close_eq, ihAfter _ _ hframes, hpos,
      List.reverse_cons, List.append_assoc]
    rfl

/-! ## The machine succeeds on nothing else -/

/-- What the open frames ask of the rest of the source for the run to end in `result`: the innermost
stretch has its tokens and ends with the closing delimiter, and so do the stretches around it. -/
inductive Closes : List Frame → (rest : Text) → Position → (done result : List Token) → Prop
  | top {rest : Text} {pos : Position} {ts : List Token} (done : List Token)
      (h : Lexes false rest [] pos ts) : Closes [] rest pos done (done.reverse ++ ts)
  | frame {f : Frame} {frames : List Frame} {inner rest : Text} {pos : Position}
      {ts done result : List Token}
      (inside : Lexes true inner (f.delimiter.closer :: rest) pos ts)
      (after : Closes frames rest ((pos.after inner).next f.delimiter.closer)
        (f.close (pos.after inner) (ts.reverse ++ done) :: f.before) result) :
      Closes (f :: frames) (inner ++ f.delimiter.closer :: rest) pos done result

/-- What stands before a stretch can be read with it. -/
theorem Closes.before {frames : List Frame} {left : Text} {pos : Position}
    {done result : List Token} (shown : Text) (ts : List Token)
    (h : Closes frames left (pos.after shown) (ts.reverse ++ done) result)
    (step : ∀ t rest us, left = t ++ rest → Lexes (!frames.isEmpty) t rest (pos.after shown) us →
      Lexes (!frames.isEmpty) (shown ++ t) rest pos (ts ++ us)) :
    Closes frames (shown ++ left) pos done result := by
  cases h with
  | top _ h =>
    rw [List.reverse_append, List.reverse_reverse, List.append_assoc]
    exact .top done (step _ [] _ (List.append_nil _).symm h)
  | @frame f _ inner rest _ us _ _ inside after =>
    have hinside := step inner _ us rfl inside
    rw [← List.append_assoc]
    refine .frame hinside ?_
    rw [Position.after_append, List.reverse_append, List.append_assoc]
    exact after

/-- A group that has been opened ends with its closing delimiter. -/
theorem Closes.group {d : Delimiter} {frames : List Frame} {left rest : Text} {pos : Position}
    {done result : List Token} (hleft : left = rest)
    (h : Closes (⟨d, pos, left, done⟩ :: frames) rest (pos.next d.opener) [] result) :
    Closes frames (d.opener :: rest) pos done result := by
  cases h with
  | @frame _ _ inner rest _ ts _ _ inside after =>
    have hinner : left = inner ++ d.closer :: rest := hleft
    clear hleft
    subst hinner
    have hclosed := Frame.close_eq d pos inner (d.closer :: rest) done ts
    have hsplit : d.opener :: (inner ++ d.closer :: rest) =
        (d.opener :: (inner ++ [d.closer])) ++ rest := by simp
    have hafter : pos.after (d.opener :: (inner ++ [d.closer])) =
        ((pos.next d.opener).after inner).next d.closer := by
      rw [Position.after_cons, Position.after_append]
      rfl
    rw [List.append_nil, hclosed] at after
    rw [hsplit]
    refine Closes.before _ [_] (hafter ▸ after) ?_
    rintro t rest us rfl hlexes
    rw [hafter] at hlexes
    rw [List.cons_append, List.append_assoc]
    exact .group d inside hlexes

/-- A lexeme covers a stretch at the head of the source. -/
theorem lexeme_cut (grouped : Bool) (c : Char) (s : Text) :
    ∃ t u, s = t ++ u ∧
      lexeme grouped c (t ++ u) = ((lexeme grouped c (t ++ u)).1, t.length + 1) := by
  obtain ⟨n, hn⟩ := Nat.exists_eq_add_of_lt (lexeme_length_pos grouped c s)
  rw [Nat.zero_add] at hn
  have hle := lexeme_length_le grouped c s
  have hlength : (s.take n).length + 1 = (lexeme grouped c s).2 := by
    rw [List.length_take]
    omega
  refine ⟨s.take n, s.drop n, (List.take_append_drop n s).symm, ?_⟩
  rw [List.take_append_drop, hlength]

/-- A run that succeeds has read what its frames ask for. The induction is on the source that is
left, which every lexeme makes shorter. -/
theorem closes_of_lexFrom {rest : Text} {pos : Position} {frames : List Frame}
    {done result : List Token} (h : lexFrom rest pos frames done = .ok result) :
    Closes frames rest pos done result := by
  -- on the length: the lexer goes on after a whole lexeme
  induction hn : rest.length using Nat.strongRecOn generalizing rest pos frames done with
  | _ n ih =>
    cases rest with
    | nil =>
      cases frames with
      | nil =>
        rw [lexFrom] at h
        cases h
        have htop := Closes.top done (.nil false [] pos)
        rwa [List.append_nil] at htop
      | cons f frames =>
        rw [lexFrom] at h
        cases h
    | cons c s =>
      obtain ⟨t, u, rfl, here⟩ := lexeme_cut (!frames.isEmpty) c s
      have hshorter : u.length < n := by
        rw [← hn, List.length_cons, List.length_append]
        omega
      cases hk : (lexeme (!frames.isEmpty) c (t ++ u)).1 with
      | blanks =>
        rw [hk] at here
        rw [lexFrom_skip (.inl rfl) here] at h
        refine Closes.before (c :: t) [] (ih _ hshorter h rfl) ?_
        rintro t' rest us rfl hlexes
        exact .skip (.inl rfl) here hlexes
      | comment =>
        rw [hk] at here
        rw [lexFrom_skip (.inr rfl) here] at h
        refine Closes.before (c :: t) [] (ih _ hshorter h rfl) ?_
        rintro t' rest us rfl hlexes
        exact .skip (.inr rfl) here hlexes
      | leaf kind =>
        rw [hk] at here
        rw [lexFrom_leaf here] at h
        refine Closes.before (c :: t) [_] (ih _ hshorter h rfl) ?_
        rintro t' rest us rfl hlexes
        exact .leaf here hlexes
      | opening d =>
        rw [hk] at here
        obtain ⟨rfl, ht⟩ := lexeme_eq_opening here
        obtain rfl : t = [] := List.length_eq_zero_iff.1 (Nat.succ.inj ht)
        rw [List.nil_append] at h ⊢
        rw [lexFrom_opener] at h
        exact (ih _ hshorter h rfl).group rfl
      | closing d =>
        rw [hk] at here
        obtain ⟨rfl, ht⟩ := lexeme_eq_closing here
        obtain rfl : t = [] := List.length_eq_zero_iff.1 (Nat.succ.inj ht)
        rw [List.nil_append] at h hk ⊢
        cases frames with
        | nil =>
          rw [lexFrom, hk] at h
          cases h
        | cons f frames =>
          -- a closing delimiter has to be that of the innermost group
          by_cases hd : f.delimiter = d
          · subst hd
            rw [lexFrom_closer] at h
            exact .frame (.nil true _ pos) (ih _ hshorter h rfl)
          · rw [lexFrom, hk] at h
            simp only [if_neg hd] at h
            cases h
      | openQuote =>
        rw [lexFrom, hk] at h
        cases h

/-- The tokens of a source are the tokens of the stretch that it is as a whole. -/
theorem Token.lex_eq_ok_iff {source : Text} {ts : List Token} :
    Token.lex source = .ok ts ↔ Lexes false source [] .first ts := by
  constructor
  · intro h
    have hcloses := closes_of_lexFrom h
    cases hcloses with
    | top _ hlexes => exact hlexes
  · intro h
    have hrun := lexFrom_of_lexes h [] [] rfl
    rw [List.append_nil, List.append_nil] at hrun
    rw [Token.lex, hrun, lexFrom, List.reverse_reverse]

end XmlTemplate
