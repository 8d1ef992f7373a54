import XmlTemplate.Proofs.Sequence
import XmlTemplate.Proofs.Template.Grammar

/-!
# Readers and what they read

A reader either fails or answers with something that it takes off the head of the tokens. `Reads`
ties its answers to a relation, both ways: what the reader answers is related to the tokens, and
what is related to them it answers. Readers are put together as programs are, and so are their
relations; each reader of this module, from single tokens to names and embedded scripts, is tied to
the rule of the grammar that it follows.
-/

set_option autoImplicit false

namespace XmlTemplate

namespace Parse

open Grammar

variable {α β : Type}

/-- A reader succeeds on tokens in the ways of a relation and in no others: with an answer and the
tokens after what it took. -/
def Reads (p : Parse α) (ts : List Token) (R : α → List Token → Prop) : Prop :=
  ∀ (o : Option Span) (a : α) (c : Cursor), p ⟨ts, o⟩ = .ok a c ↔ ∃ rest, R a rest ∧ c = ⟨rest, o⟩

/-! ## Putting readers together -/

section Rules

variable {p : Parse α} {f : α → Parse β} {t : Token} {ts : List Token}
  {R R' : α → List Token → Prop} {S : α → List Token → β → List Token → Prop}
  {Q : β → List Token → Prop}

theorem Reads.congr (h : Reads p ts R) (hR : ∀ a rest, R a rest ↔ R' a rest) : Reads p ts R' := by
  intro o a c
  rw [h o a c]
  exact exists_congr fun rest => and_congr_left fun _ => hR a rest

theorem Reads.bind (h : Reads p ts R) (hf : ∀ a rest, R a rest → Reads (f a) rest (S a rest)) :
    Reads (p >>= f) ts fun b rest => ∃ a us, R a us ∧ S a us b rest := by
  intro o b c
  rw [bind_eq_ok]
  constructor
  · rintro ⟨a, _, hp, hb⟩
    obtain ⟨us, hR, rfl⟩ := (h o a _).1 hp
    obtain ⟨rest, hS, hc⟩ := (hf a us hR o b c).1 hb
    exact ⟨rest, ⟨a, us, hR, hS⟩, hc⟩
  · rintro ⟨rest, ⟨a, us, hR, hS⟩, hc⟩
    exact ⟨a, ⟨us, o⟩, (h o a _).2 ⟨us, hR, rfl⟩, (hf a us hR o b c).2 ⟨rest, hS, hc⟩⟩

/-- The answer of a reader may be dropped. -/
theorem Reads.discard_bind {g : Unit → Parse β} (h : Reads p ts R)
    (hf : ∀ a rest, R a rest → Reads (g ()) rest (S a rest)) :
    Reads (discard p >>= g) ts fun b rest => ∃ a us, R a us ∧ S a us b rest := by
  rw [XmlTemplate.discard_bind]
  exact h.bind hf

theorem reads_pure (a : α) (ts : List Token) :
    Reads (pure a) ts fun b rest => b = a ∧ rest = ts := by
  intro o b c
  constructor
  · intro h
    cases h
    exact ⟨ts, ⟨rfl, rfl⟩, rfl⟩
  · rintro ⟨_, ⟨rfl, rfl⟩, rfl⟩
    rfl

theorem reads_fail (cause : ParseCause) (span : Span) (ts : List Token) :
    Reads (fail cause span : Parse α) ts fun _ _ => False := by
  intro o a c
  constructor
  · intro h
    cases h
  · rintro ⟨_, h, _⟩
    exact h.elim

theorem reads_endOfInput (ts : List Token) :
    Reads (endOfInput : Parse α) ts fun _ _ => False := by
  intro o a c
  constructor
  · intro h
    cases h
  · rintro ⟨_, h, _⟩
    exact h.elim

/-- A reader that comes after a check. -/
theorem Reads.unless {q : Prop} [Decidable q] (cause : ParseCause) (span : Span)
    (h : Reads p ts R) :
    Reads (if q then fail cause span else p) ts fun a rest => ¬q ∧ R a rest := by
  split
  · next hq => exact (reads_fail cause span ts).congr (by simp [hq])
  · next hq => exact h.congr (by simp [hq])

theorem Reads.peek_cons {g : Token → Parse β} (h : Reads (g t) (t :: ts) Q) :
    Reads (peek >>= g) (t :: ts) Q := h

theorem Reads.peek_nil (g : Token → Parse β) : Reads (peek >>= g) [] fun _ _ => False :=
  reads_endOfInput []

theorem Reads.remaining {g : Nat → Parse β} (h : Reads (g ts.length) ts Q) :
    Reads (remaining >>= g) ts Q := h

theorem Reads.take_cons {g : Token → Parse β} (h : Reads (g t) ts Q) :
    Reads (take >>= g) (t :: ts) Q := h

theorem Reads.take_nil (g : Token → Parse β) : Reads (take >>= g) [] fun _ _ => False :=
  reads_endOfInput []

theorem Reads.discard (h : Reads p ts R) :
    Reads (Functor.discard p) ts fun _ rest => ∃ a, R a rest := by
  have hunit : (Functor.discard p >>= pure) = Functor.discard p := bind_pure _
  rw [← hunit]
  refine (h.discard_bind fun _ us _ => reads_pure () us).congr fun _ rest => ?_
  constructor
  · rintro ⟨a, _, hR, -, rfl⟩
    exact ⟨a, hR⟩
  · rintro ⟨a, hR⟩
    exact ⟨a, rest, hR, rfl, rfl⟩

theorem Reads.map (g : α → β) (h : Reads p ts R) :
    Reads (g <$> p) ts fun b rest => ∃ a, R a rest ∧ b = g a := by
  rw [← bind_pure_comp]
  refine (h.bind fun a us _ => reads_pure (g a) us).congr fun b rest => ?_
  constructor
  · rintro ⟨a, _, hR, hb, rfl⟩
    exact ⟨a, hR, hb⟩
  · rintro ⟨a, hR, hb⟩
    exact ⟨a, rest, hR, hb, rfl⟩

/-- A reader inside of a group stays where it is outside. -/
theorem Reads.within {group : Token} (h : Reads p group.children R) (ts : List Token) :
    Reads (Parse.within group p) ts fun a rest => (∃ left, R a left) ∧ rest = ts := by
  intro o a c
  have hrun := h (some group.span) a
  rw [Parse.within, Cursor.ofGroup]
  cases hp : p ⟨group.children, some group.span⟩ with
  | ok b c' =>
    constructor
    · intro hok
      cases hok
      obtain ⟨left, hR, -⟩ := (hrun c').1 hp
      exact ⟨ts, ⟨⟨left, hR⟩, rfl⟩, rfl⟩
    · rintro ⟨_, ⟨⟨left, hR⟩, rfl⟩, rfl⟩
      have hok := (hrun _).2 ⟨left, hR, rfl⟩
      rw [hp] at hok
      cases hok
      rfl
  | error e c' =>
    constructor
    · intro hok
      cases hok
    · rintro ⟨_, ⟨⟨left, hR⟩, rfl⟩, rfl⟩
      have hok := (hrun _).2 ⟨left, hR, rfl⟩
      rw [hp] at hok
      cases hok

end Rules

/-! ## Single tokens -/

theorem reads_take (ts : List Token) : Reads take ts fun t rest => ts = t :: rest := by
  cases ts with
  | nil => exact (reads_endOfInput []).congr (by simp)
  | cons t ts => exact (reads_pure t ts).congr (by simp [eq_comm])

/-- Take a token of which something is asked. -/
theorem reads_takeWhich (q : Token → Bool) (cause : Token → ParseCause) (ts : List Token) :
    Reads (do
      let t ← take
      if q t then return t else fail (cause t) t.span) ts
      fun t rest => ts = t :: rest ∧ q t = true := by
  cases ts with
  | nil => exact (Reads.take_nil _).congr (by simp)
  | cons t ts =>
    refine Reads.take_cons ?_
    by_cases hq : q t = true
    · rw [if_pos hq]
      refine (reads_pure t ts).congr fun t' rest => ?_
      constructor
      · rintro ⟨rfl, rfl⟩
        exact ⟨rfl, hq⟩
      · rintro ⟨h, -⟩
        cases h
        exact ⟨rfl, rfl⟩
    · rw [if_neg hq]
      refine (reads_fail _ _ _).congr fun t' rest => ?_
      constructor
      · exact False.elim
      · rintro ⟨h, hq'⟩
        cases h
        exact hq hq'

theorem reads_takePunctuation (s : Text) (ts : List Token) :
    Reads (takePunctuation s) ts fun t rest => ts = t :: rest ∧ t.isPunctuation s = true :=
  reads_takeWhich (Token.isPunctuation s) (fun t => .expectedPunctuation s t.shown) ts

theorem reads_takeIdentifier (ts : List Token) :
    Reads takeIdentifier ts fun t rest => ts = t :: rest ∧ t.isKind .identifier = true :=
  reads_takeWhich (Token.isKind .identifier) (fun t => .expectedIdentifier t.shown) ts

theorem reads_takeGroup (opener : Text) (ts : List Token) :
    Reads (takeGroup opener) ts fun t rest => ts = t :: rest ∧ t.isGroup opener = true :=
  reads_takeWhich (Token.isGroup opener) (fun t => .expectedGroup opener t.shown) ts

theorem eq_of_isPunctuation {s s' : Text} {t : Token} (h : t.isPunctuation s = true)
    (h' : t.isPunctuation s' = true) : s = s' := by
  rcases t with ⟨_ | _ | _ | _, text, p⟩ | _ <;> try cases h
  simp only [Token.isPunctuation, decide_eq_true_eq] at h h'
  rw [← h, ← h']

/-- Tokens of another kind are no punctuation. -/
theorem not_isPunctuation_of_isKind {k : Kind} (hk : k ≠ .punctuation) {s : Text} {t : Token}
    (h : t.isKind k = true) : ¬t.isPunctuation s = true := by
  rcases t with ⟨k', text, p⟩ | _
  · obtain rfl : k' = k := by simpa [Token.isKind] using h
    cases k' with
    | punctuation => exact absurd rfl hk
    | identifier | number | string => exact Bool.noConfusion
  · cases h

theorem not_isPunctuation_of_isGroup {s opener : Text} {t : Token} (h : t.isGroup opener = true) :
    ¬t.isPunctuation s = true := by
  cases t with
  | leaf => cases h
  | group => exact Bool.noConfusion

theorem reads_noMore (ts : List Token) : Reads noMore ts fun _ rest => ts = [] ∧ rest = [] := by
  cases ts with
  | nil => exact (reads_pure () []).congr (by simp)
  | cons t ts => exact (reads_fail _ _ _).congr (by simp)

theorem reads_stringValue (t : Token) (ts : List Token) :
    Reads (stringValue t) ts fun value rest => Spells t value ∧ rest = ts := by
  have hno : (∀ value, ¬Spells t value) → ∀ (value : Text) (rest : List Token),
      False ↔ Spells t value ∧ rest = ts := fun h value rest => by simp [h value]
  cases t with
  | group => exact (reads_fail _ _ _).congr (hno (by rintro _ ⟨⟩))
  | leaf kind s p =>
    cases kind with
    | string =>
      simp only [stringValue]
      split
      · next hf =>
        refine (reads_fail _ _ _).congr (hno ?_)
        rintro _ ⟨plain, _⟩
        simp [plain] at hf
      · next hf =>
        rw [Bool.not_eq_true] at hf
        split
        · next value hs =>
          refine (reads_pure value ts).congr fun value' rest => and_congr_left fun _ => ?_
          constructor
          · rintro rfl
            exact .string hf hs
          · rintro ⟨_, hs'⟩
            rw [hs] at hs'
            cases hs'
            rfl
        all_goals
          next hs =>
          refine (reads_fail _ _ _).congr (hno ?_)
          rintro _ ⟨_, hs'⟩
          rw [hs] at hs'
          cases hs'
    | identifier | number | punctuation => exact (reads_fail _ _ _).congr (hno (by rintro _ ⟨⟩))

theorem reads_takeString (ts : List Token) :
    Reads takeString ts fun value rest => ∃ t, ts = t :: rest ∧ Spells t value := by
  refine ((reads_take ts).bind fun t us _ => reads_stringValue t us).congr fun value rest => ?_
  constructor
  · rintro ⟨t, us, rfl, ht, rfl⟩
    exact ⟨t, rfl, ht⟩
  · rintro ⟨t, rfl, ht⟩
    exact ⟨t, rest, rfl, ht, rfl⟩

/-! ## Names -/

theorem isNameMark_of_isNameWord {t : Token} (h : t.isNameWord = true) : t.isNameMark = false := by
  rcases t with ⟨_ | _ | _ | _, _, _⟩ | _ <;> first | rfl | exact Bool.noConfusion h

/-- The tokens that are taken for a name are the longest run of words and marks. -/
theorem nameRun_eq_iff {wordNext : Bool} {ts run rest : List Token} :
    nameRun wordNext ts = (run, rest) ↔ ts = run ++ rest ∧ IsNameRun wordNext run ∧
      ∀ t ∈ rest.head?, ¬IsNameRun wordNext (run ++ [t]) := by
  constructor
  · fun_induction nameRun wordNext ts generalizing run rest with
    | case1 =>
      intro h
      cases h
      exact ⟨rfl, .nil _, by simp⟩
    | case2 wordNext t ts ht run' left hrun ih =>
      intro h
      cases h
      obtain ⟨rfl, joined, longest⟩ := ih hrun
      simp only [Bool.and_eq_true] at ht
      obtain ⟨hword, rfl⟩ := ht
      refine ⟨rfl, .word hword joined, fun u hu hmore => ?_⟩
      cases hmore with
      | word _ more => exact longest u hu more
      -- no token is both a word and a mark
      | mark hmark => simp [isNameMark_of_isNameWord hword] at hmark
    | case3 wordNext t ts ht hmark run' left hrun ih =>
      intro h
      cases h
      obtain ⟨rfl, joined, longest⟩ := ih hrun
      refine ⟨rfl, .mark hmark joined, fun u hu hmore => ?_⟩
      cases hmore with
      | word hword => simp [isNameMark_of_isNameWord hword] at hmark
      | mark _ more => exact longest u hu more
    | case4 wordNext t ts hword hmark =>
      intro h
      cases h
      refine ⟨rfl, .nil _, ?_⟩
      rintro u ⟨⟩ (_ | ⟨ht, -⟩ | ⟨ht, -⟩)
      · simp [ht] at hword
      · exact hmark ht
  · rintro ⟨rfl, joined, longest⟩
    induction joined with
    | nil wordNext =>
      cases rest with
      | nil => rfl
      | cons t rest =>
        have hnot := longest t rfl
        have hmark : ¬t.isNameMark = true := fun ht => hnot (.mark ht (.nil _))
        have hword : ¬(t.isNameWord && wordNext) = true := by
          intro ht
          simp only [Bool.and_eq_true] at ht
          obtain ⟨ht, rfl⟩ := ht
          exact hnot (.word ht (.nil _))
        rw [List.nil_append, nameRun, if_neg hword, if_neg hmark]
    | @word t ts ht _ ih =>
      have hmore := ih fun u hu hrun => longest u hu (.word ht hrun)
      rw [List.cons_append, nameRun, ht, Bool.and_self, if_pos rfl, hmore]
    | @mark wordNext t ts ht _ ih =>
      have hmore := ih fun u hu hrun => longest u hu (.mark ht hrun)
      have hword : ¬(t.isNameWord && wordNext) = true := by
        intro hword
        simp only [Bool.and_eq_true] at hword
        rw [isNameMark_of_isNameWord hword.1] at ht
        cases ht
      rw [List.cons_append, nameRun, if_neg hword, if_pos ht, hmore]

theorem reads_checkName (name : Text) (span : Span) (ts : List Token) :
    Reads (checkName name span) ts fun n rest =>
      (n = name ∧ isName name = true) ∧ rest = ts := by
  unfold checkName
  split
  · next h => exact (reads_pure name ts).congr (by simp [h])
  · next h => exact (reads_fail _ _ _).congr (by simp [h])

/-- The first token of a run of words and marks is one of them. -/
theorem isNameWord_or_isNameMark {wordNext : Bool} {t : Token} {ts : List Token}
    (h : IsNameRun wordNext (t :: ts)) : t.isNameWord = true ∨ t.isNameMark = true := by
  cases h with
  | word ht => exact .inl ht
  | mark ht => exact .inr ht

/-- A name starts with a string, a word or a mark. -/
theorem exists_head_of_name {ts rest : List Token} {n : Text} (h : Name ts n rest) :
    ∃ t us, ts = t :: us ∧
      (t.isKind .string = true ∨ t.isNameWord = true ∨ t.isNameMark = true) := by
  cases h with
  | @run run _ filled joined =>
    cases run with
    | nil => exact absurd rfl filled
    | cons t us => exact ⟨t, _, rfl, .inr (isNameWord_or_isNameMark joined)⟩
  | string value => exact ⟨_, _, rfl, .inl (by cases value; rfl)⟩

theorem reads_readName (ts : List Token) : Reads readName ts fun n rest => Name ts n rest := by
  cases ts with
  | nil =>
    refine (Reads.peek_nil _).congr fun n rest => ⟨False.elim, fun h => ?_⟩
    obtain ⟨_, _, h, -⟩ := exists_head_of_name h
    cases h
  | cons t ts =>
    refine Reads.peek_cons ?_
    by_cases hstring : t.isKind .string = true
    · rw [if_pos hstring]
      refine ((reads_takeString (t :: ts)).bind fun value us _ =>
        reads_checkName value t.span us).congr fun n rest => ?_
      constructor
      · rintro ⟨value, us, ⟨u, h, hu⟩, ⟨rfl, valid⟩, rfl⟩
        cases h
        exact .string hu valid
      · intro h
        generalize hts : t :: ts = us at h
        cases h with
        | @run run _ filled joined =>
          -- no run of words and marks starts with a string
          cases run with
          | nil => exact absurd rfl filled
          | cons u run =>
            cases hts
            rcases t with ⟨_ | _ | _ | _, _, _⟩ | _ <;> try cases hstring
            rcases isNameWord_or_isNameMark joined with h | h <;> cases h
        | string value valid =>
          cases hts
          exact ⟨_, _, ⟨t, rfl, value⟩, ⟨rfl, valid⟩, rfl⟩
    · rw [if_neg hstring]
      intro o n c
      have hget : (get : Parse Cursor) ⟨t :: ts, o⟩ = .ok ⟨t :: ts, o⟩ ⟨t :: ts, o⟩ := rfl
      rw [bind_of_ok hget]
      cases hrun : nameRun true (t :: ts) with
      | mk run left =>
        obtain ⟨hts, joined, longest⟩ := nameRun_eq_iff.1 hrun
        -- the tokens that are taken are those of any name here
        have hname : ∀ n rest, Name (t :: ts) n rest ↔
            run ≠ [] ∧ (n = run.flatMap Token.text ∧ isName (run.flatMap Token.text) = true) ∧
              rest = left := by
          intro n rest
          constructor
          · intro h
            generalize hus : t :: ts = us at h
            cases h with
            | run filled joined longest valid =>
              have heq := nameRun_eq_iff.2 ⟨hus, joined, longest⟩
              rw [hrun] at heq
              cases heq
              exact ⟨filled, ⟨rfl, valid⟩, rfl⟩
            | string value =>
              cases hus
              cases value
              exact absurd rfl hstring
          · rintro ⟨filled, ⟨rfl, valid⟩, rfl⟩
            rw [hts]
            exact .run filled joined longest valid
        cases run with
        | nil =>
          refine Iff.trans (reads_fail (.expectedName t.shown) t.span (t :: ts) o n c) ?_
          simp [hname]
        | cons u run =>
          refine Iff.trans (reads_checkName _ t.span left o n c) ?_
          simp [hname]

/-! ## Embedded scripts -/

theorem reads_embed (room : Nat) (source : Text) (p : Span) (ts : List Token) :
    Reads (embed room source p) ts fun e rest =>
      (Expression source p e ∧ e.Fits room) ∧ rest = ts := by
  cases hcode : Script.expression? source with
  | some code =>
    rw [embed, hcode]
    refine (((reads_pure _ ts).unless _ _).unless _ _ |>.unless _ _).congr fun e rest => ?_
    constructor
    · rintro ⟨hblank, hstacked, hdepth, rfl, hrest⟩
      rw [Bool.not_eq_true] at hblank
      exact ⟨⟨.intro hblank hcode, Nat.not_lt.1 hstacked, Nat.not_lt.1 hdepth⟩, hrest⟩
    · rintro ⟨⟨⟨filled, valid⟩, hstacked, hdepth⟩, hrest⟩
      rw [hcode] at valid
      cases valid
      exact ⟨by simp [filled], Nat.not_lt.2 hstacked, Nat.not_lt.2 hdepth, rfl, hrest⟩
  | none =>
    rw [embed, hcode]
    refine ((reads_fail _ _ _).unless _ _).congr fun e rest => ⟨fun h => h.2.elim, ?_⟩
    rintro ⟨⟨⟨-, valid⟩, -⟩, -⟩
    rw [hcode] at valid
    cases valid

theorem exists_of_isGroup {d : Delimiter} {g : Token} (h : g.isGroup [d.opener] = true) :
    ∃ text p inside, g = .group d text p inside := by
  rcases g with _ | ⟨d', text, p, inside⟩
  · cases h
  · have hd : d' = d := by
      cases d <;> cases d' <;> first | rfl | simp [Token.isGroup, Delimiter.opener] at h
    subst hd
    exact ⟨text, p, inside, rfl⟩

theorem reads_groupExpression (room : Nat) {g : Token} (hg : g.isGroup ['{'] = true)
    (ts : List Token) :
    Reads (groupExpression room g) ts fun e rest =>
      (GroupExpression g e ∧ e.Fits room) ∧ rest = ts := by
  obtain ⟨text, p, inside, rfl⟩ := exists_of_isGroup (d := .curly) hg
  refine (reads_embed room text p ts).congr fun e rest => ?_
  constructor
  · rintro ⟨⟨h, hfits⟩, rfl⟩
    exact ⟨⟨.intro h, hfits⟩, rfl⟩
  · rintro ⟨⟨⟨h⟩, hfits⟩, rfl⟩
    exact ⟨⟨h, hfits⟩, rfl⟩

theorem reads_restExpression (room : Nat) (g : Token) (ts : List Token) :
    Reads (restExpression room g) ts fun e rest =>
      ∃ first us, ts = first :: us ∧
        (Expression (g.innerFrom first) first.span e ∧ e.Fits room) ∧ rest = ts := by
  cases ts with
  | nil => exact (Reads.peek_nil _).congr (by simp)
  | cons first us =>
    refine Reads.peek_cons ((reads_embed room _ _ _).congr fun e rest => ?_)
    constructor
    · intro h
      exact ⟨first, us, rfl, h⟩
    · rintro ⟨_, _, h, hrest⟩
      cases h
      exact hrest

theorem reads_fillExpression (room : Nat) {g : Token} (hg : g.isGroup ['{'] = true)
    (ts : List Token) :
    Reads (fillExpression room g) ts fun e rest => (Fill g e ∧ e.Fits room) ∧ rest = ts := by
  obtain ⟨text, p, inside, rfl⟩ := exists_of_isGroup (d := .curly) hg
  refine (((reads_takePunctuation ['.'] inside).discard_bind fun a us _ =>
    (reads_takePunctuation ['.'] us).discard_bind fun b vs _ =>
      reads_restExpression room _ vs).within ts).congr fun e rest => and_congr_left fun _ => ?_
  constructor
  · rintro ⟨_, a, us, ⟨rfl, ha⟩, b, vs, ⟨rfl, hb⟩, first, ws, rfl, ⟨h, hfits⟩, -⟩
    exact ⟨.intro rfl ha hb h, hfits⟩
  · rintro ⟨h, hfits⟩
    cases h with
    | intro hg ha hb h =>
      cases hg
      exact ⟨_, _, _, ⟨rfl, ha⟩, _, _, ⟨rfl, hb⟩, _, _, rfl, ⟨h, hfits⟩, rfl⟩

/-- The end of reading a continuation, where its parts are known. -/
theorem reads_statements (room : Nat) (argument source : Text) (p : Span) (ts : List Token) :
    Reads (match Script.program? source with
      | some code =>
        if Script.stackedIn code > Script.maxStackedIn then fail .tooStacked p
        else if Script.depthAll code > scriptDepth room then fail .tooDeep p
        else return ⟨argument, source, code, some p⟩
      | none => fail .invalidCode p) ts
      fun (c : Continuation) rest =>
        ((∃ code, Script.program? source = some code ∧ c = ⟨argument, source, code, some p⟩) ∧
          c.Fits .granted room) ∧ rest = ts := by
  cases hcode : Script.program? source with
  | some code =>
    refine (((reads_pure _ ts).unless _ _).unless _ _).congr fun c rest => ?_
    constructor
    · rintro ⟨hstacked, hdepth, rfl, hrest⟩
      exact ⟨⟨⟨code, rfl, rfl⟩, rfl, Nat.not_lt.1 hstacked, Nat.not_lt.1 hdepth⟩, hrest⟩
    · rintro ⟨⟨⟨_, hvalid, rfl⟩, -, hstacked, hdepth⟩, hrest⟩
      cases hvalid
      exact ⟨Nat.not_lt.2 hstacked, Nat.not_lt.2 hdepth, rfl, hrest⟩
  | none => exact (reads_fail _ _ _).congr (by simp)

theorem reads_continuation (permission : Permission) (room : Nat) {g : Token}
    (hg : g.isGroup ['{'] = true) (ts : List Token) :
    Reads (continuation permission room g) ts fun c rest =>
      (Body g c ∧ c.Fits permission room) ∧ rest = ts := by
  obtain ⟨text, p, inside, rfl⟩ := exists_of_isGroup (d := .curly) hg
  cases permission with
  | refused | missing =>
    refine (reads_fail _ _ _).congr fun c rest => ⟨False.elim, ?_⟩
    rintro ⟨⟨_, h, _⟩, _⟩
    cases h
  | granted =>
    refine (((reads_takePunctuation ['|'] inside).discard_bind fun a us _ =>
      (reads_takeIdentifier us).bind fun x vs _ =>
        (reads_takePunctuation ['|'] vs).bind fun b ws _ =>
          reads_statements room x.text
            (statementsOf (Token.innerAfter (.group .curly text p inside) b)) p ws).within ts).congr
              fun c rest => and_congr_left fun _ => ?_
    constructor
    · rintro ⟨_, a, us, ⟨rfl, ha⟩, x, vs, ⟨rfl, hx⟩, b, ws, ⟨rfl, hb⟩, ⟨⟨code, valid, rfl⟩, hfits⟩,
        -⟩
      exact ⟨.intro rfl ha hx hb valid, hfits⟩
    · rintro ⟨h, hfits⟩
      cases h with
      | intro hg ha hx hb valid =>
        cases hg
        exact ⟨_, _, _, ⟨rfl, ha⟩, _, _, ⟨rfl, hx⟩, _, _, ⟨rfl, hb⟩, ⟨⟨_, valid, rfl⟩, hfits⟩, rfl⟩

end Parse

end XmlTemplate
