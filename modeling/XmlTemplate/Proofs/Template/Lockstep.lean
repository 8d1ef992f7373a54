import Mathlib.Data.List.Forall2
import XmlTemplate.Proofs.Template.Moved
import XmlTemplate.Proofs.Template.Readers

/-!
# Two readings side by side

Two lists of tokens that differ in nothing but places are read in lockstep: both readings take the
same number of tokens and answer alike, or both fail, and for the same cause (`Parse.Agrees`). An
error has a place, to which its cause is charged (`Token.Charged`), unless the tokens have run out
where no group encloses them.

What a pair of readings has in common, a single one has with itself. So the same rules tell what
layout is good for and where errors are.
-/

set_option autoImplicit false

namespace XmlTemplate

namespace Token

/-- One and the same token in two places. -/
def Alike (t u : Token) : Prop :=
  ∃ (v : Token) (base base' : Position), t = v.moved base ∧ u = v.moved base'

/-- What can be wrong with a token, and where: it is charged to the token itself or to one directly
in it, and an end of input in a group to the whole group. -/
inductive Charged (t : Token) : ParseCause → Span → Prop
  | here {cause : ParseCause} (h : cause ≠ .endOfInput) : Charged t cause t.span
  | inside {u : Token} {cause : ParseCause} (hu : u ∈ t.children) (h : cause ≠ .endOfInput) :
      Charged t cause u.span
  | ended {opener : Text} (h : t.isGroup opener = true) : Charged t .endOfInput t.span

/-- A token in a group, and the same one in the group in another place. -/
def Inside (group : Token) (base base' : Position) (t u : Token) : Prop :=
  ∃ v ∈ group.children, t = v.moved base ∧ u = v.moved base'

end Token

namespace Parse

variable {α β γ δ : Type}

/-! ## Readers in lockstep -/

/-- Tokens are paired with tokens that are alike, and every cause but the end of input can be
charged to the first one of a pair. -/
structure Pairs (W : Token → Token → Prop) (S : ParseCause → Span → Prop) : Prop where
  alike : ∀ {t u}, W t u → t.Alike u
  charged : ∀ {t u cause}, W t u → cause ≠ .endOfInput → S cause t.span

/-- The ways in which two readings end together, on tokens in the given groups: with answers in a
relation and at most `m` tokens left, with an error that is charged to a place, or with one token
left at most and none to come. -/
inductive EndsAlike (W : Token → Token → Prop) (S : ParseCause → Span → Prop) (m : Nat)
    (R : α → β → Prop) (o o' : Option Span) :
    EStateM.Result ParseError Cursor α → EStateM.Result ParseError Cursor β → Prop
  | ok {a : α} {b : β} {left left' : List Token} (answer : R a b)
      (paired : List.Forall₂ W left left') (short : left.length ≤ m) :
      EndsAlike W S m R o o' (.ok a ⟨left, o⟩) (.ok b ⟨left', o'⟩)
  | blamed {cause : ParseCause} {p q : Span} {c c' : Cursor} (charged : S cause p) :
      EndsAlike W S m R o o' (.error ⟨cause, some p⟩ c) (.error ⟨cause, some q⟩ c')
  | ended {left left' : List Token} (short : left.length ≤ 1) :
      EndsAlike W S m R o o' (.error ⟨.endOfInput, o⟩ ⟨left, o⟩)
        (.error ⟨.endOfInput, o'⟩ ⟨left', o'⟩)

/-- On no more than `n` tokens and those paired with them, two readers end together. -/
def Agrees (W : Token → Token → Prop) (S : ParseCause → Span → Prop) (n m : Nat)
    (R : α → β → Prop) (p : Parse α) (q : Parse β) : Prop :=
  ∀ (ts us : List Token) (o o' : Option Span), List.Forall₂ W ts us → ts.length ≤ n →
    EndsAlike W S m R o o' (p ⟨ts, o⟩) (q ⟨us, o'⟩)

variable {W : Token → Token → Prop} {S : ParseCause → Span → Prop} {n m k : Nat}
  {R : α → β → Prop} {Q : γ → δ → Prop} {p : Parse α} {q : Parse β} {f : α → Parse γ}
  {g : β → Parse δ}

section Rules

theorem Agrees.mono {n' m' : Nat} (h : Agrees W S n m R p q) (hn : n' ≤ n) (hm : m ≤ m') :
    Agrees W S n' m' R p q := by
  intro ts us o o' hts hlength
  have hpq := h ts us o o' hts (Nat.le_trans hlength hn)
  generalize p ⟨ts, o⟩ = r at hpq ⊢
  generalize q ⟨us, o'⟩ = r' at hpq ⊢
  cases hpq with
  | ok answer paired short => exact .ok answer paired (Nat.le_trans short hm)
  | blamed charged => exact .blamed charged
  | ended short => exact .ended short

theorem EndsAlike.bind {ts us : List Token} {o o' : Option Span}
    (h : EndsAlike W S k R o o' (p ⟨ts, o⟩) (q ⟨us, o'⟩))
    (hf : ∀ a b, R a b → Agrees W S k m Q (f a) (g b)) :
    EndsAlike W S m Q o o' ((p >>= f) ⟨ts, o⟩) ((q >>= g) ⟨us, o'⟩) := by
  generalize hp : p ⟨ts, o⟩ = r at h
  generalize hq : q ⟨us, o'⟩ = r' at h
  cases h with
  | ok answer paired short =>
    rw [bind_of_ok hp, bind_of_ok hq]
    exact hf _ _ answer _ _ o o' paired short
  | blamed charged =>
    rw [bind_of_error hp, bind_of_error hq]
    exact .blamed charged
  | ended short =>
    rw [bind_of_error hp, bind_of_error hq]
    exact .ended short

theorem Agrees.bind (h : Agrees W S n k R p q)
    (hf : ∀ a b, R a b → Agrees W S k m Q (f a) (g b)) :
    Agrees W S n m Q (p >>= f) (q >>= g) :=
  fun ts us o o' hts hlength => (h ts us o o' hts hlength).bind hf

theorem agrees_pure_of_le {a : α} {b : β} (hnm : n ≤ m) (h : R a b) :
    Agrees W S n m R (pure a) (pure b) :=
  fun _ _ _ _ hts hlength => .ok h hts (Nat.le_trans hlength hnm)

theorem agrees_pure {a : α} {b : β} (h : R a b) : Agrees W S n n R (pure a) (pure b) :=
  agrees_pure_of_le (Nat.le_refl n) h

theorem agrees_fail {cause : ParseCause} {x : Span} (h : S cause x) (y : Span) :
    Agrees W S n m R (fail cause x) (fail cause y) :=
  fun _ _ _ _ _ _ => .blamed h

/-- What comes after a failure does not count. -/
theorem agrees_fail_bind {f : α → Parse γ} {g : α → Parse δ} {cause : ParseCause} {x : Span}
    (h : S cause x) (y : Span) :
    Agrees W S n m Q (fail cause x >>= f) (fail cause y >>= g) :=
  fun _ _ _ _ _ _ => .blamed h

/-- Where no token is left, both readings have come to the end. -/
theorem agrees_endOfInput : Agrees W S 0 m R endOfInput endOfInput :=
  fun _ _ _ _ _ hlength => .ended (Nat.le_succ_of_le hlength)

theorem Agrees.discard_bind {f : Unit → Parse γ} {g : Unit → Parse δ} (h : Agrees W S n k R p q)
    (hf : Agrees W S k m Q (f ()) (g ())) :
    Agrees W S n m Q (discard p >>= f) (discard q >>= g) := by
  rw [XmlTemplate.discard_bind, XmlTemplate.discard_bind]
  exact h.bind fun _ _ _ => hf

theorem Agrees.discard (h : Agrees W S n m R p q) :
    Agrees W S n m Eq (Functor.discard p) (Functor.discard q) := by
  rw [← bind_pure (Functor.discard p), ← bind_pure (Functor.discard q)]
  exact h.discard_bind (agrees_pure rfl)

theorem Agrees.map {f : α → γ} {g : β → δ} (h : Agrees W S n m R p q)
    (hf : ∀ a b, R a b → Q (f a) (g b)) : Agrees W S n m Q (f <$> p) (g <$> q) := by
  rw [← bind_pure_comp, ← bind_pure_comp]
  exact h.bind fun a b hab => agrees_pure (hf a b hab)

/-- The same choice, made by both. -/
theorem Agrees.choice {b : Prop} [Decidable b] {p' : Parse α} {q' : Parse β}
    (h : b → Agrees W S n m R p q) (h' : ¬b → Agrees W S n m R p' q') :
    Agrees W S n m R (if b then p else p') (if b then q else q') := by
  split
  · next hb => exact h hb
  · next hb => exact h' hb

/-- The next tokens are alike: one token in two places. -/
theorem Agrees.peek_bind {f : Token → Parse γ} {g : Token → Parse δ} (hW : Pairs W S)
    (h : ∀ v base base', W (Token.moved base v) (Token.moved base' v) →
      Agrees W S n m Q (f (v.moved base)) (g (v.moved base'))) :
    Agrees W S n m Q (peek >>= f) (peek >>= g) := by
  intro ts us o o' hts hlength
  cases hts with
  | nil => exact .ended (Nat.zero_le 1)
  | cons htu hts =>
    obtain ⟨v, base, base', rfl, rfl⟩ := hW.alike htu
    exact h v base base' htu _ _ o o' (.cons htu hts) hlength

theorem Agrees.take_bind {f : Token → Parse γ} {g : Token → Parse δ} (hW : Pairs W S)
    (h : ∀ v base base', W (Token.moved base v) (Token.moved base' v) →
      Agrees W S n m Q (f (v.moved base)) (g (v.moved base'))) :
    Agrees W S (n + 1) m Q (take >>= f) (take >>= g) := by
  intro ts us o o' hts hlength
  cases hts with
  | nil => exact .ended (Nat.zero_le 1)
  | cons htu hts =>
    obtain ⟨v, base, base', rfl, rfl⟩ := hW.alike htu
    exact h v base base' htu _ _ o o' hts (Nat.le_of_succ_le_succ hlength)

theorem Agrees.peekSecond_bind {f : Token → Parse γ} {g : Token → Parse δ} (hW : Pairs W S)
    (h : ∀ v base base', W (Token.moved base v) (Token.moved base' v) →
      Agrees W S n m Q (f (v.moved base)) (g (v.moved base'))) :
    Agrees W S n m Q (peekSecond >>= f) (peekSecond >>= g) := by
  intro ts us o o' hts hlength
  cases hts with
  | nil => exact .ended (Nat.zero_le 1)
  | cons htu hts =>
    cases hts with
    | nil => exact .ended (Nat.le_refl 1)
    | cons htu' hts =>
      obtain ⟨v, base, base', rfl, rfl⟩ := hW.alike htu'
      exact h v base base' htu' _ _ o o' (.cons htu (.cons htu' hts)) hlength

/-- As many tokens are left to one reading as to the other. -/
theorem Agrees.remaining_bind {f : Nat → Parse γ} {g : Nat → Parse δ}
    (h : ∀ k, k ≤ n → Agrees W S k m Q (f k) (g k)) :
    Agrees W S n m Q (remaining >>= f) (remaining >>= g) := by
  intro ts us o o' hts hlength
  have hf := h ts.length hlength ts us o o' hts (Nat.le_refl _)
  show EndsAlike W S m Q o o' (f ts.length ⟨ts, o⟩) (g us.length ⟨us, o'⟩)
  rw [← hts.length_eq]
  exact hf

end Rules

/-! ## Single tokens -/

section Tokens

variable (hW : Pairs W S)

include hW

theorem agrees_take : Agrees W S (n + 1) n W take take := by
  rw [← bind_pure take]
  exact .take_bind hW fun v base base' h => agrees_pure h

/-- Take tokens of which the same is asked. -/
theorem agrees_takeWhich {ask : Token → Bool} {cause : Token → ParseCause}
    (hask : ∀ (base : Position) t, ask (t.moved base) = ask t)
    (hcause : ∀ (base : Position) t, cause (t.moved base) = cause t)
    (hother : ∀ t, cause t ≠ .endOfInput) :
    Agrees W S (n + 1) n W
      (do let t ← take; if ask t then return t else fail (cause t) t.span)
      (do let t ← take; if ask t then return t else fail (cause t) t.span) := by
  refine .take_bind hW fun v base base' h => ?_
  rw [hask, hask, hcause, hcause]
  exact .choice (fun _ => agrees_pure h) fun _ => agrees_fail (hW.charged h (hother v)) _

theorem agrees_takePunctuation (s : Text) :
    Agrees W S (n + 1) n W (takePunctuation s) (takePunctuation s) :=
  agrees_takeWhich hW (fun base t => t.isPunctuation_moved base s)
    (fun base t => congrArg (ParseCause.expectedPunctuation s) (t.shown_moved base)) (by simp)

theorem agrees_takeIdentifier : Agrees W S (n + 1) n W takeIdentifier takeIdentifier :=
  agrees_takeWhich hW (fun base t => t.isKind_moved base .identifier)
    (fun base t => congrArg ParseCause.expectedIdentifier (t.shown_moved base)) (by simp)

theorem agrees_noMore : Agrees W S n n Eq noMore noMore := by
  intro ts us o o' hts hlength
  cases hts with
  | nil => exact .ok rfl .nil hlength
  | cons htu hts =>
    obtain ⟨v, base, base', rfl, rfl⟩ := hW.alike htu
    show EndsAlike W S n Eq o o' (fail (.extraToken (v.moved base).shown) _ _)
      (fail (.extraToken (v.moved base').shown) _ _)
    rw [Token.shown_moved, Token.shown_moved]
    exact .blamed (hW.charged htu (by simp))

theorem agrees_stringValue {v : Token} {base base' : Position}
    (h : W (v.moved base) (v.moved base')) :
    Agrees W S n n Eq (stringValue (v.moved base)) (stringValue (v.moved base')) := by
  have hblamed : ∀ {cause : ParseCause}, cause ≠ .endOfInput →
      Agrees W S n n (Eq : Text → Text → Prop) (fail cause (v.moved base).span)
        (fail cause (v.moved base').span) :=
    fun hcause => agrees_fail (hW.charged h hcause) _
  rcases v with ⟨_ | _ | _ | _, s, p⟩ | _
  case leaf.string =>
    show Agrees W S n n Eq (stringValue (.leaf .string s (p.moved base)))
      (stringValue (.leaf .string s (p.moved base')))
    simp only [stringValue]
    refine .choice (fun _ => hblamed (by simp)) fun _ => ?_
    split
    · exact agrees_pure rfl
    all_goals exact hblamed (by simp)
  all_goals exact hblamed (by simp)

theorem agrees_takeString : Agrees W S (n + 1) n Eq takeString takeString :=
  .take_bind hW fun _ _ _ h => agrees_stringValue hW h

/-! ## Names -/

theorem agrees_checkName (name : Text) {v : Token} {base base' : Position}
    (h : W (v.moved base) (v.moved base')) :
    Agrees W S n n Eq (checkName name (v.moved base).span) (checkName name (v.moved base').span) :=
  .choice (fun _ => agrees_pure rfl) fun _ => agrees_fail (hW.charged h (by simp)) _

/-- The tokens of a name are paired with those of a name. -/
theorem forall₂_nameRun {ts us : List Token} (h : List.Forall₂ W ts us) (wordNext : Bool) :
    List.Forall₂ W (nameRun wordNext ts).1 (nameRun wordNext us).1 ∧
      List.Forall₂ W (nameRun wordNext ts).2 (nameRun wordNext us).2 := by
  induction h generalizing wordNext with
  | nil => exact ⟨.nil, .nil⟩
  | cons htu hts ih =>
    obtain ⟨v, base, base', rfl, rfl⟩ := hW.alike htu
    simp only [nameRun, Token.isNameWord_moved, Token.isNameMark_moved]
    split
    · exact ⟨.cons htu (ih false).1, (ih false).2⟩
    · split
      · exact ⟨.cons htu (ih true).1, (ih true).2⟩
      · exact ⟨.nil, .cons htu hts⟩

theorem flatMap_text_eq {ts us : List Token} (h : List.Forall₂ W ts us) :
    ts.flatMap Token.text = us.flatMap Token.text := by
  induction h with
  | nil => rfl
  | cons htu _ ih =>
    obtain ⟨v, base, base', rfl, rfl⟩ := hW.alike htu
    rw [List.flatMap_cons, List.flatMap_cons, ih, Token.text_moved, Token.text_moved]

theorem agrees_readName : Agrees W S (n + 1) n Eq readName readName := by
  refine .peek_bind hW fun v base base' h => ?_
  simp only [Token.isKind_moved]
  refine .choice (fun _ => ?_) fun _ => ?_
  · refine (agrees_takeString hW).bind fun s s' hs => ?_
    subst hs
    exact agrees_checkName hW s h
  · intro ts us o o' hts hlength
    obtain ⟨hrun, hleft⟩ := forall₂_nameRun hW hts true
    have hsplit := nameRun_append true ts
    have htext := flatMap_text_eq hW hrun
    have hget : ∀ c : Cursor, (get : Parse Cursor) c = .ok c c := fun _ => rfl
    rw [bind_of_ok (hget _), bind_of_ok (hget _)]
    dsimp only
    generalize nameRun true ts = r at hrun hleft hsplit htext ⊢
    generalize nameRun true us = r' at hrun hleft htext ⊢
    obtain ⟨run, left⟩ := r
    obtain ⟨run', left'⟩ := r'
    cases hrun with
    | nil =>
      rw [Token.shown_moved, Token.shown_moved]
      exact .blamed (hW.charged h (by simp))
    | cons htu hrun =>
      -- the name takes at least one token
      have hshort : left.length ≤ n := by
        have hlengths := congrArg List.length hsplit
        simp only [List.length_append, List.length_cons] at hlengths
        omega
      dsimp only at htext
      rw [htext]
      exact agrees_checkName hW _ h left left' o o' hleft hshort

end Tokens

/-! ## Embedded scripts -/

/-- The same expression, but for its place. -/
def AlikeEmbedded (e f : Embedded) : Prop := e.unplaced = f.unplaced

theorem agrees_embed (room : Nat) (source : Text) {x : Span}
    (h : ∀ cause, cause ≠ .endOfInput → S cause x) (y : Span) :
    Agrees W S n n AlikeEmbedded (embed room source x) (embed room source y) := by
  unfold embed
  refine .choice (fun _ => agrees_fail (h _ (by simp)) y) fun _ => ?_
  split
  · refine .choice (fun _ => agrees_fail (h _ (by simp)) y) fun _ => ?_
    exact .choice (fun _ => agrees_fail (h _ (by simp)) y) fun _ => agrees_pure rfl
  · exact agrees_fail (h _ (by simp)) y

/-- Pairs of tokens of which the first one may be a group that something is wrong in. -/
structure PairsGroups (W : Token → Token → Prop) (S : ParseCause → Span → Prop) : Prop
    extends Pairs W S where
  inside : ∀ {t u cause x}, W t u → t.Charged cause x → S cause x

theorem Pairs.inside (g : Token) (base base' : Position) :
    Pairs (g.Inside base base') (g.moved base).Charged where
  alike := by
    rintro _ _ ⟨v, -, rfl, rfl⟩
    exact ⟨v, base, base', rfl, rfl⟩
  charged := by
    rintro _ _ cause ⟨v, hv, rfl, rfl⟩ hcause
    have hinside : v.moved base ∈ (g.moved base).children := by
      rw [Token.children_moved]
      exact List.mem_map_of_mem hv
    exact .inside hinside hcause

theorem forall₂_inside (g : Token) (base base' : Position) :
    List.Forall₂ (g.Inside base base') (g.moved base).children (g.moved base').children := by
  rw [Token.children_moved, Token.children_moved, List.forall₂_map_left_iff,
    List.forall₂_map_right_iff, List.forall₂_same]
  exact fun v hv => ⟨v, hv, rfl, rfl⟩

/-- Readers in a group and in the same group elsewhere. What goes wrong there is charged to
something in the group, or to the group if its tokens run out. -/
theorem Agrees.within {v : Token} {base base' : Position} {opener : Text} (hW : PairsGroups W S)
    (hg : v.isGroup opener = true) (htu : W (v.moved base) (v.moved base'))
    (h : Agrees (v.Inside base base') (v.moved base).Charged n m R p q)
    (hn : v.children.length ≤ n) :
    Agrees W S k k R (Parse.within (v.moved base) p) (Parse.within (v.moved base') q) := by
  intro ts us o o' hts hlength
  have hpq := h _ _ (some (v.moved base).span) (some (v.moved base').span)
    (forall₂_inside v base base') (by rwa [Token.children_moved, List.length_map])
  rw [Parse.within, Parse.within, Cursor.ofGroup, Cursor.ofGroup]
  generalize p _ = r at hpq ⊢
  generalize q _ = r' at hpq ⊢
  cases hpq with
  | ok answer _ _ => exact .ok answer hts hlength
  | blamed charged => exact .blamed (hW.inside htu charged)
  | ended short =>
    have hended : (v.moved base).Charged .endOfInput (v.moved base).span :=
      .ended ((v.isGroup_moved base opener).trans hg)
    exact .blamed (hW.inside htu hended)

section Scripts

variable (hW : PairsGroups W S) {v : Token} {base base' : Position}
  (htu : W (v.moved base) (v.moved base'))

include hW htu

theorem agrees_groupExpression (room : Nat) :
    Agrees W S n n AlikeEmbedded (groupExpression room (v.moved base))
      (groupExpression room (v.moved base')) := by
  unfold groupExpression
  rw [Token.text_moved, Token.text_moved]
  exact agrees_embed room _ (fun cause hcause => hW.charged htu hcause) _

omit hW htu in
theorem agrees_restExpression (room : Nat) :
    Agrees (v.Inside base base') (v.moved base).Charged n n AlikeEmbedded
      (restExpression room (v.moved base)) (restExpression room (v.moved base')) := by
  have hinside := Pairs.inside v base base'
  intro ts us o o' hts hlength
  cases hts with
  | nil => exact .ended (Nat.zero_le 1)
  | cons hfirst hts =>
    have hcharged : ∀ cause, cause ≠ .endOfInput → (v.moved base).Charged cause (Token.span _) :=
      fun _ => hinside.charged hfirst
    obtain ⟨u, hu, rfl, rfl⟩ := hfirst
    show EndsAlike _ _ n AlikeEmbedded o o'
      (embed room ((v.moved base).innerFrom (u.moved base)) _ _)
      (embed room ((v.moved base').innerFrom (u.moved base')) _ _)
    rw [Token.innerFrom_moved, Token.innerFrom_moved]
    exact agrees_embed room _ hcharged _ _ _ o o' (.cons ⟨u, hu, rfl, rfl⟩ hts) hlength

theorem agrees_fillExpression (room : Nat) {opener : Text} (hg : v.isGroup opener = true) :
    Agrees W S n n AlikeEmbedded (fillExpression room (v.moved base))
      (fillExpression room (v.moved base')) := by
  have hinside := Pairs.inside v base base'
  refine .within (n := v.children.length + 2) (m := v.children.length) hW hg htu ?_ (by omega)
  refine (agrees_takePunctuation hinside ['.']).discard_bind ?_
  exact (agrees_takePunctuation hinside ['.']).discard_bind (agrees_restExpression room)

/-- The same continuation, but for its place. -/
theorem agrees_continuation (permission : Permission) (room : Nat) {opener : Text}
    (hg : v.isGroup opener = true) :
    Agrees W S n n (fun c d => c.unplaced = d.unplaced)
      (continuation permission room (v.moved base))
      (continuation permission room (v.moved base')) := by
  have hinside := Pairs.inside v base base'
  cases permission with
  | refused => exact agrees_fail (hW.charged htu (by simp)) _
  | missing => exact agrees_fail (hW.charged htu (by simp)) _
  | granted =>
    refine .within (n := v.children.length + 3) (m := v.children.length) hW hg htu ?_ (by omega)
    have hblamed : ∀ {cause : ParseCause}, cause ≠ .endOfInput →
        Agrees (v.Inside base base') (v.moved base).Charged v.children.length v.children.length
          (fun c d : Continuation => c.unplaced = d.unplaced) (fail cause (v.moved base).span)
          (fail cause (v.moved base').span) :=
      fun hcause => agrees_fail (.here hcause) _
    refine (agrees_takePunctuation hinside ['|']).discard_bind ?_
    refine (agrees_takeIdentifier hinside).bind fun x x' hx => ?_
    refine (agrees_takePunctuation hinside ['|']).bind fun b b' hb => ?_
    obtain ⟨x, -, rfl, rfl⟩ := hx
    obtain ⟨b, -, rfl, rfl⟩ := hb
    simp only [Token.innerAfter_moved, Token.text_moved]
    split
    · refine .choice (fun _ => hblamed (by simp)) fun _ => ?_
      exact .choice (fun _ => hblamed (by simp)) fun _ => agrees_pure rfl
    · exact hblamed (by simp)

end Scripts

end Parse

end XmlTemplate
