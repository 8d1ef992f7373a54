import XmlTemplate.Proofs.Template.WrongEndTag
import XmlTemplate.Proofs.Token.Places

/-!
# Reading the first of some tokens

A reader is run twice, on all tokens of a list and on the first of them alone. Where it reads
something from all of them, it either reads the same from the first ones, or it comes to their end
(`Parse.Cuts`). There is one exception: half of a name may be a name, and in an end tag it is
compared at once with the name that is expected (`Parse.CutName`).

The two runs need not have the same bounds on their recursion, since a bound that is used up is an
end of the tokens too.
-/

set_option autoImplicit false

namespace XmlTemplate

/-! ## Halves of names -/

theorem isName_of_append {s s' : Text} (h : isName (s ++ s') = true) (hs : s ≠ []) :
    isName s = true := by
  cases s with
  | nil => exact absurd rfl hs
  | cons c s =>
    rw [List.cons_append, isName, List.all_append, Bool.and_eq_true, Bool.and_eq_true] at h
    rw [isName, Bool.and_eq_true]
    exact ⟨h.1, h.2.1⟩

theorem Grammar.IsNameRun.of_append {wordNext : Bool} {ts us : List Token}
    (h : IsNameRun wordNext (ts ++ us)) : IsNameRun wordNext ts := by
  induction ts generalizing wordNext with
  | nil => exact .nil wordNext
  | cons t ts ih =>
    cases h with
    | word ht more => exact .word ht (ih more)
    | mark ht more => exact .mark ht (ih more)

theorem Grammar.IsNameRun.exists_of_append {wordNext : Bool} {ts us : List Token}
    (h : IsNameRun wordNext (ts ++ us)) : ∃ wordNext', IsNameRun wordNext' us := by
  induction ts generalizing wordNext with
  | nil => exact ⟨wordNext, h⟩
  | cons t ts ih =>
    cases h with
    | word _ more => exact ih more
    | mark _ more => exact ih more

/-- Tokens of which none is a leaf without a text, as those of a source. -/
def Filled (ts : List Token) : Prop :=
  ∀ kind text p, Token.leaf kind text p ∈ ts → text ≠ []

theorem filled_of_lex {source : Text} {ts : List Token} (h : Token.lex source = .ok ts) :
    Filled ts := by
  intro kind text p ht htext
  have hfilled : p.start < p.stop := (isIn_of_lex h _ ht).1.filled
  rw [stop_of_lex h ht, htext] at hfilled
  exact Nat.lt_irrefl _ hfilled

theorem Filled.of_suffix {ts us : List Token} (h : Filled ts) (hus : us <:+ ts) : Filled us :=
  fun kind text p hp => h kind text p (hus.subset hp)

/-- What is left of the first tokens, in front of the others. -/
theorem Filled.later {ts us ys : List Token} (h : Filled (ts ++ ys)) (hus : us <:+ ts) :
    Filled (us ++ ys) :=
  h.of_suffix (List.suffix_append_self_iff.2 hus)

theorem Filled.of_append {ts us : List Token} (h : Filled (ts ++ us)) : Filled ts :=
  fun kind text p hp => h kind text p (List.mem_append_left us hp)

/-- A run of words and marks has a text. -/
theorem Grammar.IsNameRun.flatMap_text_ne_nil {wordNext : Bool} {ts : List Token}
    (h : IsNameRun wordNext ts) (hts : ts ≠ []) (hfilled : Filled ts) :
    ts.flatMap Token.text ≠ [] := by
  obtain ⟨t, ts, rfl⟩ := List.exists_cons_of_ne_nil hts
  have ht : t.text ≠ [] := by
    cases t with
    | leaf kind text p => exact hfilled kind text p (.head _)
    | group =>
      rcases Parse.isNameWord_or_isNameMark h with h | h <;> cases h
  rw [List.flatMap_cons]
  exact List.append_ne_nil_of_left_ne_nil ht _

/-- Of a name, either the first tokens are all that it needs, or they are another name themselves,
which is half of it. -/
theorem Grammar.Name.cut {xs ys rest : List Token} {n : Text} (h : Name (xs ++ ys) n rest)
    (hfilled : Filled (xs ++ ys)) (hnil : xs ≠ []) :
    (∃ left, Name xs n left ∧ rest = left ++ ys) ∨
      ∃ more, more ≠ [] ∧ ys = more ++ rest ∧ n = (xs ++ more).flatMap Token.text ∧
        xs.flatMap Token.text ≠ n ∧ Name xs (xs.flatMap Token.text) [] := by
  generalize hts : xs ++ ys = ts at h hfilled
  cases h with
  | @run run rest filled joined longest valid =>
    obtain ⟨more, rfl, hys⟩ | ⟨left, rfl, rfl⟩ := List.append_eq_append_iff.1 hts
    · have htext := joined.of_append.flatMap_text_ne_nil hnil hfilled.of_append.of_append
      have hhalf : Name (xs ++ []) (xs.flatMap Token.text) [] := by
        rw [List.flatMap_append] at valid
        exact .run hnil joined.of_append (fun t ht => by cases ht) (isName_of_append valid htext)
      rw [List.append_nil] at hhalf
      by_cases hmore : more = []
      · -- the name ends where the tokens have been cut
        subst hmore
        exact .inl ⟨[], by rwa [List.append_nil], hys.symm⟩
      · obtain ⟨_, hjoined⟩ := joined.exists_of_append
        have hmoreText := hjoined.flatMap_text_ne_nil hmore
          (hfilled.of_append.of_suffix (List.suffix_append xs more))
        refine .inr ⟨more, hmore, hys, rfl, fun h => hmoreText ?_, hhalf⟩
        rw [List.flatMap_append] at h
        exact List.self_eq_append_right.1 h
    · refine .inl ⟨left, .run filled joined (fun t ht => longest t ?_) valid, rfl⟩
      rw [List.head?_append, Option.mem_def.1 ht]
      rfl
  | string value valid =>
    obtain ⟨t, xs, rfl⟩ := List.exists_cons_of_ne_nil hnil
    cases hts
    exact .inl ⟨xs, .string value valid, rfl⟩

namespace Parse

open Grammar

variable {α β : Type}

/-! ## Two runs of a reader -/

/-- The ways in which a run on the first tokens `xs` and one on all tokens end, where `ys` comes
after the first ones and no error is asked for where the second run fails: with the same answer, in
the same place, or with the first run at the end of its tokens, or with an error that the tokens at
the end of `xs` may lead to. -/
inductive EndsCut (E : List Token → ParseError → Prop) (xs ys : List Token) (o : Option Span) :
    EStateM.Result ParseError Cursor α → EStateM.Result ParseError Cursor α → Prop
  | same (a : α) {left : List Token} (hleft : left <:+ xs) :
      EndsCut E xs ys o (.ok a ⟨left, o⟩) (.ok a ⟨left ++ ys, o⟩)
  | stopped (c : Cursor) (r : EStateM.Result ParseError Cursor α) :
      EndsCut E xs ys o (.error ⟨.endOfInput, o⟩ c) r
  | wrong {left : List Token} {x : ParseError} (hleft : left <:+ xs) (h : E left x) (c : Cursor)
      (r : EStateM.Result ParseError Cursor α) : EndsCut E xs ys o (.error x c) r
  | failed (r : EStateM.Result ParseError Cursor α) (x : ParseError) (c : Cursor) :
      EndsCut E xs ys o r (.error x c)

/-- On tokens that something has been cut off, the first reader does what the second one does on all
tokens, as far as that succeeds and the first one gets so far. -/
def Cuts (E : List Token → ParseError → Prop) (ys : List Token) (p q : Parse α) : Prop :=
  ∀ (xs : List Token) (o : Option Span), Filled (xs ++ ys) →
    EndsCut E xs ys o (p ⟨xs, o⟩) (q ⟨xs ++ ys, o⟩)

variable {E : List Token → ParseError → Prop} {xs ys zs : List Token} {o : Option Span}
  {p q p' q' : Parse α} {f g : α → Parse β}

section Rules

theorem EndsCut.of_suffix {r r' : EStateM.Result ParseError Cursor α} (hxs : xs <:+ zs)
    (h : EndsCut E xs ys o r r') : EndsCut E zs ys o r r' := by
  cases h with
  | same a hleft => exact .same a (hleft.trans hxs)
  | stopped => exact .stopped _ _
  | wrong hleft h => exact .wrong (hleft.trans hxs) h _ _
  | failed => exact .failed _ _ _

theorem EndsCut.bind (h : EndsCut E zs ys o (p ⟨xs, o⟩) (q ⟨xs ++ ys, o⟩))
    (hf : ∀ a left, left <:+ zs → p ⟨xs, o⟩ = .ok a ⟨left, o⟩ →
      EndsCut E zs ys o (f a ⟨left, o⟩) (g a ⟨left ++ ys, o⟩)) :
    EndsCut E zs ys o ((p >>= f) ⟨xs, o⟩) ((q >>= g) ⟨xs ++ ys, o⟩) := by
  generalize hp : p ⟨xs, o⟩ = r at h
  generalize hq : q ⟨xs ++ ys, o⟩ = r' at h
  cases h with
  | same a hleft =>
    rw [bind_of_ok hp, bind_of_ok hq]
    exact hf a _ hleft hp
  | stopped c r =>
    rw [bind_of_error hp]
    exact .stopped c _
  | wrong hleft h c r =>
    rw [bind_of_error hp]
    exact .wrong hleft h c _
  | failed r x c =>
    rw [bind_of_error hq]
    exact .failed _ x c

theorem EndsCut.stopped_bind {s c : Cursor} (h : p s = .error ⟨.endOfInput, o⟩ c)
    (f : α → Parse β) (r : EStateM.Result ParseError Cursor β) :
    EndsCut E xs ys o ((p >>= f) s) r := by
  rw [bind_of_error h]
  exact .stopped c r

/-- What the first reader answers may be used where the readers go on. -/
theorem Cuts.bind_of {P : α → Prop} (h : Cuts E ys p q)
    (hp : ∀ ts o a c, p ⟨ts, o⟩ = .ok a c → P a) (hf : ∀ a, P a → Cuts E ys (f a) (g a)) :
    Cuts E ys (p >>= f) (q >>= g) := fun xs o hxs =>
  (h xs o hxs).bind fun a left hleft hrun =>
    (hf a (hp xs o a _ hrun) left o (hxs.later hleft)).of_suffix hleft

theorem Cuts.bind (h : Cuts E ys p q) (hf : ∀ a, Cuts E ys (f a) (g a)) :
    Cuts E ys (p >>= f) (q >>= g) :=
  h.bind_of (P := fun _ => True) (fun _ _ _ _ _ => trivial) fun a _ => hf a

theorem Cuts.discard_bind {f g : Unit → Parse β} (h : Cuts E ys p q)
    (hf : Cuts E ys (f ()) (g ())) : Cuts E ys (discard p >>= f) (discard q >>= g) := by
  rw [XmlTemplate.discard_bind, XmlTemplate.discard_bind]
  exact h.bind fun _ => hf

theorem cuts_pure (a : α) : Cuts E ys (pure a) (pure a) :=
  fun xs _ _ => .same a (List.suffix_refl xs)

theorem Cuts.discard (h : Cuts E ys p q) : Cuts E ys (Functor.discard p) (Functor.discard q) := by
  rw [← bind_pure (Functor.discard p), ← bind_pure (Functor.discard q)]
  exact h.discard_bind (cuts_pure ())

theorem Cuts.map (g : α → β) (h : Cuts E ys p q) : Cuts E ys (g <$> p) (g <$> q) := by
  rw [← bind_pure_comp, ← bind_pure_comp]
  exact h.bind fun a => cuts_pure (g a)

theorem cuts_fail (p : Parse α) (cause : ParseCause) (span : Span) :
    Cuts E ys p (fail cause span) := fun _ _ _ => .failed _ _ _

theorem cuts_fail_bind (p : Parse β) (cause : ParseCause) (span : Span) (g : α → Parse β) :
    Cuts E ys p (fail cause span >>= g) := fun _ _ _ => .failed _ _ _

/-- A bound that is used up is an end of the tokens. -/
theorem endOfInput_cuts (q : Parse α) : Cuts E ys endOfInput q := fun _ _ _ => .stopped _ _

theorem cuts_endOfInput (p : Parse α) : Cuts E ys p endOfInput := fun _ _ _ => .failed _ _ _

/-- The same choice, made by both. -/
theorem Cuts.choice {b : Prop} [Decidable b] (h : b → Cuts E ys p q) (h' : ¬b → Cuts E ys p' q') :
    Cuts E ys (if b then p else p') (if b then q else q') := by
  split
  · next hb => exact h hb
  · next hb => exact h' hb

/-- A reader that takes no token. -/
theorem Cuts.of_reads {P : α → Prop} (h : ∀ ts, Reads p ts fun a rest => P a ∧ rest = ts) :
    Cuts E ys p p := by
  intro xs o _
  cases hq : p ⟨xs ++ ys, o⟩ with
  | error x c => exact .failed _ x c
  | ok a c =>
    obtain ⟨_, ⟨ha, rfl⟩, rfl⟩ := (h _ o a c).1 hq
    rw [(h xs o a ⟨xs, o⟩).2 ⟨xs, ⟨ha, rfl⟩, rfl⟩]
    exact .same a (List.suffix_refl xs)

theorem cuts_peek : Cuts E ys peek peek := fun xs _ _ =>
  match xs with
  | [] => .stopped _ _
  | t :: ts => .same t (List.suffix_refl (t :: ts))

theorem cuts_peekSecond : Cuts E ys peekSecond peekSecond := fun xs _ _ =>
  match xs with
  | [] => .stopped _ _
  | [_] => .stopped _ _
  | t :: u :: ts => .same u (List.suffix_refl (t :: u :: ts))

theorem cuts_take : Cuts E ys take take := fun xs _ _ =>
  match xs with
  | [] => .stopped _ _
  | t :: ts => .same t (List.suffix_cons t ts)

/-- The two runs see different numbers of tokens. -/
theorem Cuts.remaining_bind {f g : Nat → Parse β} (h : ∀ k l, Cuts E ys (f k) (g l)) :
    Cuts E ys (remaining >>= f) (remaining >>= g) :=
  fun xs o hxs => h xs.length (xs ++ ys).length xs o hxs

/-- What the first run comes to, where the second one succeeds. -/
theorem Cuts.of_ok {a : α} {rest : List Token} (h : Cuts E ys p q) (hfilled : Filled (xs ++ ys))
    (hq : q ⟨xs ++ ys, o⟩ = .ok a ⟨rest, o⟩) :
    (∃ left, left <:+ xs ∧ rest = left ++ ys ∧ p ⟨xs, o⟩ = .ok a ⟨left, o⟩) ∨
      (∃ c, p ⟨xs, o⟩ = .error ⟨.endOfInput, o⟩ c) ∨
        ∃ left x c, left <:+ xs ∧ E left x ∧ p ⟨xs, o⟩ = .error x c := by
  have hends := h xs o hfilled
  rw [hq] at hends
  generalize p ⟨xs, o⟩ = r at hends ⊢
  generalize hc : (⟨rest, o⟩ : Cursor) = c at hends
  cases hends with
  | same _ hleft => exact .inl ⟨_, hleft, (Cursor.mk.inj hc).1, rfl⟩
  | stopped c => exact .inr (.inl ⟨c, rfl⟩)
  | wrong hleft h c => exact .inr (.inr ⟨_, _, c, hleft, h, rfl⟩)

end Rules

/-! ## Single tokens -/

theorem cuts_takeWhich (ask : Token → Bool) (cause : Token → ParseCause) :
    Cuts E ys
      (do let t ← take; if ask t then return t else fail (cause t) t.span)
      (do let t ← take; if ask t then return t else fail (cause t) t.span) :=
  cuts_take.bind fun t => .choice (fun _ => cuts_pure t) fun _ => cuts_fail _ _ _

theorem cuts_takePunctuation (s : Text) : Cuts E ys (takePunctuation s) (takePunctuation s) :=
  cuts_takeWhich _ _

theorem cuts_takeIdentifier : Cuts E ys takeIdentifier takeIdentifier := cuts_takeWhich _ _

theorem cuts_takeGroup (opener : Text) : Cuts E ys (takeGroup opener) (takeGroup opener) :=
  cuts_takeWhich _ _

theorem cuts_stringValue (t : Token) : Cuts E ys (stringValue t) (stringValue t) :=
  .of_reads (reads_stringValue t)

theorem cuts_takeString : Cuts E ys takeString takeString := cuts_take.bind cuts_stringValue

/-! ## Names -/

/-- A name is read as it is from all tokens, unless it is cut: then half of it is read, and no token
is left. -/
theorem EndsCut.readName_bind {f g : Text → Parse β} (hzs : xs <:+ zs) (hxs : Filled (xs ++ ys))
    (hf : ∀ n, Cuts E ys (f n) (g n))
    (hcut : ∀ more rest, xs ≠ [] → more ≠ [] → ys = more ++ rest →
      Name (xs ++ ys) ((xs ++ more).flatMap Token.text) rest →
      xs.flatMap Token.text ≠ (xs ++ more).flatMap Token.text →
        EndsCut E zs ys o (f (xs.flatMap Token.text) ⟨[], o⟩)
          (g ((xs ++ more).flatMap Token.text) ⟨rest, o⟩)) :
    EndsCut E zs ys o ((readName >>= f) ⟨xs, o⟩) ((readName >>= g) ⟨xs ++ ys, o⟩) := by
  cases hq : readName ⟨xs ++ ys, o⟩ with
  | error x c =>
    rw [bind_of_error hq]
    exact .failed _ x c
  | ok n c =>
    obtain ⟨rest, hname, rfl⟩ := (reads_readName _ o n c).1 hq
    by_cases hnil : xs = []
    · subst hnil
      exact .stopped _ _
    obtain ⟨left, hleft, rfl⟩ | ⟨more, hmore, hys, rfl, hother, hhalf⟩ :=
      hname.cut hxs hnil
    · obtain ⟨taken, -, hsplit, -⟩ := hleft.taken
      have hsuffix : left <:+ xs := ⟨taken, hsplit.symm⟩
      rw [bind_of_ok ((reads_readName xs o n _).2 ⟨left, hleft, rfl⟩), bind_of_ok hq]
      exact (hf n left o (hxs.later hsuffix)).of_suffix
        (hsuffix.trans hzs)
    · rw [bind_of_ok ((reads_readName xs o _ _).2 ⟨[], hhalf, rfl⟩), bind_of_ok hq]
      exact hcut more rest hnil hmore hys hname hother

/-- Where half of a name leads to nothing but the end of the tokens. -/
theorem Cuts.readName_bind {f g : Text → Parse β} (hf : ∀ n, Cuts E ys (f n) (g n))
    (hcut : ∀ xs more rest o, EndsCut E xs ys o (f (xs.flatMap Token.text) ⟨[], o⟩)
      (g ((xs ++ more).flatMap Token.text) ⟨rest, o⟩)) :
    Cuts E ys (readName >>= f) (readName >>= g) := fun xs o hxs =>
  .readName_bind (List.suffix_refl xs) hxs hf fun more rest _ _ _ _ _ => hcut xs more rest o

/-! ## Tags -/

theorem cuts_attributeValue (room : Nat) :
    Cuts E ys (attributeValue room) (attributeValue room) := by
  refine cuts_take.bind fun t => .choice (fun _ => ?literal) fun _ =>
    .choice (fun hgroup => ?expression) fun _ => cuts_fail _ _ _
  case literal => exact (cuts_stringValue t).bind fun s => cuts_pure _
  case expression =>
    exact (Cuts.of_reads (reads_groupExpression room hgroup)).bind fun e => cuts_pure _

theorem cuts_startTag (room k l : Nat) : Cuts E ys (startTag room k) (startTag room l) := by
  induction k generalizing l with
  | zero => exact endOfInput_cuts _
  | succ k ih =>
    cases l with
    | zero => exact cuts_endOfInput _
    | succ l =>
      unfold startTag
      refine cuts_peek.bind fun t => .choice (fun _ => ?opened) fun _ => .choice (fun _ => ?empty)
        fun _ => .choice (fun hfill => ?fill) fun _ => ?named
      case opened => exact cuts_take.discard_bind (cuts_pure _)
      case empty =>
        exact cuts_take.discard_bind ((cuts_takePunctuation ['>']).discard_bind (cuts_pure _))
      case fill =>
        simp only [Bool.and_eq_true] at hfill
        refine cuts_take.discard_bind ?_
        refine (Cuts.of_reads (reads_fillExpression room hfill.1)).bind fun e => ?_
        exact (ih l).bind fun r => cuts_pure _
      case named =>
        -- half of an attribute's name leaves no token for the equals sign
        refine .readName_bind (fun name => ?_) fun _ _ _ _ => .stopped _ _
        refine (cuts_takePunctuation ['=']).discard_bind ?_
        refine (cuts_attributeValue room).bind fun value => ?_
        exact (ih l).bind fun r => cuts_pure _

theorem cuts_atEndTag : Cuts E ys atEndTag atEndTag :=
  cuts_peek.bind fun _ => .choice (fun _ => cuts_peekSecond.bind fun _ => cuts_pure _)
    fun _ => cuts_pure _

/-- The last tokens are an end tag up to half of its name, which has to be `name`, and the error
says that the half is another name. -/
inductive CutName (ys : List Token) : List Token → ParseError → Prop
  | intro {lt slash gt : Token} {half more after : List Token} {name : Text}
      (hlt : lt.isPunctuation ['<'] = true) (hslash : slash.isPunctuation ['/'] = true)
      (hgt : gt.isPunctuation ['>'] = true) (hhalf : half ≠ []) (hmore : more ≠ [])
      (hys : ys = more ++ gt :: after) (hname : Name (half ++ ys) name (gt :: after)) :
      CutName ys (lt :: slash :: half)
        ⟨.endTagMismatch name (half.flatMap Token.text), some lt.span⟩

theorem cuts_endTag (name : Text) :
    Cuts (CutName ys) ys (endTag name) (endTag name) := by
  intro xs o hxs
  unfold endTag
  refine (cuts_takePunctuation ['<'] xs o hxs).bind fun lt left hleft hrun => ?_
  obtain ⟨_, ⟨rfl, hlt⟩, hc⟩ := (reads_takePunctuation ['<'] xs o lt _).1 hrun
  cases hc
  rw [discard_bind]
  have hslashCut : EndsCut (CutName ys) left ys o (takePunctuation ['/'] ⟨left, o⟩)
      (takePunctuation ['/'] ⟨left ++ ys, o⟩) :=
    cuts_takePunctuation ['/'] left o (hxs.later hleft)
  refine (hslashCut.of_suffix hleft).bind fun slash half hhalf hrun => ?_
  obtain ⟨_, ⟨rfl, hslash⟩, hc⟩ := (reads_takePunctuation ['/'] left o slash _).1 hrun
  cases hc
  cases half with
  | nil => exact .stopped _ _
  | cons t half =>
    have hend : Cuts (CutName ys) ys (Functor.discard (takePunctuation ['>']))
        (Functor.discard (takePunctuation ['>'])) := (cuts_takePunctuation ['>']).discard
    show EndsCut (CutName ys) (lt :: slash :: t :: half) ys o
      ((if (!t.isPunctuation ['>']) = true then _ else _ : Parse Unit) ⟨t :: half, o⟩)
      ((if (!t.isPunctuation ['>']) = true then _ else _ : Parse Unit) ⟨t :: half ++ ys, o⟩)
    by_cases ht : (!t.isPunctuation ['>']) = true
    · rw [if_pos ht]
      refine .readName_bind hhalf (hxs.later hhalf) (fun found => ?_)
        fun more rest hfilled hmore hrest hname hother => ?_
      · exact .choice (fun _ => cuts_fail_bind _ _ _ _) fun _ => hend
      · -- half of a name is compared before the missing `>` is looked for
        by_cases hfound : (t :: half ++ more).flatMap Token.text = name
        · rw [hfound] at hname hother
          rw [if_pos hother, if_neg (not_not_intro hfound)]
          show EndsCut _ _ _ _ _ ((Functor.discard (takePunctuation ['>']) : Parse Unit) ⟨rest, o⟩)
          cases hq : (Functor.discard (takePunctuation ['>']) : Parse Unit) ⟨rest, o⟩ with
          | error x c => exact .failed _ x c
          | ok a c =>
            obtain ⟨_, ⟨gt, rfl, hgt⟩, -⟩ := ((reads_takePunctuation ['>'] rest).discard o a c).1 hq
            exact .wrong (List.suffix_refl _) (.intro hlt hslash hgt hfilled hmore hrest hname) _ _
        · rw [if_pos hfound]
          exact .failed _ _ _
    · rw [if_neg ht]
      exact (hend _ o (hxs.later hhalf)).of_suffix hhalf

/-! ## Elements -/

/-- Half of a name needs no more room than the name. -/
theorem nameRoom_le (half more : List Token) :
    nameRoom (half.flatMap Token.text) ≤ nameRoom ((half ++ more).flatMap Token.text) := by
  rw [List.flatMap_append, nameRoom, nameRoom, List.length_append]
  split <;> split <;> omega

theorem startTag_nil (room k : Nat) :
    startTag room k ⟨[], o⟩ = .error ⟨.endOfInput, o⟩ ⟨[], o⟩ := by
  cases k <;> rfl

/-- Readers of elements, contents and their parts read the first tokens as they read all of them,
whatever the bounds on their recursion. -/
def CutsMarkup (ys : List Token) (permission : Permission) (k : Nat) : Prop :=
  ∀ room l,
    Cuts (CutName ys) ys (element permission room k) (element permission room l) ∧
    Cuts (CutName ys) ys (children permission room k) (children permission room l) ∧
    Cuts (CutName ys) ys (child permission room k) (child permission room l)

theorem cuts_markup (permission : Permission) (k : Nat) :
    CutsMarkup ys permission k := by
  induction k with
  | zero => exact fun room l => ⟨endOfInput_cuts _, endOfInput_cuts _, endOfInput_cuts _⟩
  | succ k ih =>
    rintro room (_ | l)
    · exact ⟨cuts_endOfInput _, cuts_endOfInput _, cuts_endOfInput _⟩
    refine ⟨?element, ?children, ?child⟩
    case element =>
      unfold element
      refine cuts_peek.bind fun first => .readName_bind (fun name => ?whole)
        fun half more rest o => ?half
      case half =>
        -- half of an element's name leaves no token for the start tag
        by_cases hroom : room < nameRoom ((half ++ more).flatMap Token.text)
        · rw [if_pos hroom]
          exact .failed _ _ _
        · have hhalf := Nat.not_lt.2 (Nat.le_trans (nameRoom_le half more) (Nat.not_lt.1 hroom))
          rw [if_neg hhalf]
          exact .stopped_bind (startTag_nil room k) _ _
      case whole =>
        refine .choice (fun _ => cuts_fail_bind _ _ _ _) fun _ => ?_
        refine (cuts_startTag room k l).bind fun r => ?_
        refine .choice (fun _ => cuts_pure _) fun _ => ?_
        refine (ih room l).2.1.bind fun content => ?_
        exact (cuts_endTag name).bind fun _ => cuts_pure _
    case children =>
      unfold children
      refine cuts_atEndTag.bind fun ended => .choice (fun _ => cuts_pure _) fun _ => ?_
      exact (ih room l).2.2.bind fun part => (ih room l).2.1.bind fun parts => cuts_pure _
    case child =>
      unfold child
      refine cuts_take.bind fun t => .choice (fun _ => ?text) fun _ => .choice (fun hgroup =>
        .choice (fun _ => ?continuation) fun _ => ?expression) fun _ => .choice (fun _ => ?markup)
          fun _ => cuts_fail _ _ _
      case text => exact (cuts_stringValue t).bind fun s => cuts_pure _
      case continuation =>
        exact (Cuts.of_reads (reads_continuation permission room hgroup)).bind fun c => cuts_pure _
      case expression =>
        exact (Cuts.of_reads (reads_groupExpression room hgroup)).bind fun e => cuts_pure _
      case markup => exact (ih (room - elementRoom) l).1.bind fun e => cuts_pure _

/-! ## The head of a template -/

theorem cuts_skipToComma (last : Token) (k l : Nat) :
    Cuts E ys (skipToComma last k) (skipToComma last l) := by
  induction k generalizing last l with
  | zero => exact endOfInput_cuts _
  | succ k ih =>
    cases l with
    | zero => exact cuts_endOfInput _
    | succ l =>
      unfold skipToComma
      exact cuts_take.bind fun t => .choice (fun _ => cuts_pure _) fun _ => ih t l

theorem cuts_destination (room : Nat) (source : Text) :
    Cuts E ys (destination room source) (destination room source) := by
  unfold destination
  refine cuts_peek.bind fun first => .remaining_bind fun k l => ?_
  exact (cuts_skipToComma first k l).bind fun last => .of_reads (reads_embed room _ _)

theorem cuts_head (room : Nat) (source : Text) (into : Option Embedded)
    (layout : Option LayoutDirective) (k l : Nat) :
    Cuts E ys (head room source into layout k) (head room source into layout l) := by
  induction k generalizing into layout l with
  | zero => exact endOfInput_cuts _
  | succ k ih =>
    cases l with
    | zero => exact cuts_endOfInput _
    | succ l =>
      unfold head
      refine cuts_peek.bind fun t => .choice (fun _ => ?directive) fun _ =>
        .choice (fun _ => cuts_pure _) fun _ => .choice (fun _ => cuts_fail _ _ _)
          fun _ => ?destination
      case directive =>
        refine cuts_take.discard_bind ?_
        refine (cuts_takeGroup ['[']).bind_of (P := fun g => g.isGroup ['['] = true) ?_
          fun g hg => ?_
        · intro ts o g c h
          obtain ⟨_, ⟨-, hg⟩, -⟩ := (reads_takeGroup ['['] ts o g c).1 h
          exact hg
        · refine (Cuts.of_reads (reads_directive room hg)).bind fun parsed => ?_
          exact .choice (fun _ => cuts_fail _ _ _) fun _ => ih into (some parsed) l
      case destination =>
        exact (cuts_destination room source).bind fun e => ih (some e) layout l

/-! ## The declaration -/

theorem cuts_prologAttribute (name : Text) :
    Cuts E ys (prologAttribute name) (prologAttribute name) := by
  unfold prologAttribute
  refine cuts_peek.bind fun t => .choice (fun _ => cuts_pure _) fun _ => ?_
  refine cuts_takeIdentifier.bind fun key => .choice (fun _ => cuts_fail _ _ _) fun _ => ?_
  refine (cuts_takePunctuation ['=']).discard_bind ?_
  exact cuts_peek.bind fun t => cuts_takeString.bind fun value => cuts_pure _

theorem cuts_prologEnd (text : Text) (place : Span) (encoding standalone : Option (Text × Span)) :
    Cuts E ys (prologEnd text place encoding standalone)
      (prologEnd text place encoding standalone) := by
  unfold prologEnd
  refine (cuts_takePunctuation ['?']).discard_bind ((cuts_takePunctuation ['>']).discard_bind ?_)
  cases Version.ofText? text with
  | none => exact cuts_fail _ _ _
  | some version =>
    have hend : Cuts E ys (declarationOf version standalone) (declarationOf version standalone) :=
      .of_reads fun ts => (reads_declarationOf version standalone ts).congr fun p rest =>
        (and_assoc).symm
    rcases encoding with _ | ⟨found, span⟩
    · exact hend
    · exact .choice (fun _ => cuts_fail_bind _ _ _ _) fun _ => hend

theorem cuts_prolog : Cuts E ys prolog prolog := by
  unfold prolog
  refine (cuts_takePunctuation ['<']).discard_bind ((cuts_takePunctuation ['?']).discard_bind ?_)
  refine cuts_takeIdentifier.bind fun key => .choice (fun _ => cuts_fail _ _ _) fun _ => ?_
  refine cuts_peek.bind fun first => (cuts_prologAttribute _).bind fun version => ?_
  rcases version with _ | ⟨text, place⟩
  · exact cuts_fail _ _ _
  · refine (cuts_prologAttribute _).bind fun encoding => .choice (fun _ => ?_) fun _ => ?_
    · exact (cuts_prologAttribute _).bind fun standalone => cuts_prologEnd text place _ _
    · exact cuts_prologEnd text place encoding none

end Parse

end XmlTemplate
