import XmlTemplate.Proofs.Template.Blame
import XmlTemplate.Proofs.Template.NameRun
import XmlTemplate.Proofs.Token.DirectiveMark

/-!
# No group is missing

The reader of directives takes a mark and asks for a group in square brackets. The tokens of a
source always have one there, and so reading fails neither for the lack of the group nor because the
tokens end behind the mark, whatever else is wrong with the source (`Template.no_group_missing`).

Other readers take no marks. Where one comes to the end of its tokens, the last token that has been
taken is another one, and for every other failure it gives another cause (`Parse.ReadsClear`). Only
the search for the comma behind a destination passes marks over. It ends with the comma or with the
last of all tokens, which is no mark either.
-/

set_option autoImplicit false

namespace XmlTemplate

/-! ## Causes -/

/-- The message asks for a group in square brackets. -/
def ParseCause.AsksForGroup (cause : ParseCause) : Prop :=
  "expected '[' delimited group".toList <+: cause.message.toList

theorem asksForGroup_expectedGroup (found : Text) :
    (ParseCause.expectedGroup ['['] found).AsksForGroup := by
  unfold ParseCause.AsksForGroup ParseCause.message
  simp [inQuotes]

/-- Causes other than an end of input and a missing group. What the message of a cause quotes as
expected is no text that starts with a square bracket. -/
def ParseCause.IsOther : ParseCause → Prop
  | .endOfInput | .expectedGroup .. => False
  | .expectedPunctuation s _ | .prolog (.misplaced s) => s.head? ≠ some '['
  | _ => True

theorem not_prefix_of_head {s : Text} (hs : s.head? ≠ some '[') (more : String) :
    ¬"expected '[' delimited group".toList <+: ("expected " ++ inQuotes s ++ more).toList := by
  cases s with
  | nil => simp [inQuotes]
  | cons c s =>
    have hc : '[' ≠ c := fun h => hs (congrArg some h.symm)
    simp [inQuotes, hc]

theorem ParseCause.IsOther.not_asksForGroup {cause : ParseCause} (h : cause.IsOther) :
    ¬cause.AsksForGroup := by
  -- the wording is unfolded for all causes at once and compared with the prefix cause by cause
  unfold ParseCause.AsksForGroup ParseCause.message
  cases cause with
  | endOfInput | expectedGroup => cases h
  | expectedPunctuation s =>
    dsimp only
    rw [String.append_assoc]
    exact not_prefix_of_head h _
  | prolog cause =>
    unfold PrologCause.message
    cases cause with
    | misplaced s => exact not_prefix_of_head h _
    | _ => simp [inQuotes]
  | invalidName name =>
    unfold invalidNameMessage
    simp [inQuotes]
  | filledIndentation unit =>
    unfold filledIndentationMessage
    simp
  | _ => simp [inQuotes]

theorem not_asksForGroup_endOfInput : ¬ParseCause.endOfInput.AsksForGroup := by
  unfold ParseCause.AsksForGroup ParseCause.message
  decide

/-- What is wrong with the tokens themselves is another cause. -/
theorem ParseCause.IsOther.of_lexing {cause : ParseCause} (h : cause.stage? = some .lexing) :
    cause.IsOther := by
  cases cause with
  | unbalanced | unclosed | unterminatedString => trivial
  | _ => cases h

namespace Parse

variable {α β : Type}

/-! ## Marks and other tokens -/

theorem exists_of_mark {t : Token} (ht : t.isPunctuation ['#'] = true) :
    ∃ p, t = .leaf .punctuation ['#'] p := by
  rcases t with ⟨_ | _ | _ | _, s, p⟩ | _ <;> try cases ht
  rw [of_decide_eq_true ht]
  exact ⟨p, rfl⟩

theorem not_mark_of_isPunctuation {s : Text} (hs : s ≠ ['#']) {t : Token}
    (h : t.isPunctuation s = true) : t.isPunctuation ['#'] = false := by
  rw [Bool.eq_false_iff]
  exact fun ht => hs (eq_of_isPunctuation h ht)

theorem not_mark_of_isKind {k : Kind} (hk : k ≠ .punctuation) {t : Token}
    (h : t.isKind k = true) : t.isPunctuation ['#'] = false :=
  Bool.eq_false_iff.2 (not_isPunctuation_of_isKind hk h)

theorem not_mark_of_isGroup {opener : Text} {t : Token} (h : t.isGroup opener = true) :
    t.isPunctuation ['#'] = false :=
  Bool.eq_false_iff.2 (not_isPunctuation_of_isGroup h)

/-! ## Readers that do not stop behind a mark -/

/-- The last of the tokens is no mark. -/
def EndsClear (ts : List Token) : Prop := ∀ t ∈ ts.getLast?, t.isPunctuation ['#'] = false

theorem endsClear_nil : EndsClear [] := fun _ ht => by cases ht

theorem EndsClear.append {ts us : List Token} (h : EndsClear ts) (h' : EndsClear us) :
    EndsClear (ts ++ us) := by
  cases us with
  | nil => rwa [List.append_nil]
  | cons u us =>
    rw [EndsClear, List.getLast?_append_cons]
    exact h'

theorem EndsClear.concat {t : Token} (ht : t.isPunctuation ['#'] = false) (ts : List Token) :
    EndsClear (ts ++ [t]) := by
  rw [EndsClear, List.getLast?_concat]
  rintro _ ⟨⟩
  exact ht

theorem EndsClear.of_forall {ts : List Token} (h : ∀ t ∈ ts, t.isPunctuation ['#'] = false) :
    EndsClear ts := fun t ht => h t (List.mem_of_getLast? ht)

/-- The ways in which reading ends on tokens: with an answer or at an end of input, where the last
token that has been taken is no mark, or with another cause. -/
inductive StopsClear (ts : List Token) (o : Option Span) :
    EStateM.Result ParseError Cursor α → Prop
  | ok {taken left : List Token} (a : α) (hts : ts = taken ++ left) (h : EndsClear taken) :
      StopsClear ts o (.ok a ⟨left, o⟩)
  | ended {taken left : List Token} (span : Option Span) (hts : ts = taken ++ left)
      (h : EndsClear taken) : StopsClear ts o (.error ⟨.endOfInput, span⟩ ⟨left, o⟩)
  | failed {e : ParseError} {c : Cursor} (h : e.cause.IsOther) : StopsClear ts o (.error e c)

/-- Whatever the tokens are, a reader does not stop behind a mark and asks for no group. -/
def ReadsClear (p : Parse α) : Prop := ∀ ts o, StopsClear ts o (p ⟨ts, o⟩)

section Rules

variable {p p' : Parse α} {f : α → Parse β} {t : Token} {ts taken : List Token} {o : Option Span}

theorem StopsClear.after {r : EStateM.Result ParseError Cursor α} (htaken : EndsClear taken)
    (h : StopsClear ts o r) : StopsClear (taken ++ ts) o r := by
  cases h with
  | ok a hts h =>
    subst hts
    exact .ok a (List.append_assoc ..).symm (htaken.append h)
  | ended span hts h =>
    subst hts
    exact .ended span (List.append_assoc ..).symm (htaken.append h)
  | failed h => exact .failed h

theorem StopsClear.cons {r : EStateM.Result ParseError Cursor α}
    (ht : t.isPunctuation ['#'] = false) (h : StopsClear ts o r) : StopsClear (t :: ts) o r :=
  h.after (EndsClear.concat ht [])

theorem StopsClear.bind (h : StopsClear ts o (p ⟨ts, o⟩))
    (hf : ∀ a left, left <:+ ts → StopsClear left o (f a ⟨left, o⟩)) :
    StopsClear ts o ((p >>= f) ⟨ts, o⟩) := by
  generalize hp : p ⟨ts, o⟩ = r at h
  cases h with
  | ok a hts h =>
    rw [bind_of_ok hp]
    subst hts
    exact (hf a _ (List.suffix_append ..)).after h
  | ended span hts h =>
    rw [bind_of_error hp]
    exact .ended span hts h
  | failed h =>
    rw [bind_of_error hp]
    exact .failed h

theorem ReadsClear.bind (h : ReadsClear p) (hf : ∀ a, ReadsClear (f a)) : ReadsClear (p >>= f) :=
  fun ts o => (h ts o).bind fun a left _ => hf a left o

theorem ReadsClear.discard_bind {g : Unit → Parse β} (h : ReadsClear p) (hg : ReadsClear (g ())) :
    ReadsClear (discard p >>= g) := by
  rw [XmlTemplate.discard_bind]
  exact h.bind fun _ => hg

theorem readsClear_pure (a : α) : ReadsClear (pure a) := fun ts _ =>
  .ok a (List.nil_append ts).symm endsClear_nil

theorem readsClear_fail {cause : ParseCause} {span : Span} (h : cause.IsOther) :
    ReadsClear (fail cause span : Parse α) := fun _ _ => .failed h

theorem readsClear_fail_bind {cause : ParseCause} {span : Span} (h : cause.IsOther) :
    ReadsClear (fail cause span >>= f) := fun _ _ => .failed h

theorem readsClear_endOfInput : ReadsClear (endOfInput : Parse α) := fun ts o =>
  .ended o (List.nil_append ts).symm endsClear_nil

theorem ReadsClear.map (g : α → β) (h : ReadsClear p) : ReadsClear (g <$> p) := by
  rw [← bind_pure_comp]
  exact h.bind fun a => readsClear_pure (g a)

theorem ReadsClear.choice {q : Prop} [Decidable q] (h : q → ReadsClear p)
    (h' : ¬q → ReadsClear p') : ReadsClear (if q then p else p') := by
  split
  · next hq => exact h hq
  · next hq => exact h' hq

theorem ReadsClear.peek_bind {g : Token → Parse β}
    (h : ∀ t ts o, StopsClear (t :: ts) o (g t ⟨t :: ts, o⟩)) : ReadsClear (peek >>= g) := by
  intro ts o
  cases ts with
  | nil => exact readsClear_endOfInput [] o
  | cons t ts => exact h t ts o

theorem ReadsClear.peekSecond_bind {g : Token → Parse β} (h : ∀ t, ReadsClear (g t)) :
    ReadsClear (peekSecond >>= g) := by
  rintro (_ | ⟨t, _ | ⟨u, us⟩⟩) o
  · exact readsClear_endOfInput [] o
  · exact readsClear_endOfInput [t] o
  · exact h u (t :: u :: us) o

theorem ReadsClear.remaining_bind {g : Nat → Parse β} (h : ∀ n, ReadsClear (g n)) :
    ReadsClear (remaining >>= g) := fun ts o => h ts.length ts o

/-- A token that has been looked at is taken. -/
theorem ReadsClear.take_peeked {g : Unit → Parse β} (h : ReadsClear (g ()))
    (ht : t.isPunctuation ['#'] = false) (ts : List Token) (o : Option Span) :
    StopsClear (t :: ts) o ((discard take >>= g) ⟨t :: ts, o⟩) :=
  (h ts o).cons ht

/-- Any token is taken, and a mark is refused afterwards. -/
theorem ReadsClear.take_bind {g : Token → Parse β}
    (h : ∀ t, t.isPunctuation ['#'] = false → ReadsClear (g t))
    (hmark : ∀ p, ∃ cause, cause.IsOther ∧ g (.leaf .punctuation ['#'] p) = fail cause p) :
    ReadsClear (take >>= g) := by
  intro ts o
  cases ts with
  | nil => exact readsClear_endOfInput [] o
  | cons t ts =>
    show StopsClear (t :: ts) o (g t ⟨ts, o⟩)
    cases ht : t.isPunctuation ['#'] with
    | false => exact (h t ht ts o).cons ht
    | true =>
      obtain ⟨p, rfl⟩ := exists_of_mark ht
      obtain ⟨cause, hother, hfail⟩ := hmark p
      rw [hfail]
      exact .failed hother

/-- What happens in a group leaves the cursor outside where it is. -/
theorem ReadsClear.within (h : ReadsClear p) (group : Token) :
    ReadsClear (Parse.within group p) := by
  intro ts o
  have hinside := h group.children (some group.span)
  rw [Parse.within, Cursor.ofGroup]
  generalize p _ = r at hinside ⊢
  cases hinside with
  | ok a => exact readsClear_pure a ts o
  | ended span => exact .ended span (List.nil_append ts).symm endsClear_nil
  | failed h => exact .failed h

end Rules

/-! ## Single tokens and names -/

/-- Take a token of which something is asked that a mark does not have. -/
theorem readsClear_takeWhich {q : Token → Bool} {cause : Token → ParseCause}
    (hq : ∀ t, q t = true → t.isPunctuation ['#'] = false) (hcause : ∀ t, (cause t).IsOther) :
    ReadsClear (do
      let t ← take
      if q t then return t else fail (cause t) t.span) := by
  refine .take_bind (fun t _ => ?_) fun p => ⟨cause _, hcause _, if_neg fun h => ?_⟩
  · exact .choice (fun _ => readsClear_pure t) fun _ => readsClear_fail (hcause t)
  · cases hq _ h

theorem readsClear_takePunctuation {c : Char} (hc : c ≠ '#' ∧ c ≠ '[') :
    ReadsClear (takePunctuation [c]) := by
  have hsign : [c] ≠ ['#'] := fun h => hc.1 (List.cons.inj h).1
  have hopener : [c].head? ≠ some '[' := fun h => hc.2 (Option.some.inj h)
  exact readsClear_takeWhich (fun _ => not_mark_of_isPunctuation hsign) fun _ => hopener

theorem readsClear_takeIdentifier : ReadsClear takeIdentifier :=
  readsClear_takeWhich (fun _ => not_mark_of_isKind (by decide)) fun _ => trivial

theorem readsClear_noMore : ReadsClear noMore := by
  intro ts o
  cases ts with
  | nil => exact readsClear_pure () [] o
  | cons t ts => exact .failed trivial

theorem readsClear_stringValue (t : Token) : ReadsClear (stringValue t) := by
  rcases t with ⟨_ | _ | _ | _, s, p⟩ | _
  case leaf.string =>
    simp only [stringValue]
    refine .choice (fun _ => readsClear_fail trivial) fun _ => ?_
    split
    · exact readsClear_pure _
    all_goals exact readsClear_fail trivial
  all_goals exact readsClear_fail trivial

theorem readsClear_takeString : ReadsClear takeString :=
  .take_bind (fun t _ => readsClear_stringValue t) fun _ => ⟨.expectedString, trivial, rfl⟩

theorem readsClear_checkName (name : Text) (span : Span) : ReadsClear (checkName name span) :=
  .choice (fun _ => readsClear_pure name) fun _ => readsClear_fail trivial

/-- A mark of a directive does not belong to a name. -/
theorem endsClear_of_areNameTokens {ts : List Token} (h : AreNameTokens ts) : EndsClear ts := by
  refine .of_forall fun t ht => ?_
  rcases t with ⟨_ | _ | _ | _, s, p⟩ | _
  case leaf.punctuation =>
    rcases h.kinds _ ht with hword | hmark
    · cases hword
    · refine decide_eq_false ?_
      rintro rfl
      cases hmark
  all_goals rfl

theorem readsClear_readName : ReadsClear readName := by
  intro ts o
  cases ts with
  | nil => exact readsClear_endOfInput [] o
  | cons first more =>
    cases hfirst : first.isKind .string with
    | true =>
      have hread : readName ⟨first :: more, o⟩ =
          (takeString >>= fun name => checkName name first.span) ⟨first :: more, o⟩ := by
        have hpeek : peek ⟨first :: more, o⟩ = .ok first ⟨first :: more, o⟩ := rfl
        rw [readName, bind_of_ok hpeek, hfirst, if_pos rfl]
      rw [hread]
      exact (readsClear_takeString.bind fun name => readsClear_checkName name first.span) _ o
    | false =>
      cases hrun : nameRun true (first :: more) with
      | mk run rest =>
        have hlongest := isLongestNameRun_of_nameRun hrun
        rw [readName_of_nameRun hfirst hrun]
        split
        · exact .failed trivial
        · split
          · exact .ok _ hlongest.split (endsClear_of_areNameTokens hlongest.joined)
          · exact .failed trivial

/-! ## Embedded scripts -/

theorem readsClear_embed (room : Nat) (source : Text) (span : Span) :
    ReadsClear (embed room source span) := by
  unfold embed
  refine .choice (fun _ => readsClear_fail trivial) fun _ => ?_
  split
  · refine .choice (fun _ => readsClear_fail trivial) fun _ => ?_
    exact .choice (fun _ => readsClear_fail trivial) fun _ => readsClear_pure _
  · exact readsClear_fail trivial

theorem readsClear_restExpression (room : Nat) (group : Token) :
    ReadsClear (restExpression room group) :=
  .peek_bind fun _ _ o => readsClear_embed room _ _ _ o

theorem readsClear_fillExpression (room : Nat) (group : Token) :
    ReadsClear (fillExpression room group) := by
  refine .within ?_ group
  refine (readsClear_takePunctuation (by decide)).discard_bind ?_
  refine (readsClear_takePunctuation (by decide)).discard_bind ?_
  exact readsClear_restExpression room group

theorem readsClear_continuation (permission : Permission) (room : Nat) (group : Token) :
    ReadsClear (continuation permission room group) := by
  cases permission with
  | refused | missing => exact readsClear_fail trivial
  | granted =>
    refine .within ?_ group
    refine (readsClear_takePunctuation (by decide)).discard_bind ?_
    refine readsClear_takeIdentifier.bind fun argument => ?_
    refine (readsClear_takePunctuation (by decide)).bind fun bar => ?_
    dsimp only
    split
    · refine .choice (fun _ => readsClear_fail trivial) fun _ => ?_
      exact .choice (fun _ => readsClear_fail trivial) fun _ => readsClear_pure _
    · exact readsClear_fail trivial

/-! ## Elements -/

theorem readsClear_attributeValue (room : Nat) : ReadsClear (attributeValue room) := by
  refine .take_bind (fun t _ => ?_) fun p => ⟨.expectedValue _, trivial, rfl⟩
  refine .choice (fun _ => ?_) fun _ => .choice (fun _ => ?_) fun _ => readsClear_fail trivial
  · exact (readsClear_stringValue t).bind fun s => readsClear_pure _
  · exact (readsClear_embed room _ _).bind fun e => readsClear_pure _

theorem readsClear_startTag (room items : Nat) : ReadsClear (startTag room items) := by
  induction items with
  | zero => exact readsClear_endOfInput
  | succ items ih =>
    rw [startTag]
    refine .peek_bind fun t ts o => ?_
    split
    · next ht =>
      exact ReadsClear.take_peeked (g := fun _ => pure ([], false)) (readsClear_pure _)
        (not_mark_of_isPunctuation (by decide) ht) ts o
    split
    · next ht =>
      refine ReadsClear.take_peeked ?_ (not_mark_of_isPunctuation (by decide) ht) ts o
      exact (readsClear_takePunctuation (by decide)).discard_bind (readsClear_pure _)
    split
    · next ht =>
      obtain ⟨hgroup, -⟩ := Bool.and_eq_true_iff.1 ht
      refine ReadsClear.take_peeked ?_ (not_mark_of_isGroup hgroup) ts o
      refine (readsClear_fillExpression room t).bind fun e => ih.bind fun r => ?_
      exact readsClear_pure _
    · refine (readsClear_readName.bind fun name => ?_) _ o
      refine (readsClear_takePunctuation (by decide)).discard_bind ?_
      refine (readsClear_attributeValue room).bind fun value => ih.bind fun r => ?_
      exact readsClear_pure _

theorem readsClear_atEndTag : ReadsClear atEndTag := by
  refine .peek_bind fun t ts o => ?_
  split
  · exact ReadsClear.peekSecond_bind (fun u => readsClear_pure _) _ o
  · exact readsClear_pure false _ o

theorem readsClear_endTag (name : Text) : ReadsClear (endTag name) := by
  have hgt : ReadsClear (discard (takePunctuation ['>'])) :=
    (readsClear_takePunctuation (by decide)).map _
  refine (readsClear_takePunctuation (by decide)).bind fun opening => ?_
  refine (readsClear_takePunctuation (by decide)).discard_bind ?_
  refine .peek_bind fun t ts o => ?_
  refine ReadsClear.choice (fun _ => ?_) (fun _ => ?_) _ o
  · refine readsClear_readName.bind fun found => .choice (fun _ => ?_) fun _ => hgt
    exact readsClear_fail_bind trivial
  · exact hgt

/-- Elements, their content and the parts of it. -/
theorem readsClear_markup (permission : Permission) (depth : Nat) :
    ∀ room, ReadsClear (element permission room depth) ∧
      ReadsClear (children permission room depth) ∧ ReadsClear (child permission room depth) := by
  induction depth with
  | zero =>
    intro room
    refine ⟨?_, ?_, ?_⟩
    · unfold element
      exact readsClear_endOfInput
    · unfold children
      exact readsClear_endOfInput
    · unfold child
      exact readsClear_endOfInput
  | succ depth ih =>
    intro room
    refine ⟨?element, ?children, ?child⟩
    case element =>
      unfold element
      refine .peek_bind fun first ts o => ?_
      refine (readsClear_readName.bind fun name => ?_) _ o
      refine .choice (fun _ => readsClear_fail_bind trivial) fun _ => ?_
      refine (readsClear_startTag room depth).bind fun r => ?_
      refine .choice (fun _ => readsClear_pure _) fun _ => ?_
      refine (ih room).2.1.bind fun content => ?_
      exact (readsClear_endTag name).bind fun _ => readsClear_pure _
    case children =>
      unfold children
      refine readsClear_atEndTag.bind fun ended => .choice (fun _ => readsClear_pure _) fun _ => ?_
      refine (ih room).2.2.bind fun first => (ih room).2.1.bind fun more => ?_
      exact readsClear_pure _
    case child =>
      unfold child
      refine .take_bind (fun t _ => ?_) fun p => ⟨.expectedChild _, trivial, rfl⟩
      refine .choice (fun _ => ?text) fun _ => .choice (fun _ => .choice (fun _ => ?continuation)
        fun _ => ?expression) fun _ => .choice (fun _ => ?element) fun _ => ?other
      case text => exact (readsClear_stringValue t).bind fun s => readsClear_pure _
      case continuation =>
        exact (readsClear_continuation permission room t).bind fun c => readsClear_pure _
      case expression => exact (readsClear_embed room _ _).bind fun e => readsClear_pure _
      case element => exact (ih (room - elementRoom)).1.bind fun e => readsClear_pure _
      case other => exact readsClear_fail trivial

/-! ## The declaration -/

theorem readsClear_prologAttribute {name : Text} (hname : name.head? ≠ some '[') :
    ReadsClear (prologAttribute name) := by
  refine .peek_bind fun t ts o => ?_
  refine ReadsClear.choice (fun _ => readsClear_pure _) (fun _ => ?_) _ o
  refine readsClear_takeIdentifier.bind fun key => ?_
  refine .choice (fun _ => readsClear_fail hname) fun _ => ?_
  refine (readsClear_takePunctuation (by decide)).discard_bind ?_
  exact .peek_bind fun _ _ o => (readsClear_takeString.bind fun s => readsClear_pure _) _ o

theorem readsClear_declarationOf (version : Version) (standalone : Option (Text × Span)) :
    ReadsClear (declarationOf version standalone) := by
  unfold declarationOf
  split
  · exact readsClear_pure _
  · split
    · exact readsClear_fail trivial
    · exact readsClear_pure _

theorem readsClear_prologEnd (text : Text) (place : Span)
    (encoding standalone : Option (Text × Span)) :
    ReadsClear (prologEnd text place encoding standalone) := by
  refine (readsClear_takePunctuation (by decide)).discard_bind ?_
  refine (readsClear_takePunctuation (by decide)).discard_bind ?_
  cases Version.ofText? text with
  | none => exact readsClear_fail trivial
  | some version =>
    have hend := readsClear_declarationOf version standalone
    rcases encoding with _ | ⟨found, span⟩
    · exact hend
    · exact .choice (fun _ => readsClear_fail_bind trivial) fun _ => hend

theorem readsClear_prolog : ReadsClear prolog := by
  unfold prolog
  refine (readsClear_takePunctuation (by decide)).discard_bind ?_
  refine (readsClear_takePunctuation (by decide)).discard_bind ?_
  refine readsClear_takeIdentifier.bind fun key => ?_
  refine .choice (fun _ => readsClear_fail trivial) fun _ => .peek_bind fun t ts o => ?_
  refine ((readsClear_prologAttribute (by decide)).bind fun version => ?_) _ o
  rcases version with _ | ⟨text, place⟩
  · exact readsClear_fail trivial
  · refine (readsClear_prologAttribute (by decide)).bind fun encoding => ?_
    refine .choice (fun _ => ?_) fun _ => readsClear_prologEnd text place encoding none
    exact (readsClear_prologAttribute (by decide)).bind fun standalone =>
      readsClear_prologEnd text place encoding standalone

/-! ## The head of a template -/

theorem readsClear_directive (room : Nat) (group : Token) : ReadsClear (directive room group) := by
  refine .within ?_ group
  refine readsClear_takeIdentifier.bind fun key => ?_
  refine .choice (fun _ => ?unit) fun _ => .choice (fun _ => ?format) fun _ => ?other
  case unit =>
    refine (readsClear_takePunctuation (by decide)).discard_bind ?_
    refine .peek_bind fun t ts o => ?_
    refine (readsClear_takeString.bind fun unit => ?_) _ o
    refine .choice (fun _ => ?_) fun _ => readsClear_fail trivial
    exact readsClear_noMore.bind fun _ => readsClear_pure _
  case format =>
    refine (readsClear_takePunctuation (by decide)).discard_bind ?_
    exact (readsClear_restExpression room group).bind fun e => readsClear_pure _
  case other => exact readsClear_fail trivial

/-- The head does ask for the group, and fails if there is another token behind the mark. -/
theorem head_asksForGroup {t u : Token} (ht : t.isPunctuation ['#'] = true)
    (hu : u.isGroup ['['] = false) (room : Nat) (source : Text) (into : Option Embedded)
    (layout : Option LayoutDirective) (n : Nat) (ts : List Token) (o : Option Span) :
    ∃ e c, head room source into layout (n + 1) ⟨t :: u :: ts, o⟩ = .error e c ∧
      e.cause.AsksForGroup := by
  have htake : takeGroup ['['] ⟨u :: ts, o⟩ =
      .error ⟨.expectedGroup ['['] u.shown, some u.span⟩ ⟨ts, o⟩ := by
    show (if u.isGroup ['['] = true then _ else _ : Parse _) _ = _
    rw [hu]
    rfl
  refine ⟨⟨.expectedGroup ['['] u.shown, some u.span⟩, ⟨ts, o⟩, ?_,
    asksForGroup_expectedGroup u.shown⟩
  rw [head]
  show (if t.isPunctuation ['#'] = true then _ else _ : Parse _) _ = _
  rw [if_pos ht, XmlTemplate.discard_bind]
  exact bind_of_error htake _

/-- The tokens end where no comma is found. -/
theorem skipToComma_error {last : Token} {n : Nat} {ts : List Token} (hn : ts.length ≤ n)
    {o : Option Span} {e : ParseError} {c : Cursor} (h : skipToComma last n ⟨ts, o⟩ = .error e c) :
    e = ⟨.endOfInput, o⟩ ∧ c = ⟨[], o⟩ := by
  induction n generalizing ts last with
  | zero =>
    obtain rfl := List.length_eq_zero_iff.1 (Nat.le_zero.1 hn)
    cases h
    exact ⟨rfl, rfl⟩
  | succ n ih =>
    cases ts with
    | nil =>
      cases h
      exact ⟨rfl, rfl⟩
    | cons t ts =>
      change (if t.isPunctuation [','] = true then pure last else skipToComma t n : Parse Token)
        ⟨ts, o⟩ = _ at h
      split at h
      · cases h
      · exact ih (Nat.le_of_succ_le_succ hn) h

section Head

variable {ts : List Token} (hmarks : MarksFollowed ts)

include hmarks

/-- The search for a comma may pass marks over, but it does not stop behind one. -/
theorem stopsClear_skipToComma (last : Token) (o : Option Span) :
    StopsClear ts o (skipToComma last ts.length ⟨ts, o⟩) := by
  cases hrun : skipToComma last ts.length ⟨ts, o⟩ with
  | ok a c =>
    obtain ⟨rest, ⟨us, comma, hts, -, hcomma, -⟩, rfl⟩ :=
      (reads_skipToComma last (Nat.le_refl _) o a c).1 hrun
    rw [List.append_cons] at hts
    exact .ok a hts (.concat (not_mark_of_isPunctuation (by decide) hcomma) us)
  | error e c =>
    -- all tokens have been taken, and the last of them would need a group behind it
    obtain ⟨rfl, rfl⟩ := skipToComma_error (Nat.le_refl _) hrun
    exact .ended o (List.append_nil ts).symm hmarks.getLast

theorem stopsClear_destination (room : Nat) (source : Text) (o : Option Span) :
    StopsClear ts o (destination room source ⟨ts, o⟩) := by
  cases ts with
  | nil => exact readsClear_endOfInput [] o
  | cons first us =>
    exact (stopsClear_skipToComma hmarks first o).bind fun last left _ =>
      readsClear_embed room _ _ left o

/-- Behind a mark the head finds the group that it asks for. -/
theorem stopsClear_head (room : Nat) (source : Text) (into : Option Embedded)
    (layout : Option LayoutDirective) (n : Nat) (o : Option Span) :
    StopsClear ts o (head room source into layout n ⟨ts, o⟩) := by
  induction n generalizing ts into layout with
  | zero => exact readsClear_endOfInput ts o
  | succ n ih =>
    have hmore : ∀ into layout left, left <:+ ts →
        StopsClear left o (head room source into layout n ⟨left, o⟩) := by
      rintro into layout left ⟨taken, rfl⟩
      exact ih hmarks.of_append into layout
    cases ts with
    | nil => exact readsClear_endOfInput [] o
    | cons t ts =>
      by_cases hsign : t.isPunctuation ['#'] = true
      · -- the mark is taken together with its group
        obtain ⟨g, hg, hgroup⟩ := hmarks [] t ts rfl hsign
        obtain ⟨us, rfl⟩ := List.head?_eq_some_iff.1 hg
        rw [head_directive hsign hgroup]
        have hus : us <:+ t :: g :: us := List.suffix_append [t, g] us
        have hclear : EndsClear [t, g] := .concat (not_mark_of_isGroup hgroup) [t]
        refine StopsClear.after hclear ?_
        refine (readsClear_directive room g us o).bind fun parsed left hleft => ?_
        split
        · exact .failed trivial
        · exact hmore into (some parsed) left (hleft.trans hus)
      by_cases hlt : t.isPunctuation ['<'] = true
      · rw [head_markup hlt]
        exact readsClear_pure _ _ o
      rw [Bool.not_eq_true] at hsign hlt
      cases into with
      | none =>
        rw [head_destination hsign hlt]
        exact (stopsClear_destination hmarks room source o).bind fun e left hleft =>
          hmore (some e) layout left hleft
      | some e =>
        have hrefused : head room source (some e) layout (n + 1) ⟨t :: ts, o⟩ =
            fail (.expectedMarkup t.shown) t.span ⟨t :: ts, o⟩ := by
          rw [head]
          show (if t.isPunctuation ['#'] = true then _ else if t.isPunctuation ['<'] = true then _
            else _ : Parse _) _ = _
          rw [hsign, hlt]
          rfl
        rw [hrefused]
        exact .failed trivial

/-! ## Whole templates -/

omit hmarks in
theorem readsClear_rootAfter (permission : Permission) (room : Nat) (into : Option Embedded)
    (layout : Option LayoutDirective) (declared : Option Prolog) :
    ReadsClear (rootAfter permission room into layout declared) := by
  refine .choice (fun _ => .peek_bind fun _ _ _ => .failed trivial) fun _ => ?_
  refine (readsClear_takePunctuation (by decide)).discard_bind ?_
  refine .remaining_bind fun depth => ?_
  exact (readsClear_markup permission depth room).1.bind fun root => readsClear_pure _

omit hmarks in
theorem readsClear_afterHead (permission : Permission) (room : Nat) (into : Option Embedded)
    (layout : Option LayoutDirective) : ReadsClear (afterHead permission room into layout) := by
  have hroot := readsClear_rootAfter permission room into layout
  refine .peekSecond_bind fun t => .choice (fun _ => ?_) fun _ => ?_
  · exact (readsClear_prolog.map some).bind hroot
  · exact (readsClear_pure none).bind hroot

/-- Where every mark is followed by its group, a template is read without stopping behind one. -/
theorem stopsClear_whole (permission : Permission) (room : Nat) (source : Text) (o : Option Span) :
    StopsClear ts o (whole permission room source ⟨ts, o⟩) := by
  unfold whole
  rw [template_eq]
  refine StopsClear.bind ?_ fun t left _ =>
    (readsClear_noMore.bind fun _ => readsClear_pure t) left o
  exact (stopsClear_head hmarks _ source none none ts.length o).bind fun r left _ =>
    readsClear_afterHead permission _ r.1 r.2 left o

end Head

end Parse

namespace Template

open Parse

/-- Reading the source comes to an end of input where the last token that has been taken is the mark
of a directive. -/
def EndsBehindMark (permission : Permission) (room : Nat) (source : Text) : Prop :=
  ∃ before mark span left, Token.lex source = .ok (before ++ mark :: left.tokens) ∧
    mark.isPunctuation ['#'] = true ∧
      whole permission room source ⟨before ++ mark :: left.tokens, none⟩ =
        .error ⟨.endOfInput, span⟩ left

/-- The marks of directives are placed well among the tokens of a source: outside of groups, with
the group of the directive right behind. So no source fails to be read because that group is
missing, be it that another token is in its place or that the tokens end behind the mark. -/
theorem no_group_missing (permission : Permission) (room : Nat) (source : Text) :
    (∀ ts, Token.lex source = .ok ts → MarksPlaced ts) ∧
      (∀ e, parse permission room source = .error e → ¬e.cause.AsksForGroup) ∧
        ¬EndsBehindMark permission room source := by
  have hstops : ∀ ts, Token.lex source = .ok ts →
      StopsClear ts none (whole permission room source ⟨ts, none⟩) := fun ts hlex =>
    stopsClear_whole (marksPlaced_of_lex hlex).followed permission room source none
  refine ⟨fun ts => marksPlaced_of_lex, fun e he hasks => ?_, ?_⟩
  · cases hlex : Token.lex source with
    | error x =>
      rw [parse, hlex] at he
      obtain rfl : x = e := Except.error.inj he
      exact (ParseCause.IsOther.of_lexing (exists_isIn_of_lex_error hlex).1).not_asksForGroup hasks
    | ok ts =>
      rw [parse_of_lex hlex, ofTokens_eq_error] at he
      obtain ⟨c, hrun⟩ := he
      have hwhole := hstops ts hlex
      rw [hrun] at hwhole
      cases hwhole with
      | ended => exact not_asksForGroup_endOfInput hasks
      | failed hother => exact hother.not_asksForGroup hasks
  · rintro ⟨before, mark, span, left, hlex, hmark, hrun⟩
    have hwhole := hstops _ hlex
    rw [hrun] at hwhole
    cases hwhole with
    | @ended taken left span hts hclear =>
      -- the tokens that have been taken are those up to the mark
      rw [List.append_cons, List.append_cancel_right_eq] at hts
      rw [← hts] at hclear
      have hno := hclear mark List.getLast?_concat
      rw [hmark] at hno
      cases hno
    | failed hother => exact hother

/-- A mark in the place of a destination, then blanks and a group with a comment in it. -/
def markedSource : Text := "x # \t[#]\n]".toList

/-- The destination takes the mark and the group along, and the tokens end behind the group. -/
theorem no_group_missing_markedSource :
    ∃ ts, Token.lex markedSource = .ok ts ∧
      ts.map (fun t => t.isPunctuation ['#']) = [false, true, false] ∧ MarksPlaced ts ∧
        parse .granted maxRoom markedSource = .error ⟨.endOfInput, none⟩ ∧
          ¬ParseCause.endOfInput.AsksForGroup ∧ ¬EndsBehindMark .granted maxRoom markedSource := by
  obtain ⟨hplaced, hasks, hends⟩ := no_group_missing .granted maxRoom markedSource
  have hmarks : (Token.lex markedSource).toOption.map
      (List.map fun t => t.isPunctuation ['#']) = some [false, true, false] := by decide +kernel
  have hparse : parse .granted maxRoom markedSource = .error ⟨.endOfInput, none⟩ :=
    errorOf?_eq_some (by decide +kernel)
  cases hlex : Token.lex markedSource with
  | error e =>
    rw [hlex] at hmarks
    cases hmarks
  | ok ts =>
    rw [hlex] at hmarks
    exact ⟨ts, rfl, Option.some.inj hmarks, hplaced ts hlex, hparse, hasks _ hparse, hends⟩

end Template

end XmlTemplate
