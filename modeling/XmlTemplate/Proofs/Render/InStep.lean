import Mathlib.Data.List.Forall2
import XmlTemplate.Proofs.Render.Emission
import XmlTemplate.Proofs.Render.Likewise
import XmlTemplate.Proofs.Render.Machine

/-!
# Pretty documents in step with terse ones

The same calls are made on a pretty document and on a terse one. If none of them fails on the pretty
document, then none fails on the terse one, the two are equally deep after each call, and the text
of the first is the text of the second with a layout put into it (`pretty_in_step`): a blank in the
last mark of an empty tag, and line breaks after the declaration and after each call that ends a
line. How far a line break is indented depends on the next call that writes something, since an end
tag takes a unit back.

This is asked of calls that are given nothing which refers to the document itself. It also takes
that an end tag finds the indentation that it takes back. It might find it at the end of a name, if
the tag of that name has been begun and not finished, and the unit consists of characters that are
blank and yet belong to names (`pretty_out_of_step`).
-/

set_option autoImplicit false

namespace XmlTemplate

/-- A call that has been made on a document, which it has taken from one state to another. -/
structure MadeCall where
  call : MethodCall
  before : Document
  after : Document

namespace MadeCall

/-- What the call has added to the text, if it has only added to it. -/
def added (c : MadeCall) : Text := c.after.text.drop c.before.text.length

/-- Whether the call has written anything. -/
def writes (c : MadeCall) : Bool := c.after.text ≠ c.before.text

/-- The method of the first one of the calls that writes anything, if there is one. -/
def nextWriter (cs : List MadeCall) : Option DocumentMethod :=
  (cs.find? writes).map (·.call.method)

/-- How far a line break is indented that was written at the given depth and before the given calls:
by one unit less if an end tag is what comes next. -/
def breakDepth (depth : Nat) (later : List MadeCall) : Nat :=
  if nextWriter later = some .endElement then depth - 1 else depth

/-- A call on a terse document, laid out: what it has added, with a blank in the last mark of an
empty tag, and a line break if it ends a line. How far that is indented depends on the calls after
it on the pretty document. -/
def laidOutCall (unit : Text) (t : MadeCall) (later : List MadeCall) : Text :=
  (if t.call.method = .endEmptyTag then ' ' :: t.added else t.added) ++
    if t.call.method.endsLine then Document.lineBreak unit (breakDepth t.after.depth later) else []

/-- Calls on a terse document, laid out, given the same calls on the pretty document. -/
def laidOut (unit : Text) : List MadeCall → List MadeCall → Text
  | t :: ts, _ :: ps => laidOutCall unit t ps ++ laidOut unit ts ps
  | _, _ => []

/-- A call on a terse document and the same call on a pretty one: they are equally deep after it,
and an empty tag has been ended by the terse mark. -/
structure Abreast (t p : MadeCall) : Prop where
  call_eq : t.call = p.call
  depth_eq : t.after.depth = p.after.depth
  emptyTag : t.call.method = .endEmptyTag → t.added = ['/', '>']

/-- The name of the tag that the call begins, if that is a text. -/
def begins? (c : MadeCall) : Option Text :=
  match c.call with
  | ⟨.beginTag, [.str _ name]⟩ => some name
  | _ => none

/-- No end tag is the next thing that is written after a tag has been begun whose name ends with the
unit, unless that is empty. -/
def KeepsNames (unit : Text) : List MadeCall → Prop
  | [] => True
  | c :: later =>
    (∀ name ∈ c.begins?, nextWriter later = some .endElement → unit <:+ name → unit = []) ∧
      KeepsNames unit later

instance decidableKeepsNames (unit : Text) : (cs : List MadeCall) → Decidable (KeepsNames unit cs)
  | [] => isTrue trivial
  | _ :: later =>
    have := decidableKeepsNames unit later
    inferInstanceAs (Decidable (_ ∧ _))

theorem nextWriter_cons_of_writes {c : MethodCall} {d d' : Document} {later : List MadeCall}
    (h : d'.text ≠ d.text) : nextWriter (⟨c, d, d'⟩ :: later) = some c.method := by
  have hwrites : writes ⟨c, d, d'⟩ = true := decide_eq_true h
  rw [nextWriter, List.find?_cons_of_pos hwrites]
  rfl

theorem nextWriter_cons_of_not_writes {c : MethodCall} {d : Document} {later : List MadeCall} :
    nextWriter (⟨c, d, d⟩ :: later) = nextWriter later := by
  have hwrites : ¬writes ⟨c, d, d⟩ = true := fun h => of_decide_eq_true h rfl
  rw [nextWriter, List.find?_cons_of_neg hwrites]
  rfl

end MadeCall

theorem MadeCall.added_eq {c : MadeCall} {w : Text} (h : c.after.text = c.before.text ++ w) :
    c.added = w := by
  rw [added, h, List.drop_left]

namespace Document

open MadeCall

variable {d e d' e' : Document} {c : MethodCall} {unit : Text}

/-! ## What one call writes -/

theorem text_pushPieces (d : Document) (ps : List (Option Text)) :
    (d.pushPieces ps).text = d.text ++ ps.flatMap (·.getD []) := by
  induction ps generalizing d with
  | nil => exact (List.append_nil _).symm
  | cons p rest ih =>
    have hrest := ih (d.pushPiece p)
    rw [text_pushPiece, List.append_assoc] at hrest
    exact hrest

theorem text_ne_of_append {w : Text} (h : d'.text = d.text ++ w) (hw : w ≠ []) :
    d'.text ≠ d.text := by
  intro hsame
  rw [hsame] at h
  exact hw (List.append_right_eq_self.1 h.symm)

theorem Likewise.layout_eq (h : Likewise c d e d' e') : d'.layout = d.layout := by
  cases h with
  | openTag name => rfl
  | attributes ps => exact layout_eq_of_shape (shape_pushPieces d ps)
  | enterContent => exact congrArg Shape.layout d.shape_enterContent
  | endEmptyTag => exact layout_eq_of_shape d.shape_endEmptyTag
  | closeTag name shown hm hclose => exact congrArg Shape.layout (text_closeTag hclose).2.1
  | addText value => exact layout_eq_of_shape (d.shape_addText value)
  | reads => rfl

/-- What stands at the end of a pretty document does not pass for indentation, unless it is the name
of the tag that the call has begun. -/
def NoIndentation (c : MethodCall) (unit : Text) (d : Document) : Prop :=
  ∀ s, d.latest = some s → unit <:+ s → unit = [] ∨
    (c.method = .beginTag ∧ ∃ mark, c.args = [.str mark s])

/-- The text of the document is the given one and the line break for its depth, which has been
written in one piece. -/
structure EndsLine (unit base : Text) (d : Document) : Prop where
  latest_eq : d.latest = some (lineBreak unit d.depth)
  text_eq : d.text = base ++ lineBreak unit d.depth

/-- What a call writes into a pretty document and into a terse one: nothing; something inside of a
tag; something with a line break on the pretty one; or an end tag, for which a unit is taken back.
-/
inductive Wrote (c : MethodCall) (unit : Text) (d e d' e' : Document) : Prop
  | nothing (hd : d' = d) (he : e' = e) (hline : c.method.endsLine = false)
      (hempty : c.method ≠ .endEmptyTag)
  | inTag (w : Text) (he : e'.text = e.text ++ w) (hd : d'.text = d.text ++ w) (hw : w ≠ [])
      (hline : c.method.endsLine = false) (hempty : c.method ≠ .endEmptyTag)
      (hend : c.method ≠ .endElement) (hlatest : d'.NoIndentation c unit)
  | line (w : Text) (he : e'.text = e.text ++ w)
      (hd : d'.EndsLine unit (d.text ++ if c.method = .endEmptyTag then ' ' :: w else w))
      (hline : c.method.endsLine = true) (hend : c.method ≠ .endElement)
      (hempty : c.method = .endEmptyTag → w = ['/', '>'])
  | endTag (before w : Text) (hm : c.method = .endElement) (he : e'.text = e.text ++ w)
      (hbefore : d.text = before ++ unit) (hlatest : ∃ s, d.latest = some (s ++ unit))
      (hd : d'.EndsLine unit (before ++ w)) (hpos : 0 < d.depth) (hne : d'.text ≠ d.text)

/-- A unit of blanks is no end of a quoted value. -/
theorem eq_nil_of_suffix_quote (hunit : ∀ x ∈ unit, isBlank x = true) (h : unit <:+ ['"']) :
    unit = [] := by
  obtain ⟨t, ht⟩ := h
  cases t with
  | nil =>
    have hquote := hunit '"' (by rw [← List.nil_append unit, ht]; exact List.mem_singleton_self _)
    exact absurd hquote (by decide)
  | cons a rest =>
    obtain ⟨-, hrest⟩ := List.cons_eq_cons.1 ht
    exact (List.append_eq_nil_iff.1 hrest).2

/-- A unit is taken off the end of the latest piece. -/
theorem latest_of_outdent (hlayout : d.layout = .pretty unit) (h : d.outdent = .ok d') :
    ∃ s, d.latest = some (s ++ unit) := by
  rw [outdent, hlayout] at h
  dsimp only at h
  cases hunwrite : d.unwrite? unit with
  | none =>
    rw [hunwrite] at h
    cases h
  | some d₁ =>
    obtain ⟨-, -, -, s, hlatest, -⟩ := unwrite?_eq_some hunwrite
    exact ⟨s, hlatest⟩

theorem Likewise.wrote (h : Likewise c d e d' e') (hlevel : d.Level e)
    (hunit : ∀ x ∈ unit, isBlank x = true) (hlayout : d.layout = .pretty unit) :
    Wrote c unit d e d' e' := by
  have hterse := hlevel.layout_eq
  have hlayout' : d'.layout = .pretty unit := h.layout_eq.trans hlayout
  cases h with
  | openTag name hm hname =>
    -- the name is the latest piece, and it is one of the arguments
    refine .inTag ('<' :: name.getD []) (text_openTag e name) (text_openTag d name)
      (List.cons_ne_nil _ _) (by rw [hm]; rfl) (by rw [hm]; decide) (by rw [hm]; decide) ?_
    intro s hs _
    exact .inr ⟨hm, hname s hs⟩
  | attributes ps hm hps =>
    have hline : c.method.endsLine = false := by rcases hm with hm | hm <;> rw [hm] <;> rfl
    have hempty : c.method ≠ .endEmptyTag := by rcases hm with hm | hm <;> rw [hm] <;> decide
    have hend : c.method ≠ .endElement := by rcases hm with hm | hm <;> rw [hm] <;> decide
    rcases hps with rfl | hlast
    · exact .nothing rfl rfl hline hempty
    · obtain ⟨qs, rfl⟩ := List.getLast?_eq_some_iff.1 hlast
      refine .inTag _ (text_pushPieces e _) (text_pushPieces d _) ?_ hline hempty hend ?_
      · simp
      · intro s hs hsuffix
        rw [pushPieces_append] at hs
        cases hs
        exact .inl (eq_nil_of_suffix_quote hunit hsuffix)
  | enterContent hm =>
    have hempty : c.method ≠ .endEmptyTag := by rw [hm]; decide
    have hdepth : d.enterContent.depth = d.depth + 1 := congrArg Shape.depth d.shape_enterContent
    refine .line ['>'] ?_ ⟨d.settled_enterContent unit hlayout', ?_⟩ (by rw [hm]; rfl)
      (by rw [hm]; decide) fun h => absurd h hempty
    · rw [text_enterContent, hterse]
      rfl
    · rw [text_enterContent, hlayout, if_neg hempty, hdepth]
      simp [Layout.lineBreak]
  | endEmptyTag hm =>
    have hdepth := depth_eq_of_shape d.shape_endEmptyTag
    refine .line ['/', '>'] ?_ ⟨d.settled_endEmptyTag unit hlayout', ?_⟩ (by rw [hm]; rfl)
      (by rw [hm]; decide) fun _ => rfl
    · rw [text_endEmptyTag, hterse]
      exact List.append_nil _
    · rw [text_endEmptyTag, hlayout, if_pos hm, hdepth]
      rfl
  | closeTag name shown hm hclose hclose' =>
    obtain ⟨hpos, hshape, before, hbefore, htext⟩ := text_closeTag hclose
    obtain ⟨-, -, before', hbefore', htext'⟩ := text_closeTag hclose'
    have hdepth : d'.depth = d.depth - 1 := congrArg Shape.depth hshape
    rw [hterse, Layout.unitText, List.append_nil] at hbefore'
    rw [hlayout, Layout.unitText] at hbefore
    have hend : d'.EndsLine unit (before ++ ('<' :: '/' :: name.getD [] ++ ['>'])) := by
      refine ⟨settled_closeTag hclose unit hlayout', ?_⟩
      rw [htext, hlayout, hdepth]
      simp [Layout.lineBreak]
    refine .endTag before ('<' :: '/' :: name.getD [] ++ ['>']) hm ?_ hbefore ?_ hend hpos ?_
    · rw [htext', hterse, ← hbefore']
      simp [Layout.lineBreak]
    · obtain ⟨-, d₀, houtdent, -⟩ := closeTag_eq_ok hclose
      exact latest_of_outdent hlayout houtdent
    · -- what has been taken back is blank
      intro hsame
      rw [hend.text_eq, hbefore, List.append_assoc] at hsame
      have hmark := hunit '<' (List.append_cancel_left hsame ▸ List.mem_cons_self)
      exact absurd hmark (by decide)
  | addText value hm =>
    have hempty : c.method ≠ .endEmptyTag := by rw [hm]; decide
    have hdepth := depth_eq_of_shape (d.shape_addText value)
    refine .line (escape .content value) ?_ ⟨d.settled_addText value unit hlayout', ?_⟩
      (by rw [hm]; rfl) (by rw [hm]; decide) fun h => absurd h hempty
    · rw [text_addText, hterse]
      exact List.append_nil _
    · rw [text_addText, hlayout, if_neg hempty, hdepth]
      rfl
  | reads hm =>
    have hline : c.method.endsLine = false := by rcases hm with hm | hm <;> rw [hm] <;> rfl
    have hempty : c.method ≠ .endEmptyTag := by rcases hm with hm | hm <;> rw [hm] <;> decide
    exact .nothing rfl rfl hline hempty

/-! ## What is taken back -/

/-- The text that a pretty document comes to before anything else is written by the given calls,
the first of which takes a unit back if it writes an end tag. -/
inductive ComesTo (unit : Text) (later : List MadeCall) (d : Document) : Text → Prop
  | line {base : Text} (h : d.EndsLine unit base) :
      ComesTo unit later d (base ++ lineBreak unit (breakDepth d.depth later))
  | firm (h : nextWriter later = some .endElement → ∀ s, d.latest = some s → unit <:+ s →
      unit = []) : ComesTo unit later d d.text

theorem ComesTo.text_eq {base : Text} (h : d.ComesTo unit [] base) : d.text = base := by
  cases h with
  | line h => exact h.text_eq
  | firm h => rfl

/-- Nothing is taken back by a call that writes something else than an end tag. -/
theorem ComesTo.text_eq_of_writes {base : Text} {later : List MadeCall}
    (h : d.ComesTo unit (⟨c, d, d'⟩ :: later) base) (hwrites : d'.text ≠ d.text)
    (hend : c.method ≠ .endElement) : d.text = base := by
  cases h with
  | line h =>
    have hnext : nextWriter (⟨c, d, d'⟩ :: later) ≠ some .endElement := by
      rw [nextWriter_cons_of_writes hwrites]
      exact fun h => hend (Option.some.inj h)
    rw [breakDepth, if_neg hnext]
    exact h.text_eq
  | firm h => rfl

/-- A unit is taken back from the line break before an end tag. -/
theorem ComesTo.eq_before {base before : Text} {later : List MadeCall}
    (h : d.ComesTo unit (⟨c, d, d'⟩ :: later) base) (hwrites : d'.text ≠ d.text)
    (hm : c.method = .endElement) (hpos : 0 < d.depth) (hbefore : d.text = before ++ unit)
    (hlatest : ∃ s, d.latest = some (s ++ unit)) : base = before := by
  have hnext : nextWriter (⟨c, d, d'⟩ :: later) = some .endElement := by
    rw [nextWriter_cons_of_writes hwrites, hm]
  cases h with
  | line h =>
    rename_i base
    rw [breakDepth, if_pos hnext]
    obtain ⟨n, hn⟩ := Nat.exists_eq_succ_of_ne_zero (Nat.ne_of_gt hpos)
    have htext := h.text_eq
    have hbreak : lineBreak unit (n + 1) = lineBreak unit n ++ unit :=
      Layout.lineBreak_succ (.pretty unit) n
    -- the line break is one unit longer than the one before the end tag
    rw [hbefore, hn, Nat.succ_eq_add_one, hbreak, ← List.append_assoc] at htext
    rw [hn]
    exact (List.append_cancel_right htext).symm
  | firm h =>
    obtain ⟨s, hs⟩ := hlatest
    rw [h hnext _ hs (List.suffix_append s unit), List.append_nil] at hbefore
    exact hbefore

/-- What a pretty document comes to grows by what is written into a terse one, laid out. -/
theorem ComesTo.step {base : Text} {later : List MadeCall}
    (h : d.ComesTo unit (⟨c, d, d'⟩ :: later) base) (hwrote : Wrote c unit d e d' e')
    (hnames : KeepsNames unit (⟨c, d, d'⟩ :: later)) (hdepth : e'.depth = d'.depth) :
    d'.ComesTo unit later (base ++ laidOutCall unit ⟨c, e, e'⟩ later) := by
  cases hwrote with
  | nothing hd he hline hempty =>
    subst hd he
    have hadded : added ⟨c, e', e'⟩ = [] := added_eq (List.append_nil _).symm
    rw [laidOutCall, if_neg hempty, if_neg (Bool.eq_false_iff.1 hline), hadded, List.append_nil,
      List.append_nil]
    cases h with
    | line h =>
      rw [breakDepth, nextWriter_cons_of_not_writes]
      exact .line h
    | firm h =>
      rw [nextWriter_cons_of_not_writes] at h
      exact .firm h
  | inTag w he hd hw hline hempty hend hlatest =>
    obtain rfl := h.text_eq_of_writes (text_ne_of_append hd hw) hend
    rw [laidOutCall, if_neg hempty, if_neg (Bool.eq_false_iff.1 hline), List.append_nil,
      added_eq he, ← hd]
    refine .firm fun hnext s hs hsuffix => ?_
    -- only a name could be taken for indentation, and then no end tag follows
    rcases hlatest s hs hsuffix with hnil | ⟨hm, mark, hargs⟩
    · exact hnil
    · refine hnames.1 s ?_ hnext hsuffix
      obtain ⟨method, args⟩ := c
      subst hm hargs
      rfl
  | line w he hd hline hend hempty =>
    have hne : d'.text ≠ d.text := text_ne_of_append (hd.text_eq.trans (List.append_assoc ..))
      (List.append_ne_nil_of_right_ne_nil _ (List.cons_ne_nil _ _))
    obtain rfl := h.text_eq_of_writes hne hend
    rw [laidOutCall, if_pos hline, added_eq he, hdepth, ← List.append_assoc]
    exact .line hd
  | endTag before w hm he hbefore hlatest hd hpos hne =>
    obtain rfl := h.eq_before hne hm hpos hbefore hlatest
    have hempty : c.method ≠ .endEmptyTag := by rw [hm]; decide
    have hline : c.method.endsLine = true := by rw [hm]; rfl
    rw [laidOutCall, if_neg hempty, if_pos hline, added_eq he, hdepth, ← List.append_assoc]
    exact .line hd

/-! ## Calls one after the other -/

/-- Calls have been made on two documents, with the same things done to both, and have taken the
first one to the third and the second one to the fourth. -/
inductive Alongside : Document → Document → List MadeCall → List MadeCall → Document → Document →
    Prop
  | nil {d e : Document} : Alongside d e [] [] d e
  | cons {c : MethodCall} {d e d₁ e₁ d' e' : Document} {ts ps : List MadeCall}
      (head : Likewise c d e d₁ e₁) (level : d₁.Level e₁) (tail : Alongside d₁ e₁ ts ps d' e') :
      Alongside d e (⟨c, e, e₁⟩ :: ts) (⟨c, d, d₁⟩ :: ps) d' e'

variable {ts ps : List MadeCall}

/-- A terse document is only added to. -/
theorem Wrote.added_eq (h : Wrote c unit d e d' e') :
    e'.text = e.text ++ added ⟨c, e, e'⟩ ∧ (c.method = .endEmptyTag →
      added ⟨c, e, e'⟩ = ['/', '>']) := by
  cases h with
  | nothing hd he hline hempty =>
    subst he
    rw [MadeCall.added_eq (List.append_nil _).symm, List.append_nil]
    exact ⟨rfl, fun h => absurd h hempty⟩
  | inTag w he hd hw hline hempty =>
    rw [MadeCall.added_eq he]
    exact ⟨he, fun h => absurd h hempty⟩
  | line w he hd hline hend hempty =>
    rw [MadeCall.added_eq he]
    exact ⟨he, hempty⟩
  | endTag before w hm he =>
    rw [MadeCall.added_eq he]
    refine ⟨he, fun h => ?_⟩
    rw [hm] at h
    cases h

/-- The calls on the two documents, pair by pair. -/
theorem Alongside.abreast (h : Alongside d e ts ps d' e') (hlevel : d.Level e)
    (hunit : ∀ x ∈ unit, isBlank x = true) (hlayout : d.layout = .pretty unit) :
    List.Forall₂ Abreast ts ps ∧ e'.text = e.text ++ ts.flatMap added := by
  induction h with
  | nil => exact ⟨.nil, (List.append_nil _).symm⟩
  | cons head level tail ih =>
    obtain ⟨hadded, hempty⟩ := (head.wrote hlevel hunit hlayout).added_eq
    obtain ⟨htail, htext⟩ := ih level (head.layout_eq.trans hlayout)
    refine ⟨.cons ⟨rfl, level.depth_eq, hempty⟩ htail, ?_⟩
    rw [htext, hadded, List.flatMap_cons, List.append_assoc]

/-- The text of the pretty document is that of the terse one, laid out. -/
theorem Alongside.text_eq {base : Text} (h : Alongside d e ts ps d' e') (hlevel : d.Level e)
    (hunit : ∀ x ∈ unit, isBlank x = true) (hlayout : d.layout = .pretty unit)
    (hnames : KeepsNames unit ps) (hbase : d.ComesTo unit ps base) :
    d'.text = base ++ laidOut unit ts ps := by
  -- what the document comes to before the calls that are left is the invariant
  induction h generalizing base with
  | nil =>
    exact hbase.text_eq.trans (List.append_nil base).symm
  | cons head level tail ih =>
    have hstep := hbase.step (head.wrote hlevel hunit hlayout) hnames level.depth_eq
    rw [ih level (head.layout_eq.trans hlayout) hnames.2 hstep, laidOut, List.append_assoc]

/-! ## New documents -/

theorem isText_start (version : Version) (standalone : Option Bool) (layout : Layout) :
    (start version standalone layout).isText = true := by
  rw [start, isText_newline, isText_pushAll]
  rfl

theorem level_start (version : Version) (standalone : Option Bool) (layout : Layout) :
    (start version standalone layout).Level (start version standalone .terse) where
  layout_eq := layout_start ..
  depth_eq := by rw [depth_start, depth_start]
  isText_eq := by rw [isText_start, isText_start]

theorem endsLine_start (version : Version) (standalone : Option Bool) (unit : Text) :
    (start version standalone (.pretty unit)).EndsLine unit
      (start version standalone .terse).text where
  latest_eq := settled_newline _ unit (layout_start ..)
  text_eq := by
    rw [text_start, text_start_terse, depth_start]
    rfl

end Document

namespace Render

open Document MadeCall

variable {id : Nat} {unit : Text} {s s' : RenderState}

/-- Make calls on a document one after the other; answers what they have done, unless one fails. -/
def recordCalls (id : Nat) : List MethodCall → Render (List MadeCall)
  | [] => return []
  | c :: rest => do
    let before ← document id
    discard (callDocument c.method id c.args)
    let after ← document id
    return ⟨c, before, after⟩ :: (← recordCalls id rest)

theorem recordCalls_cons_eq_ok {c : MethodCall} {rest : List MethodCall} {ps : List MadeCall} :
    recordCalls id (c :: rest) s = .ok ps s' ↔ ∃ d v s₁ d₁ qs,
      s.store.documents[id]? = some d ∧ callDocument c.method id c.args s = .ok v s₁ ∧
        s₁.store.documents[id]? = some d₁ ∧ recordCalls id rest s₁ = .ok qs s' ∧
          ps = ⟨c, d, d₁⟩ :: qs := by
  rw [recordCalls]
  constructor
  · intro h
    obtain ⟨d, s₀, hbefore, h₁⟩ := bind_eq_ok.1 h
    obtain ⟨hd, rfl⟩ := document_eq_ok.1 hbefore
    obtain ⟨u, s₁, hdiscard, h₂⟩ := bind_eq_ok.1 h₁
    obtain ⟨v, hcall⟩ := discard_eq_ok.1 hdiscard
    obtain ⟨d₁, s₂, hafter, h₃⟩ := bind_eq_ok.1 h₂
    obtain ⟨hd₁, rfl⟩ := document_eq_ok.1 hafter
    obtain ⟨qs, s₃, hrest, hpure⟩ := bind_eq_ok.1 h₃
    cases hpure
    exact ⟨d, v, _, d₁, qs, hd, hcall, hd₁, hrest, rfl⟩
  · rintro ⟨d, v, s₁, d₁, qs, hd, hcall, hd₁, hrest, rfl⟩
    have hdiscard : discard (callDocument c.method id c.args) s = .ok () s₁ :=
      discard_eq_ok.2 ⟨v, hcall⟩
    rw [bind_of_ok (document_of_getElem? hd), bind_of_ok hdiscard,
      bind_of_ok (document_of_getElem? hd₁), bind_of_ok hrest]
    rfl

/-- Calls that can be made on a document can be made on a terse one of the same depth in its place,
and do the same to both. -/
theorem recordCalls_alongside {calls : List MethodCall} {ps : List MadeCall} {d e : Document}
    (hclear : Clear id s) (hcalls : ∀ c ∈ calls, ∀ v ∈ c.args, v.Within (· ≠ id))
    (hd : s.store.documents[id]? = some d) (hlevel : d.Level e)
    (hrun : recordCalls id calls s = .ok ps s') :
    ∃ d' e' ts, s'.store.documents[id]? = some d' ∧
      recordCalls id calls (s.put id e) = .ok ts (s'.put id e') ∧ Alongside d e ts ps d' e' := by
  induction calls generalizing s d e ps with
  | nil =>
    cases hrun
    exact ⟨d, e, [], hd, rfl, .nil⟩
  | cons c rest ih =>
    obtain ⟨hc, hrest⟩ := List.forall_mem_cons.1 hcalls
    obtain ⟨d₀, v, s₁, d₁, qs, hd₀, hcall, hd₁, hrun', rfl⟩ := recordCalls_cons_eq_ok.1 hrun
    rw [hd] at hd₀
    cases hd₀
    obtain ⟨d₂, hd₂, hclear₁, hother⟩ := beside_callDocument c hc s d v s₁ hclear hd hcall
    rw [hd₁] at hd₂
    cases hd₂
    -- the answers of the two calls can differ, but the states are the same apart from the document
    obtain ⟨w, e₁, hcall', hlevel₁, hlikewise⟩ := hother e hlevel
    obtain ⟨d', e', ts, hd', hrunOther, halongside⟩ := ih hclear₁ hrest hd₁ hlevel₁ hrun'
    obtain ⟨hid, -⟩ := List.getElem?_eq_some_iff.1 hd
    obtain ⟨hid₁, -⟩ := List.getElem?_eq_some_iff.1 hd₁
    refine ⟨d', e', ⟨c, e, e₁⟩ :: ts, hd', ?_, .cons hlikewise hlevel₁ halongside⟩
    exact recordCalls_cons_eq_ok.2
      ⟨e, w, _, e₁, ts, getElem?_put hid e, hcall', getElem?_put hid₁ e₁, hrunOther, rfl⟩

/-- The calls that have been made on a pretty document, in a run that has taken the first state to
the second, can be made on a terse one in its place, with the same outcome for everything else: the
two are equally deep after each call, and the text of the first one is the declaration, a line
break, and what the calls have added to the second one, laid out. -/
def StaysInStep (id : Nat) (version : Version) (standalone : Option Bool) (unit : Text)
    (calls : List MethodCall) (s s' : RenderState) (ps : List MadeCall) : Prop :=
  ∃ ts e, recordCalls id calls (s.put id (.start version standalone .terse)) =
      .ok ts (s'.put id e) ∧
    List.Forall₂ Abreast ts ps ∧
    e.text = (Document.start version standalone .terse).text ++ ts.flatMap added ∧
    ∃ d : Document, s'.store.documents[id]? = some d ∧
      d.text = (Document.start version standalone .terse).text ++
        lineBreak unit (breakDepth 0 ps) ++ laidOut unit ts ps

/-- A pretty document stays in step with a terse one, whatever calls are made on the two in whatever
order, as long as they do not fail, are given nothing which refers to the document, and take nothing
back from a name. -/
theorem pretty_in_step {version : Version} {standalone : Option Bool}
    (hunit : unit.allBlank = true)
    (hs : s.store.documents[id]? = some (.start version standalone (.pretty unit)))
    (hclear : Clear id s) {calls : List MethodCall}
    (hcalls : ∀ c ∈ calls, ∀ v ∈ c.args, v.Within (· ≠ id)) {ps : List MadeCall}
    (hrun : recordCalls id calls s = .ok ps s') (hnames : KeepsNames unit ps) :
    StaysInStep id version standalone unit calls s s' ps := by
  have hblank := List.all_eq_true.1 hunit
  have hlayout := Document.layout_start version standalone (.pretty unit)
  have hlevel := level_start version standalone (.pretty unit)
  obtain ⟨d, e, ts, hd, hterse, halongside⟩ :=
    recordCalls_alongside hclear hcalls hs hlevel hrun
  obtain ⟨habreast, htext⟩ := halongside.abreast hlevel hblank hlayout
  refine ⟨ts, e, hterse, habreast, htext, d, hd, ?_⟩
  have hprolog : ComesTo unit ps (.start version standalone (.pretty unit)) _ :=
    .line (endsLine_start version standalone unit)
  rw [Document.depth_start] at hprolog
  exact halongside.text_eq hlevel hblank hlayout hnames hprolog

/-- A state with a new pretty document and nothing else. -/
def newPretty (unit : Text) : RenderState := .single (.start .v1_0 none (.pretty unit)) []

/-- Calls that write an element with a text and an empty tag in it, and read it before its end. -/
def tabbedCalls : List MethodCall :=
  [⟨.beginTag, [.str none ['a']]⟩, ⟨.addAttribute, [.str none ['n'], .str none ['v']]⟩,
   ⟨.enterContent, []⟩, ⟨.addText, [.str none ['x']]⟩, ⟨.beginTag, [.str none ['b']]⟩,
   ⟨.endEmptyTag, []⟩, ⟨.asText, []⟩, ⟨.endElement, [.str none ['a']]⟩]

theorem pretty_in_step_tabbed :
    ∃ ps s', recordCalls 0 tabbedCalls (newPretty ['\t']) = .ok ps s' ∧ KeepsNames ['\t'] ps ∧
      StaysInStep 0 .v1_0 none ['\t'] tabbedCalls (newPretty ['\t']) s' ps := by
  have hclear : Clear 0 (newPretty ['\t']) := nofun
  have hcalls : ∀ c ∈ tabbedCalls, ∀ v ∈ c.args, v.Within (· ≠ 0) := by
    simp [tabbedCalls, Value.Within]
  have hok : (match recordCalls 0 tabbedCalls (newPretty ['\t']) with
      | .ok ps _ => decide (KeepsNames ['\t'] ps)
      | .error _ _ => false) = true := by decide +kernel
  split at hok
  next ps s' hrun =>
    have hnames := of_decide_eq_true hok
    exact ⟨ps, s', hrun, hnames, pretty_in_step (by decide) rfl hclear hcalls hrun hnames⟩
  next => cases hok

/-- The text of a pretty document after calls, and the one that they lay out on a terse one, if they
succeed on both. -/
def texts? (id : Nat) (version : Version) (standalone : Option Bool) (unit : Text)
    (calls : List MethodCall) (s : RenderState) : Option (Text × Text) :=
  match recordCalls id calls s,
    recordCalls id calls (s.put id (.start version standalone .terse)) with
  | .ok ps s', .ok ts _ => s'.store.documents[id]?.map fun d =>
      (d.text, (Document.start version standalone .terse).text ++
        lineBreak unit (breakDepth 0 ps) ++ laidOut unit ts ps)
  | _, _ => none

/-- Where the two texts differ, the document does not stay in step. -/
theorem not_staysInStep {version : Version} {standalone : Option Bool} {calls : List MethodCall}
    (h : (texts? id version standalone unit calls s).any (fun texts => texts.1 ≠ texts.2) = true) :
    ∃ ps s', recordCalls id calls s = .ok ps s' ∧
      ¬StaysInStep id version standalone unit calls s s' ps := by
  rw [texts?] at h
  split at h
  next ps s' ts t' hrun hterse =>
    refine ⟨ps, s', hrun, ?_⟩
    rintro ⟨ts', e, hterse', -, -, d, hd, htext⟩
    rw [hterse] at hterse'
    cases hterse'
    rw [hd, Option.map_some, ← htext, Option.any_some, decide_eq_true_iff] at h
    exact h rfl
  next => cases h

/-- Calls of which the last ends an element while a tag has been begun whose name ends with a blank.
-/
def barredCalls : List MethodCall :=
  [⟨.beginTag, [.str none ['a']]⟩, ⟨.enterContent, []⟩, ⟨.beginTag, [.str none ['b', '\u1680']]⟩,
   ⟨.endElement, [.str none ['a']]⟩]

/-- The text of a document as a text in the same document. -/
def ownTextCalls : List MethodCall := [⟨.addText, [.document 0]⟩]

/-- An end tag takes a blank back from a name, and the text of a document depends on its layout. -/
theorem pretty_out_of_step :
    (Text.allBlank ['\u1680'] = true ∧
      ∃ ps s', recordCalls 0 barredCalls (newPretty ['\u1680']) = .ok ps s' ∧
        ¬StaysInStep 0 .v1_0 none ['\u1680'] barredCalls (newPretty ['\u1680']) s' ps) ∧
    Text.allBlank ['\t'] = true ∧
      ∃ ps s', recordCalls 0 ownTextCalls (newPretty ['\t']) = .ok ps s' ∧
        ¬StaysInStep 0 .v1_0 none ['\t'] ownTextCalls (newPretty ['\t']) s' ps := by
  have hbarred : (texts? 0 .v1_0 none ['\u1680'] barredCalls (newPretty ['\u1680'])).any
      (fun texts => texts.1 ≠ texts.2) = true := by decide +kernel
  have hown : (texts? 0 .v1_0 none ['\t'] ownTextCalls (newPretty ['\t'])).any
      (fun texts => texts.1 ≠ texts.2) = true := by decide +kernel
  exact ⟨⟨by decide, not_staysInStep hbarred⟩, by decide, not_staysInStep hown⟩

end Render

end XmlTemplate
