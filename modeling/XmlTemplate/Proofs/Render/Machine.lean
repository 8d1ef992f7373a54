import XmlTemplate.Proofs.Document.Growth
import XmlTemplate.Proofs.Render.Calls
import XmlTemplate.Proofs.Render.Emission

/-!
# A document as a machine

The calls that can be made on a document, in any order and with any arguments, are the steps of a
machine. `Acts` says what a rendering does to the document whichever way it ends, and
`acts_callDocument` says it of each call: the declaration stays in front, the depth is that of the
elements entered and not left, a call that is refused for the state of the document leaves it as it
is, and a call that ends a line leaves it ready for an end tag. The main result puts this together
for any calls on a new document (`document_after_calls`). What the last part of it depends on is the
method by which the document was changed last (`lastWriter`), since calls that fail early change
nothing.
-/

set_option autoImplicit false

namespace XmlTemplate

/-- How many elements a call of the method enters if it succeeds. -/
def DocumentMethod.enters : DocumentMethod → Nat
  | .enterContent => 1
  | _ => 0

/-- How many elements a call of the method leaves if it succeeds. -/
def DocumentMethod.leaves : DocumentMethod → Nat
  | .endElement => 1
  | _ => 0

/-- Whether what a call of the method writes ends a line of a pretty document. -/
def DocumentMethod.endsLine : DocumentMethod → Bool
  | .enterContent | .endEmptyTag | .endElement | .addText => true
  | .beginTag | .addAttribute | .addAttributes | .asText | .complete => false

namespace Document

/-- The document has grown and is as deep as before. -/
structure GrowsLevel (d d' : Document) : Prop where
  grows : d.Grows d'
  depth_eq : d'.depth = d.depth

theorem GrowsLevel.refl (d : Document) : d.GrowsLevel d := ⟨.refl d, rfl⟩

theorem GrowsLevel.trans {d d' e : Document} (h : d.GrowsLevel d') (h' : d'.GrowsLevel e) :
    d.GrowsLevel e :=
  ⟨h.grows.trans h'.grows, h'.depth_eq.trans h.depth_eq⟩

/-- What a call of the method makes of a document if it succeeds. -/
structure Called (m : DocumentMethod) (d d' : Document) : Prop where
  grows : d.Grows d'
  depth_eq : d'.depth + m.leaves = d.depth + m.enters
  settled : m.endsLine = true → d'.Settled

/-- What a call of the method makes of a document if it fails with the given fault. -/
structure Refused (m : DocumentMethod) (e : Fault) (d d' : Document) : Prop where
  level : d.GrowsLevel d'
  unchanged : e.isViolation = true ∨ m.endsLine = true → d' = d

theorem Refused.refl (m : DocumentMethod) (e : Fault) (d : Document) : d.Refused m e d :=
  ⟨.refl d, fun _ => rfl⟩

end Document

namespace Render

variable {α β : Type} {id : Nat} {done : Document → Document → Prop}
  {failed : Fault → Document → Document → Prop}

/-- A rendering that takes the document from one to another as `done` says if it succeeds, and as
`failed` says if it does not. -/
structure Acts (id : Nat) (p : Render α) (done : Document → Document → Prop)
    (failed : Fault → Document → Document → Prop) : Prop where
  of_ok : ∀ s d a s', s.store.documents[id]? = some d → p s = .ok a s' →
    ∃ d', s'.store.documents[id]? = some d' ∧ done d d'
  of_error : ∀ s d e s', s.store.documents[id]? = some d → p s = .error e s' →
    ∃ d', s'.store.documents[id]? = some d' ∧ failed e d d'

namespace Acts

variable {p : Render α}

theorem pure {a : α} (h : ∀ d, done d d) : Acts id (Pure.pure a) done failed where
  of_ok s d b s' hd hrun := by
    cases hrun
    exact ⟨d, hd, h d⟩
  of_error s d e s' hd hrun := by cases hrun

theorem throw {e : Fault} (h : ∀ d, failed e d d) :
    Acts id (MonadExcept.throw e : Render α) done failed where
  of_ok s d b s' hd hrun := by cases hrun
  of_error s d e' s' hd hrun := by
    cases hrun
    exact ⟨d, hd, h d⟩

theorem mono {done' : Document → Document → Prop} {failed' : Fault → Document → Document → Prop}
    (h : Acts id p done failed) (hdone : ∀ d d', done d d' → done' d d')
    (hfailed : ∀ e d d', failed e d d' → failed' e d d') : Acts id p done' failed' where
  of_ok s d a s' hd hrun := by
    obtain ⟨d', hd', hp⟩ := h.of_ok s d a s' hd hrun
    exact ⟨d', hd', hdone d d' hp⟩
  of_error s d e s' hd hrun := by
    obtain ⟨d', hd', hp⟩ := h.of_error s d e s' hd hrun
    exact ⟨d', hd', hfailed e d d' hp⟩

/-- Another answer can always be given. -/
theorem answer (h : Acts id p done failed) (b : β) :
    Acts id (p >>= fun _ => Pure.pure b) done failed where
  of_ok s d b' s' hd hrun := by
    obtain ⟨a, s₁, hrun₁, hpure⟩ := bind_eq_ok.1 hrun
    cases hpure
    exact h.of_ok s d a s' hd hrun₁
  of_error s d e s' hd hrun := by
    rcases bind_eq_error.1 hrun with hrun₁ | ⟨a, s₁, -, hpure⟩
    · exact h.of_error s d e s' hd hrun₁
    · cases hpure

/-- What has been done before a failure is part of what the failure leaves. -/
theorem bind {done₁ done₂ : Document → Document → Prop}
    {failed₁ failed₂ : Fault → Document → Document → Prop} {f : α → Render β}
    (hp : Acts id p done₁ failed₁) (hf : ∀ a, Acts id (f a) done₂ failed₂)
    (hdone : ∀ d d' e, done₁ d d' → done₂ d' e → done d e)
    (hfailed₁ : ∀ fault d d', failed₁ fault d d' → failed fault d d')
    (hfailed₂ : ∀ fault d d' e, done₁ d d' → failed₂ fault d' e → failed fault d e) :
    Acts id (p >>= f) done failed where
  of_ok s d b s' hd hrun := by
    obtain ⟨a, s₁, hrun₁, hrun'⟩ := bind_eq_ok.1 hrun
    obtain ⟨d₁, hd₁, hdone₁⟩ := hp.of_ok s d a s₁ hd hrun₁
    obtain ⟨d', hd', hdone₂⟩ := (hf a).of_ok s₁ d₁ b s' hd₁ hrun'
    exact ⟨d', hd', hdone d d₁ d' hdone₁ hdone₂⟩
  of_error s d e s' hd hrun := by
    rcases bind_eq_error.1 hrun with hrun₁ | ⟨a, s₁, hrun₁, hrun'⟩
    · obtain ⟨d', hd', hfail⟩ := hp.of_error s d e s' hd hrun₁
      exact ⟨d', hd', hfailed₁ e d d' hfail⟩
    · obtain ⟨d₁, hd₁, hdone₁⟩ := hp.of_ok s d a s₁ hd hrun₁
      obtain ⟨d', hd', hfail⟩ := (hf a).of_error s₁ d₁ e s' hd₁ hrun'
      exact ⟨d', hd', hfailed₂ e d d₁ d' hdone₁ hfail⟩

end Acts

/-- What reads leaves the document to what comes after. -/
theorem Reads.acts {E : Fault → Prop} {p : Render α} {Q : α → Prop} {f : α → Render β}
    (hp : Reads E p Q) (hf : ∀ a, Q a → Acts id (f a) done failed)
    (hE : ∀ e d, E e → failed e d d) : Acts id (p >>= f) done failed where
  of_ok s d b s' hd hrun := by
    obtain ⟨a, s₁, hrun₁, hrun'⟩ := bind_eq_ok.1 hrun
    obtain ⟨ha, hdocuments⟩ := hp.of_ok s a s₁ hrun₁
    exact (hf a ha).of_ok s₁ d b s' (hdocuments ▸ hd) hrun'
  of_error s d e s' hd hrun := by
    rcases bind_eq_error.1 hrun with hrun₁ | ⟨a, s₁, hrun₁, hrun'⟩
    · obtain ⟨he, hdocuments⟩ := hp.of_error s e s' hrun₁
      exact ⟨d, hdocuments ▸ hd, hE e d he⟩
    · obtain ⟨ha, hdocuments⟩ := hp.of_ok s a s₁ hrun₁
      exact (hf a ha).of_error s₁ d e s' (hdocuments ▸ hd) hrun'

/-- A change of the document succeeds as its operation does, and is refused as a whole. -/
theorem acts_changeDocument {f : Document → Except Violation Document}
    (hdone : ∀ d d', f d = .ok d' → done d d')
    (hfailed : ∀ d v, f d = .error v → failed (.violation v) d d) :
    Acts id (changeDocument id f) done failed where
  of_ok s d u s' hd hrun := by
    obtain ⟨d₀, d', hd₀, hf, rfl⟩ := changeDocument_eq_ok.1 hrun
    rw [hd] at hd₀
    cases hd₀
    obtain ⟨hid, -⟩ := List.getElem?_eq_some_iff.1 hd
    exact ⟨d', getElem?_put hid d', hdone d d' hf⟩
  of_error s d e s' hd hrun := by
    obtain ⟨hid, -⟩ := List.getElem?_eq_some_iff.1 hd
    rw [← put_of_getElem? hd, changeDocument_put hid] at hrun
    cases hf : f d with
    | ok d' =>
      rw [hf] at hrun
      cases hrun
    | error v =>
      rw [hf] at hrun
      cases hrun
      exact ⟨d, getElem?_put hid d, hfailed d v hf⟩

theorem acts_write {f : Document → Document} (h : ∀ d, done d (f d)) :
    Acts id (changeDocument id fun d => .ok (f d)) done failed := by
  refine acts_changeDocument ?_ ?_
  · rintro d _ ⟨⟩
    exact h d
  · rintro d v ⟨⟩

/-! ## Attributes -/

/-- A rendering that makes the document grow on its level, however it ends, and that ends in no
violation. -/
def Lengthens (id : Nat) (p : Render α) : Prop :=
  Acts id p Document.GrowsLevel fun e d d' => e.isViolation = false ∧ d.GrowsLevel d'

namespace Lengthens

theorem pure (a : α) : Lengthens id (Pure.pure a) := Acts.pure .refl

theorem throw {e : Fault} (he : e.isViolation = false) :
    Lengthens id (MonadExcept.throw e : Render α) :=
  Acts.throw fun d => ⟨he, .refl d⟩

theorem bind {p : Render α} {f : α → Render β} (hp : Lengthens id p)
    (hf : ∀ a, Lengthens id (f a)) : Lengthens id (p >>= f) :=
  Acts.bind hp hf (fun _ _ _ h h' => h.trans h') (fun _ _ _ h => h)
    fun _ _ _ _ h h' => ⟨h'.1, h.trans h'.2⟩

end Lengthens

theorem Reads.lengthens {p : Render α} {Q : α → Prop} {f : α → Render β}
    (hp : Reads (·.isViolation = false) p Q) (hf : ∀ a, Lengthens id (f a)) :
    Lengthens id (p >>= f) :=
  hp.acts (fun a _ => hf a) fun _ d he => ⟨he, .refl d⟩

theorem lengthens_writeAttribute (name : Option Text) (v : Value) :
    Lengthens id (writeAttribute id name v) := by
  have hbegin : Lengthens id (changeDocument id fun d => .ok (d.beginAttribute name)) :=
    acts_write fun d => ⟨d.grows_beginAttribute name, rfl⟩
  refine hbegin.bind fun _ => (reads_display v).lengthens fun value => ?_
  exact acts_write fun d => ⟨d.grows_endAttribute value,
    Document.depth_eq_of_shape (d.shape_endAttribute value)⟩

theorem lengthens_writePair (pair : Value) : Lengthens id (writePair id pair) := by
  refine (reads_unpackPair pair).lengthens fun ⟨n, v⟩ => (reads_display n).lengthens fun name => ?_
  refine (lengthens_writeAttribute (some name) v).bind fun _ => ?_
  split
  · exact .throw rfl
  · exact .pure _

theorem lengthens_forItems {body : Value → Render Unit} (hbody : ∀ v, Lengthens id (body v))
    (vs : List Value) : Lengthens id (forItems body vs) := by
  induction vs with
  | nil => exact .pure _
  | cons v rest ih => exact (hbody v).bind fun _ => ih

theorem lengthens_forEach {body : Value → Render Unit} (hbody : ∀ v, Lengthens id (body v))
    (source : Iteration) : Lengthens id (forEach source body) := by
  cases source with
  | items vs => exact lengthens_forItems hbody vs
  | range first step count =>
    show Lengthens id (forRange body first step count)
    induction count generalizing first with
    | zero => exact .pure _
    | succ count ih => exact (hbody (.int first)).bind fun _ => ih (first + step)
  | shared i =>
    refine (reads_left i).lengthens fun rounds => ?_
    induction rounds with
    | zero => exact .pure _
    | succ rounds ih =>
      refine (reads_next? i).lengthens fun v? => ?_
      cases v? with
      | none => exact .pure _
      | some v => exact (hbody v).bind fun _ => ih

theorem lengthens_writeAttributes (v : Value) : Lengthens id (writeAttributes id v) := by
  rw [writeAttributes.eq_def]
  split
  · exact lengthens_forItems lengthens_writePair _
  · split
    · exact lengthens_forEach lengthens_writePair _
    · exact .throw rfl

/-! ## One call -/

theorem acts_leaveElement {f : Document → Except Violation Document}
    (hdone : ∀ d d', f d = .ok d' → done d d') (hrefl : ∀ e d, failed e d d) :
    Acts id (leaveElement id f) done failed := by
  refine (reads_document id).acts (fun d _ => ?_) fun e d _ => hrefl e d
  have hchange : Acts id (changeDocument id f) done failed :=
    acts_changeDocument hdone fun d v _ => hrefl (.violation v) d
  dsimp only
  split
  · constructor
    · rintro s d u s' hd ⟨⟩
    · rintro s d e s' hd ⟨⟩
      exact ⟨d, hd, hrefl _ d⟩
  · exact hchange

/-- A rendering that reads is a call that changes nothing. -/
theorem Reads.acts_call {E : Fault → Prop} {p : Render α} {Q : α → Prop} {m : DocumentMethod}
    (hp : Reads E p Q) (hm : m.leaves = m.enters) (hline : m.endsLine = false) :
    Acts id p (Document.Called m) (Document.Refused m) where
  of_ok s d a s' hd hrun := by
    obtain ⟨-, hdocuments⟩ := hp.of_ok s a s' hrun
    refine ⟨d, hdocuments ▸ hd, .refl d, by rw [hm], fun h => ?_⟩
    rw [hline] at h
    cases h
  of_error s d e s' hd hrun := by
    obtain ⟨-, hdocuments⟩ := hp.of_error s e s' hrun
    exact ⟨d, hdocuments ▸ hd, .refl m e d⟩

/-- A call may fail before it comes to write. -/
theorem Reads.before_call {E : Fault → Prop} {p : Render α} {Q : α → Prop} {m : DocumentMethod}
    {f : α → Render β} (hp : Reads E p Q)
    (hf : ∀ a, Acts id (f a) (Document.Called m) (Document.Refused m)) :
    Acts id (p >>= f) (Document.Called m) (Document.Refused m) :=
  hp.acts (fun a _ => hf a) fun e d _ => .refl m e d

/-- Writing attributes is a call that ends no line and is no violation. -/
theorem Lengthens.acts_call {p : Render α} {m : DocumentMethod} (hp : Lengthens id p)
    (hm : m.leaves = m.enters) (hline : m.endsLine = false) :
    Acts id p (Document.Called m) (Document.Refused m) := by
  refine hp.mono ?_ ?_
  · intro d d' hd
    refine ⟨hd.grows, by rw [hd.depth_eq, hm], fun h => ?_⟩
    rw [hline] at h
    cases h
  · rintro e d d' ⟨he, hd⟩
    refine ⟨hd, ?_⟩
    rintro (h | h)
    · rw [he] at h
      cases h
    · rw [hline] at h
      cases h

/-- Every call makes of the document what is said of its method. -/
theorem acts_callDocument (m : DocumentMethod) (args : List Value) :
    Acts id (callDocument m id args) (Document.Called m) (Document.Refused m) := by
  rw [callDocument.eq_def]
  split
  -- a tag is begun
  next n =>
    refine (reads_nameOf n).before_call fun name => ?_
    refine Acts.answer (acts_write fun d => ⟨d.grows_openTag name, rfl, ?_⟩) _
    rintro ⟨⟩
  -- attributes are written
  next n v =>
    refine (reads_nameOf n).before_call fun name => ?_
    exact ((lengthens_writeAttribute name v).acts_call rfl rfl).answer _
  next v => exact ((lengthens_writeAttributes v).acts_call rfl rfl).answer _
  -- a tag is finished, before a content and without one
  next =>
    refine Acts.answer (acts_write fun d => ⟨d.grows_enterContent, ?_, fun _ => ?_⟩) _
    · exact congrArg Document.Shape.depth d.shape_enterContent
    · exact d.settled_enterContent
  next =>
    refine Acts.answer (acts_write fun d => ⟨d.grows_endEmptyTag, ?_, fun _ => ?_⟩) _
    · exact Document.depth_eq_of_shape d.shape_endEmptyTag
    · exact d.settled_endEmptyTag
  -- an element is ended
  next n =>
    refine (reads_nameOf n).before_call fun name => ?_
    refine (reads_display n).before_call fun shown => ?_
    refine Acts.answer (acts_leaveElement (fun d d' hclose => ?_) (Document.Refused.refl _)) _
    obtain ⟨hdepth, hshape, -⟩ := Document.text_closeTag hclose
    have hless : d'.depth = d.depth - 1 := congrArg Document.Shape.depth hshape
    refine ⟨Document.grows_closeTag hclose, ?_, fun _ => Document.settled_closeTag hclose⟩
    show d'.depth + 1 = d.depth
    omega
  -- a text is written
  next v =>
    refine (reads_display v).before_call fun value => ?_
    refine Acts.answer (acts_write fun d => ⟨d.grows_addText value, ?_, fun _ => ?_⟩) _
    · exact Document.depth_eq_of_shape (d.shape_addText value)
    · exact d.settled_addText value
  -- the text is read
  next =>
    exact (reads_readDocument id).before_call fun text => (reads_newText text).acts_call rfl rfl
  next =>
    exact (reads_readComplete id).before_call fun text => (reads_newText text).acts_call rfl rfl
  next => exact .throw (Document.Refused.refl m _)

/-! ## Any calls -/

/-- The method of the last one of the calls by which the document was changed, if it was. -/
def lastWriter (id : Nat) : List MethodCall → RenderState → Option DocumentMethod
  | [], _ => none
  | c :: rest, s =>
    let s' := stateAfter (callDocument c.method id c.args) s
    (lastWriter id rest s').or
      (if s'.store.documents[id]? = s.store.documents[id]? then none else some c.method)

/-- What has become of a document by calls of which the last one that changed it is a call of the
given method, if there is one. -/
structure Lasts (writer? : Option DocumentMethod) (outcomes : List Outcome) (d d' : Document) :
    Prop where
  grows : d.Grows d'
  depth_eq : d'.depth + succeeded .endElement outcomes = d.depth + succeeded .enterContent outcomes
  unchanged : writer? = none → d' = d
  settled : ∀ m ∈ writer?, m.endsLine = true → d'.Settled

/-- One more call before the others, whatever has become of it. -/
theorem Lasts.cons {writer? : Option DocumentMethod} {o : Outcome} {outcomes : List Outcome}
    {d d₁ d' : Document} (h : Lasts writer? outcomes d₁ d') (hgrows : d.Grows d₁)
    (hdepth : d₁.depth + succeeded .endElement [o] = d.depth + succeeded .enterContent [o])
    (hsettled : d₁ ≠ d → o.method.endsLine = true → d₁.Settled) :
    Lasts (writer?.or (if some d₁ = some d then none else some o.method)) (o :: outcomes) d d' := by
  have hcons : ∀ m, succeeded m (o :: outcomes) = succeeded m [o] + succeeded m outcomes :=
    fun m => @List.countP_append _ _ [o] outcomes
  have hdepth' := h.depth_eq
  refine ⟨hgrows.trans h.grows, ?_, ?_, ?_⟩
  · rw [hcons, hcons]
    omega
  · intro hnone
    obtain ⟨hwriter, hsame⟩ := Option.or_eq_none_iff.1 hnone
    by_cases heq : some d₁ = some d
    · rw [h.unchanged hwriter, Option.some.inj heq]
    · rw [if_neg heq] at hsame
      cases hsame
  · intro m hm hline
    cases hwriter : writer? with
    | some n =>
      rw [hwriter, Option.some_or] at hm
      exact h.settled m (hwriter ▸ hm) hline
    | none =>
      -- the others have changed nothing, so that it is this call that counts
      rw [hwriter, Option.none_or] at hm
      rw [h.unchanged hwriter]
      by_cases heq : some d₁ = some d
      · rw [if_pos heq] at hm
        cases hm
      · rw [if_neg heq] at hm
        cases hm
        exact hsettled (fun h => heq (congrArg some h)) hline

/-- Calls that follow one another. -/
theorem lasts_makeCalls (calls : List MethodCall) {s : RenderState} {d : Document}
    (hd : s.store.documents[id]? = some d) :
    ∃ d', (makeCalls (callDocument · id) calls s).2.store.documents[id]? = some d' ∧
      Lasts (lastWriter id calls s) (makeCalls (callDocument · id) calls s).1 d d' := by
  induction calls generalizing s d with
  | nil => exact ⟨d, hd, .refl d, rfl, fun _ => rfl, fun _ h => nomatch h⟩
  | cons c rest ih =>
    obtain ⟨m, args⟩ := c
    have hcall : Acts id (callDocument m id args) (Document.Called m) (Document.Refused m) :=
      acts_callDocument m args
    rw [makeCalls, lastWriter, stateAfter]
    cases hrun : callDocument m id args s with
    | ok v s₁ =>
      obtain ⟨d₁, hd₁, hcalled⟩ := hcall.of_ok s d v s₁ hd hrun
      obtain ⟨d', hd', hlasts⟩ := ih hd₁
      have hdepth : d₁.depth + succeeded .endElement [⟨m, none⟩] =
          d.depth + succeeded .enterContent [⟨m, none⟩] := by
        have hcalled' := hcalled.depth_eq
        cases m <;> exact hcalled'
      dsimp only
      rw [hd, hd₁]
      exact ⟨d', hd', hlasts.cons hcalled.grows hdepth fun _ => hcalled.settled⟩
    | error e s₁ =>
      obtain ⟨d₁, hd₁, hrefused⟩ := hcall.of_error s d e s₁ hd hrun
      obtain ⟨d', hd', hlasts⟩ := ih hd₁
      have hdepth : d₁.depth + succeeded .endElement [⟨m, some e⟩] =
          d.depth + succeeded .enterContent [⟨m, some e⟩] := by
        rw [succeeded_failed, succeeded_failed]
        exact hrefused.level.depth_eq
      dsimp only
      rw [hd, hd₁]
      exact ⟨d', hd', hlasts.cons hrefused.level.grows hdepth fun hne hline =>
        absurd (hrefused.unchanged (.inr hline)) hne⟩

/-! ## A new document after any calls -/

/-- Where a line has been ended inside of an element, the element can be left. -/
theorem leaveElement_of_settled {s : RenderState} {d : Document}
    (hd : s.store.documents[id]? = some d) (hsettled : d.Settled) (hdepth : d.depth ≠ 0)
    (name : Option Text) (shown : Text) :
    ∃ e, d.closeTag name shown = .ok e ∧
      leaveElement id (·.closeTag name shown) s = .ok () (s.put id e) := by
  obtain ⟨hid, -⟩ := List.getElem?_eq_some_iff.1 hd
  obtain ⟨d', houtdent⟩ := Document.outdent_of_settled hsettled hdepth
  obtain ⟨e, hclose⟩ : ∃ e, d.closeTag name shown = .ok e :=
    ⟨_, Document.closeTag_of_outdent hdepth houtdent⟩
  refine ⟨e, hclose, ?_⟩
  have hput := leaveElement_put hid hsettled.isSome_latest (·.closeTag name shown)
  rw [put_of_getElem? hd] at hput
  rw [hput]
  exact changeDocument_eq_ok.2 ⟨d, e, hd, hclose, rfl⟩

/-- An end tag can be written where a line has been ended inside of an element. -/
theorem callDocument_endElement {s : RenderState} {d : Document}
    (hd : s.store.documents[id]? = some d) (hsettled : d.Settled) (hdepth : 0 < d.depth)
    (mark : Mark) {name : Text} (hname : isName name = true) :
    ∃ s', callDocument .endElement id [.str mark name] s = .ok .none s' := by
  have hdisplay : display (.str mark name) s = .ok name s := rfl
  obtain ⟨e, -, hleave⟩ :=
    leaveElement_of_settled hd hsettled (Nat.ne_of_gt hdepth) (some name) name
  refine ⟨s.put id e, ?_⟩
  show (nameOf _ >>= _) s = _
  rw [nameOf_of_isName mark hname, pure_bind, bind_of_ok hdisplay, bind_of_ok hleave]
  rfl

/-- Whatever calls are made on a new document, in whatever order, with whatever arguments and
whether they fail or not: the document is as deep as elements have been entered and not left, where
entering one never fails; its text starts with the declaration; a call that is a violation of its
order leaves it as it is; and in a pretty layout, if the call that changed it last, if there was
one, ended a line, the text ends with a line break and the indentation for its depth, and an end tag
can be written. -/
theorem document_after_calls (version : Version) (standalone : Option Bool) (layout : Layout)
    {s : RenderState} (hs : s.store.documents[id]? = some (.start version standalone layout))
    (calls : List MethodCall) :
    ∃ d : Document, (makeCalls (callDocument · id) calls s).2.store.documents[id]? = some d ∧
      d.depth + succeeded .endElement (makeCalls (callDocument · id) calls s).1 =
        succeeded .enterContent (makeCalls (callDocument · id) calls s).1 ∧
      (∃ s', callDocument .enterContent id [] (makeCalls (callDocument · id) calls s).2 =
        .ok .none s') ∧
      (Document.start version standalone .terse).text <+: d.text ∧
      (∀ m args v s', callDocument m id args (makeCalls (callDocument · id) calls s).2 =
        .error (.violation v) s' → s'.store.documents[id]? = some d) ∧
      ∀ unit, layout = .pretty unit → (∀ m ∈ lastWriter id calls s, m.endsLine = true) →
        Document.lineBreak unit d.depth <:+ d.text ∧
        (0 < d.depth → ∀ mark name, isName name = true →
          ∃ s', callDocument .endElement id [.str mark name]
            (makeCalls (callDocument · id) calls s).2 = .ok .none s') := by
  obtain ⟨d, hd, hlasts⟩ := lasts_makeCalls calls hs
  refine ⟨d, hd, ?_, ?_, ?_, ?_, ?_⟩
  · have hdepth := hlasts.depth_eq
    rwa [Document.depth_start, Nat.zero_add] at hdepth
  · have hchange := changeDocument_eq_ok (f := fun d => .ok d.enterContent) (u := ()) |>.2
      ⟨d, d.enterContent, hd, rfl, rfl⟩
    exact ⟨_, bind_of_ok hchange _⟩
  · rw [← Document.lasting_start version standalone layout]
    exact hlasts.grows.lasting_isPrefix.trans d.lasting_isPrefix_text
  · intro m args v s' hrun
    obtain ⟨d', hd', hrefused⟩ := (acts_callDocument m args).of_error _ d _ s' hd hrun
    rw [hd', hrefused.unchanged (.inl rfl)]
  · rintro unit rfl hlines
    have hsettled : d.Settled := by
      cases hwriter : lastWriter id calls s with
      | none =>
        rw [hlasts.unchanged hwriter]
        exact Document.settled_newline _
      | some m => exact hlasts.settled m hwriter (hlines m hwriter)
    have hlayout : d.layout = .pretty unit := by
      rw [hlasts.grows.layout_eq, Document.layout_start]
    refine ⟨?_, fun hdepth mark name hname => callDocument_endElement hd hsettled hdepth mark hname⟩
    exact ⟨_, (Document.text_of_latest (hsettled unit hlayout)).symm⟩

/-- Calls of which the first one and the last two are refused, and the one that changes the document
last writes a text. -/
def unevenCalls : List MethodCall :=
  [⟨.endElement, [.str none ['a']]⟩, ⟨.beginTag, [.str none ['a']]⟩, ⟨.enterContent, []⟩,
   ⟨.addText, [.str none ['x']]⟩, ⟨.endElement, [.str none ['1']]⟩, ⟨.complete, []⟩]

theorem document_after_calls_uneven :
    ∃ d : Document,
      (makeCalls (callDocument · 0) unevenCalls
        (.single (.start .v1_0 none (.pretty ['\t'])) [])).2.store.documents[0]? = some d ∧
      d.depth = 1 ∧ (Document.start .v1_0 none .terse).text <+: d.text ∧
      Document.lineBreak ['\t'] 1 <:+ d.text ∧
      ∃ s', callDocument .endElement 0 [.str none ['a']]
        (makeCalls (callDocument · 0) unevenCalls
          (.single (.start .v1_0 none (.pretty ['\t'])) [])).2 = .ok .none s' := by
  have hs : (RenderState.single (.start .v1_0 none (.pretty ['\t'])) []).store.documents[0]? =
      some (.start .v1_0 none (.pretty ['\t'])) := rfl
  obtain ⟨d, hd, hdepth, -, hprolog, -, hline⟩ :=
    document_after_calls .v1_0 none (.pretty ['\t']) hs unevenCalls
  have hone : d.depth = 1 := hdepth
  have hlast : ∀ m ∈ lastWriter 0 unevenCalls
      (.single (.start .v1_0 none (.pretty ['\t'])) []), m.endsLine = true := by decide
  obtain ⟨hends, hclose⟩ := hline ['\t'] rfl hlast
  rw [hone] at hends hclose
  exact ⟨d, hd, hone, hprolog, hends, hclose Nat.one_pos none ['a'] (by decide)⟩

end Render

end XmlTemplate
