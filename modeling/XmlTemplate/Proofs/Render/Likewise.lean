import XmlTemplate.Proofs.Document.Growth
import XmlTemplate.Proofs.Render.Calls
import XmlTemplate.Proofs.Render.Overlooks

/-!
# Two documents alike

A call on a document succeeds on a terse one if it succeeds on another one of the same depth, and
does the same to both, provided that nothing which it is given refers to the document itself
(`beside_callDocument`). What it does to the two is said by `Document.Likewise`: one rule for each
thing that a method comes to, with the same name, value or pieces on both sides.
-/

set_option autoImplicit false

namespace XmlTemplate

namespace Document

/-- The document with pieces added, the first one first. -/
def pushPieces (d : Document) (ps : List (Option Text)) : Document := ps.foldl pushPiece d

theorem pushPieces_append (d : Document) (ps qs : List (Option Text)) :
    d.pushPieces (ps ++ qs) = (d.pushPieces ps).pushPieces qs :=
  List.foldl_append

theorem pushAll_eq_pushPieces (d : Document) (ss : List Text) :
    d.pushAll ss = d.pushPieces (ss.map some) := by
  induction ss generalizing d with
  | nil => rfl
  | cons s rest ih => exact ih (d.push s)

theorem shape_pushPieces (d : Document) (ps : List (Option Text)) :
    (d.pushPieces ps).shape = d.shape := by
  induction ps generalizing d with
  | nil => rfl
  | cons p rest ih => exact ih (d.pushPiece p)

theorem isText_pushPieces (d : Document) (ps : List (Option Text)) :
    (d.pushPieces ps).isText = (d.isText && ps.all Option.isSome) := by
  induction ps generalizing d with
  | nil => exact (Bool.and_true _).symm
  | cons p rest ih =>
    have hrest := ih (d.pushPiece p)
    rw [isText_pushPiece, Bool.and_assoc] at hrest
    exact hrest

/-- The second document is terse, as deep as the first one, and as readable. -/
structure Level (d e : Document) : Prop where
  layout_eq : e.layout = .terse
  depth_eq : e.depth = d.depth
  isText_eq : e.isText = d.isText

/-- Pieces that are none or end with a quotation mark, as those of attributes do. -/
def EndsQuoted (ps : List (Option Text)) : Prop := ps = [] ∨ ps.getLast? = some (some ['"'])

theorem EndsQuoted.append {ps qs : List (Option Text)} (hps : EndsQuoted ps)
    (hqs : EndsQuoted qs) : EndsQuoted (ps ++ qs) := by
  rcases hqs with rfl | hlast
  · rwa [List.append_nil]
  · exact .inr (List.getLast?_append.trans (by rw [hlast]; rfl))

/-- A call does the same to two documents: it takes the first one to the third and the second one to
the fourth. -/
inductive Likewise (c : MethodCall) : Document → Document → Document → Document → Prop
  | openTag {d e : Document} (name : Option Text) (hm : c.method = .beginTag)
      (hname : ∀ x ∈ name, ∃ mark, c.args = [.str mark x]) :
      Likewise c d e (d.openTag name) (e.openTag name)
  | attributes {d e : Document} (ps : List (Option Text))
      (hm : c.method = .addAttribute ∨ c.method = .addAttributes) (hps : EndsQuoted ps) :
      Likewise c d e (d.pushPieces ps) (e.pushPieces ps)
  | enterContent {d e : Document} (hm : c.method = .enterContent) :
      Likewise c d e d.enterContent e.enterContent
  | endEmptyTag {d e : Document} (hm : c.method = .endEmptyTag) :
      Likewise c d e d.endEmptyTag e.endEmptyTag
  | closeTag {d e d' e' : Document} (name : Option Text) (shown : Text)
      (hm : c.method = .endElement) (h : d.closeTag name shown = .ok d')
      (h' : e.closeTag name shown = .ok e') : Likewise c d e d' e'
  | addText {d e : Document} (value : Text) (hm : c.method = .addText) :
      Likewise c d e (d.addText value) (e.addText value)
  | reads {d e : Document} (hm : c.method = .asText ∨ c.method = .complete) : Likewise c d e d e

namespace Level

variable {d e : Document}

theorem openTag (h : d.Level e) (name : Option Text) : (d.openTag name).Level (e.openTag name) where
  layout_eq := h.layout_eq
  depth_eq := h.depth_eq
  isText_eq := by rw [isText_openTag, isText_openTag, h.isText_eq]

theorem pushPieces (h : d.Level e) (ps : List (Option Text)) :
    (d.pushPieces ps).Level (e.pushPieces ps) where
  layout_eq := (layout_eq_of_shape (shape_pushPieces e ps)).trans h.layout_eq
  depth_eq := by
    rw [depth_eq_of_shape (shape_pushPieces e ps), depth_eq_of_shape (shape_pushPieces d ps),
      h.depth_eq]
  isText_eq := by rw [isText_pushPieces, isText_pushPieces, h.isText_eq]

theorem enterContent (h : d.Level e) : d.enterContent.Level e.enterContent where
  layout_eq := (congrArg Shape.layout e.shape_enterContent).trans h.layout_eq
  depth_eq := by
    have hd : d.enterContent.depth = d.depth + 1 := congrArg Shape.depth d.shape_enterContent
    have he : e.enterContent.depth = e.depth + 1 := congrArg Shape.depth e.shape_enterContent
    rw [hd, he, h.depth_eq]
  isText_eq := by rw [isText_enterContent, isText_enterContent, h.isText_eq]

theorem endEmptyTag (h : d.Level e) : d.endEmptyTag.Level e.endEmptyTag where
  layout_eq := (layout_eq_of_shape e.shape_endEmptyTag).trans h.layout_eq
  depth_eq := by
    rw [depth_eq_of_shape e.shape_endEmptyTag, depth_eq_of_shape d.shape_endEmptyTag, h.depth_eq]
  isText_eq := by rw [isText_endEmptyTag, isText_endEmptyTag, h.isText_eq]

theorem addText (h : d.Level e) (value : Text) : (d.addText value).Level (e.addText value) where
  layout_eq := (layout_eq_of_shape (e.shape_addText value)).trans h.layout_eq
  depth_eq := by
    rw [depth_eq_of_shape (e.shape_addText value), depth_eq_of_shape (d.shape_addText value),
      h.depth_eq]
  isText_eq := by rw [isText_addText, isText_addText, h.isText_eq]

/-- Where an element can be left, so it can in a terse document of the same depth. -/
theorem closeTag (h : d.Level e) {name : Option Text} {shown : Text} {d' : Document}
    (hclose : d.closeTag name shown = .ok d') :
    ∃ e', e.closeTag name shown = .ok e' ∧ d'.Level e' := by
  obtain ⟨hpos, hshape, -⟩ := text_closeTag hclose
  have hdepth : e.depth ≠ 0 := by
    rw [h.depth_eq]
    omega
  obtain ⟨e', hclose'⟩ : ∃ e', e.closeTag name shown = .ok e' :=
    ⟨_, closeTag_of_outdent hdepth (outdent_of_terse h.layout_eq)⟩
  obtain ⟨-, hshape', -⟩ := text_closeTag hclose'
  refine ⟨e', hclose', ?_, ?_, ?_⟩
  · exact (congrArg Shape.layout hshape').trans h.layout_eq
  · have hd : d'.depth = d.depth - 1 := congrArg Shape.depth hshape
    have he : e'.depth = e.depth - 1 := congrArg Shape.depth hshape'
    rw [hd, he, h.depth_eq]
  · rw [isText_closeTag hclose, isText_closeTag hclose', h.isText_eq]

end Level

end Document

namespace Render

open Document

variable {α β : Type} {id : Nat} {does : Document → Document → Document → Document → Prop}

/-- A rendering that, where it succeeds on a document, also succeeds on a terse one of the same
depth in its place, in states that are the same apart from that, and does to the two what `does`
says. -/
def Beside (id : Nat) (p : Render α) (does : Document → Document → Document → Document → Prop) :
    Prop :=
  ∀ s d a s', Clear id s → s.store.documents[id]? = some d → p s = .ok a s' →
    ∃ d', s'.store.documents[id]? = some d' ∧ Clear id s' ∧
      ∀ e, d.Level e → ∃ b e', p (s.put id e) = .ok b (s'.put id e') ∧ d'.Level e' ∧ does d e d' e'

/-! ## Putting renderings together -/

namespace Beside

theorem pure (a : α) (h : ∀ d e, does d e d e) : Beside id (Pure.pure a) does := by
  intro s d b s' hs hd hrun
  cases hrun
  exact ⟨d, hd, hs, fun e he => ⟨a, e, rfl, he, h d e⟩⟩

theorem throw (e : Fault) : Beside id (MonadExcept.throw e : Render α) does := by
  intro s d a s' _ _ hrun
  cases hrun

theorem mono {p : Render α} {does' : Document → Document → Document → Document → Prop}
    (hp : Beside id p does) (h : ∀ d e d' e', does d e d' e' → does' d e d' e') :
    Beside id p does' := by
  intro s d a s' hs hd hrun
  obtain ⟨d', hd', hs', hother⟩ := hp s d a s' hs hd hrun
  refine ⟨d', hd', hs', fun e he => ?_⟩
  obtain ⟨b, e', hrun', hlevel, hdoes⟩ := hother e he
  exact ⟨b, e', hrun', hlevel, h d e d' e' hdoes⟩

/-- Where nothing is answered, what comes after goes on from the two documents. -/
theorem andThen {p : Render Unit} {q : Render β}
    {does₁ does₂ : Document → Document → Document → Document → Prop} (hp : Beside id p does₁)
    (hq : Beside id q does₂)
    (h : ∀ d e d₁ e₁ d' e', does₁ d e d₁ e₁ → does₂ d₁ e₁ d' e' → does d e d' e') :
    Beside id (p >>= fun _ => q) does := by
  intro s d b s' hs hd hrun
  obtain ⟨u, s₁, hrun₁, hrun'⟩ := bind_eq_ok.1 hrun
  obtain ⟨d₁, hd₁, hs₁, hother₁⟩ := hp s d u s₁ hs hd hrun₁
  obtain ⟨d', hd', hs', hother'⟩ := hq s₁ d₁ b s' hs₁ hd₁ hrun'
  refine ⟨d', hd', hs', fun e he => ?_⟩
  obtain ⟨u', e₁, hother₁, hlevel₁, hdoes₁⟩ := hother₁ e he
  obtain ⟨c, e', hother', hlevel', hdoes'⟩ := hother' e₁ hlevel₁
  refine ⟨c, e', ?_, hlevel', h d e d₁ e₁ d' e' hdoes₁ hdoes'⟩
  rw [bind_of_ok hother₁]
  exact hother'

/-- Another answer can always be given. -/
theorem answer {p : Render Unit} (hp : Beside id p does) (b : β) :
    Beside id (p >>= fun _ => Pure.pure b) does := by
  intro s d a s' hs hd hrun
  obtain ⟨u, s₁, hrun₁, hpure⟩ := bind_eq_ok.1 hrun
  cases hpure
  obtain ⟨d', hd', hs', hother⟩ := hp s d u s' hs hd hrun₁
  refine ⟨d', hd', hs', fun e he => ?_⟩
  obtain ⟨u', e', hrun', hlevel, hdoes⟩ := hother e he
  exact ⟨b, e', bind_of_ok hrun' _, hlevel, hdoes⟩

end Beside

/-- What overlooks the document leaves it to what comes after. -/
theorem Overlooks.beside {p : Render α} {Q : α → Prop} {f : α → Render β} (hp : Overlooks id p Q)
    (hf : ∀ a, Q a → Beside id (f a) does) : Beside id (p >>= f) does := by
  intro s d b s' hs hd hrun
  obtain ⟨a, s₁, hrun₁, hrun'⟩ := bind_eq_ok.1 hrun
  obtain ⟨ha, hs₁, hdocuments, hother₁⟩ := hp s a s₁ hs hrun₁
  have hd₁ : s₁.store.documents[id]? = some d := hdocuments ▸ hd
  obtain ⟨d', hd', hs', hother'⟩ := hf a ha s₁ d b s' hs₁ hd₁ hrun'
  refine ⟨d', hd', hs', fun e he => ?_⟩
  obtain ⟨c, e', hrunOther, hlevel, hdoes⟩ := hother' e he
  refine ⟨c, e', ?_, hlevel, hdoes⟩
  rw [bind_of_ok (hother₁ e)]
  exact hrunOther

/-- The document is changed by an operation that succeeds on a terse one where it does on another.
-/
theorem beside_changeDocument {f : Document → Except Violation Document}
    (h : ∀ d e d', d.Level e → f d = .ok d' → ∃ e', f e = .ok e' ∧ d'.Level e' ∧ does d e d' e') :
    Beside id (changeDocument id f) does := by
  intro s d u s' hs hd hrun
  obtain ⟨d₀, d', hd₀, hf, rfl⟩ := changeDocument_eq_ok.1 hrun
  rw [hd] at hd₀
  cases hd₀
  obtain ⟨hid, -⟩ := List.getElem?_eq_some_iff.1 hd
  refine ⟨d', getElem?_put hid d', hs, fun e he => ?_⟩
  obtain ⟨e', hf', hlevel, hdoes⟩ := h d e d' he hf
  refine ⟨(), e', ?_, hlevel, hdoes⟩
  rw [changeDocument_put_of_ok hid hf', put_put]

theorem beside_write {f : Document → Document}
    (h : ∀ d e, d.Level e → (f d).Level (f e) ∧ does d e (f d) (f e)) :
    Beside id (changeDocument id fun d => .ok (f d)) does := by
  refine beside_changeDocument fun d e d' he hf => ?_
  cases hf
  exact ⟨f e, rfl, h d e he⟩

/-! ## Attributes -/

/-- Two documents are given the same pieces. -/
def GivesPieces (ends : List (Option Text) → Prop) (d e d' e' : Document) : Prop :=
  ∃ ps, ends ps ∧ d' = d.pushPieces ps ∧ e' = e.pushPieces ps

theorem GivesPieces.trans {ends ends' ends'' : List (Option Text) → Prop}
    {d e d₁ e₁ d' e' : Document} (h : GivesPieces ends d e d₁ e₁)
    (h' : GivesPieces ends' d₁ e₁ d' e') (hends : ∀ ps qs, ends ps → ends' qs → ends'' (ps ++ qs)) :
    GivesPieces ends'' d e d' e' := by
  obtain ⟨ps, hps, rfl, rfl⟩ := h
  obtain ⟨qs, hqs, rfl, rfl⟩ := h'
  exact ⟨ps ++ qs, hends ps qs hps hqs, (pushPieces_append d ps qs).symm,
    (pushPieces_append e ps qs).symm⟩

/-- A rendering that writes attributes. -/
def WritesPieces (id : Nat) (p : Render Unit) : Prop := Beside id p (GivesPieces EndsQuoted)

namespace WritesPieces

theorem nothing : WritesPieces id (Pure.pure ()) := .pure () fun _ _ => ⟨[], .inl rfl, rfl, rfl⟩

theorem andThen {p q : Render Unit} (hp : WritesPieces id p) (hq : WritesPieces id q) :
    WritesPieces id (p >>= fun _ => q) :=
  Beside.andThen hp hq fun _ _ _ _ _ _ h h' => h.trans h' fun _ _ => EndsQuoted.append

end WritesPieces

theorem writesPieces_writeAttribute (name : Option Text) {v : Value} (hv : v.Within (· ≠ id)) :
    WritesPieces id (writeAttribute id name v) := by
  have hbegin : Beside id (changeDocument id fun d => .ok (d.beginAttribute name))
      (GivesPieces fun _ => True) := by
    refine beside_write fun d e he => ?_
    have hps := he.pushPieces [some [' '], name, some ['=', '"']]
    exact ⟨hps, [some [' '], name, some ['=', '"']], trivial, rfl, rfl⟩
  have hvalue : Beside id (display v >>= fun value => changeDocument id fun d =>
      .ok (d.endAttribute value)) (GivesPieces fun ps => ps.getLast? = some (some ['"'])) := by
    refine (overlooks_display hv).beside fun value _ => beside_write fun d e he => ?_
    have hend (d : Document) : d.endAttribute value =
        d.pushPieces (((pieces .value value).map Piece.text).map some ++ [some ['"']]) := by
      rw [endAttribute, pushAll_eq_pushPieces, pushPieces_append]
      rfl
    rw [hend, hend]
    exact ⟨he.pushPieces _, _, List.getLast?_concat, rfl, rfl⟩
  refine Beside.andThen hbegin hvalue fun _ _ _ _ _ _ h h' => h.trans h' fun ps qs _ hqs => ?_
  exact .inr (List.getLast?_append.trans (by rw [hqs]; rfl))

theorem writesPieces_writePair {pair : Value} (hpair : pair.Within (· ≠ id)) :
    WritesPieces id (writePair id pair) := by
  refine (overlooks_unpackPair hpair).beside fun ⟨n, v⟩ ⟨hn, hv⟩ => ?_
  refine (overlooks_display hn).beside fun name _ => ?_
  refine (writesPieces_writeAttribute (some name) hv).andThen ?_
  split
  · exact .throw _
  · exact .nothing

section Items

variable {body : Value → Render Unit}
  (hbody : ∀ v : Value, v.Within (· ≠ id) → WritesPieces id (body v))
include hbody

theorem writesPieces_forItems {vs : List Value} (hvs : ∀ v ∈ vs, v.Within (· ≠ id)) :
    WritesPieces id (forItems body vs) := by
  induction vs with
  | nil => exact .nothing
  | cons v rest ih =>
    obtain ⟨hv, hrest⟩ := List.forall_mem_cons.1 hvs
    exact (hbody v hv).andThen (ih hrest)

theorem writesPieces_forEach {source : Iteration} (hsource : source.Within (· ≠ id)) :
    WritesPieces id (forEach source body) := by
  cases source with
  | items vs => exact writesPieces_forItems hbody hsource
  | range first step count =>
    show WritesPieces id (forRange body first step count)
    induction count generalizing first with
    | zero => exact .nothing
    | succ count ih => exact (hbody (.int first) trivial).andThen (ih (first + step) trivial)
  | shared i =>
    refine (overlooks_left i).beside fun rounds _ => ?_
    show WritesPieces id (drain i body rounds)
    induction rounds with
    | zero => exact .nothing
    | succ rounds ih =>
      refine (overlooks_next? i).beside fun v? hv => ?_
      cases v? with
      | none => exact WritesPieces.nothing
      | some v => exact WritesPieces.andThen (hbody v (hv v rfl)) ih

end Items

theorem writesPieces_writeAttributes {v : Value} (hv : v.Within (· ≠ id)) :
    WritesPieces id (writeAttributes id v) := by
  have hbody : ∀ w : Value, w.Within (· ≠ id) → WritesPieces id (writePair id w) :=
    fun _ hw => writesPieces_writePair hw
  rw [writeAttributes.eq_def]
  split
  · exact writesPieces_forItems hbody (within_pairs hv)
  · split
    next source hsource => exact writesPieces_forEach hbody (hv.iteration? hsource)
    next => exact .throw _

/-! ## One call -/

/-- Leaving an element of a terse document asks for less than leaving one of another. -/
theorem beside_leaveElement (c : MethodCall) (hm : c.method = .endElement) (name : Option Text)
    (shown : Text) : Beside id (leaveElement id (·.closeTag name shown)) (Likewise c) := by
  have hchange : Beside id (changeDocument id (·.closeTag name shown)) (Likewise c) := by
    refine beside_changeDocument fun d e d' he hclose => ?_
    obtain ⟨e', hclose', hlevel⟩ := he.closeTag hclose
    exact ⟨e', hclose', hlevel, .closeTag name shown hm hclose hclose'⟩
  intro s d u s' hs hd hrun
  obtain ⟨hid, -⟩ := List.getElem?_eq_some_iff.1 hd
  have hrun' : changeDocument id (·.closeTag name shown) s = .ok u s' := by
    rw [leaveElement, bind_of_ok (document_of_getElem? hd)] at hrun
    dsimp only at hrun
    split at hrun
    · cases hrun
    · exact hrun
  obtain ⟨d', hd', hs', hother⟩ := hchange s d u s' hs hd hrun'
  refine ⟨d', hd', hs', fun e he => ?_⟩
  rw [leaveElement_put hid (.inl he.layout_eq)]
  exact hother e he

/-- Reading the text of a document changes nothing, and what is read is only the answer. -/
theorem beside_read {p : Render Text} (c : MethodCall)
    (hm : c.method = .asText ∨ c.method = .complete)
    (hp : ∀ s d t s', s.store.documents[id]? = some d → p s = .ok t s' →
      s' = s ∧ ∀ e, d.Level e → p (s.put id e) = .ok e.text (s.put id e)) :
    Beside id (p >>= newText) (Likewise c) := by
  intro s d v s' hs hd hrun
  obtain ⟨t, s₁, hrun₁, hnew⟩ := bind_eq_ok.1 hrun
  obtain ⟨rfl, hother⟩ := hp s d t s₁ hd hrun₁
  cases hnew
  refine ⟨d, hd, hs, fun e he => ?_⟩
  refine ⟨.madeText s₁.store.next e.text, e, ?_, he, .reads hm⟩
  rw [bind_of_ok (hother e he)]
  rfl

/-- A call that is given nothing which refers to the document succeeds on a terse one where it
succeeds on another, and does the same to both. -/
theorem beside_callDocument (c : MethodCall) (hargs : ∀ v ∈ c.args, v.Within (· ≠ id)) :
    Beside id (callDocument c.method id c.args) (Likewise c) := by
  obtain ⟨m, args⟩ := c
  dsimp only at hargs ⊢
  rw [callDocument.eq_def]
  split
  -- a tag is begun
  next n =>
    refine (overlooks_nameOf n).beside fun name hname => ?_
    refine Beside.answer (beside_write fun d e he => ⟨he.openTag name, ?_⟩) _
    refine .openTag name rfl fun x hx => ?_
    obtain ⟨mark, rfl⟩ := hname x hx
    exact ⟨mark, rfl⟩
  -- attributes are written
  next n v =>
    refine (overlooks_nameOf n).beside fun name _ => Beside.answer ?_ _
    have hv : v.Within (· ≠ id) := hargs v (List.mem_cons_of_mem n List.mem_cons_self)
    refine (writesPieces_writeAttribute name hv).mono ?_
    rintro d e d' e' ⟨ps, hps, rfl, rfl⟩
    exact .attributes ps (.inl rfl) hps
  next v =>
    refine Beside.answer ?_ _
    refine (writesPieces_writeAttributes (hargs v List.mem_cons_self)).mono ?_
    rintro d e d' e' ⟨ps, hps, rfl, rfl⟩
    exact .attributes ps (.inr rfl) hps
  -- a tag is finished, before a content and without one
  next => exact Beside.answer (beside_write fun d e he => ⟨he.enterContent, .enterContent rfl⟩) _
  next => exact Beside.answer (beside_write fun d e he => ⟨he.endEmptyTag, .endEmptyTag rfl⟩) _
  -- an element is ended
  next n =>
    refine (overlooks_nameOf n).beside fun name _ => ?_
    refine (overlooks_display (hargs n List.mem_cons_self)).beside fun shown _ => ?_
    exact Beside.answer (beside_leaveElement _ rfl name shown) _
  -- a text is written
  next v =>
    refine (overlooks_display (hargs v List.mem_cons_self)).beside fun value _ => ?_
    exact Beside.answer (beside_write fun d e he => ⟨he.addText value, .addText value rfl⟩) _
  -- the text is read
  next =>
    refine beside_read _ (.inl rfl) fun s d t s' hd hrun => ?_
    obtain ⟨d₀, hd₀, hisText, -, rfl⟩ := readDocument_eq_ok hrun
    obtain ⟨hid, -⟩ := List.getElem?_eq_some_iff.1 hd
    rw [hd] at hd₀
    cases hd₀
    refine ⟨rfl, fun e he => ?_⟩
    rw [readDocument_of_getElem? (getElem?_put hid e), he.isText_eq, if_pos hisText]
  next =>
    refine beside_read _ (.inr rfl) fun s d t s' hd hrun => ?_
    obtain ⟨d₀, hd₀, hdepth, hisText, -, rfl⟩ := readComplete_eq_ok hrun
    obtain ⟨hid, -⟩ := List.getElem?_eq_some_iff.1 hd
    rw [hd] at hd₀
    cases hd₀
    refine ⟨rfl, fun e he => ?_⟩
    rw [readComplete_of_depth (getElem?_put hid e) (he.depth_eq.trans hdepth), he.isText_eq,
      if_pos hisText]
  next => exact .throw _

end Render

end XmlTemplate
