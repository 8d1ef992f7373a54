import XmlTemplate.Proofs.Markup.Marks
import XmlTemplate.Proofs.Render.Reads

/-!
# Calls in any order

The methods of a document can be called in any order and with any arguments, and a call that fails
leaves behind what it has written so far. Whatever becomes of the calls, the text has one `<` for
the declaration, for each tag that was begun and for each element that was ended, one `>` likewise
for each tag that was finished, and no ampersand but those of entities (`text_isMarked`). Nothing
that values or names bring with them is taken for markup.

The one way around that is a pair whose name is none: attributes from pairs are written before their
names are checked. What is asked of the calls is that they would not come to such a pair either if
names were checked first (`callChecked`). That they do not fail for such a name is not enough,
because the value of the attribute can fail between the two (`unchecked_name_written`).
-/

set_option autoImplicit false

namespace XmlTemplate

/-- How many `<` a call of the method writes if it succeeds. -/
def DocumentMethod.starts : DocumentMethod → Nat
  | .beginTag | .endElement => 1
  | _ => 0

/-- How many `>` a call of the method writes if it succeeds. -/
def DocumentMethod.ends : DocumentMethod → Nat
  | .enterContent | .endEmptyTag | .endElement => 1
  | _ => 0

/-- A call of a method of documents. -/
structure MethodCall where
  method : DocumentMethod
  args : List Value

/-- What has become of a call: the fault that it failed with, if it did. -/
structure Outcome where
  method : DocumentMethod
  fault? : Option Fault

/-- Whether a call failed for the name in a pair. -/
def Outcome.refusesName (o : Outcome) : Bool :=
  match o.fault? with
  | some (.invalidName _) => true
  | _ => false

/-- How many calls of the method have not failed. -/
def succeeded (m : DocumentMethod) (outcomes : List Outcome) : Nat :=
  outcomes.countP fun o => o.method = m && o.fault?.isNone

namespace Render

/-- Make calls one after the other, whatever becomes of them; answers their outcomes, and the state
after all of them. -/
def makeCalls (call : DocumentMethod → List Value → Render Value) :
    List MethodCall → RenderState → List Outcome × RenderState
  | [], s => ([], s)
  | c :: rest, s =>
    match call c.method c.args s with
    | .ok _ s' =>
      let (outcomes, last) := makeCalls call rest s'
      (⟨c.method, none⟩ :: outcomes, last)
    | .error fault s' =>
      let (outcomes, last) := makeCalls call rest s'
      (⟨c.method, some fault⟩ :: outcomes, last)

/-! ## Checking names first -/

/-- Write the pair as an attribute, if its name is one. -/
def writeCheckedPair (id : Nat) (pair : Value) : Render Unit := do
  let (n, v) ← unpackPair pair
  let name ← display n
  if !isName name then throw (.invalidName name)
  writeAttribute id (some name) v

/-- Write every pair of a dictionary, or every item, as an attribute with a checked name. -/
def writeCheckedAttributes (id : Nat) (v : Value) : Render Unit := do
  match v with
  | .dict _ es => forItems (writeCheckedPair id) (pairs es)
  | v =>
    match v.iteration? with
    | some source => forEach source (writeCheckedPair id)
    | none => throw .unsuitable

/-- Call a method of a document, where the names in pairs are checked before they are written. -/
def callChecked (id : Nat) (m : DocumentMethod) (args : List Value) : Render Value := do
  match m, args with
  | .addAttributes, [v] =>
    writeCheckedAttributes id v
    return .none
  | m, args => callDocument m id args

/-! ## What is left of a document by a rendering that may fail -/

/-- The document has the layout, and its text has so many marks. -/
def Holds (id : Nat) (layout : Layout) (m n : Nat) (s : RenderState) : Prop :=
  ∃ d, s.store.documents[id]? = some d ∧ d.layout = layout ∧ IsMarked m n d.text

/-- A rendering that adds so many marks to the document and answers what `Q` says, or fails and adds
none. -/
structure Marks {α : Type} (id : Nat) (layout : Layout) (starts ends : Nat) (p : Render α)
    (Q : α → Prop) : Prop where
  of_ok : ∀ s m n a s', Holds id layout m n s → p s = .ok a s' →
    Q a ∧ Holds id layout (m + starts) (n + ends) s'
  of_error : ∀ s m n e s', Holds id layout m n s → p s = .error e s' → Holds id layout m n s'

variable {α β : Type} {id : Nat} {layout : Layout} {starts ends : Nat}

namespace Marks

variable {p : Render α} {Q : α → Prop} {R : β → Prop}

theorem pure {a : α} (h : Q a) : Marks id layout 0 0 (Pure.pure a) Q where
  of_ok _ _ _ _ _ hs hrun := by
    cases hrun
    exact ⟨h, hs⟩
  of_error _ _ _ _ _ _ hrun := by cases hrun

theorem throw (e : Fault) : Marks id layout starts ends (MonadExcept.throw e : Render α) Q where
  of_ok _ _ _ _ _ _ hrun := by cases hrun
  of_error _ _ _ _ _ hs hrun := by
    cases hrun
    exact hs

/-- Where something may fail later on, no marks may have been added. -/
theorem bind {f : α → Render β} (hp : Marks id layout 0 0 p Q)
    (hf : ∀ a, Q a → Marks id layout starts ends (f a) R) :
    Marks id layout starts ends (p >>= f) R where
  of_ok s m n b s' hs hrun := by
    obtain ⟨a, s₁, hrun₁, hrun'⟩ := bind_eq_ok.1 hrun
    obtain ⟨ha, hs₁⟩ := hp.of_ok s m n a s₁ hs hrun₁
    exact (hf a ha).of_ok s₁ m n b s' hs₁ hrun'
  of_error s m n e s' hs hrun := by
    rcases bind_eq_error.1 hrun with hrun₁ | ⟨a, s₁, hrun₁, hrun'⟩
    · exact hp.of_error s m n e s' hs hrun₁
    · obtain ⟨ha, hs₁⟩ := hp.of_ok s m n a s₁ hs hrun₁
      exact (hf a ha).of_error s₁ m n e s' hs₁ hrun'

/-- Another answer can always be given. -/
theorem answer (hp : Marks id layout starts ends p Q) {b : β} (hb : R b) :
    Marks id layout starts ends (p >>= fun _ => Pure.pure b) R where
  of_ok s m n b' s' hs hrun := by
    obtain ⟨a, s₁, hrun₁, hrun'⟩ := bind_eq_ok.1 hrun
    cases hrun'
    exact ⟨hb, (hp.of_ok s m n a s' hs hrun₁).2⟩
  of_error s m n e s' hs hrun := by
    rcases bind_eq_error.1 hrun with hrun₁ | ⟨a, s₁, -, hrun'⟩
    · exact hp.of_error s m n e s' hs hrun₁
    · cases hrun'

theorem throw_bind {f : α → Render β} (e : Fault) :
    Marks id layout starts ends (MonadExcept.throw e >>= f) R where
  of_ok _ _ _ _ _ _ hrun := by cases hrun
  of_error _ _ _ _ _ hs hrun := by
    cases hrun
    exact hs

end Marks

/-- What reads adds no marks. -/
theorem Reads.marks {E : Fault → Prop} {p : Render α} {Q : α → Prop} (hp : Reads E p Q) :
    Marks id layout 0 0 p Q where
  of_ok s m n a s' hs hrun := by
    obtain ⟨d, hd, hmarked⟩ := hs
    obtain ⟨ha, hdocuments⟩ := hp.of_ok s a s' hrun
    exact ⟨ha, d, hdocuments ▸ hd, hmarked⟩
  of_error s m n e s' hs hrun := by
    obtain ⟨d, hd, hmarked⟩ := hs
    obtain ⟨-, hdocuments⟩ := hp.of_error s e s' hrun
    exact ⟨d, hdocuments ▸ hd, hmarked⟩

/-! ## What writes -/

theorem marks_changeDocument {f : Document → Except Violation Document}
    (hf : ∀ d e m n, d.layout = layout → IsMarked m n d.text → f d = .ok e →
      e.layout = layout ∧ IsMarked (m + starts) (n + ends) e.text) :
    Marks id layout starts ends (changeDocument id f) fun _ => True where
  of_ok s m n u s' hs hrun := by
    obtain ⟨d, hd, hlayout, hmarked⟩ := hs
    obtain ⟨d', e, hd', he, rfl⟩ := changeDocument_eq_ok.1 hrun
    rw [hd] at hd'
    cases hd'
    obtain ⟨hid, -⟩ := List.getElem?_eq_some_iff.1 hd
    exact ⟨trivial, e, getElem?_put hid e, hf d e m n hlayout hmarked he⟩
  of_error s m n fault s' hs hrun := by
    obtain ⟨d, hd, hmarked⟩ := hs
    obtain ⟨hid, -⟩ := List.getElem?_eq_some_iff.1 hd
    rw [← put_of_getElem? hd, changeDocument_put hid] at hrun
    cases hf : f d with
    | ok e =>
      rw [hf] at hrun
      cases hrun
    | error v =>
      rw [hf] at hrun
      cases hrun
      exact ⟨d, getElem?_put hid d, hmarked⟩

/-- Operations that leave the layout as it is. -/
theorem marks_write {f : Document → Document} (hshape : ∀ d, (f d).layout = d.layout)
    (hf : ∀ d m n, d.layout = layout → IsMarked m n d.text →
      IsMarked (m + starts) (n + ends) (f d).text) :
    Marks id layout starts ends (changeDocument id fun d => .ok (f d)) fun _ => True := by
  refine marks_changeDocument fun d e m n hlayout hmarked he => ?_
  cases he
  exact ⟨(hshape d).trans hlayout, hf d m n hlayout hmarked⟩

theorem marks_writeAttribute {name : Option Text} (hname : ∀ n ∈ name, isName n = true)
    (v : Value) : Marks id layout 0 0 (writeAttribute id name v) fun _ => True := by
  have hbegin : Marks id layout 0 0 (changeDocument id fun d => .ok (d.beginAttribute name))
      fun _ => True :=
    marks_write (fun _ => rfl) fun _ _ _ _ h => Document.isMarked_beginAttribute h hname
  refine hbegin.bind fun _ _ => (reads_display v).marks.bind fun value _ => ?_
  exact marks_write (fun d => Document.layout_eq_of_shape (Document.shape_endAttribute d value)) fun _ _ _ _ h =>
    Document.isMarked_endAttribute h value

theorem marks_forItems {body : Value → Render Unit}
    (hbody : ∀ v, Marks id layout 0 0 (body v) fun _ => True) (vs : List Value) :
    Marks id layout 0 0 (forItems body vs) fun _ => True := by
  induction vs with
  | nil => exact .pure trivial
  | cons v rest ih => exact (hbody v).bind fun _ _ => ih

theorem marks_forEach {body : Value → Render Unit}
    (hbody : ∀ v, Marks id layout 0 0 (body v) fun _ => True) (source : Iteration) :
    Marks id layout 0 0 (forEach source body) fun _ => True := by
  cases source with
  | items vs => exact marks_forItems hbody vs
  | range first step count =>
    show Marks id layout 0 0 (forRange body first step count) fun _ => True
    induction count generalizing first with
    | zero => exact .pure trivial
    | succ count ih => exact (hbody (.int first)).bind fun _ _ => ih (first + step)
  | shared i =>
    refine (reads_left i).marks.bind fun rounds _ => ?_
    induction rounds with
    | zero => exact .pure trivial
    | succ rounds ih =>
      refine (reads_next? i).marks.bind fun v? _ => ?_
      cases v? with
      | none => exact .pure trivial
      | some v => exact (hbody v).bind fun _ _ => ih

theorem marks_writeCheckedPair (pair : Value) :
    Marks id layout 0 0 (writeCheckedPair id pair) fun _ => True := by
  refine (reads_unpackPair pair).marks.bind fun ⟨n, v⟩ _ => (reads_display n).marks.bind fun name _ => ?_
  dsimp only
  split
  · exact .throw_bind _
  next hname =>
    refine marks_writeAttribute (fun n hn => ?_) v
    cases hn
    simpa using hname

theorem marks_writeCheckedAttributes (v : Value) :
    Marks id layout 0 0 (writeCheckedAttributes id v) fun _ => True := by
  rw [writeCheckedAttributes.eq_def]
  split
  · exact marks_forItems marks_writeCheckedPair _
  · split
    · exact marks_forEach marks_writeCheckedPair _
    · exact .throw _

theorem marks_leaveElement {name : Option Text} (hname : ∀ n ∈ name, isName n = true)
    (shown : Text) (hlayout : layout.isBlank = true) :
    Marks id layout 1 1 (leaveElement id (·.closeTag name shown)) fun _ => True := by
  refine (reads_document id).marks.bind fun d _ => ?_
  dsimp only
  split
  · exact .throw_bind _
  · refine marks_changeDocument fun d e m n hd hmarked he => ?_
    obtain ⟨-, hshape, -⟩ := Document.text_closeTag he
    subst hd
    exact ⟨congrArg Document.Shape.layout hshape,
      Document.isMarked_closeTag hmarked hlayout hname he⟩

/-! ## What a call adds -/

theorem marks_callDocument (hlayout : layout.isBlank = true) {m : DocumentMethod}
    {args : List Value} (hm : ∀ v, m = .addAttributes → args ≠ [v]) :
    Marks id layout m.starts m.ends (callDocument m id args) fun _ => True := by
  rw [callDocument.eq_def]
  split
  -- a tag is begun
  next n =>
    refine (reads_nameOf n).marks.bind fun name hname => ?_
    have hwrite : Marks id layout 1 0 (changeDocument id fun d => .ok (d.openTag name))
        fun _ => True :=
      marks_write (fun _ => rfl) fun _ _ _ _ h => Document.isMarked_openTag h hname
    exact hwrite.answer trivial
  -- an attribute is written
  next n v =>
    refine (reads_nameOf n).marks.bind fun name hname => ?_
    exact (marks_writeAttribute hname v).answer trivial
  next v => exact absurd rfl (hm v rfl)
  -- a tag is finished, before a content and without one
  next =>
    have hwrite : Marks id layout 0 1 (changeDocument id fun d => .ok d.enterContent)
        fun _ => True :=
      marks_write (fun d => congrArg Document.Shape.layout (Document.shape_enterContent d))
        fun d _ _ hd h => Document.isMarked_enterContent h (hd ▸ hlayout)
    exact hwrite.answer trivial
  next =>
    have hwrite : Marks id layout 0 1 (changeDocument id fun d => .ok d.endEmptyTag)
        fun _ => True :=
      marks_write (fun d => Document.layout_eq_of_shape (Document.shape_endEmptyTag d))
        fun d _ _ hd h => Document.isMarked_endEmptyTag h (hd ▸ hlayout)
    exact hwrite.answer trivial
  -- an element is ended
  next n =>
    refine (reads_nameOf n).marks.bind fun name hname => (reads_display n).marks.bind fun shown _ => ?_
    exact (marks_leaveElement hname shown hlayout).answer trivial
  -- a text is written
  next v =>
    refine (reads_display v).marks.bind fun value _ => ?_
    have hwrite : Marks id layout 0 0 (changeDocument id fun d => .ok (d.addText value))
        fun _ => True :=
      marks_write (fun d => Document.layout_eq_of_shape (Document.shape_addText d value))
        fun d _ _ hd h => Document.isMarked_addText h (hd ▸ hlayout) value
    exact hwrite.answer trivial
  -- the text is read
  next => exact (reads_readDocument id).marks.bind fun _ _ => (reads_newText _).marks
  next => exact (reads_readComplete id).marks.bind fun _ _ => (reads_newText _).marks
  next => exact .throw _

/-- Every call adds the marks of its method if it succeeds, and none if it fails. -/
theorem marks_callChecked (hlayout : layout.isBlank = true) (m : DocumentMethod)
    (args : List Value) : Marks id layout m.starts m.ends (callChecked id m args)
      fun _ => True := by
  rw [callChecked.eq_def]
  split
  next v => exact (marks_writeCheckedAttributes v).answer trivial
  next hm => exact marks_callDocument hlayout fun v hv => hm v hv

theorem succeeded_ok (m k : DocumentMethod) (outcomes : List Outcome) :
    succeeded k (⟨m, none⟩ :: outcomes) = succeeded k outcomes + if m = k then 1 else 0 := by
  simp [succeeded, List.countP_cons]

theorem succeeded_failed (m k : DocumentMethod) (fault : Fault) (outcomes : List Outcome) :
    succeeded k (⟨m, some fault⟩ :: outcomes) = succeeded k outcomes := by
  simp [succeeded]

/-- Calls that follow one another add what those of them add that succeed. -/
theorem holds_makeCalls {call : DocumentMethod → List Value → Render Value}
    (hcall : ∀ m args, Marks id layout m.starts m.ends (call m args) fun _ => True)
    (calls : List MethodCall) {s : RenderState} {m n : Nat} (hs : Holds id layout m n s) :
    Holds id layout
      (m + succeeded .beginTag (makeCalls call calls s).1 +
        succeeded .endElement (makeCalls call calls s).1)
      (n + succeeded .enterContent (makeCalls call calls s).1 +
        succeeded .endEmptyTag (makeCalls call calls s).1 +
        succeeded .endElement (makeCalls call calls s).1)
      (makeCalls call calls s).2 := by
  induction calls generalizing s m n with
  | nil => exact hs
  | cons c rest ih =>
    rw [makeCalls]
    cases hrun : call c.method c.args s with
    | ok v s' =>
      have hnext := ih ((hcall c.method c.args).of_ok s m n v s' hs hrun).2
      dsimp only
      rw [succeeded_ok, succeeded_ok, succeeded_ok, succeeded_ok]
      generalize makeCalls call rest s' = after at hnext ⊢
      have hstarts : ∀ k l, m + (k + if c.method = .beginTag then 1 else 0) +
          (l + if c.method = .endElement then 1 else 0) = m + c.method.starts + k + l := by
        intro k l
        cases c.method <;> simp [DocumentMethod.starts] <;> omega
      have hends : ∀ k l j, n + (k + if c.method = .enterContent then 1 else 0) +
          (l + if c.method = .endEmptyTag then 1 else 0) +
          (j + if c.method = .endElement then 1 else 0) = n + c.method.ends + k + l + j := by
        intro k l j
        cases c.method <;> simp [DocumentMethod.ends] <;> omega
      rw [hstarts, hends]
      exact hnext
    | error fault s' =>
      have hnext := ih ((hcall c.method c.args).of_error s m n fault s' hs hrun)
      dsimp only
      rw [succeeded_failed, succeeded_failed, succeeded_failed, succeeded_failed]
      exact hnext

/-! ## Checking names first makes no difference where all are names -/

/-- Two renderings run the same, unless the other one fails for a name. -/
def AgreesUnlessNamed {α : Type} (p q : Render α) : Prop :=
  ∀ s, p s = q s ∨ ∃ name s', q s = .error (.invalidName name) s'

namespace AgreesUnlessNamed

variable {p q : Render α}

theorem refl (p : Render α) : AgreesUnlessNamed p p := fun _ => .inl rfl

theorem bind {f g : α → Render β} (hp : AgreesUnlessNamed p q)
    (hf : ∀ a, AgreesUnlessNamed (f a) (g a)) : AgreesUnlessNamed (p >>= f) (q >>= g) := by
  intro s
  rcases hp s with hrun | ⟨name, s', hrun⟩
  · cases hq : q s with
    | ok a s₁ =>
      rw [hq] at hrun
      rw [bind_of_ok hrun, bind_of_ok hq]
      exact hf a s₁
    | error e s₁ =>
      rw [hq] at hrun
      rw [bind_of_error hrun, bind_of_error hq]
      exact .inl rfl
  · exact .inr ⟨name, s', bind_of_error hrun g⟩

end AgreesUnlessNamed

theorem writePair_agrees (id : Nat) (pair : Value) :
    AgreesUnlessNamed (writePair id pair) (writeCheckedPair id pair) := by
  refine (AgreesUnlessNamed.refl _).bind fun ⟨n, v⟩ => (AgreesUnlessNamed.refl _).bind fun name => ?_
  intro s
  cases hname : isName name with
  | true =>
    -- the check comes after the attribute, and then there is nothing left to do
    left
    exact congrFun bind_pure_unit s
  | false => exact .inr ⟨name, s, rfl⟩

theorem forItems_agrees {body body' : Value → Render Unit}
    (hbody : ∀ v, AgreesUnlessNamed (body v) (body' v)) (vs : List Value) :
    AgreesUnlessNamed (forItems body vs) (forItems body' vs) := by
  induction vs with
  | nil => exact .refl _
  | cons v rest ih => exact (hbody v).bind fun _ => ih

theorem forEach_agrees {body body' : Value → Render Unit}
    (hbody : ∀ v, AgreesUnlessNamed (body v) (body' v)) (source : Iteration) :
    AgreesUnlessNamed (forEach source body) (forEach source body') := by
  cases source with
  | items vs => exact forItems_agrees hbody vs
  | range first step count =>
    show AgreesUnlessNamed (forRange body first step count) (forRange body' first step count)
    induction count generalizing first with
    | zero => exact .refl _
    | succ count ih => exact (hbody (.int first)).bind fun _ => ih (first + step)
  | shared i =>
    refine (AgreesUnlessNamed.refl (left i)).bind fun rounds => ?_
    induction rounds with
    | zero => exact .refl _
    | succ rounds ih =>
      refine (AgreesUnlessNamed.refl (next? i)).bind fun v? => ?_
      cases v? with
      | none => exact .refl _
      | some v => exact (hbody v).bind fun _ => ih

theorem writeAttributes_agrees (id : Nat) (v : Value) :
    AgreesUnlessNamed (writeAttributes id v) (writeCheckedAttributes id v) := by
  cases v with
  | dict mark es => exact forItems_agrees (writePair_agrees id) (pairs es)
  | str | list | tuple | entries | range | iterator =>
    simp only [writeAttributes, writeCheckedAttributes, Value.iteration?]
    exact forEach_agrees (writePair_agrees id) _
  | _ => exact .refl _

theorem callDocument_agrees (id : Nat) (m : DocumentMethod) (args : List Value) :
    AgreesUnlessNamed (callDocument m id args) (callChecked id m args) := by
  rw [callChecked.eq_def]
  split
  next v => exact (writeAttributes_agrees id v).bind fun _ => .refl _
  next => exact .refl _

/-- Calls that do not come to a pair with another name go the same way if names are checked
first. -/
theorem makeCalls_agrees {calls : List MethodCall} {s : RenderState}
    (h : ∀ o ∈ (makeCalls (callChecked id) calls s).1, o.refusesName = false) :
    makeCalls (callDocument · id) calls s = makeCalls (callChecked id) calls s := by
  induction calls generalizing s with
  | nil => rfl
  | cons c rest ih =>
    rw [makeCalls] at h
    rw [makeCalls, makeCalls]
    rcases callDocument_agrees id c.method c.args s with hrun | ⟨name, s', hrun⟩
    · rw [hrun]
      cases hchecked : callChecked id c.method c.args s with
      | ok v s' =>
        rw [hchecked] at h
        dsimp only at h ⊢
        rw [ih fun o ho => h o (List.mem_cons_of_mem _ ho)]
      | error fault s' =>
        rw [hchecked] at h
        dsimp only at h ⊢
        rw [ih fun o ho => h o (List.mem_cons_of_mem _ ho)]
    · rw [hrun] at h
      cases h _ List.mem_cons_self

/-! ## The text after any calls -/

/-- Whatever calls are made on a new document with a blank layout, in whatever order and with
whatever arguments: if none of them would fail for the name in a pair were names checked first, the
angle brackets in the text are those of the declaration and of the tags, and every ampersand begins
an entity. -/
theorem text_isMarked (version : Version) (standalone : Option Bool) {layout : Layout}
    (hlayout : layout.isBlank = true) {s : RenderState} {id : Nat}
    (hs : s.store.documents[id]? = some (.start version standalone layout))
    (calls : List MethodCall)
    (hnames : ∀ o ∈ (makeCalls (callChecked id) calls s).1, o.refusesName = false) :
    ∃ d : Document, (makeCalls (callDocument · id) calls s).2.store.documents[id]? = some d ∧
      d.text.count '<' = 1 + succeeded .beginTag (makeCalls (callDocument · id) calls s).1 +
        succeeded .endElement (makeCalls (callDocument · id) calls s).1 ∧
      d.text.count '>' = 1 + succeeded .enterContent (makeCalls (callDocument · id) calls s).1 +
        succeeded .endEmptyTag (makeCalls (callDocument · id) calls s).1 +
        succeeded .endElement (makeCalls (callDocument · id) calls s).1 ∧
      ∀ before after, d.text = before ++ '&' :: after → ∃ e ∈ entities, e <+: '&' :: after := by
  have hstart : Holds id layout 1 1 s :=
    ⟨_, hs, Document.layout_start .., Document.isMarked_start version standalone hlayout⟩
  have hholds := holds_makeCalls (marks_callChecked hlayout) calls hstart
  rw [← makeCalls_agrees hnames] at hholds
  obtain ⟨d, hd, -, hmarked⟩ := hholds
  exact ⟨d, hd, hmarked.starts_eq, hmarked.ends_eq, fun _ _ => hmarked.legible.entity_at⟩

/-- Calls out of order, of which an end tag and a malformed pair fail, and texts full of marks. -/
def disorderlyCalls : List MethodCall :=
  [⟨.endElement, [.str none ['a']]⟩, ⟨.beginTag, [.str none ['a']]⟩,
   ⟨.addAttribute, [.str none ['k'], .str none "<&\">".toList]⟩,
   ⟨.addAttributes, [.list none [.tuple none [.str none ['l'], .str none ['>']], .none]]⟩,
   ⟨.enterContent, []⟩, ⟨.addText, [.str none "&amp;".toList]⟩, ⟨.endElement, [.str none ['a']]⟩,
   ⟨.endEmptyTag, []⟩]

theorem text_isMarked_disorderlyCalls :
    ∃ d : Document,
      (makeCalls (callDocument · 0) disorderlyCalls
        (.single (.start .v1_0 none (.pretty ['\t'])) [])).2.store.documents[0]? = some d ∧
      d.text.count '<' = 3 ∧ d.text.count '>' = 4 ∧
      ∀ before after, d.text = before ++ '&' :: after → ∃ e ∈ entities, e <+: '&' :: after := by
  have hs : (RenderState.single (.start .v1_0 none (.pretty ['\t'])) []).store.documents[0]? =
      some (.start .v1_0 none (.pretty ['\t'])) := rfl
  exact text_isMarked .v1_0 none (by decide) hs disorderlyCalls (by decide)

/-! ## Where names are written unchecked -/

/-- A pair of something that is no name and a number. -/
def uncheckedPair (n : Int) : Value := .tuple none [.str none ['<'], .int n]

/-- Where the number is too long to be written, it fails when the name has been written, and the
name is never looked at. -/
theorem callDocument_uncheckedPair {n : Int} (h : Value.unwritableSize ≤ n.natAbs) (d : Document) :
    callDocument .addAttributes 0 [.list none [uncheckedPair n]] (.single d []) =
      .error (.badValue .longNumber) (.single (d.beginAttribute (some ['<'])) []) := by
  have hdisplay : display (.int n) (.single (d.beginAttribute (some ['<'])) []) =
      .error (.badValue .longNumber) (.single (d.beginAttribute (some ['<'])) []) :=
    display_longNumber h (Nat.succ_ne_zero 991)
  have hbegin : changeDocument 0 (fun d => .ok (d.beginAttribute (some ['<']))) (.single d []) =
      .ok () (.single (d.beginAttribute (some ['<'])) []) := rfl
  have hattribute : writeAttribute 0 (some ['<']) (.int n) (.single d []) =
      .error (.badValue .longNumber) (.single (d.beginAttribute (some ['<'])) []) :=
    (bind_of_ok hbegin _).trans (bind_of_error hdisplay _)
  have hunpack : unpackPair (uncheckedPair n) (.single d []) =
      .ok (.str none ['<'], .int n) (.single d []) := rfl
  have hname : display (.str none ['<']) (.single d []) = .ok ['<'] (.single d []) := rfl
  have hpair : writePair 0 (uncheckedPair n) (.single d []) =
      .error (.badValue .longNumber) (.single (d.beginAttribute (some ['<'])) []) :=
    (bind_of_ok hunpack _).trans ((bind_of_ok hname _).trans (bind_of_error hattribute _))
  exact bind_of_error (bind_of_error hpair _) _

/-- A single call with such a pair. -/
def uncheckedCalls : List MethodCall :=
  [⟨.addAttributes, [.list none [uncheckedPair (Value.unwritableSize : Nat)]]⟩]

/-- No call fails for the name in a pair, and yet the text has a `<` too many. -/
theorem unchecked_name_written :
    (∀ o ∈ (makeCalls (callDocument · 0) uncheckedCalls
      (.single (.start .v1_0 none .terse) [])).1, o.refusesName = false) ∧
    ∃ d : Document, (makeCalls (callDocument · 0) uncheckedCalls
        (.single (.start .v1_0 none .terse) [])).2.store.documents[0]? = some d ∧
      d.text.count '<' ≠ 1 +
        succeeded .beginTag (makeCalls (callDocument · 0) uncheckedCalls
          (.single (.start .v1_0 none .terse) [])).1 +
        succeeded .endElement (makeCalls (callDocument · 0) uncheckedCalls
          (.single (.start .v1_0 none .terse) [])).1 := by
  have hcalls : makeCalls (callDocument · 0) uncheckedCalls
      (.single (.start .v1_0 none .terse) []) =
        ([⟨.addAttributes, some (.badValue .longNumber)⟩],
          .single ((Document.start .v1_0 none .terse).beginAttribute (some ['<'])) []) := by
    have hlong : Value.unwritableSize ≤ ((Value.unwritableSize : Nat) : Int).natAbs :=
      Nat.le_of_eq (Int.natAbs_natCast Value.unwritableSize).symm
    simp only [uncheckedCalls, makeCalls, callDocument_uncheckedPair hlong]
  rw [hcalls]
  exact ⟨by decide, _, rfl, by decide⟩

end Render

end XmlTemplate
