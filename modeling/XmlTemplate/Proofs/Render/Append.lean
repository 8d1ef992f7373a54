import XmlTemplate.Proofs.Render.Literal

/-!
# Rendering appends

Writing an element adds its print to a document and does nothing else to it
(`write_appends_print`): neither what has been written, nor the declaration, the directive and the
settings that come with a template play a part.

That the expressions of an element can be evaluated is not enough for this. A value that has been
found may still have no text, the text of a document depends on what has been written, and elements
can be too deep inside of one another (`evaluated_not_appended`).
-/

set_option autoImplicit false

namespace XmlTemplate

namespace Render

variable {expand : Expander} {id : Nat} {σ : Document.Shape} {s s' : RenderState}

/-- What the writing of an element that fits, or does not, amounts to. -/
theorem Writes.outcome {fits : Bool} {p : Render Unit} {w : Text}
    (h : Writes id σ fits p s w s') {d : Document} (hd : d.shape = σ) :
    if fits = true then
      ∃ d' : Document, p (s.put id d) = .ok () (s'.put id d') ∧ d'.shape = σ ∧
        d'.text = d.text ++ w
    else ∃ t, p (s.put id d) = .error .tooDeep t := by
  cases fits with
  | true =>
    obtain ⟨d', hrun, hd', ht, -⟩ := h.run rfl d hd
    exact ⟨d', hrun, hd', ht⟩
  | false => exact h.refused rfl d hd

/-- A template is written into the document of the given number, either because that is given or
because the expression for its destination evaluates to it. -/
inductive WritesInto (expand : Expander) (id : Nat) (σ : Document.Shape) (t : Template) :
    Option Nat → RenderState → RenderState → Prop
  | given {s : RenderState} : WritesInto expand id σ t (some id) s s
  | destination {e : Embedded} {s s' : RenderState} (into : t.destination = some e)
      (eval : Yields id σ (takingRoom targetRoom (evalEmbedded expand e)) s (.document id) s') :
      WritesInto expand id σ t none s s'

/-- The root of a template is written into the document, whatever the rest of the template and the
settings are. -/
theorem writeTemplate_eq {t : Template} {given : Option Nat}
    (h : WritesInto expand id σ t given s s') (settings : Settings) {d : Document}
    (hd : d.shape = σ) : writeTemplate expand settings t given (s.put id d) =
      (takingRoom rootRoom (writeElement expand id t.root) >>= fun _ => pure id) (s'.put id d) := by
  cases h with
  | given => rfl
  | destination into eval =>
    have htarget : target expand settings t (s.put id d) = .ok id (s'.put id d) := by
      rw [target, into]
      simp only [bind_of_ok (eval.run d hd)]
      rfl
    rw [writeTemplate, bind_of_ok htarget]

/-- Writing an element whose expressions evaluate adds its print to the document, in the layout and
at the depth of the document, if it fits into the room; if it does not, that is what it fails for.
The same goes for a template with the element as its root that is written into the document. -/
theorem write_appends_print (expand : Expander) {id : Nat} {σ : Document.Shape} {e : Element}
    {m : Markup} {s s' : RenderState} (hid : id < s.store.documents.length)
    (h : Evaluates expand id σ e s m s') :
    (∀ d : Document, d.shape = σ →
      if e.fits s.room = true then
        ∃ d' : Document, writeElement expand id e (s.put id d) = .ok () (s'.put id d') ∧
          d'.shape = σ ∧ d'.text = d.text ++ m.print σ.layout σ.depth
      else ∃ t, writeElement expand id e (s.put id d) = .error .tooDeep t) ∧
    ∀ (t : Template) (given : Option Nat) (settings : Settings) (s₀ s₁ : RenderState),
      t.root = e → WritesInto expand id σ t given s₀ s₁ →
      s = { s₁ with room := s₁.room - rootRoom } →
      ∀ d : Document, d.shape = σ →
        if e.fits s.room = true then
          ∃ d' : Document, writeTemplate expand settings t given (s₀.put id d) =
              .ok id (RenderState.put { s' with room := s₁.room } id d') ∧
            d'.shape = σ ∧ d'.text = d.text ++ m.print σ.layout σ.depth
        else ∃ t', writeTemplate expand settings t given (s₀.put id d) = .error .tooDeep t' := by
  have hw := writes_element e h hid
  refine ⟨fun d hd => hw.outcome hd, ?_⟩
  intro t given settings s₀ s₁ hroot hinto hs d hd
  subst hs
  -- the root is written in the room that the template leaves to it
  rw [writeTemplate_eq hinto settings hd, hroot]
  have houtcome := hw.takingRoom.outcome hd
  split at houtcome
  next hfits =>
    obtain ⟨d', hrun, hd', ht⟩ := houtcome
    rw [if_pos hfits]
    exact ⟨d', bind_of_ok hrun _, hd', ht⟩
  next hfits =>
    obtain ⟨t', ht'⟩ := houtcome
    rw [if_neg hfits]
    exact ⟨t', bind_of_error ht' _⟩

/-! ## An element with all kinds of expressions -/

/-- An expression that is a name. -/
def nameExpression (x : Text) : Embedded := ⟨x, .name x, none⟩

/-- An element with an expression in an attribute, a fill, and an expression and an element in its
content. -/
def mixedElement : Element :=
  .node ['a'] [.named ['k'] (.expression (nameExpression ['n'])), .fill (nameExpression ['m'])]
    [.expression (nameExpression ['n']), .element (.empty ['b'] [])]

/-- What the names in the element stand for. -/
def mixedScope : Scope :=
  [(['n'], .int 7), (['m'], .dict 0 [(.str none ['l'], .str none ['<'])])]

/-- What the element evaluates to. -/
def mixedMarkup : Markup :=
  .node ['a'] [(['k'], ['7']), (['l'], ['<'])] [.text ['7'], .markup (.empty ['b'] [])]

theorem evaluates_mixedElement (expand : Expander) {d : Document} :
    Evaluates expand 0 σ mixedElement (.single d mixedScope) mixedMarkup
      (.single d mixedScope) := by
  have hid : 0 < (RenderState.single d mixedScope).store.documents.length := Nat.one_pos
  -- the bound on numbers is too large to be computed here
  have hten : 10 ≤ Value.unwritableSize := by
    unfold Value.unwritableSize
    apply Nat.le_self_pow
    decide
  have hshort : (7 : Int).natAbs < Value.unwritableSize := Nat.lt_of_lt_of_le (by decide) hten
  have hn : Yields 0 σ (takingRoom attributeRoom (evalEmbedded expand (nameExpression ['n'])))
      (.single d mixedScope) (.int 7) (.single d mixedScope) := ⟨fun _ _ => rfl, rfl, hid⟩
  have hseven : Yields 0 σ (display (.int 7)) (.single d mixedScope) ['7']
      (.single d mixedScope) :=
    ⟨fun _ _ => display_shortNumber hshort (Nat.succ_ne_zero 991), rfl, hid⟩
  -- the fill, which gives one attribute
  have hm : Yields 0 σ (takingRoom attributeRoom (evalEmbedded expand (nameExpression ['m'])))
      (.single d mixedScope) (.dict 0 [(.str none ['l'], .str none ['<'])])
      (.single d mixedScope) := ⟨fun _ _ => rfl, rfl, hid⟩
  have hpair : YieldsAttribute 0 σ (.tuple none [.str none ['l'], .str none ['<']])
      (.single d mixedScope) (['l'], ['<']) (.single d mixedScope) :=
    ⟨by decide, _, _, _, _, ⟨fun _ _ => rfl, rfl, hid⟩, ⟨fun _ _ => rfl, rfl, hid⟩,
      ⟨fun _ _ => rfl, rfl, hid⟩⟩
  have hfill : FillYields 0 σ (.dict 0 [(.str none ['l'], .str none ['<'])])
      (.single d mixedScope) [(['l'], ['<'])] (.single d mixedScope) := .cons hpair .nil
  -- the content, one level further in
  have hchild : Yields 0 σ.inner (takingRoom childRoom (evalEmbedded expand (nameExpression ['n'])))
      (.single d mixedScope) (.int 7) (.single d mixedScope) := ⟨fun _ _ => rfl, rfl, hid⟩
  have htext : Yields 0 σ.inner (takingRoom textRoom (display (.int 7))) (.single d mixedScope)
      ['7'] (.single d mixedScope) :=
    ⟨fun _ _ => takingRoom_of_ok (display_shortNumber hshort (Nat.succ_ne_zero 989)), rfl, hid⟩
  have helement : EvaluatesChild expand 0 σ.inner (.element (.empty ['b'] []))
      (.single d mixedScope) (.markup (.empty ['b'] [])) (.single d mixedScope) :=
    evaluates_toChild (.markup (.empty ['b'] [])) (by decide)
  exact .node (by decide) (.expression (by decide) hn hseven (.fill hm hfill .nil))
    (.cons (.expression hchild htext) (.cons helement .nil))

theorem write_appends_print_mixed :
    ∃ d' : Document,
      writeElement Render.expand 0 mixedElement (.single (prettyDocument ['\t']) mixedScope) =
        .ok () (.single d' mixedScope) ∧
      d'.text = (prettyDocument ['\t']).text ++
        "<a k=\"7\" l=\"&lt;\">\n\t7\n\t<b />\n</a>\n".toList := by
  have hid : 0 < (RenderState.single (prettyDocument ['\t']) mixedScope).store.documents.length :=
    Nat.one_pos
  have h := (write_appends_print Render.expand hid (evaluates_mixedElement Render.expand)).1
    (prettyDocument ['\t']) rfl
  rw [if_pos (by decide)] at h
  obtain ⟨d', hrun, -, ht⟩ := h
  exact ⟨d', hrun, ht.trans (by decide)⟩

/-! ## Where evaluating is not enough -/

/-- The square of a number. -/
def squareExpression : Embedded := ⟨"n * n".toList, .arith .mul (.name ['n']) (.name ['n']), none⟩

/-- An element with nothing but an expression in it. -/
def expressionElement (e : Embedded) : Element := .node ['a'] [] [.expression e]

/-- Elements inside of one another. -/
def nestedMarkup : Nat → Markup
  | 0 => .empty ['a'] []
  | n + 1 => .node ['a'] [] [.markup (nestedMarkup n)]

theorem isNamed_nestedMarkup (n : Nat) : (nestedMarkup n).isNamed = true := by
  induction n with
  | zero => decide
  | succ n ih =>
    rw [nestedMarkup, Markup.isNamed, Content.areNamed, Content.isNamed, ih]
    decide

theorem fits_nestedMarkup (n room : Nat) (h : room < 2 * n + 7) :
    (nestedMarkup n).toElement.fits room = false := by
  induction n generalizing room with
  | zero =>
    rw [nestedMarkup, Markup.toElement, Element.fits]
    exact decide_eq_false (Nat.not_le.2 h)
  | succ n ih =>
    have hinner : (nestedMarkup n).toElement.fits (room - elementRoom) = false := by
      apply ih
      rw [elementRoom]
      omega
    rw [nestedMarkup, Markup.toElement, Content.toChildren, Content.toChild, Element.fits,
      Child.fitAll, Child.fits, hinner, Bool.false_and, Bool.and_false]

theorem eval_squareExpression (expand : Expander) (store : Store) (k : Int) (room : Nat) :
    evalEmbedded expand squareExpression ⟨store, [(['n'], .int k)], room⟩ =
      .ok (.int (k * k)) ⟨store, [(['n'], .int k)], room⟩ := rfl

/-- A square that is too long to be written keeps an element that begins with it from being
written, whatever else the element holds. -/
theorem writeElement_longSquare (expand : Expander) {k : Int} (d : Document) (rest : List Child)
    {room : Nat} (hroom : 7 ≤ room) (h : Value.unwritableSize ≤ (k * k).natAbs) :
    ∃ t, writeElement expand 0 (.node ['a'] [] (.expression squareExpression :: rest))
      ⟨⟨[d], [], .empty, 0⟩, [(['n'], .int k)], room⟩ = .error (.badValue .longNumber) t := by
  have hid : 0 < (⟨⟨[d], [], .empty, 0⟩, [(['n'], .int k)], room⟩ :
    RenderState).store.documents.length := Nat.one_pos
  have hname : isName ['a'] = true := by decide
  have hitems : EvaluatesItems expand 0 d.shape [] ⟨⟨[d], [], .empty, 0⟩, [(['n'], .int k)], room⟩
    [] ⟨⟨[d], [], .empty, 0⟩, [(['n'], .int k)], room⟩ := .nil
  obtain ⟨d₁, hrun₁, -⟩ := run_enterContent hname hitems hid hroom rfl
  have heval : takingRoom childRoom (evalEmbedded expand squareExpression)
      ⟨⟨[d₁], [], .empty, 0⟩, [(['n'], .int k)], room⟩ =
    .ok (.int (k * k)) ⟨⟨[d₁], [], .empty, 0⟩, [(['n'], .int k)], room⟩ := rfl
  have hwrite : ∃ t, takingRoom textRoom (discard (callDocument .addText 0 [.int (k * k)]))
      ⟨⟨[d₁], [], .empty, 0⟩, [(['n'], .int k)], room⟩ = .error (.badValue .longNumber) t := by
    have hleft : room - textRoom ≠ 0 := by
      rw [textRoom]
      omega
    have hcall : callDocument .addText 0 [.int (k * k)]
        ⟨⟨[d₁], [], .empty, 0⟩, [(['n'], .int k)], room - textRoom⟩ =
          .error (.badValue .longNumber) _ := bind_of_error (display_longNumber h hleft) _
    exact ⟨_, takingRoom_of_error (discard_of_error hcall)⟩
  obtain ⟨t, ht⟩ := hwrite
  -- the number is the first part of the content, so that nothing after it is written
  refine ⟨t, hrun₁.trans (bind_of_error (bind_of_error ?_ _) _)⟩
  exact (bind_of_ok heval _).trans ht

/-- A square that is too long to be written keeps the element from being written. -/
theorem writeElement_squareExpression (expand : Expander) {k : Int} (d : Document)
    (h : Value.unwritableSize ≤ (k * k).natAbs) :
    ∃ t, writeElement expand 0 (expressionElement squareExpression)
      (.single d [(['n'], .int k)]) = .error (.badValue .longNumber) t :=
  writeElement_longSquare expand d [] (by decide) h

/-- A number whose square has more digits than can be written. -/
def longFactor : Int := Nat.pow 10 2150

theorem unwritableSize_le_square : Value.unwritableSize ≤ (longFactor * longFactor).natAbs := by
  decide +kernel

/-- A name for the document. -/
def documentScope : Scope := [(['d'], .document 0)]

/-- A document into which a letter has been written. -/
def letterDocument : Document := terseDocument.addText ['x']

/-- Expressions can be evaluated, without any use of the document, and yet the element is not
written, because a number has no text, or it is not written the same for two documents of the same
shape, because one of its values is the document. An element without expressions is not written if
it is nested too deeply. -/
theorem evaluated_not_appended :
    (evalEmbedded Render.expand squareExpression
        (.single terseDocument [(['n'], .int longFactor)]) =
      .ok (.int (longFactor * longFactor)) (.single terseDocument [(['n'], .int longFactor)]) ∧
      ∃ t, writeElement Render.expand 0 (expressionElement squareExpression)
        (.single terseDocument [(['n'], .int longFactor)]) =
          .error (.badValue .longNumber) t) ∧
    (∃ e e' : Document,
      letterDocument.shape = terseDocument.shape ∧
      (∀ d, evalEmbedded Render.expand (nameExpression ['d']) (.single d documentScope) =
        .ok (.document 0) (.single d documentScope)) ∧
      writeElement Render.expand 0 (expressionElement (nameExpression ['d']))
        (.single terseDocument documentScope) = .ok () (.single e documentScope) ∧
      writeElement Render.expand 0 (expressionElement (nameExpression ['d']))
        (.single letterDocument documentScope) = .ok () (.single e' documentScope) ∧
      e.text = terseDocument.text ++
        "<a>&lt;?xml version=\"1.0\" encoding=\"UTF-8\"?&gt;&lt;a&gt;</a>".toList ∧
      e'.text = letterDocument.text ++
        "<a>&lt;?xml version=\"1.0\" encoding=\"UTF-8\"?&gt;x&lt;a&gt;</a>".toList) ∧
    ∃ t, writeElement Render.expand 0 (nestedMarkup 500).toElement (.single terseDocument []) =
      .error .tooDeep t := by
  refine ⟨⟨eval_squareExpression _ _ _ _,
    writeElement_squareExpression _ _ unwritableSize_le_square⟩, ?_, ?_⟩
  · exact ⟨_, _, rfl, fun _ => rfl, rfl, rfl, by decide, by decide⟩
  · have hfits : (nestedMarkup 500).toElement.fits maxRoom = false :=
      fits_nestedMarkup 500 maxRoom (by decide)
    have hid : 0 < (RenderState.single terseDocument []).store.documents.length := Nat.one_pos
    have hw : Writes 0 terseDocument.shape _
      (writeElement Render.expand 0 (nestedMarkup 500).toElement) (.single terseDocument []) _
        (.single terseDocument []) := writes_toElement (isNamed_nestedMarkup 500) hid
    exact hw.refused hfits terseDocument rfl

end Render

end XmlTemplate
