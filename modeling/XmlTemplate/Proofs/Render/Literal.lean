import XmlTemplate.Options
import XmlTemplate.Proofs.Markup.WhiteSpace
import XmlTemplate.Proofs.Render.Emission
import XmlTemplate.Template.Parser

/-!
# Elements without expressions

An element without expressions evaluates to the tree that it spells out, so that its print is what
is written for it. Read back, a terse print gives the tree again (`written_terse_readable`). A
pretty one gives the same tree up to the white space of XML, provided that the unit is made of it.
The units that are accepted are made of any blanks, which is more: `pretty_reads_as_terse_iff` says
for which of them the two prints agree.
-/

set_option autoImplicit false

namespace XmlTemplate

namespace Render

variable {expand : Expander} {id : Nat} {σ : Document.Shape} {s : RenderState}

/-! ## Evaluating -/

theorem evaluates_literalItems {as : List (Text × Text)} (h : ∀ a ∈ as, isName a.1 = true) :
    EvaluatesItems expand id σ (literalItems as) s as s := by
  induction as with
  | nil => exact .nil
  | cons a rest ih =>
    have hrest := ih fun b hb => h b (List.mem_cons_of_mem a hb)
    exact .literal (h a List.mem_cons_self) hrest

mutual

/-- An element without expressions evaluates to its tree and changes nothing. -/
theorem evaluates_toElement : ∀ (m : Markup) {σ : Document.Shape} {s : RenderState},
    m.isNamed = true → Evaluates expand id σ m.toElement s m s
  | .empty name attributes, _, _, hm => by
    rw [Markup.isNamed, Bool.and_eq_true, List.all_eq_true] at hm
    rw [Markup.toElement]
    exact .empty hm.1 (evaluates_literalItems hm.2)
  | .node name attributes contents, _, _, hm => by
    rw [Markup.isNamed, Bool.and_eq_true, Bool.and_eq_true, List.all_eq_true] at hm
    rw [Markup.toElement]
    exact .node hm.1.1 (evaluates_literalItems hm.1.2) (evaluates_toChildren contents hm.2)

theorem evaluates_toChild : ∀ (c : Content) {σ : Document.Shape} {s : RenderState},
    c.isNamed = true → EvaluatesChild expand id σ c.toChild s c s
  | .text value, _, _, _ => by
    rw [Content.toChild]
    exact .text
  | .markup m, σ, s, hm => by
    rw [Content.isNamed] at hm
    have h : Evaluates expand id σ m.toElement { s with room := s.room - elementRoom } m
      { s with room := s.room - elementRoom } := evaluates_toElement m hm
    have hchild := EvaluatesChild.element h
    rw [Content.toChild]
    exact hchild

theorem evaluates_toChildren : ∀ (cs : List Content) {σ : Document.Shape} {s : RenderState},
    Content.areNamed cs = true → EvaluatesAll expand id σ (Content.toChildren cs) s cs s
  | [], _, _, _ => by
    rw [Content.toChildren]
    exact .nil
  | c :: rest, _, _, hc => by
    rw [Content.areNamed, Bool.and_eq_true] at hc
    rw [Content.toChildren]
    exact .cons (evaluates_toChild c hc.1) (evaluates_toChildren rest hc.2)

end

theorem writes_toElement {m : Markup} (hm : m.isNamed = true)
    (hid : id < s.store.documents.length) :
    Writes id σ (m.toElement.fits s.room) (writeElement expand id m.toElement) s
      (m.print σ.layout σ.depth) s :=
  writes_element m.toElement (evaluates_toElement m hm) hid

/-! ## Reading back -/

/-- What is written for an element of a terse document reads as the tree of the element, with the
same names, attributes, values and texts whatever characters they hold. -/
theorem written_terse_readable (expand : Expander) {id : Nat} {s : RenderState} {d : Document}
    {m : Markup} (hid : id < s.store.documents.length) (hd : d.layout = .terse)
    (hm : m.isNamed = true) :
    if m.toElement.fits s.room = true then
      ∃ d' w, writeElement expand id m.toElement (s.put id d) = .ok () (s.put id d') ∧
        d'.text = d.text ++ w ∧ readNodes w = some [m.toNode]
    else ∃ t, writeElement expand id m.toElement (s.put id d) = .error .tooDeep t := by
  have hw : Writes id d.shape _ (writeElement expand id m.toElement) s _ s :=
    writes_toElement hm hid
  split
  next hfits =>
    obtain ⟨d', hrun, -, ht, -⟩ := hw.run hfits d rfl
    have hprint : m.print d.shape.layout d.shape.depth = m.body .terse d.depth := by
      show m.print d.layout d.depth = _
      rw [hd, Markup.print, Layout.lineBreak, List.append_nil]
    rw [hprint] at ht
    exact ⟨d', _, hrun, ht, readNodes_body_terse d.depth hm⟩
  next hfits => exact hw.refused (Bool.eq_false_iff.2 hfits) d rfl

/-- An element with the marks of markup in an attribute value and in a text. -/
def markedElement : Markup :=
  .node ['a'] [(['k'], ['"', '<', '&'])] [.text ['>', '<', '/', 'a', '>']]

/-- A new document without indentation. -/
def terseDocument : Document := .start .v1_0 none .terse

theorem written_terse_readable_marks :
    ∃ d' w, writeElement Render.expand 0 markedElement.toElement (.single terseDocument []) =
        .ok () (.single d' []) ∧
      d'.text = terseDocument.text ++ w ∧ readNodes w = some [markedElement.toNode] := by
  have hid : 0 < (RenderState.single terseDocument []).store.documents.length := Nat.one_pos
  have h := written_terse_readable Render.expand hid (d := terseDocument) (m := markedElement)
    (by decide) (by decide)
  rw [if_pos (by decide)] at h
  exact h

/-! ## Accepted units -/

/-- A unit is accepted as an option or by a directive. -/
inductive AcceptedUnit (unit : Text) : Prop
  | option (v : Value) (accepted : checkUnit v = .ok unit)
  | directive (room : Nat) (group : Token) (c c' : Cursor)
      (accepted : Parse.directive room group c = .ok (.unit unit) c')

theorem allBlank_of_checkUnit {v : Value} {unit : Text} (h : checkUnit v = .ok unit) :
    unit.allBlank = true := by
  cases v with
  | str mark s =>
    rw [checkUnit] at h
    split at h
    next hs =>
      cases h
      exact hs
    next => cases h
  | _ => cases h

theorem within_eq_ok {α : Type} {group : Token} {p : Parse α} {a : α} {c c' : Cursor}
    (h : Parse.within group p c = .ok a c') : ∃ c₁, p (Cursor.ofGroup group) = .ok a c₁ := by
  rw [Parse.within] at h
  cases hp : p (Cursor.ofGroup group) with
  | ok b c₁ =>
    rw [hp] at h
    cases h
    exact ⟨c₁, rfl⟩
  | error e c₁ =>
    rw [hp] at h
    cases h

theorem allBlank_of_directive {room : Nat} {group : Token} {c c' : Cursor} {unit : Text}
    (h : Parse.directive room group c = .ok (.unit unit) c') : unit.allBlank = true := by
  rw [Parse.directive] at h
  obtain ⟨c₁, h⟩ := within_eq_ok h
  obtain ⟨key, c₂, -, h⟩ := bind_eq_ok.1 h
  split at h
  -- the directive for a unit, which checks it
  · obtain ⟨-, c₃, -, h⟩ := bind_eq_ok.1 h
    obtain ⟨token, c₄, -, h⟩ := bind_eq_ok.1 h
    obtain ⟨s, c₅, -, h⟩ := bind_eq_ok.1 h
    split at h
    next hs =>
      obtain ⟨-, c₆, -, h⟩ := bind_eq_ok.1 h
      cases h
      exact hs
    next => cases h
  -- other directives give no unit
  · split at h
    · obtain ⟨-, c₃, -, h⟩ := bind_eq_ok.1 h
      obtain ⟨e, c₄, -, h⟩ := bind_eq_ok.1 h
      cases h
    · cases h

/-- An accepted unit is made of blanks. -/
theorem AcceptedUnit.allBlank {unit : Text} (h : AcceptedUnit unit) : unit.allBlank = true := by
  cases h with
  | option v accepted => exact allBlank_of_checkUnit accepted
  | directive room group c c' accepted => exact allBlank_of_directive accepted

/-! ## Pretty and terse -/

/-- What is written in a layout of blanks reads as the tree with its line breaks. -/
theorem written_readable (expand : Expander) {d : Document} {m : Markup}
    (hid : id < s.store.documents.length) (hd : d.layout.isBlank = true) (hm : m.isNamed = true)
    (hfits : m.toElement.fits s.room = true) :
    ∃ d' w, writeElement expand id m.toElement (s.put id d) = .ok () (s.put id d') ∧
      d'.text = d.text ++ w ∧ readNodes w = some (m.printed d.layout d.depth) := by
  have hw : Writes id d.shape _ (writeElement expand id m.toElement) s _ s :=
    writes_toElement hm hid
  obtain ⟨d', hrun, -, ht, -⟩ := hw.run hfits d rfl
  exact ⟨d', _, hrun, ht, readNodes_print hd d.depth hm⟩

theorem printed_terse (depth : Nat) (m : Markup) : m.printed .terse depth = [m.toNode] := by
  rw [Markup.printed, Markup.laidOut_terse]
  rfl

/-- For an accepted unit, the pretty text of an element and the terse one read as the same tree up
to the white space of XML in character data, if and only if the unit is made of that white space or
is never written. -/
theorem pretty_reads_as_terse_iff (expand : Expander) {unit : Text} (hunit : AcceptedUnit unit)
    {m : Markup} (hm : m.isNamed = true) {id id' : Nat} {s s' : RenderState} {d d' : Document}
    (hid : id < s.store.documents.length) (hd : d.layout = .terse)
    (hfits : m.toElement.fits s.room = true)
    (hid' : id' < s'.store.documents.length) (hd' : d'.layout = .pretty unit)
    (hfits' : m.toElement.fits s'.room = true) :
    ∃ (e e' : Document) (w w' : Text) (nodes nodes' : List Node),
      writeElement expand id m.toElement (s.put id d) = .ok () (s.put id e) ∧
      writeElement expand id' m.toElement (s'.put id' d') = .ok () (s'.put id' e') ∧
      e.text = d.text ++ w ∧ e'.text = d'.text ++ w' ∧
      readNodes w = some nodes ∧ readNodes w' = some nodes' ∧
      (Node.stripAll nodes' = Node.stripAll nodes ↔
        unit.all isSpace = true ∨ (d'.depth = 0 ∧ m.contents = [])) := by
  have hblank : d.layout.isBlank = true := by
    rw [hd]
    rfl
  have hblank' : d'.layout.isBlank = true := by
    rw [hd']
    exact hunit.allBlank
  obtain ⟨e, w, hrun, ht, hread⟩ := written_readable expand hid hblank hm hfits
  obtain ⟨e', w', hrun', ht', hread'⟩ := written_readable expand hid' hblank' hm hfits'
  refine ⟨e, e', w, w', _, _, hrun, hrun', ht, ht', hread, hread', ?_⟩
  rw [hd, hd', printed_terse]
  exact strip_laidOut_eq_iff (.pretty unit) d'.depth m

/-- An element with a letter in it. -/
def letterElement : Markup := .node ['a'] [] [.text ['x']]

/-- A new document that is indented with the unit. -/
def prettyDocument (unit : Text) : Document := .start .v1_0 none (.pretty unit)

theorem pretty_reads_as_terse_tab :
    ∃ (e e' : Document) (w w' : Text) (nodes nodes' : List Node),
      writeElement Render.expand 0 letterElement.toElement (.single terseDocument []) =
        .ok () (.single e []) ∧
      writeElement Render.expand 0 letterElement.toElement (.single (prettyDocument ['\t']) []) =
        .ok () (.single e' []) ∧
      e.text = terseDocument.text ++ w ∧ e'.text = (prettyDocument ['\t']).text ++ w' ∧
      readNodes w = some nodes ∧ readNodes w' = some nodes' ∧
      Node.stripAll nodes' = Node.stripAll nodes := by
  have hunit : AcceptedUnit ['\t'] := .option (.str none ['\t']) (by rfl)
  have hid : 0 < (RenderState.single terseDocument []).store.documents.length := Nat.one_pos
  have hid' : 0 < (RenderState.single (prettyDocument ['\t']) []).store.documents.length :=
    Nat.one_pos
  have hnamed : letterElement.isNamed = true := by decide
  have hterse : terseDocument.layout = .terse := by decide
  have hpretty : (prettyDocument ['\t']).layout = .pretty ['\t'] := by decide
  have hfits : letterElement.toElement.fits maxRoom = true := by decide
  obtain ⟨e, e', w, w', nodes, nodes', hrun, hrun', ht, ht', hread, hread', hiff⟩ :=
    pretty_reads_as_terse_iff Render.expand hunit hnamed hid hterse hfits hid' hpretty hfits
  exact ⟨e, e', w, w', nodes, nodes', hrun, hrun', ht, ht', hread, hread',
    hiff.2 (Or.inl (by decide))⟩

/-- The no-break space is accepted as a unit, and it is still there when all white space of XML has
been deleted. -/
theorem noBreakSpace_accepted_and_kept :
    checkUnit (.str none ['\u00a0']) = .ok ['\u00a0'] ∧
    ∃ (e e' : Document) (w w' : Text) (nodes nodes' : List Node),
      writeElement Render.expand 0 letterElement.toElement (.single terseDocument []) =
        .ok () (.single e []) ∧
      writeElement Render.expand 0 letterElement.toElement
        (.single (prettyDocument ['\u00a0']) []) = .ok () (.single e' []) ∧
      e.text = terseDocument.text ++ w ∧ e'.text = (prettyDocument ['\u00a0']).text ++ w' ∧
      readNodes w = some nodes ∧ readNodes w' = some nodes' ∧
      Node.stripAll nodes' ≠ Node.stripAll nodes := by
  have hid : 0 < (RenderState.single terseDocument []).store.documents.length := Nat.one_pos
  have hid' : 0 < (RenderState.single (prettyDocument ['\u00a0']) []).store.documents.length :=
    Nat.one_pos
  obtain ⟨e, w, hrun, ht, hread⟩ := written_readable Render.expand hid (d := terseDocument)
    (m := letterElement) (by decide) (by decide) (by decide)
  obtain ⟨e', w', hrun', ht', hread'⟩ := written_readable Render.expand hid'
    (d := prettyDocument ['\u00a0']) (m := letterElement) (by decide) (by decide) (by decide)
  refine ⟨by rfl, e, e', w, w', _, _, hrun, hrun', ht, ht', hread, hread', fun heq => ?_⟩
  have hterse : letterElement.printed terseDocument.layout terseDocument.depth =
      [letterElement.toNode] := printed_terse 0 letterElement
  rw [hterse] at heq
  -- the no-break space is no white space of XML, and the element has a content
  rcases (strip_laidOut_eq_iff _ _ letterElement).1 heq with hspace | ⟨-, hnone⟩
  · revert hspace
    decide
  · cases hnone

end Render

end XmlTemplate
