import XmlTemplate.Proofs.Render.Evaluation

/-!
# Elements are written as they are printed

What `writeElement` adds to a document is the print of the tree that the element evaluates to, in
the layout of the document and at its depth, whatever the document holds (`writes_element`). If the
element does not fit into the room, writing it fails for that reason and for no other.

A document cannot know what comes next when it ends a line. It writes the indentation for one more
part of the same content, and an end tag takes one unit back. The invariant that makes this come out
right is that the latest piece of a pretty document is a whole line break (`Document.Settled`); it
holds after a start tag, and each part of a content keeps it, whatever held before the element.
-/

set_option autoImplicit false

namespace XmlTemplate

/-! ## Line breaks -/

theorem Layout.lineBreak_succ (layout : Layout) (depth : Nat) :
    layout.lineBreak (depth + 1) = layout.lineBreak depth ++ layout.unitText := by
  cases layout with
  | terse => rfl
  | pretty unit =>
    simp [Layout.lineBreak, Document.lineBreak, Layout.unitText, List.replicate_succ']

namespace Document

/-- The latest piece of a document is the line break for another part of the content, if its layout
is pretty. -/
def Settled (d : Document) : Prop :=
  ∀ unit, d.layout = .pretty unit → d.latest = some (lineBreak unit d.depth)

/-- The latest piece of a settled document does not keep it from leaving an element. -/
theorem Settled.isSome_latest {d : Document} (h : d.Settled) :
    d.layout = .terse ∨ d.latest.isSome = true := by
  cases hl : d.layout with
  | terse => exact Or.inl rfl
  | pretty unit =>
    rw [h unit hl]
    exact Or.inr rfl

theorem settled_newline (d : Document) : d.newline.Settled := by
  intro unit h
  rw [layout_eq_of_shape (shape_newline d)] at h
  rw [newline_of_pretty h]
  rfl

theorem settled_enterContent (d : Document) : d.enterContent.Settled := settled_newline _

theorem settled_endEmptyTag (d : Document) : d.endEmptyTag.Settled := settled_newline _

theorem settled_addText (d : Document) (value : Text) : (d.addText value).Settled :=
  settled_newline _

/-- A settled document inside of an element can be outdented. -/
theorem outdent_of_settled {d : Document} (h : d.Settled) (hd : d.depth ≠ 0) :
    ∃ d', d.outdent = .ok d' := by
  cases hl : d.layout with
  | terse => exact ⟨d, outdent_of_terse hl⟩
  | pretty unit =>
    obtain ⟨n, hn⟩ := Nat.exists_eq_succ_of_ne_zero hd
    have hlatest : d.latest = some (lineBreak unit n ++ unit) := by
      rw [h unit hl, hn]
      exact congrArg some (Layout.lineBreak_succ (.pretty unit) n)
    exact ⟨_, outdent_of_latest hl hlatest⟩

theorem settled_closeTag {d e : Document} {name : Option Text} {shown : Text}
    (h : d.closeTag name shown = .ok e) : e.Settled := by
  obtain ⟨-, d', -, rfl⟩ := closeTag_eq_ok h
  exact settled_newline _

/-- An end tag stands one level further out than the line break that was written for it. -/
theorem endElement_of_settled {d : Document} {name w : Text} {n : Nat}
    (hname : isName name = true) (hs : d.Settled) (hd : d.depth = n + 1)
    (ht : d.text = w ++ d.layout.lineBreak (n + 1)) :
    ∃ e, d.endElement name = .ok e ∧ e.shape = { d.shape with depth := n } ∧
      e.text = w ++ d.layout.lineBreak n ++ '<' :: '/' :: name ++ ['>'] ++ d.layout.lineBreak n ∧
      e.Settled := by
  have hd0 : d.depth ≠ 0 := by omega
  obtain ⟨d', ho⟩ := outdent_of_settled hs hd0
  obtain ⟨e, hclose⟩ : ∃ e, d.closeTag (some name) name = .ok e :=
    ⟨_, closeTag_of_outdent hd0 ho⟩
  obtain ⟨-, hshape, before, hbefore, htext⟩ := text_closeTag hclose
  refine ⟨e, ?_, ?_, ?_, settled_closeTag hclose⟩
  · rw [endElement, if_pos hname]
    exact hclose
  · rw [hshape, hd]
    rfl
  · rw [ht, Layout.lineBreak_succ, ← List.append_assoc] at hbefore
    obtain rfl := List.append_cancel_right hbefore
    rw [htext, hd]
    simp

end Document

namespace Render

variable {α : Type} {expand : Expander} {id : Nat} {σ : Document.Shape} {s s₁ s' : RenderState}

/-! ## Parts of a start tag -/

/-- A rendering adds a text to the document of the given number and shape, whatever that holds, and
keeps its shape. -/
structure Adds (id : Nat) (σ : Document.Shape) (p : Render Unit) (s : RenderState) (w : Text)
    (s' : RenderState) : Prop where
  run : ∀ d : Document, d.shape = σ → ∃ d' : Document,
    p (s.put id d) = .ok () (s'.put id d') ∧ d'.shape = σ ∧ d'.text = d.text ++ w
  room_eq : s'.room = s.room
  present : id < s'.store.documents.length

theorem Adds.nothing (hid : id < s.store.documents.length) : Adds id σ (pure ()) s [] s where
  run d hd := ⟨d, rfl, hd, (List.append_nil _).symm⟩
  room_eq := rfl
  present := hid

theorem Adds.bind {p q : Render Unit} {v w : Text} (hp : Adds id σ p s v s₁)
    (hq : Adds id σ q s₁ w s') : Adds id σ (p >>= fun _ => q) s (v ++ w) s' where
  run d hd := by
    obtain ⟨d₁, hrun₁, hd₁, ht₁⟩ := hp.run d hd
    obtain ⟨d₂, hrun₂, hd₂, ht₂⟩ := hq.run d₁ hd₁
    refine ⟨d₂, ?_, hd₂, ?_⟩
    · rw [bind_of_ok hrun₁]
      exact hrun₂
    · rw [ht₂, ht₁, List.append_assoc]
  room_eq := hq.room_eq.trans hp.room_eq
  present := hq.present

/-- What depends on a value can be told from the value. -/
theorem Yields.adds {p : Render α} {f : α → Render Unit} {v : α} {w : Text}
    (hp : Yields id σ p s v s₁) (hf : Adds id σ (f v) s₁ w s') : Adds id σ (p >>= f) s w s' where
  run d hd := by
    obtain ⟨d', hrun, hd', ht⟩ := hf.run d hd
    refine ⟨d', ?_, hd', ht⟩
    rw [bind_of_ok (hp.run d hd)]
    exact hrun
  room_eq := hf.room_eq.trans hp.room_eq
  present := hf.present

theorem adds_change (hid : id < s.store.documents.length)
    {f : Document → Except Violation Document} {w : Text}
    (hf : ∀ d, ∃ e, f d = .ok e ∧ e.shape = d.shape ∧ e.text = d.text ++ w) :
    Adds id σ (changeDocument id f) s w s where
  run d hd := by
    obtain ⟨e, he, hshape, ht⟩ := hf d
    exact ⟨e, changeDocument_put_of_ok hid he, hshape.trans hd, ht⟩
  room_eq := rfl
  present := hid

theorem adds_writeAttribute (hid : id < s.store.documents.length) {name value : Text} {v : Value}
    (hv : Yields id σ (display v) s value s') :
    Adds id σ (writeAttribute id (some name) v) s (Document.attributeText name value) s' := by
  have hbegin : Adds id σ (changeDocument id fun d => .ok (d.beginAttribute (some name))) s
      (' ' :: name ++ ['=', '"']) s := adds_change hid fun d =>
    ⟨_, rfl, rfl, by rw [Document.text_beginAttribute]; simp⟩
  have hend : Adds id σ (changeDocument id fun d => .ok (d.endAttribute value)) s'
      (escape .value value ++ ['"']) s' := adds_change hv.present fun d =>
    ⟨_, rfl, by simp [Document.endAttribute],
      by rw [Document.text_endAttribute, List.append_assoc]⟩
  have htext : Document.attributeText name value =
      (' ' :: name ++ ['=', '"']) ++ (escape .value value ++ ['"']) := by
    simp [Document.attributeText]
  rw [htext]
  exact hbegin.bind (hv.adds hend)

theorem adds_writePair {item : Value} {a : Text × Text} (h : YieldsAttribute id σ item s a s') :
    Adds id σ (writePair id item) s (Document.attributeText a.1 a.2) s' := by
  obtain ⟨hname, key, value, s₁, s₂, hitem, hkey, hvalue⟩ := h
  have hcheck : Adds id σ (if !isName a.1 then throw (.invalidName a.1) else pure ()) s' [] s' := by
    rw [hname]
    exact Adds.nothing hvalue.present
  have hattribute : Adds id σ (writeAttribute id (some a.1) value) s₂ _ s' :=
    adds_writeAttribute hkey.present hvalue
  have hwrite := hattribute.bind hcheck
  rw [List.append_nil] at hwrite
  exact hitem.adds (hkey.adds hwrite)

theorem adds_forItems {items : List Value} {as : List (Text × Text)}
    (h : YieldAttributes id σ items s as s') (hid : id < s.store.documents.length) :
    Adds id σ (forItems (writePair id) items) s (printAttributes as) s' := by
  induction h with
  | nil => exact Adds.nothing hid
  | cons head tail ih =>
    have hhead := adds_writePair head
    exact hhead.bind (ih hhead.present)

theorem adds_drain {iterator rounds : Nat} {as : List (Text × Text)}
    (h : DrainsAttributes id σ iterator rounds s as s') (hid : id < s.store.documents.length) :
    Adds id σ (drain iterator (writePair id) rounds) s (printAttributes as) s' := by
  induction h with
  | done => exact Adds.nothing hid
  | stop none => exact none.adds (Adds.nothing none.present)
  | more next head tail ih =>
    have hhead := adds_writePair head
    exact next.adds (hhead.bind (ih hhead.present))

/-- A fill adds the attributes that its value gives. -/
theorem adds_writeAttributes {v : Value} {as : List (Text × Text)}
    (h : FillYields id σ v s as s') (hid : id < s.store.documents.length) :
    Adds id σ (writeAttributes id v) s (printAttributes as) s' := by
  rw [FillYields.eq_def] at h
  split at h
  next es => exact adds_forItems h hid
  next v hv =>
    rw [writeAttributes.eq_2 id _ hv]
    split at h
    next vs hvs =>
      rw [hvs]
      exact adds_forItems h hid
    next first step count hvs =>
      obtain ⟨rfl, rfl, rfl⟩ := h
      rw [hvs]
      exact Adds.nothing hid
    next iterator hvs =>
      rw [hvs]
      have hleft : Yields id σ (left iterator) s
          (s.store.iterators[iterator]?.getD []).length s := ⟨fun d hd => rfl, rfl, hid⟩
      exact hleft.adds (adds_drain h hid)
    next => exact h.elim

/-- The attributes and fills of a start tag add what they give. -/
theorem adds_writeItems {items : List AttributeItem} {as : List (Text × Text)}
    (h : EvaluatesItems expand id σ items s as s') (hid : id < s.store.documents.length) :
    Adds id σ (writeItems expand id items) s (printAttributes as) s' := by
  induction h with
  | nil => exact Adds.nothing hid
  | literal hname tail ih =>
    refine Adds.bind (adds_change hid fun d => ?_) (ih hid)
    rw [Document.addAttribute, if_pos hname]
    exact ⟨_, rfl, Document.shape_writeAttribute .., Document.text_writeAttribute ..⟩
  | expression hname eval shown tail ih =>
    rename_i name value e rest s s₁ s₂ s' v as
    have hcall : callDocument .addAttribute id [.str none name, v] =
        writeAttribute id (some name) v >>= fun _ => pure .none := by
      rw [callDocument]
      simp only [nameOf_of_isName none hname, pure_bind]
    have hnamed : Adds id σ (writeNamed expand id name (.expression e)) s
        (Document.attributeText name value) s₂ := by
      refine eval.adds ?_
      rw [hcall, discard_bind_pure]
      exact adds_writeAttribute eval.present shown
    exact hnamed.bind (ih shown.present)
  | fill eval fill tail ih =>
    rename_i e rest s s₁ s₂ s' v as bs
    have hfill := adds_writeAttributes fill eval.present
    have htext : printAttributes (as ++ bs) = printAttributes as ++ printAttributes bs :=
      List.flatMap_append
    rw [htext]
    exact eval.adds (hfill.bind (ih hfill.present))

/-! ## Elements -/

/-- A rendering adds a text to the document of the given number and shape if it fits into the room,
whatever the document holds, keeps its shape, and leaves it settled if it was. If it does not fit,
it fails for that reason. -/
structure Writes (id : Nat) (σ : Document.Shape) (fits : Bool) (p : Render Unit) (s : RenderState)
    (w : Text) (s' : RenderState) : Prop where
  run : fits = true → ∀ d : Document, d.shape = σ → ∃ d' : Document,
    p (s.put id d) = .ok () (s'.put id d') ∧ d'.shape = σ ∧ d'.text = d.text ++ w ∧
      (d.Settled → d'.Settled)
  refused : fits = false → ∀ d : Document, d.shape = σ → ∃ t, p (s.put id d) = .error .tooDeep t
  room_eq : s'.room = s.room
  present : id < s'.store.documents.length

theorem Writes.nothing (hid : id < s.store.documents.length) :
    Writes id σ true (pure ()) s [] s where
  run _ d hd := ⟨d, rfl, hd, (List.append_nil _).symm, fun h => h⟩
  refused h := nomatch h
  room_eq := rfl
  present := hid

theorem Writes.bind {p q : Render Unit} {v w : Text} {pFits qFits : Bool}
    (hp : Writes id σ pFits p s v s₁) (hq : Writes id σ qFits q s₁ w s') :
    Writes id σ (pFits && qFits) (p >>= fun _ => q) s (v ++ w) s' where
  run h d hd := by
    rw [Bool.and_eq_true] at h
    obtain ⟨d₁, hrun₁, hd₁, ht₁, hs₁⟩ := hp.run h.1 d hd
    obtain ⟨d₂, hrun₂, hd₂, ht₂, hs₂⟩ := hq.run h.2 d₁ hd₁
    refine ⟨d₂, ?_, hd₂, ?_, hs₂ ∘ hs₁⟩
    · rw [bind_of_ok hrun₁]
      exact hrun₂
    · rw [ht₂, ht₁, List.append_assoc]
  refused h d hd := by
    cases hfits : pFits with
    | false =>
      obtain ⟨t, ht⟩ := hp.refused hfits d hd
      exact ⟨t, bind_of_error ht _⟩
    | true =>
      rw [hfits, Bool.true_and] at h
      obtain ⟨d₁, hrun₁, hd₁, -⟩ := hp.run hfits d hd
      obtain ⟨t, ht⟩ := hq.refused h d₁ hd₁
      refine ⟨t, ?_⟩
      rw [bind_of_ok hrun₁]
      exact ht
  room_eq := hq.room_eq.trans hp.room_eq
  present := hq.present

/-- Writing an element in less room, the room outside being what it was. -/
theorem Writes.takingRoom {p : Render Unit} {taken : Nat} {fits : Bool} {w : Text}
    (h : Writes id σ fits p { s with room := s.room - taken } w s') :
    Writes id σ fits (takingRoom taken p) s w { s' with room := s.room } where
  run hfits d hd := by
    obtain ⟨d', hrun, hd', ht, hs⟩ := h.run hfits d hd
    have hrun' := takingRoom_of_ok (s := s.put id d) hrun
    exact ⟨d', hrun', hd', ht, hs⟩
  refused hfits d hd := by
    obtain ⟨t, ht⟩ := h.refused hfits d hd
    have ht' := takingRoom_of_error (s := s.put id d) ht
    exact ⟨_, ht'⟩
  room_eq := rfl
  present := h.present

theorem checkRoom_of_le {name : Text} (h : nameRoom name ≤ s.room) :
    checkRoom name s = .ok () s := by
  have hroom : room s = .ok s.room s := rfl
  rw [checkRoom, bind_of_ok hroom, if_neg (Nat.not_lt.2 h)]
  rfl

theorem checkRoom_of_lt {name : Text} (h : s.room < nameRoom name) :
    checkRoom name s = .error .tooDeep s := by
  have hroom : room s = .ok s.room s := rfl
  rw [checkRoom, bind_of_ok hroom, if_pos h]
  rfl

theorem adds_beginTag (hid : id < s.store.documents.length) {name : Text}
    (hname : isName name = true) :
    Adds id σ (changeDocument id (·.beginTag name)) s ('<' :: name) s := by
  refine adds_change hid fun d => ?_
  rw [Document.beginTag, if_pos hname]
  exact ⟨_, rfl, Document.shape_openTag .., Document.text_openTag ..⟩

/-- Up to the end mark of the start tag, an element with content is written as one without. -/
theorem run_startTag {name : Text} {items : List AttributeItem} {as : List (Text × Text)}
    (hname : isName name = true) (h : EvaluatesItems expand id σ items s as s₁)
    (hid : id < s.store.documents.length) (hroom : nameRoom name ≤ s.room) (rest : Render Unit)
    {d : Document} (hd : d.shape = σ) :
    ∃ d' : Document,
      (do
        checkRoom name
        changeDocument id (·.beginTag name)
        writeItems expand id items
        rest) (s.put id d) = rest (s₁.put id d') ∧
      d'.shape = σ ∧ d'.text = d.text ++ ('<' :: name ++ printAttributes as) := by
  obtain ⟨d₁, hrun₁, hd₁, ht₁⟩ := (adds_beginTag hid hname).run d hd
  obtain ⟨d₂, hrun₂, hd₂, ht₂⟩ := (adds_writeItems h hid).run d₁ hd₁
  refine ⟨d₂, ?_, hd₂, ?_⟩
  · rw [bind_of_ok (checkRoom_of_le (s := s.put id d) hroom), bind_of_ok hrun₁, bind_of_ok hrun₂]
  · rw [ht₂, ht₁, List.append_assoc]

theorem writes_empty {name : Text} {items : List AttributeItem} {as : List (Text × Text)}
    (hname : isName name = true) (h : EvaluatesItems expand id σ items s as s')
    (hid : id < s.store.documents.length) :
    Writes id σ (decide (nameRoom name ≤ s.room)) (writeElement expand id (.empty name items)) s
      ((Markup.empty name as).print σ.layout σ.depth) s' where
  run hfits d hd := by
    obtain ⟨d', hrun, hd', ht⟩ := run_startTag hname h hid (of_decide_eq_true hfits)
      (changeDocument id fun d => .ok d.endEmptyTag) hd
    refine ⟨d'.endEmptyTag, ?_, ?_, ?_, fun _ => Document.settled_endEmptyTag d'⟩
    · rw [writeElement, hrun]
      exact changeDocument_put_of_ok (adds_writeItems h hid).present rfl
    · rw [Document.shape_endEmptyTag, hd']
    · subst hd'
      rw [Document.text_endEmptyTag, ht, Markup.print, Markup.body]
      simp [Document.shape]
  refused hfits d hd := by
    have hroom : s.room < nameRoom name := Nat.not_le.1 (of_decide_eq_false hfits)
    rw [writeElement]
    exact ⟨_, bind_of_error (checkRoom_of_lt (s := s.put id d) hroom) _⟩
  room_eq := (adds_writeItems h hid).room_eq
  present := (adds_writeItems h hid).present

/-- The text of a content as it stands after a line break. -/
def contentText (layout : Layout) (depth : Nat) : List Content → Text
  | [] => []
  | c :: rest => c.item layout depth ++ layout.lineBreak depth ++ contentText layout depth rest

/-- A line break that comes before the parts of a content can as well come after them. -/
theorem lineBreak_contentText (layout : Layout) (depth : Nat) (contents : List Content) :
    layout.lineBreak (depth + 1) ++ contentText layout (depth + 1) contents =
      Content.lines layout depth contents ++ layout.lineBreak (depth + 1) := by
  induction contents with
  | nil => simp [contentText, Content.lines]
  | cons c rest ih =>
    rw [contentText, Content.lines, List.append_assoc, List.append_assoc, ih]
    simp

/-- An element with content is written up to its content. -/
theorem run_enterContent {name : Text} {items : List AttributeItem} {as : List (Text × Text)}
    {children : List Child} (hname : isName name = true)
    (h : EvaluatesItems expand id σ items s as s₁) (hid : id < s.store.documents.length)
    (hroom : nameRoom name ≤ s.room) {d : Document} (hd : d.shape = σ) :
    ∃ d' : Document,
      writeElement expand id (.node name items children) (s.put id d) =
        (writeChildren expand id children >>= fun _ => leaveElement id (·.endElement name))
          (s₁.put id d') ∧
      d'.shape = σ.inner ∧ d'.Settled ∧
      d'.text = d.text ++ ('<' :: name ++ printAttributes as) ++
        '>' :: σ.layout.lineBreak (σ.depth + 1) := by
  obtain ⟨d₁, hrun₁, hd₁, ht₁⟩ := run_startTag hname h hid hroom (do
    changeDocument id fun d => .ok d.enterContent
    writeChildren expand id children
    leaveElement id (·.endElement name)) hd
  have hrun₂ := changeDocument_put_of_ok (f := fun d => .ok d.enterContent)
    (adds_writeItems h hid).present (d := d₁) rfl
  refine ⟨d₁.enterContent, ?_, ?_, Document.settled_enterContent d₁, ?_⟩
  · rw [writeElement, hrun₁, bind_of_ok hrun₂]
  · rw [Document.shape_enterContent, hd₁]
  · rw [← ht₁, ← hd₁]
    exact Document.text_enterContent d₁

theorem writes_node {name : Text} {items : List AttributeItem} {as : List (Text × Text)}
    {children : List Child} {contents : List Content} {fits : Bool} (hname : isName name = true)
    (h : EvaluatesItems expand id σ items s as s₁) (hid : id < s.store.documents.length)
    (hc : Writes id σ.inner fits (writeChildren expand id children) s₁
      (contentText σ.layout (σ.depth + 1) contents) s') :
    Writes id σ (nameRoom name ≤ s.room && fits)
      (writeElement expand id (.node name items children)) s
      ((Markup.node name as contents).print σ.layout σ.depth) s' where
  run hfits d hd := by
    rw [Bool.and_eq_true, decide_eq_true_iff] at hfits
    obtain ⟨d₁, hrun₁, hd₁, hs₁, ht₁⟩ := run_enterContent hname h hid hfits.1 hd
    obtain ⟨d₂, hrun₂, hd₂, ht₂, hs₂⟩ := hc.run hfits.2 d₁ hd₁
    have hsettled := hs₂ hs₁
    have hdepth : d₂.depth = σ.depth + 1 := congrArg Document.Shape.depth hd₂
    have hlayout : d₂.layout = σ.layout := congrArg Document.Shape.layout hd₂
    -- the text ends in the line break that is one unit too long for the end tag
    have hend : d₂.text = (d.text ++ ('<' :: name ++ printAttributes as) ++
        '>' :: Content.lines σ.layout σ.depth contents) ++ d₂.layout.lineBreak (σ.depth + 1) := by
      rw [ht₂, ht₁, hlayout, List.append_assoc, List.cons_append, List.cons_append,
        lineBreak_contentText]
      simp
    obtain ⟨e, hclose, he, hte, hse⟩ :=
      Document.endElement_of_settled hname hsettled hdepth hend
    refine ⟨e, ?_, ?_, ?_, fun _ => hse⟩
    · rw [hrun₁, bind_of_ok hrun₂, leaveElement_put hc.present hsettled.isSome_latest]
      exact changeDocument_put_of_ok hc.present hclose
    · rw [he, hd₂]
      rfl
    · rw [hte, hlayout, Markup.print, Markup.body]
      simp
  refused hfits d hd := by
    by_cases hroom : nameRoom name ≤ s.room
    · rw [decide_eq_true hroom, Bool.true_and] at hfits
      obtain ⟨d₁, hrun₁, hd₁, -⟩ := run_enterContent hname h hid hroom hd
      obtain ⟨t, ht⟩ := hc.refused hfits d₁ hd₁
      refine ⟨t, ?_⟩
      rw [hrun₁, bind_of_error ht]
    · rw [writeElement]
      exact ⟨_, bind_of_error (checkRoom_of_lt (s := s.put id d) (Nat.not_le.1 hroom)) _⟩
  room_eq := hc.room_eq.trans (adds_writeItems h hid).room_eq
  present := hc.present

/-! ## Contents -/

/-- A part of a content is written in one go with the line break after it. -/
theorem writes_text (hid : id < s.store.documents.length) (value : Text) :
    Writes id σ true (changeDocument id fun d => .ok (d.addText value)) s
      ((Content.text value).item σ.layout σ.depth ++ σ.layout.lineBreak σ.depth) s where
  run _ d hd := by
    refine ⟨_, changeDocument_put_of_ok hid rfl, ?_, ?_, fun _ => Document.settled_addText d value⟩
    · rw [Document.shape_addText, hd]
    · subst hd
      rw [Document.text_addText, List.append_assoc]
      rfl
  refused h := nomatch h
  room_eq := rfl
  present := hid

theorem writes_expression (value : Text) {e : Embedded} {v : Value}
    (heval : Yields id σ (takingRoom childRoom (evalEmbedded expand e)) s v s₁)
    (hshown : Yields id σ (takingRoom textRoom (display v)) s₁ value s') :
    Writes id σ true (writeChild expand id (.expression e)) s
      ((Content.text value).item σ.layout σ.depth ++ σ.layout.lineBreak σ.depth) s' where
  run _ d hd := by
    obtain ⟨t, hdisplay, hs'⟩ := takingRoom_eq_ok.1 (hshown.run d hd)
    -- the text is written in the room in which it was made
    have hput : t = RenderState.put { s' with room := t.room } id d := by
      have hstore := congrArg RenderState.store hs'
      have hscope := congrArg RenderState.scope hs'
      obtain ⟨store, scope, room⟩ := t
      obtain rfl : _ = store := hstore
      obtain rfl : _ = scope := hscope
      rfl
    have hcall : callDocument .addText id [v] =
        (display v >>= fun value => changeDocument id fun d => .ok (d.addText value)) >>=
          fun _ => pure .none := (bind_assoc ..).symm
    have hwrite : takingRoom textRoom
        (display v >>= fun value => changeDocument id fun d => .ok (d.addText value))
          (s₁.put id d) =
        .ok () { RenderState.put { s' with room := t.room } id (d.addText value) with
          room := s₁.room } := by
      have hpresent : id < ({ s' with room := t.room } : RenderState).store.documents.length :=
        hshown.present
      have hchange : changeDocument id (fun d => .ok (d.addText value)) t =
          .ok () (RenderState.put { s' with room := t.room } id (d.addText value)) := by
        rw [hput]
        exact changeDocument_put_of_ok hpresent rfl
      apply takingRoom_of_ok
      rw [bind_of_ok hdisplay]
      exact hchange
    refine ⟨d.addText value, ?_, ?_, ?_, fun _ => Document.settled_addText d value⟩
    · rw [writeChild, bind_of_ok (heval.run d hd), hcall, discard_bind_pure, hwrite,
        ← hshown.room_eq]
      rfl
    · rw [Document.shape_addText, hd]
    · subst hd
      rw [Document.text_addText, List.append_assoc]
      rfl
  refused h := nomatch h
  room_eq := hshown.room_eq.trans heval.room_eq
  present := hshown.present

mutual

/-- An element is written as its tree is printed, if it fits into the room. -/
theorem writes_element : ∀ (e : Element) {σ : Document.Shape} {s s' : RenderState} {m : Markup},
    Evaluates expand id σ e s m s' → id < s.store.documents.length →
      Writes id σ (e.fits s.room) (writeElement expand id e) s (m.print σ.layout σ.depth) s'
  | .empty _ _, _, _, _, _, .empty hname h, hid => writes_empty hname h hid
  | .node _ _ children, _, _, _, _, .node hname h hc, hid => by
    have hitems := adds_writeItems h hid
    have hcontent := writes_children children hc hitems.present
    rw [hitems.room_eq] at hcontent
    exact writes_node hname h hid hcontent

theorem writes_child : ∀ (c : Child) {σ : Document.Shape} {s s' : RenderState} {k : Content},
    EvaluatesChild expand id σ c s k s' → id < s.store.documents.length →
      Writes id σ (c.fits s.room) (writeChild expand id c) s
        (k.item σ.layout σ.depth ++ σ.layout.lineBreak σ.depth) s'
  | .text value, _, _, _, _, .text, hid => writes_text hid value
  | .expression _, _, _, _, _, .expression heval hshown, _ => writes_expression _ heval hshown
  | .element e, _, _, _, _, .element h, hid => (writes_element e h hid).takingRoom

theorem writes_children : ∀ (cs : List Child) {σ : Document.Shape} {s s' : RenderState}
    {ks : List Content}, EvaluatesAll expand id σ cs s ks s' → id < s.store.documents.length →
      Writes id σ (Child.fitAll s.room cs) (writeChildren expand id cs) s
        (contentText σ.layout σ.depth ks) s'
  | [], _, _, _, _, .nil, hid => Writes.nothing hid
  | c :: rest, _, _, _, _, .cons hhead htail, hid => by
    have hc := writes_child c hhead hid
    have hrest := writes_children rest htail hc.present
    rw [hc.room_eq] at hrest
    exact hc.bind hrest

end

end Render

end XmlTemplate
