import XmlTemplate.Proofs.Markup.ReadBack

/-!
# Printed trees are read back

The nodes of a printed tree are the tree itself with the layout as character data: texts next to one
another are one node, empty ones are none, and an element written as an empty tag is one without
content (`readNodes_print`). In the terse layout nothing is added, so that the printed tree
determines names, attributes and texts (`readNodes_body_terse`), whatever characters they contain.

The units of a pretty layout are assumed to be blank, so that they are read as character data.
-/

set_option autoImplicit false

namespace XmlTemplate

/-! ## Blank layouts -/

/-- Whether the unit of a layout is blank. -/
def Layout.isBlank (layout : Layout) : Bool := layout.unitText.allBlank

/-- A blank is no mark of markup. -/
theorem isBlank_ne {c : Char} (h : XmlTemplate.isBlank c = true) :
    c ≠ '<' ∧ c ≠ '>' ∧ ∀ place, isSpecial place c = false := by
  have hlt : c ≠ '<' := by rintro rfl; revert h; decide
  have hgt : c ≠ '>' := by rintro rfl; revert h; decide
  have hamp : c ≠ '&' := by rintro rfl; revert h; decide
  have hquote : c ≠ '"' := by rintro rfl; revert h; decide
  refine ⟨hlt, hgt, fun place => ?_⟩
  cases place <;> simp [isSpecial, hlt, hgt, hamp, hquote]

theorem allBlank_lineBreak {layout : Layout} (h : layout.isBlank = true) (depth : Nat) :
    (layout.lineBreak depth).allBlank = true := by
  cases layout with
  | terse => rfl
  | pretty unit =>
    rw [Layout.lineBreak, Document.lineBreak, Text.allBlank, List.all_cons, Bool.and_eq_true]
    refine ⟨by decide, List.all_eq_true.2 fun c hc => ?_⟩
    obtain ⟨u, hu, hcu⟩ := List.mem_flatten.1 hc
    obtain rfl := List.eq_of_mem_replicate hu
    exact List.all_eq_true.1 h c hcu

theorem isFlat_of_allBlank {s : Text} (h : s.allBlank = true) : IsFlat s := by
  intro c hc
  obtain ⟨h₁, h₂, -⟩ := isBlank_ne (List.all_eq_true.1 h c hc)
  exact ⟨h₁, h₂⟩

theorem escape_of_allBlank {s : Text} (h : s.allBlank = true) (place : Place) :
    escape place s = s :=
  escape_of_plain fun c hc => (isBlank_ne (List.all_eq_true.1 h c hc)).2.2 place

/-! ## The nodes of a printed tree -/

/-- Character data before other nodes: joined to character data at their head, and no node of its
own where it is empty. -/
def prependText (value : Text) : List Node → List Node
  | .text w :: rest => if value = [] then .text w :: rest else .text (value ++ w) :: rest
  | nodes => textNodes value ++ nodes

mutual

/-- The tree as it is read back from the terse print. -/
def Markup.toNode : Markup → Node
  | .empty name attributes => .element name attributes []
  | .node name attributes contents => .element name attributes (Content.toNodes contents)

/-- A part of a content before the nodes after it. -/
def Content.prepend : Content → List Node → List Node
  | .text value, nodes => prependText value nodes
  | .markup m, nodes => m.toNode :: nodes

/-- A content as it is read back from the terse print. -/
def Content.toNodes : List Content → List Node
  | [] => []
  | c :: rest => c.prepend (Content.toNodes rest)

end

mutual

/-- The tree as it is read back from the print in a layout, at a depth. -/
def Markup.laidOut (layout : Layout) (depth : Nat) : Markup → Node
  | .empty name attributes => .element name attributes []
  | .node name attributes contents =>
    .element name attributes (Content.laidOut layout depth contents)

/-- A part of a content, at its own depth, before the nodes after it. -/
def Content.prependIn (layout : Layout) (depth : Nat) : Content → List Node → List Node
  | .text value, nodes => prependText value nodes
  | .markup m, nodes => m.laidOut layout depth :: nodes

/-- The content of an element at a depth as it is read back from the print in a layout. -/
def Content.laidOut (layout : Layout) (depth : Nat) : List Content → List Node
  | [] => prependText (layout.lineBreak depth) []
  | c :: rest =>
    prependText (layout.lineBreak (depth + 1))
      (c.prependIn layout (depth + 1) (Content.laidOut layout depth rest))

end

theorem prependText_nil (nodes : List Node) : prependText [] nodes = nodes := by
  rw [prependText.eq_def]
  split
  · rw [if_pos rfl]
  · rfl

theorem prependText_append (v w : Text) (nodes : List Node) :
    prependText (v ++ w) nodes = prependText v (prependText w nodes) := by
  by_cases hw : w = []
  · rw [hw, List.append_nil, prependText_nil]
  by_cases hv : v = []
  · rw [hv, List.nil_append, prependText_nil]
  -- from here on no text is empty, so that each is a node or joined to one
  have hvw : v ++ w ≠ [] := fun h => hv (List.append_eq_nil_iff.1 h).1
  cases nodes with
  | nil => simp [prependText, textNodes, hv, hw]
  | cons n rest =>
    cases n with
    | text u => simp [prependText, hv, hw]
    | element name attributes children => simp [prependText, textNodes, hv, hw]

theorem prependText_element (v : Text) (name : Text) (attributes : List (Text × Text))
    (children rest : List Node) :
    prependText v (.element name attributes children :: rest) =
      textNodes v ++ .element name attributes children :: rest := rfl

theorem prependText_laidOut (v : Text) (layout : Layout) (depth : Nat) (m : Markup)
    (rest : List Node) :
    prependText v (m.laidOut layout depth :: rest) =
      textNodes v ++ m.laidOut layout depth :: rest := by
  cases m <;> rfl

mutual

theorem Markup.laidOut_terse (depth : Nat) : ∀ m : Markup, m.laidOut .terse depth = m.toNode
  | .empty name attributes => by rw [Markup.laidOut, Markup.toNode]
  | .node name attributes contents => by
    rw [Markup.laidOut, Markup.toNode, Content.laidOut_terse depth contents]

theorem Content.prependIn_terse (depth : Nat) (nodes : List Node) :
    ∀ c : Content, c.prependIn .terse depth nodes = c.prepend nodes
  | .text value => by rw [Content.prependIn, Content.prepend]
  | .markup m => by rw [Content.prependIn, Content.prepend, Markup.laidOut_terse depth m]

theorem Content.laidOut_terse (depth : Nat) :
    ∀ contents : List Content, Content.laidOut .terse depth contents = Content.toNodes contents
  | [] => rfl
  | c :: rest => by
    rw [Content.laidOut, Layout.lineBreak, prependText_nil, Content.toNodes,
      Content.prependIn_terse (depth + 1) _ c, Content.laidOut_terse depth rest]

end

/-! ## Reading the print -/

namespace Reading

/-- The reading whose character data, in escaped form, is all that follows the nodes. -/
def outside (opened : List OpenElement) (nodes : List Node) (pending : Text) : Reading :=
  ⟨opened, nodes, escape .content pending, false⟩

theorem flush?_outside (opened : List OpenElement) (nodes : List Node) (pending : Text) :
    (outside opened nodes pending).flush? = some (nodes ++ textNodes pending) := by
  rw [flush?, outside, unescape?_escape]
  rfl

theorem feed_outside_text (opened : List OpenElement) (nodes : List Node) (pending value s : Text) :
    (outside opened nodes pending).feed (escape .content value ++ s) =
      (outside opened nodes (pending ++ value)).feed s := by
  rw [feed_append, feed_of_flat (isFlat_escape .content value), Option.bind_some, outside, outside,
    escape_append]

theorem feed_outside_lineBreak {layout : Layout} (h : layout.isBlank = true) (depth : Nat)
    (opened : List OpenElement) (nodes : List Node) (pending s : Text) :
    (outside opened nodes pending).feed (layout.lineBreak depth ++ s) =
      (outside opened nodes (pending ++ layout.lineBreak depth)).feed s := by
  have hesc := escape_of_allBlank (allBlank_lineBreak h depth) .content
  rw [← feed_outside_text, hesc]

/-- A tag is read once its closing angle bracket is. -/
theorem feed_outside_tag {body : Text} (hflat : IsFlat body) (opened : List OpenElement)
    (nodes : List Node) (pending s : Text) :
    (outside opened nodes pending).feed ('<' :: body ++ '>' :: s) =
      ((Tag.read? body).bind (takeTag? ⟨opened, nodes ++ textNodes pending, body, true⟩)).bind
        fun r => r.feed s := by
  rw [List.cons_append, feed_open rfl, flush?_outside, Option.bind_some, feed_append,
    feed_of_flat hflat, Option.bind_some, List.nil_append, feed_close rfl]
  rfl

end Reading

theorem isFlat_emptyEnd (layout : Layout) : IsFlat layout.emptyEnd.dropLast := by
  cases layout with
  | terse => exact (by decide : IsFlat ['/'])
  | pretty unit => exact (by decide : IsFlat [' ', '/'])

open Reading in
/-- An empty tag is read as an element without content. -/
theorem feed_emptyTag {name : Text} (hn : isName name = true) {attributes : List (Text × Text)}
    (ha : ∀ a ∈ attributes, isName a.1 = true) (layout : Layout) (opened : List OpenElement)
    (nodes : List Node) (pending s : Text) :
    (outside opened nodes pending).feed
        ('<' :: name ++ printAttributes attributes ++ layout.emptyEnd ++ s) =
      (outside opened (nodes ++ textNodes pending ++ [.element name attributes []]) []).feed s := by
  have hend : layout.emptyEnd = layout.emptyEnd.dropLast ++ ['>'] := by cases layout <;> rfl
  have hflat : IsFlat (name ++ printAttributes attributes ++ layout.emptyEnd.dropLast) :=
    ((isFlat_of_isName hn).append (isFlat_printAttributes ha)).append (isFlat_emptyEnd layout)
  have hshape : '<' :: name ++ printAttributes attributes ++ layout.emptyEnd ++ s =
      '<' :: (name ++ printAttributes attributes ++ layout.emptyEnd.dropLast) ++ '>' :: s := by
    rw [hend]
    simp
  rw [hshape, feed_outside_tag hflat, Tag.read?_empty hn ha]
  rfl

open Reading in
/-- A start tag opens an element. -/
theorem feed_startTag {name : Text} (hn : isName name = true) {attributes : List (Text × Text)}
    (ha : ∀ a ∈ attributes, isName a.1 = true) (opened : List OpenElement) (nodes : List Node)
    (pending s : Text) :
    (outside opened nodes pending).feed ('<' :: name ++ printAttributes attributes ++ '>' :: s) =
      (outside (⟨name, attributes, nodes ++ textNodes pending⟩ :: opened) [] []).feed s := by
  have hflat := (isFlat_of_isName hn).append (isFlat_printAttributes ha)
  have hshape : '<' :: name ++ printAttributes attributes ++ '>' :: s =
      '<' :: (name ++ printAttributes attributes) ++ '>' :: s := by
    simp
  rw [hshape, feed_outside_tag hflat, Tag.read?_start hn ha]
  rfl

open Reading in
/-- An end tag closes the element of its name. -/
theorem feed_endTag {name : Text} (hn : isName name = true) (attributes : List (Text × Text))
    (before : List Node) (opened : List OpenElement) (nodes : List Node) (pending s : Text) :
    (outside (⟨name, attributes, before⟩ :: opened) nodes pending).feed
        ('<' :: '/' :: name ++ '>' :: s) =
      (outside opened
        (before ++ [.element name attributes (nodes ++ textNodes pending)]) []).feed s := by
  rw [feed_outside_tag (isFlat_stop hn), Tag.read?_stop hn]
  simp [takeTag?, outside]

mutual

/-- Reading an element adds its node after the character data before it. -/
theorem feed_body {layout : Layout} (hl : layout.isBlank = true) (depth : Nat) :
    ∀ (m : Markup), m.isNamed = true →
      ∀ (opened : List OpenElement) (nodes : List Node) (pending s : Text),
      (Reading.outside opened nodes pending).feed (m.body layout depth ++ s) =
        (Reading.outside opened (nodes ++ textNodes pending ++ [m.laidOut layout depth]) []).feed s
  | .empty name attributes, hm, opened, nodes, pending, s => by
    rw [Markup.isNamed, Bool.and_eq_true, List.all_eq_true] at hm
    rw [Markup.body, Markup.laidOut]
    exact feed_emptyTag hm.1 hm.2 layout opened nodes pending s
  | .node name attributes contents, hm, opened, nodes, pending, s => by
    rw [Markup.isNamed, Bool.and_eq_true, Bool.and_eq_true, List.all_eq_true] at hm
    obtain ⟨⟨hn, ha⟩, hc⟩ := hm
    have hshape : (Markup.node name attributes contents).body layout depth ++ s =
        '<' :: name ++ printAttributes attributes ++ '>' :: (Content.lines layout depth contents
          ++ (layout.lineBreak depth ++ ('<' :: '/' :: name ++ '>' :: s))) := by
      rw [Markup.body]
      simp
    -- the content is read with nothing before it in the new element
    obtain ⟨nodes', pending', hfeed, hnodes⟩ := feed_lines hl depth contents hc
      (⟨name, attributes, nodes ++ textNodes pending⟩ :: opened) [] []
      ('<' :: '/' :: name ++ '>' :: s)
    rw [List.nil_append, prependText_nil] at hnodes
    rw [hshape, feed_startTag hn ha, hfeed, feed_endTag hn, hnodes, Markup.laidOut]

/-- Reading a part of a content joins its text to the character data before it, or adds its node. -/
theorem feed_item {layout : Layout} (hl : layout.isBlank = true) (depth : Nat) :
    ∀ (c : Content), c.isNamed = true →
      ∀ (opened : List OpenElement) (nodes : List Node) (pending s : Text),
      ∃ (nodes' : List Node) (pending' : Text),
        (Reading.outside opened nodes pending).feed (c.item layout depth ++ s) =
          (Reading.outside opened nodes' pending').feed s ∧
        ∀ rest, nodes' ++ prependText pending' rest =
          nodes ++ prependText pending (c.prependIn layout depth rest)
  | .text value, _, opened, nodes, pending, s => by
    refine ⟨nodes, pending ++ value, ?_, fun rest => ?_⟩
    · rw [Content.item, Reading.feed_outside_text]
    · rw [Content.prependIn, prependText_append]
  | .markup m, hm, opened, nodes, pending, s => by
    rw [Content.isNamed] at hm
    refine ⟨nodes ++ textNodes pending ++ [m.laidOut layout depth], [], ?_, fun rest => ?_⟩
    · rw [Content.item, feed_body hl depth m hm]
    · rw [Content.prependIn, prependText_laidOut, prependText_nil]
      simp

/-- Reading the content of an element and the line end before its end tag adds the nodes of the
content. -/
theorem feed_lines {layout : Layout} (hl : layout.isBlank = true) (depth : Nat) :
    ∀ (contents : List Content), Content.areNamed contents = true →
      ∀ (opened : List OpenElement) (nodes : List Node) (pending s : Text),
      ∃ (nodes' : List Node) (pending' : Text),
        (Reading.outside opened nodes pending).feed
            (Content.lines layout depth contents ++ (layout.lineBreak depth ++ s)) =
          (Reading.outside opened nodes' pending').feed s ∧
        nodes' ++ textNodes pending' =
          nodes ++ prependText pending (Content.laidOut layout depth contents)
  | [], _, opened, nodes, pending, s => by
    refine ⟨nodes, pending ++ layout.lineBreak depth, ?_, ?_⟩
    · rw [Content.lines, List.nil_append, Reading.feed_outside_lineBreak hl]
    · rw [Content.laidOut, ← prependText_append]
      simp [prependText]
  | c :: rest, hc, opened, nodes, pending, s => by
    rw [Content.areNamed, Bool.and_eq_true] at hc
    obtain ⟨nodes₁, pending₁, hfeed₁, hnodes₁⟩ := feed_item hl (depth + 1) c hc.1 opened nodes
      (pending ++ layout.lineBreak (depth + 1))
      (Content.lines layout depth rest ++ (layout.lineBreak depth ++ s))
    obtain ⟨nodes₂, pending₂, hfeed₂, hnodes₂⟩ :=
      feed_lines hl depth rest hc.2 opened nodes₁ pending₁ s
    refine ⟨nodes₂, pending₂, ?_, ?_⟩
    · rw [Content.lines, List.append_assoc, List.append_assoc, Reading.feed_outside_lineBreak hl,
        hfeed₁, hfeed₂]
    · rw [hnodes₂, hnodes₁, Content.laidOut, prependText_append]

end

/-- The printed element is read as its node and the line end after it. -/
theorem readNodes_print {layout : Layout} (hl : layout.isBlank = true) (depth : Nat) {m : Markup}
    (hm : m.isNamed = true) :
    readNodes (m.print layout depth) =
      some (m.laidOut layout depth :: textNodes (layout.lineBreak depth)) := by
  have hstart : Reading.start = Reading.outside [] [] [] := rfl
  have hend := Reading.feed_outside_lineBreak hl depth [] [m.laidOut layout depth] [] []
  rw [List.append_nil] at hend
  rw [readNodes, Markup.print, hstart, feed_body hl depth m hm]
  show Option.bind (Reading.feed (Reading.outside [] [m.laidOut layout depth] []) _) _ = _
  rw [hend, Reading.feed, Option.bind_some, Reading.finish?]
  exact Reading.flush?_outside [] _ _

/-- The terse print determines the tree. -/
theorem readNodes_body_terse (depth : Nat) {m : Markup} (hm : m.isNamed = true) :
    readNodes (m.body .terse depth) = some [m.toNode] := by
  have hterse : Layout.isBlank .terse = true := rfl
  have h := readNodes_print hterse depth hm
  rw [Markup.print, Layout.lineBreak, List.append_nil, Markup.laidOut_terse depth m] at h
  exact h

end XmlTemplate
