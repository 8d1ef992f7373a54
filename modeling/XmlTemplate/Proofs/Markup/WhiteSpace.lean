import XmlTemplate.Proofs.Markup.RoundTrip

/-!
# White space in printed trees

A pretty print differs from the terse one in its line ends and units. Once the white space is
deleted from all character data, what is left of a unit is what is not white space to XML. So the
two prints of a tree are the same up to white space if and only if the unit is white space or is
never written (`strip_laidOut_eq_iff`). The number of units that a print holds is `Markup.units`.
-/

set_option autoImplicit false

namespace XmlTemplate

/-- A text without its white space. -/
def dropSpace (s : Text) : Text := s.filter fun c => !isSpace c

mutual

/-- A node without white space in its character data, before the nodes after it: character data that
is next to other character data is joined to it, and dropped where it is empty. -/
def Node.stripBefore : Node → List Node → List Node
  | .text value, rest => prependText (dropSpace value) rest
  | .element name attributes children, rest =>
    .element name attributes (Node.stripAll children) :: rest

/-- Nodes without white space in their character data. -/
def Node.stripAll : List Node → List Node
  | [] => []
  | n :: rest => n.stripBefore (Node.stripAll rest)

end

mutual

/-- The number of characters of character data in a node. -/
def Node.textLength : Node → Nat
  | .text value => value.length
  | .element _ _ children => Node.textLengthAll children

/-- The number of characters of character data in nodes. -/
def Node.textLengthAll : List Node → Nat
  | [] => 0
  | n :: rest => n.textLength + Node.textLengthAll rest

end

mutual

/-- The number of units in the pretty print of an element at a depth. -/
def Markup.units (depth : Nat) : Markup → Nat
  | .empty .. => 0
  | .node _ _ contents => Content.units depth contents

/-- The number of units in a part of a content, at its own depth. -/
def Content.unitsIn (depth : Nat) : Content → Nat
  | .text _ => 0
  | .markup m => m.units depth

/-- The number of units in the content of an element at a depth, with those before its end tag. -/
def Content.units (depth : Nat) : List Content → Nat
  | [] => depth
  | c :: rest => depth + 1 + c.unitsIn (depth + 1) + Content.units depth rest

end

mutual

/-- The number of characters in the texts of an element that are not white space. -/
def Markup.filled : Markup → Nat
  | .empty .. => 0
  | .node _ _ contents => Content.filledAll contents

/-- The number of characters in a part of a content that are not white space. -/
def Content.filled : Content → Nat
  | .text value => (dropSpace value).length
  | .markup m => m.filled

/-- The number of characters in a content that are not white space. -/
def Content.filledAll : List Content → Nat
  | [] => 0
  | c :: rest => c.filled + Content.filledAll rest

end

theorem dropSpace_append (s t : Text) : dropSpace (s ++ t) = dropSpace s ++ dropSpace t :=
  List.filter_append ..

theorem dropSpace_eq_nil_iff {s : Text} : dropSpace s = [] ↔ s.all isSpace = true := by
  simp [dropSpace]

theorem stripAll_prependText (value : Text) (nodes : List Node) :
    Node.stripAll (prependText value nodes) =
      prependText (dropSpace value) (Node.stripAll nodes) := by
  by_cases hv : value = []
  · rw [hv, prependText_nil]
    exact (prependText_nil _).symm
  cases nodes with
  | nil => simp [prependText, textNodes, hv, Node.stripAll, Node.stripBefore]
  | cons n rest =>
    cases n with
    | text w =>
      rw [prependText, if_neg hv, Node.stripAll, Node.stripBefore, dropSpace_append,
        prependText_append]
      rfl
    | element name attributes children =>
      rw [prependText_element, textNodes, if_neg hv, List.singleton_append, Node.stripAll,
        Node.stripBefore]

theorem textLengthAll_prependText (value : Text) (nodes : List Node) :
    Node.textLengthAll (prependText value nodes) = value.length + Node.textLengthAll nodes := by
  by_cases hv : value = []
  · rw [hv, prependText_nil, List.length_nil, Nat.zero_add]
  cases nodes with
  | nil => simp [prependText, textNodes, hv, Node.textLengthAll, Node.textLength]
  | cons n rest =>
    cases n with
    | text w =>
      rw [prependText, if_neg hv, Node.textLengthAll, Node.textLengthAll, Node.textLength,
        Node.textLength, List.length_append, Nat.add_assoc]
    | element name attributes children =>
      rw [prependText_element, textNodes, if_neg hv, List.singleton_append, Node.textLengthAll,
        Node.textLength]

/-! ## What units leave behind -/

theorem length_dropSpace_lineBreak (layout : Layout) (depth : Nat) :
    (dropSpace (layout.lineBreak depth)).length = depth * (dropSpace layout.unitText).length := by
  cases layout with
  | terse => simp [Layout.lineBreak, Layout.unitText, dropSpace]
  | pretty unit =>
    have hbreak : dropSpace (Layout.lineBreak (.pretty unit) depth) =
        dropSpace (List.replicate depth unit).flatten := rfl
    rw [hbreak]
    clear hbreak
    -- the line end is white space, so that only the units count
    induction depth with
    | zero => simp [dropSpace]
    | succ n ih =>
      rw [List.replicate_succ, List.flatten_cons, dropSpace_append, List.length_append, ih,
        Nat.succ_mul, Nat.add_comm]
      rfl

mutual

/-- Without white space, a print holds the texts of the tree and, for each of its units, what of a
unit is not white space. -/
theorem textLength_laidOut (layout : Layout) (depth : Nat) :
    ∀ (m : Markup) (rest : List Node),
      Node.textLengthAll ((m.laidOut layout depth).stripBefore rest) =
        m.filled + m.units depth * (dropSpace layout.unitText).length + Node.textLengthAll rest
  | .empty name attributes, rest => by
    simp [Markup.laidOut, Markup.filled, Markup.units, Node.stripBefore, Node.stripAll,
      Node.textLengthAll, Node.textLength]
  | .node name attributes contents, rest => by
    rw [Markup.laidOut, Markup.filled, Markup.units, Node.stripBefore, Node.textLengthAll,
      Node.textLength, textLength_contents layout depth contents]

theorem textLength_content (layout : Layout) (depth : Nat) :
    ∀ (c : Content) (nodes : List Node),
      Node.textLengthAll (Node.stripAll (c.prependIn layout depth nodes)) =
        c.filled + c.unitsIn depth * (dropSpace layout.unitText).length +
          Node.textLengthAll (Node.stripAll nodes)
  | .text value, nodes => by
    rw [Content.prependIn, Content.filled, Content.unitsIn, stripAll_prependText,
      textLengthAll_prependText, Nat.zero_mul, Nat.add_zero]
  | .markup m, nodes => by
    rw [Content.prependIn, Content.filled, Content.unitsIn, Node.stripAll,
      textLength_laidOut layout depth m]

theorem textLength_contents (layout : Layout) (depth : Nat) :
    ∀ contents : List Content,
      Node.textLengthAll (Node.stripAll (Content.laidOut layout depth contents)) =
        Content.filledAll contents +
          Content.units depth contents * (dropSpace layout.unitText).length
  | [] => by
    rw [Content.laidOut, Content.filledAll, Content.units, stripAll_prependText,
      textLengthAll_prependText, length_dropSpace_lineBreak]
    simp [Node.stripAll, Node.textLengthAll]
  | c :: rest => by
    rw [Content.laidOut, Content.filledAll, Content.units, stripAll_prependText,
      textLengthAll_prependText, length_dropSpace_lineBreak,
      textLength_content layout (depth + 1) c, textLength_contents layout depth rest]
    simp only [Nat.add_mul]
    omega

end

theorem dropSpace_lineBreak {layout : Layout} (h : layout.unitText.all isSpace = true)
    (depth : Nat) : dropSpace (layout.lineBreak depth) = [] := by
  have hunit : dropSpace layout.unitText = [] := dropSpace_eq_nil_iff.2 h
  have hlength := length_dropSpace_lineBreak layout depth
  rw [hunit, List.length_nil, Nat.mul_zero] at hlength
  exact List.length_eq_zero_iff.1 hlength

mutual

/-- Units of white space leave nothing behind. -/
theorem stripBefore_laidOut {layout : Layout} (h : layout.unitText.all isSpace = true)
    (depth : Nat) :
    ∀ (m : Markup) (rest : List Node),
      (m.laidOut layout depth).stripBefore rest = m.toNode.stripBefore rest
  | .empty name attributes, rest => by rw [Markup.laidOut, Markup.toNode]
  | .node name attributes contents, rest => by
    rw [Markup.laidOut, Markup.toNode, Node.stripBefore, Node.stripBefore,
      stripAll_laidOut h depth contents]

theorem stripAll_prependIn {layout : Layout} (h : layout.unitText.all isSpace = true)
    (depth : Nat) {nodes nodes' : List Node} (hn : Node.stripAll nodes = Node.stripAll nodes') :
    ∀ c : Content,
      Node.stripAll (c.prependIn layout depth nodes) = Node.stripAll (c.prepend nodes')
  | .text value => by
    rw [Content.prependIn, Content.prepend, stripAll_prependText, stripAll_prependText, hn]
  | .markup m => by
    rw [Content.prependIn, Content.prepend, Node.stripAll, Node.stripAll, hn,
      stripBefore_laidOut h depth m]

theorem stripAll_laidOut {layout : Layout} (h : layout.unitText.all isSpace = true)
    (depth : Nat) :
    ∀ contents : List Content,
      Node.stripAll (Content.laidOut layout depth contents) =
        Node.stripAll (Content.toNodes contents)
  | [] => by
    rw [Content.laidOut, Content.toNodes, stripAll_prependText, dropSpace_lineBreak h depth,
      prependText_nil]
  | c :: rest => by
    rw [Content.laidOut, Content.toNodes, stripAll_prependText, dropSpace_lineBreak h (depth + 1),
      prependText_nil]
    exact stripAll_prependIn h (depth + 1) (stripAll_laidOut h depth rest) c

end

/-! ## Whether two prints agree -/

/-- A print holds no unit only if it is that of an element without content at depth 0. -/
theorem units_add_depth_eq_zero_iff (depth : Nat) (m : Markup) :
    m.units depth + depth = 0 ↔ depth = 0 ∧ m.contents = [] := by
  cases m with
  | empty name attributes => simp [Markup.units, Markup.contents]
  | node name attributes contents =>
    cases contents with
    | nil => simp [Markup.units, Content.units, Markup.contents]
    | cons c rest =>
      simp only [Markup.units, Content.units, Markup.contents, reduceCtorEq, and_false, iff_false]
      omega

theorem filled_toNode (m : Markup) (rest : List Node) :
    Node.textLengthAll (m.toNode.stripBefore rest) = m.filled + Node.textLengthAll rest := by
  have hterse : (Layout.unitText .terse).all isSpace = true := rfl
  rw [← stripBefore_laidOut hterse 0 m rest, textLength_laidOut]
  simp [Layout.unitText, dropSpace]

theorem prependText_of_nil (s : Text) : prependText s [] = textNodes s := List.append_nil _

theorem stripAll_textNodes (s : Text) :
    Node.stripAll (textNodes s) = textNodes (dropSpace s) := by
  rw [← prependText_of_nil, stripAll_prependText, Node.stripAll, prependText_of_nil]

theorem textLengthAll_textNodes (s : Text) : Node.textLengthAll (textNodes s) = s.length := by
  rw [← prependText_of_nil, textLengthAll_prependText, Node.textLengthAll, Nat.add_zero]

/-- What is read back from a print at a depth, with the line end after it. -/
def Markup.printed (layout : Layout) (depth : Nat) (m : Markup) : List Node :=
  m.laidOut layout depth :: textNodes (layout.lineBreak depth)

/-- A pretty print and a terse one are the same up to white space in character data if and only if
the unit is white space, or is never written because nothing is nested. -/
theorem strip_laidOut_eq_iff (layout : Layout) (depth : Nat) (m : Markup) :
    Node.stripAll (m.printed layout depth) = Node.stripAll [m.toNode] ↔
      layout.unitText.all isSpace = true ∨ (depth = 0 ∧ m.contents = []) := by
  rw [Markup.printed, Node.stripAll, Node.stripAll, stripAll_textNodes]
  constructor
  · intro heq
    -- both sides are counted: what is left of a unit, once for each unit
    have hcount := congrArg Node.textLengthAll heq
    have hbreak : Node.textLengthAll (textNodes (dropSpace (layout.lineBreak depth))) =
        depth * (dropSpace layout.unitText).length := by
      rw [textLengthAll_textNodes, length_dropSpace_lineBreak]
    rw [textLength_laidOut, filled_toNode, hbreak] at hcount
    have hzero : (m.units depth + depth) * (dropSpace layout.unitText).length = 0 := by
      rw [Nat.add_mul]
      simp only [Node.stripAll, Node.textLengthAll] at hcount
      omega
    rcases Nat.mul_eq_zero.1 hzero with hnone | hunit
    · exact Or.inr ((units_add_depth_eq_zero_iff depth m).1 hnone)
    · exact Or.inl (dropSpace_eq_nil_iff.1 (List.length_eq_zero_iff.1 hunit))
  · rintro (hunit | ⟨rfl, hnone⟩)
    · rw [stripBefore_laidOut hunit, dropSpace_lineBreak hunit]
      rfl
    · have hbreak : dropSpace (layout.lineBreak 0) = [] := by
        apply List.length_eq_zero_iff.1
        rw [length_dropSpace_lineBreak, Nat.zero_mul]
      rw [hbreak]
      cases m with
      | empty name attributes => rfl
      | node name attributes contents =>
        cases contents with
        | cons c rest => cases hnone
        | nil =>
          rw [Markup.laidOut, Markup.toNode, Node.stripBefore, Node.stripBefore, Content.laidOut,
            Content.toNodes, stripAll_prependText, hbreak, prependText_nil]
          rfl

end XmlTemplate
