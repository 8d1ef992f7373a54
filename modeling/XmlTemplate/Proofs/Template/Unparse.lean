import XmlTemplate.Proofs.Literal.Quote
import XmlTemplate.Proofs.Template.Grammar

/-!
# Writing templates as source text

`Template.unparse` writes a template as a source text for it. Names and literals are written as
string literals between double quotes, scripts as they stand in the template. Places count once: a
directive with an expression stands after the destination if it did so in the source.

A template without its places (`Template.unplaced`) still has the programs that were read from its
scripts, so that templates that agree without places are the same (`Template.same_of_unplaced`) and
fit in the same room (`Template.fits_unplaced`).
-/

set_option autoImplicit false

namespace XmlTemplate

/-! ## Source texts -/

/-- An expression in a group of its own. -/
def Embedded.unparse (e : Embedded) : Text := '{' :: (e.source ++ ['}'])

/-- A continuation, with its statements on lines of their own. -/
def Continuation.unparse (c : Continuation) : Text :=
  '{' :: '|' :: (c.argument ++ '|' :: '\n' :: (c.source ++ ['\n', '}']))

/-- The value of an attribute. -/
def AttributeValue.unparse : AttributeValue → Text
  | literal s => Literal.quote s
  | expression e => e.unparse

/-- An attribute, or a fill between braces. -/
def AttributeItem.unparse : AttributeItem → Text
  | named name value => Literal.quote name ++ '=' :: value.unparse
  | fill e => '{' :: '.' :: '.' :: (e.source ++ ['}'])

/-- Attributes and fills, each after a space. -/
def AttributeItem.unparseAll (items : List AttributeItem) : Text :=
  items.flatMap fun item => ' ' :: item.unparse

mutual

/-- An element with its tags. -/
def Element.unparse : Element → Text
  | .empty name items =>
    '<' :: (Literal.quote name ++ (AttributeItem.unparseAll items ++ ['/', '>']))
  | .node name items content =>
    '<' :: (Literal.quote name ++ (AttributeItem.unparseAll items ++
      '>' :: (Child.unparseAll content ++ '<' :: '/' :: (Literal.quote name ++ ['>']))))

/-- A part of a content. -/
def Child.unparse : Child → Text
  | .text s => Literal.quote s
  | .expression e => e.unparse
  | .element e => e.unparse
  | .continuation c => c.unparse

/-- A content, with a space between any two of its parts. -/
def Child.unparseAll : List Child → Text
  | [] => []
  | [c] => c.unparse
  | c :: d :: cs => c.unparse ++ ' ' :: Child.unparseAll (d :: cs)

end

/-- A directive. -/
def LayoutDirective.unparse : LayoutDirective → Text
  | unit s => '#' :: '[' :: ("indentation".toList ++ '=' :: (Literal.quote s ++ [']']))
  | expression e => '#' :: '[' :: ("format".toList ++ '=' :: (e.source ++ [']']))

/-- The expression for a document, up to and with the comma. -/
def Embedded.unparseDestination (e : Embedded) : Text := e.source ++ [',', ' ']

/-- The value of a `standalone` attribute. -/
def standaloneName (b : Bool) : Text := if b then "yes".toList else "no".toList

/-- An attribute of the declaration, after a space. -/
def unparsePrologAttribute (name value : Text) : Text := ' ' :: (name ++ '=' :: Literal.quote value)

/-- The declaration in full. -/
def Prolog.unparse (p : Prolog) : Text :=
  '<' :: '?' :: ("xml".toList ++ (unparsePrologAttribute "version".toList p.version.text ++
    (unparsePrologAttribute "encoding".toList Parse.encodingName ++
      ((p.standalone.elim [] fun b => unparsePrologAttribute "standalone".toList (standaloneName b)) ++
        ['?', '>']))))

/-- Whether an expression stands after another one. -/
def Embedded.isAfter (e f : Embedded) : Bool :=
  match e.span, f.span with
  | some p, some q => q.start < p.start
  | _, _ => false

/-- Whether the destination is written before the directive: it makes a difference for directives with
an expression alone. -/
def destinationFirst : Option Embedded → Option LayoutDirective → Bool
  | some e, some (.expression f) => f.isAfter e
  | _, _ => false

/-- The directive and the destination. -/
def unparseHead (into : Option Embedded) (layout : Option LayoutDirective) : Text :=
  if destinationFirst into layout then
    into.elim [] Embedded.unparseDestination ++ layout.elim [] LayoutDirective.unparse
  else layout.elim [] LayoutDirective.unparse ++ into.elim [] Embedded.unparseDestination

/-- A template as a source text. -/
def Template.unparse (t : Template) : Text :=
  unparseHead t.destination t.layout ++ (t.prolog.elim [] Prolog.unparse ++ t.root.unparse)

/-! ## Continuations -/

mutual

/-- The continuations in an element, in order. -/
def Element.continuations : Element → List Continuation
  | .empty .. => []
  | .node _ _ content => Child.allContinuations content

/-- The continuations in a part of a content. -/
def Child.continuations : Child → List Continuation
  | .text _ => []
  | .expression _ => []
  | .element e => e.continuations
  | .continuation c => [c]

/-- The continuations in a content. -/
def Child.allContinuations : List Child → List Continuation
  | [] => []
  | c :: cs => c.continuations ++ Child.allContinuations cs

end

/-! ## Templates without places -/

/-- An expression without its place. -/
def Embedded.unplaced (e : Embedded) : Embedded := { e with span := none }

/-- A continuation without its place. -/
def Continuation.unplaced (c : Continuation) : Continuation := { c with span := none }

/-- The value of an attribute without places. -/
def AttributeValue.unplaced : AttributeValue → AttributeValue
  | literal s => literal s
  | expression e => expression e.unplaced

/-- An attribute or a fill without places. -/
def AttributeItem.unplaced : AttributeItem → AttributeItem
  | named name value => named name value.unplaced
  | fill e => fill e.unplaced

mutual

/-- An element without places. -/
def Element.unplaced : Element → Element
  | .empty name items => .empty name (items.map AttributeItem.unplaced)
  | .node name items content =>
    .node name (items.map AttributeItem.unplaced) (Child.allUnplaced content)

/-- A part of a content without places. -/
def Child.unplaced : Child → Child
  | .text s => .text s
  | .expression e => .expression e.unplaced
  | .element e => .element e.unplaced
  | .continuation c => .continuation c.unplaced

/-- A content without places. -/
def Child.allUnplaced : List Child → List Child
  | [] => []
  | c :: cs => c.unplaced :: Child.allUnplaced cs

end

/-- A directive without places. -/
def LayoutDirective.unplaced : LayoutDirective → LayoutDirective
  | unit s => unit s
  | expression e => expression e.unplaced

/-- A template without places. -/
def Template.unplaced (t : Template) : Template :=
  ⟨t.root.unplaced, t.destination.map Embedded.unplaced, t.layout.map LayoutDirective.unplaced,
    t.prolog⟩

/-! ### Sameness -/

theorem Embedded.same_of_unplaced {e f : Embedded} (h : e.unplaced = f.unplaced) :
    e.same f = true := by
  rw [Embedded.same, beq_iff_eq]
  exact (Embedded.mk.inj h).1

theorem AttributeValue.same_of_unplaced {v w : AttributeValue} (h : v.unplaced = w.unplaced) :
    v.same w = true := by
  cases v <;> cases w <;>
    simp only [AttributeValue.unplaced, reduceCtorEq, AttributeValue.literal.injEq,
      AttributeValue.expression.injEq] at h
  · exact beq_iff_eq.2 h
  · exact Embedded.same_of_unplaced h

theorem AttributeItem.same_of_unplaced {i j : AttributeItem} (h : i.unplaced = j.unplaced) :
    i.same j = true := by
  cases i <;> cases j <;>
    simp only [AttributeItem.unplaced, reduceCtorEq, AttributeItem.named.injEq,
      AttributeItem.fill.injEq] at h
  · rw [AttributeItem.same, Bool.and_eq_true, beq_iff_eq]
    exact ⟨h.1, AttributeValue.same_of_unplaced h.2⟩
  · exact Embedded.same_of_unplaced h

theorem AttributeItem.sameAll_of_unplaced {is js : List AttributeItem}
    (h : is.map AttributeItem.unplaced = js.map AttributeItem.unplaced) :
    AttributeItem.sameAll is js = true := by
  induction is generalizing js with
  | nil =>
    obtain rfl : js = [] := List.map_eq_nil_iff.1 h.symm
    rfl
  | cons i is ih =>
    cases js with
    | nil => cases h
    | cons j js =>
      obtain ⟨hi, his⟩ := List.cons.inj h
      rw [AttributeItem.sameAll, Bool.and_eq_true]
      exact ⟨AttributeItem.same_of_unplaced hi, ih his⟩

mutual

theorem Element.same_of_unplaced : ∀ {e f : Element}, e.unplaced = f.unplaced → e.same f = true
  | .empty .., .empty .., h => by
    simp only [Element.unplaced, Element.empty.injEq] at h
    rw [Element.same, Bool.and_eq_true, beq_iff_eq]
    exact ⟨h.1, AttributeItem.sameAll_of_unplaced h.2⟩
  | .node .., .node .., h => by
    simp only [Element.unplaced, Element.node.injEq] at h
    rw [Element.same, Bool.and_eq_true, Bool.and_eq_true, beq_iff_eq]
    exact ⟨⟨h.1, AttributeItem.sameAll_of_unplaced h.2.1⟩, Child.sameAll_of_unplaced h.2.2⟩
  | .empty .., .node .., h => by simp only [Element.unplaced, reduceCtorEq] at h
  | .node .., .empty .., h => by simp only [Element.unplaced, reduceCtorEq] at h

theorem Child.same_of_unplaced : ∀ {c d : Child}, c.unplaced = d.unplaced → c.same d = true
  | .text _, d, h => by
    cases d <;> simp only [Child.unplaced, reduceCtorEq, Child.text.injEq] at h
    exact beq_iff_eq.2 h
  | .expression _, d, h => by
    cases d <;> simp only [Child.unplaced, reduceCtorEq, Child.expression.injEq] at h
    exact Embedded.same_of_unplaced h
  | .element _, d, h => by
    cases d <;> simp only [Child.unplaced, reduceCtorEq, Child.element.injEq] at h
    exact Element.same_of_unplaced h
  | .continuation c, d, h => by
    cases d <;> simp only [Child.unplaced, reduceCtorEq, Child.continuation.injEq] at h
    rw [Child.same, Bool.and_eq_true, beq_iff_eq, beq_iff_eq]
    have hparts := Continuation.mk.inj h
    exact ⟨hparts.1, hparts.2.1⟩

theorem Child.sameAll_of_unplaced : ∀ {cs ds : List Child},
    Child.allUnplaced cs = Child.allUnplaced ds → Child.sameAll cs ds = true
  | [], [], _ => rfl
  | [], _ :: _, h => by simp only [Child.allUnplaced, reduceCtorEq] at h
  | _ :: _, [], h => by simp only [Child.allUnplaced, reduceCtorEq] at h
  | c :: cs, d :: ds, h => by
    simp only [Child.allUnplaced, List.cons.injEq] at h
    rw [Child.sameAll, Bool.and_eq_true]
    exact ⟨Child.same_of_unplaced h.1, Child.sameAll_of_unplaced h.2⟩

end

theorem LayoutDirective.same_of_unplaced {l m : LayoutDirective} (h : l.unplaced = m.unplaced) :
    l.same m = true := by
  cases l <;> cases m <;>
    simp only [LayoutDirective.unplaced, reduceCtorEq, LayoutDirective.unit.injEq,
      LayoutDirective.expression.injEq] at h
  · exact beq_iff_eq.2 h
  · exact Embedded.same_of_unplaced h

theorem sameOption_of_map {α : Type} {same : α → α → Bool} {f : α → α} {a b : Option α}
    (hsame : ∀ {x y}, f x = f y → same x y = true) (h : a.map f = b.map f) :
    sameOption same a b = true := by
  cases a <;> cases b <;> simp only [Option.map_none, Option.map_some, reduceCtorEq,
    Option.some.injEq] at h
  · rfl
  · exact hsame h

/-- Templates that agree without places are the same up to places. -/
theorem Template.same_of_unplaced {t u : Template} (h : t.unplaced = u.unplaced) :
    t.same u = true := by
  simp only [Template.unplaced, Template.mk.injEq] at h
  obtain ⟨hroot, hinto, hlayout, hprolog⟩ := h
  rw [Template.same, Element.same_of_unplaced hroot,
    sameOption_of_map Embedded.same_of_unplaced hinto,
    sameOption_of_map LayoutDirective.same_of_unplaced hlayout, hprolog]
  simp

/-! ### Room -/

section

variable (permission : Permission) (room : Nat)

theorem AttributeItem.fits_unplaced (i : AttributeItem) :
    i.unplaced.Fits room ↔ i.Fits room := by
  rcases i with ⟨_, _ | _⟩ | _ <;> exact Iff.rfl

theorem AttributeItem.allFit_unplaced (is : List AttributeItem) :
    (∀ i ∈ is.map AttributeItem.unplaced, i.Fits room) ↔ ∀ i ∈ is, i.Fits room := by
  simp [AttributeItem.fits_unplaced]

mutual

theorem Element.fits_unplaced : ∀ (room : Nat) (e : Element),
    e.unplaced.Fits permission room ↔ e.Fits permission room
  | room, .empty name is => by
    rw [Element.unplaced, Element.Fits, Element.Fits, AttributeItem.allFit_unplaced]
  | room, .node name is cs => by
    rw [Element.unplaced, Element.Fits, Element.Fits, AttributeItem.allFit_unplaced,
      Child.allFit_unplaced room cs]

theorem Child.fits_unplaced : ∀ (room : Nat) (c : Child),
    c.unplaced.Fits permission room ↔ c.Fits permission room
  | _, .text _ => Iff.rfl
  | _, .expression _ => Iff.rfl
  | room, .element e => by
    rw [Child.unplaced, Child.Fits, Child.Fits, Element.fits_unplaced (room - elementRoom) e]
  | _, .continuation _ => Iff.rfl

theorem Child.allFit_unplaced : ∀ (room : Nat) (cs : List Child),
    Child.AllFit permission room (Child.allUnplaced cs) ↔ Child.AllFit permission room cs
  | _, [] => Iff.rfl
  | room, c :: cs => by
    rw [Child.allUnplaced, Child.AllFit, Child.AllFit, Child.fits_unplaced room c,
      Child.allFit_unplaced room cs]

end

theorem LayoutDirective.fits_unplaced (l : LayoutDirective) :
    l.unplaced.Fits room ↔ l.Fits room := by
  cases l <;> exact Iff.rfl

/-- Places make no difference for the room that a template takes. -/
theorem Template.fits_unplaced (t : Template) :
    t.unplaced.Fits permission room ↔ t.Fits permission room := by
  have hinto : (∀ e ∈ t.destination.map Embedded.unplaced, e.Fits (room - readingRoom)) ↔
      ∀ e ∈ t.destination, e.Fits (room - readingRoom) := by
    cases t.destination with
    | none => simp
    | some e =>
      simp only [Option.map_some, Option.mem_some_iff, forall_eq']
      exact Iff.rfl
  have hlayout : (∀ l ∈ t.layout.map LayoutDirective.unplaced, l.Fits (room - readingRoom)) ↔
      ∀ l ∈ t.layout, l.Fits (room - readingRoom) := by
    cases t.layout <;> simp [LayoutDirective.fits_unplaced]
  have hroot := Element.fits_unplaced permission (room - readingRoom) t.root
  constructor
  · exact fun h => ⟨hinto.1 h.destination, hlayout.1 h.layout, hroot.1 h.root⟩
  · exact fun h => ⟨hinto.2 h.destination, hlayout.2 h.layout, hroot.2 h.root⟩

end

end XmlTemplate
