import XmlTemplate.Proofs.Template.Body
import XmlTemplate.Proofs.Template.Reading

/-!
# What reading guarantees of a template

A template that has been read is valid (`Template.isValid_of_parse`): at every depth its names are
names and its scripts are filled and what their sources are read as, its unit of indentation is
blank, and there is a document to write into or a declaration to begin one with. What remains is in
the types: an empty element has no content, a directive is a unit or an expression and never both,
and a declaration has one of two versions and two answers or none.

All of this is said of trees, and proved by induction on how the grammar derives them, one case for
each of its rules.
-/

set_option autoImplicit false

namespace XmlTemplate

/-! ## Valid trees -/

/-- An expression whose source is not blank and is read as the expression. -/
structure Embedded.IsValid (e : Embedded) : Prop where
  filled : e.source.allBlank = false
  compiles : Script.expression? e.source = some e.code

/-- A continuation whose source is not blank and is read as its statements. -/
structure Continuation.IsValid (c : Continuation) : Prop where
  filled : c.source.allBlank = false
  compiles : Script.program? c.source = some c.code

/-- A text or a valid expression. -/
def AttributeValue.IsValid : AttributeValue → Prop
  | literal _ => True
  | expression e => e.IsValid

/-- An attribute with a name, or a valid fill. -/
def AttributeItem.IsValid : AttributeItem → Prop
  | named name value => isName name = true ∧ value.IsValid
  | fill e => e.IsValid

mutual

/-- An element whose names are names and whose scripts are valid, at every depth. -/
def Element.IsValid : Element → Prop
  | .empty name items => isName name = true ∧ ∀ i ∈ items, i.IsValid
  | .node name items content =>
    isName name = true ∧ (∀ i ∈ items, i.IsValid) ∧ Child.AllValid content

/-- A part of a content that is valid at every depth. -/
def Child.IsValid : Child → Prop
  | .text _ => True
  | .expression e => e.IsValid
  | .element e => e.IsValid
  | .continuation c => c.IsValid

/-- A content that is valid at every depth. -/
def Child.AllValid : List Child → Prop
  | [] => True
  | c :: cs => c.IsValid ∧ Child.AllValid cs

end

/-- A blank unit of indentation or a valid expression. -/
def LayoutDirective.IsValid : LayoutDirective → Prop
  | unit indentation => indentation.allBlank = true
  | expression e => e.IsValid

/-- A declaration of one of the two versions that says yes, no or nothing of other documents. -/
structure Prolog.IsValid (p : Prolog) : Prop where
  version : p.version.text ∈ ["1.0".toList, "1.1".toList]
  standalone : Document.standaloneText p.standalone ∈
    [[], [" standalone=\"yes\"".toList], [" standalone=\"no\"".toList]]

/-- A template that is valid in all its parts and has a place to be written to. -/
structure Template.IsValid (t : Template) : Prop where
  root : t.root.IsValid
  target : t.destination.isSome = true ∨ t.prolog.isSome = true
  destination : ∀ e ∈ t.destination, e.IsValid
  layout : ∀ l ∈ t.layout, l.IsValid
  prolog : ∀ p ∈ t.prolog, p.IsValid

theorem Element.IsValid.isName {e : Element} (h : e.IsValid) : isName e.name = true := by
  cases e with
  | empty name items => exact h.1
  | node name items content => exact h.1

theorem Element.IsValid.attributes {e : Element} (h : e.IsValid) :
    ∀ i ∈ e.attributes, i.IsValid := by
  cases e with
  | empty name items => exact h.2
  | node name items content => exact h.2.1

theorem Prolog.isValid (p : Prolog) : p.IsValid where
  version := by cases p.version <;> decide
  standalone := by rcases p.standalone with _ | _ | _ <;> decide

/-! ## What the grammar derives -/

namespace Grammar

variable {source text : Text} {p : Span} {e : Embedded} {t : Token} {ts rest : List Token}

theorem isName_of_name {name : Text} (h : Name ts name rest) : isName name = true := by
  cases h with
  | run filled joined longest valid => exact valid
  | string value valid => exact valid

theorem Expression.isValid (h : Expression text p e) : e.IsValid := by
  cases h with
  | intro filled valid => exact ⟨filled, valid⟩

theorem GroupExpression.isValid (h : GroupExpression t e) : e.IsValid := by
  cases h with
  | intro h => exact h.isValid

theorem Fill.isValid (h : Fill t e) : e.IsValid := by
  cases h with
  | intro hg ha hb h => exact h.isValid

theorem Body.isValid {c : Continuation} (h : Body t c) : c.IsValid := by
  cases h with
  | intro hg ha hx hb valid => exact ⟨allBlank_statementsOf _, valid⟩

theorem Item.isValid {i : AttributeItem} (h : Item ts i rest) : i.IsValid := by
  cases h with
  | named hname heq hvalue =>
    refine ⟨isName_of_name hname, ?_⟩
    cases hvalue with
    | literal h => trivial
    | expression h => exact h.isValid
  | fill h => exact h.isValid

theorem StartTag.isValid {items : List AttributeItem} {empty : Bool}
    (h : StartTag ts items empty rest) : ∀ i ∈ items, i.IsValid := by
  induction h with
  | opened hgt => exact List.forall_mem_nil _
  | empty hslash hgt => exact List.forall_mem_nil _
  | item first more ih => exact List.forall_mem_cons.2 ⟨first.isValid, ih⟩

mutual

theorem Tagged.isValid : ∀ {ts : List Token} {e : Element} {rest : List Token},
    Tagged ts e rest → e.IsValid
  | _, _, _, .empty hname htag => ⟨isName_of_name hname, htag.isValid⟩
  | _, _, _, .node hname htag hcontent _ =>
    ⟨isName_of_name hname, htag.isValid, hcontent.allValid⟩

theorem Contents.allValid : ∀ {ts : List Token} {cs : List Child} {rest : List Token},
    Contents ts cs rest → Child.AllValid cs
  | _, _, _, .nil _ => trivial
  | _, _, _, .cons first more => ⟨first.isValid, more.allValid⟩

theorem Part.isValid : ∀ {ts : List Token} {c : Child} {rest : List Token},
    Part ts c rest → c.IsValid
  | _, _, _, .text _ => trivial
  | _, _, _, .expression h _ => GroupExpression.isValid h
  | _, _, _, .continuation h => Body.isValid h
  | _, _, _, .element _ h => Tagged.isValid h

end

theorem Directive.isValid {l : LayoutDirective} (h : Directive t l) : l.IsValid := by
  cases h with
  | unit hkey hword heq hvalue hblank => exact hblank
  | format hg hkey hword heq h => exact h.isValid

/-- Directives and destinations are valid wherever they stand in the head. -/
theorem Head.isValid {into : Option Embedded} {layout : Option LayoutDirective}
    (h : Head source ts into layout rest) :
    (∀ e ∈ into, e.IsValid) ∧ ∀ l ∈ layout, l.IsValid := by
  induction h with
  | nil ts =>
    constructor
    · rintro e ⟨⟩
    · rintro l ⟨⟩
  | directive hsign h more ih =>
    refine ⟨ih.1, ?_⟩
    rintro l ⟨⟩
    exact h.isValid
  | destination h more ih =>
    refine ⟨?_, ih.2⟩
    rintro e ⟨⟩
    cases h with
    | intro hfirst hlast hsign hlt inside hcomma h => exact h.isValid

theorem Derives.isValid {t : Template} (h : Derives source ts t rest) : t.IsValid := by
  cases h with
  | intro hhead hdeclared hlt hroot htarget =>
    obtain ⟨hinto, hlayout⟩ := hhead.isValid
    exact ⟨hroot.isValid, htarget, hinto, hlayout, fun p _ => p.isValid⟩

end Grammar

end XmlTemplate
