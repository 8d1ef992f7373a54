import XmlTemplate.Template.Parser

/-!
# The grammar of templates

What a list of tokens says, without regard to how it is read. Every relation here takes tokens off
the head of a list: `R ts a rest` means that `ts` starts with tokens that derive `a`, and that `rest`
is what comes after them. What comes after counts for names alone, which go on for as long as they
can.

Embedded scripts are read by `Script.expression?` and `Script.program?`; the grammar says which part
of the source is a script and where it stands. Limits of nesting are no part of it: `Template.Fits`
says which of the templates that the grammar derives can be read in a given room.
-/

set_option autoImplicit false

namespace XmlTemplate.Grammar

/-! ## Strings and names -/

/-- A string, without formatting, that stands for a text. -/
inductive Spells : Token → Text → Prop
  | string {s value : Text} {p : Span}
      (plain : ((s.takeWhile isStringMark).any fun c => c == 'f' || c == 'F') = false)
      (constant : Script.readConstant s = .ok (.text value)) : Spells (.leaf .string s p) value

/-- Words and marks of a name, no two words in a row; a word may come first where `wordNext`
holds. -/
inductive IsNameRun : (wordNext : Bool) → List Token → Prop
  | nil (wordNext : Bool) : IsNameRun wordNext []
  | word {t : Token} {ts : List Token} (ht : t.isNameWord = true) (more : IsNameRun false ts) :
      IsNameRun true (t :: ts)
  | mark {wordNext : Bool} {t : Token} {ts : List Token} (ht : t.isNameMark = true)
      (more : IsNameRun true ts) : IsNameRun wordNext (t :: ts)

/-- A name: the longest run of words and marks, or a string. -/
inductive Name : List Token → Text → List Token → Prop
  | run {run rest : List Token} (filled : run ≠ []) (joined : IsNameRun true run)
      (longest : ∀ t ∈ rest.head?, ¬IsNameRun true (run ++ [t]))
      (valid : isName (run.flatMap Token.text) = true) :
      Name (run ++ rest) (run.flatMap Token.text) rest
  | string {t : Token} {name : Text} {rest : List Token} (value : Spells t name)
      (valid : isName name = true) : Name (t :: rest) name rest

/-! ## Embedded scripts -/

/-- A source, which is not blank, and the expression that it is. -/
inductive Expression (source : Text) (p : Span) : Embedded → Prop
  | intro {code : Script.Expr} (filled : source.allBlank = false)
      (valid : Script.expression? source = some code) :
      Expression source p ⟨source, code, some p⟩

/-- A group that is an expression from end to end. -/
inductive GroupExpression : Token → Embedded → Prop
  | intro {text : Text} {p : Span} {inside : List Token} {e : Embedded}
      (h : Expression text p e) : GroupExpression (.group .curly text p inside) e

/-- A group with two full stops and an expression from the next token on. -/
inductive Fill : Token → Embedded → Prop
  | intro {g a b first : Token} {text : Text} {p : Span} {inside : List Token} {e : Embedded}
      (hg : g = .group .curly text p (a :: b :: first :: inside))
      (ha : a.isPunctuation ['.'] = true) (hb : b.isPunctuation ['.'] = true)
      (h : Expression (g.innerFrom first) first.span e) : Fill g e

/-- The statements that the text after the second bar of a continuation is; an empty body does
nothing. -/
def statementsOf (body : Text) : Text :=
  if (bodySource body).isEmpty then "pass".toList else bodySource body

/-- A group with an argument between two bars and statements after them. -/
inductive Body : Token → Continuation → Prop
  | intro {g a x b : Token} {text : Text} {p : Span} {inside : List Token}
      {code : List Script.Stmt} (hg : g = .group .curly text p (a :: x :: b :: inside))
      (ha : a.isPunctuation ['|'] = true) (hx : x.isKind .identifier = true)
      (hb : b.isPunctuation ['|'] = true)
      (valid : Script.program? (statementsOf (g.innerAfter b)) = some code) :
      Body g ⟨x.text, statementsOf (g.innerAfter b), code, some p⟩

/-! ## Elements -/

/-- The value of an attribute. -/
inductive Value : Token → AttributeValue → Prop
  | literal {t : Token} {s : Text} (h : Spells t s) : Value t (.literal s)
  | expression {t : Token} {e : Embedded} (h : GroupExpression t e) : Value t (.expression e)

/-- An attribute or a fill. -/
inductive Item : List Token → AttributeItem → List Token → Prop
  | named {ts rest : List Token} {name : Text} {eq t : Token} {value : AttributeValue}
      (hname : Name ts name (eq :: t :: rest)) (heq : eq.isPunctuation ['='] = true)
      (hvalue : Value t value) : Item ts (.named name value) rest
  | fill {t : Token} {e : Embedded} {rest : List Token} (h : Fill t e) :
      Item (t :: rest) (.fill e) rest

/-- Any number of attributes and fills up to the end of a start tag, and whether that ends an empty
element. -/
inductive StartTag : List Token → List AttributeItem → (empty : Bool) → List Token → Prop
  | opened {gt : Token} {rest : List Token} (hgt : gt.isPunctuation ['>'] = true) :
      StartTag (gt :: rest) [] false rest
  | empty {slash gt : Token} {rest : List Token} (hslash : slash.isPunctuation ['/'] = true)
      (hgt : gt.isPunctuation ['>'] = true) : StartTag (slash :: gt :: rest) [] true rest
  | item {ts us rest : List Token} {item : AttributeItem} {items : List AttributeItem}
      {empty : Bool} (first : Item ts item us) (more : StartTag us items empty rest) :
      StartTag ts (item :: items) empty rest

/-- The end tag of an element with the given name, which may be left out. -/
inductive EndTag (name : Text) : List Token → List Token → Prop
  | named {lt slash gt : Token} {ts rest : List Token} (hlt : lt.isPunctuation ['<'] = true)
      (hslash : slash.isPunctuation ['/'] = true) (hname : Name ts name (gt :: rest))
      (hgt : gt.isPunctuation ['>'] = true) : EndTag name (lt :: slash :: ts) rest
  | short {lt slash gt : Token} {rest : List Token} (hlt : lt.isPunctuation ['<'] = true)
      (hslash : slash.isPunctuation ['/'] = true) (hgt : gt.isPunctuation ['>'] = true) :
      EndTag name (lt :: slash :: gt :: rest) rest

mutual

/-- An element after its `<`. -/
inductive Tagged : List Token → Element → List Token → Prop
  | empty {ts us rest : List Token} {name : Text} {items : List AttributeItem}
      (hname : Name ts name us) (htag : StartTag us items true rest) :
      Tagged ts (.empty name items) rest
  | node {ts us vs ws rest : List Token} {name : Text} {items : List AttributeItem}
      {content : List Child} (hname : Name ts name us) (htag : StartTag us items false vs)
      (hcontent : Contents vs content ws) (hend : EndTag name ws rest) :
      Tagged ts (.node name items content) rest

/-- Any number of parts of a content. -/
inductive Contents : List Token → List Child → List Token → Prop
  | nil (ts : List Token) : Contents ts [] ts
  | cons {ts us rest : List Token} {part : Child} {parts : List Child}
      (first : Part ts part us) (more : Contents us parts rest) : Contents ts (part :: parts) rest

/-- One part of the content of an element. A group that begins with a bar is a continuation and
nothing else. -/
inductive Part : List Token → Child → List Token → Prop
  | text {t : Token} {s : Text} {rest : List Token} (h : Spells t s) : Part (t :: rest) (.text s) rest
  | expression {t : Token} {e : Embedded} {rest : List Token} (h : GroupExpression t e)
      (hbar : Parse.isContinuation t = false) : Part (t :: rest) (.expression e) rest
  | continuation {t : Token} {c : Continuation} {rest : List Token} (h : Body t c) :
      Part (t :: rest) (.continuation c) rest
  | element {lt : Token} {ts rest : List Token} {e : Element}
      (hlt : lt.isPunctuation ['<'] = true) (h : Tagged ts e rest) :
      Part (lt :: ts) (.element e) rest

end

/-! ## The head of a template -/

/-- A directive without its number sign. -/
inductive Directive : Token → LayoutDirective → Prop
  | unit {key eq value : Token} {text unit : Text} {p : Span}
      (hkey : key.isKind .identifier = true) (hword : key.text = "indentation".toList)
      (heq : eq.isPunctuation ['='] = true) (hvalue : Spells value unit)
      (hblank : unit.allBlank = true) :
      Directive (.group .square text p [key, eq, value]) (.unit unit)
  | format {g key eq first : Token} {text : Text} {p : Span} {inside : List Token} {e : Embedded}
      (hg : g = .group .square text p (key :: eq :: first :: inside))
      (hkey : key.isKind .identifier = true) (hword : key.text = "format".toList)
      (heq : eq.isPunctuation ['='] = true)
      (h : Expression (g.innerFrom first) first.span e) : Directive g (.expression e)

/-- The tokens up to the first comma, which are the expression for a document. It does not start as
a directive or as markup. -/
inductive Destination (source : Text) : List Token → Embedded → List Token → Prop
  | intro {ts rest : List Token} {first last comma : Token} {e : Embedded}
      (hfirst : ts.head? = some first) (hlast : ts.getLast? = some last)
      (hsign : first.isPunctuation ['#'] = false) (hlt : first.isPunctuation ['<'] = false)
      (inside : ∀ t ∈ ts, t.isPunctuation [','] = false)
      (hcomma : comma.isPunctuation [','] = true)
      (h : Expression ((source.drop first.span.start).take (last.span.stop - first.span.start))
        first.span e) :
      Destination source (ts ++ comma :: rest) e rest

/-- At most one directive and at most one destination, in any order. -/
inductive Head (source : Text) :
    List Token → Option Embedded → Option LayoutDirective → List Token → Prop
  | nil (ts : List Token) : Head source ts none none ts
  | directive {sign group : Token} {ts rest : List Token} {into : Option Embedded}
      {layout : LayoutDirective} (hsign : sign.isPunctuation ['#'] = true)
      (h : Directive group layout) (more : Head source ts into none rest) :
      Head source (sign :: group :: ts) into (some layout) rest
  | destination {ts us rest : List Token} {e : Embedded} {layout : Option LayoutDirective}
      (h : Destination source ts e us) (more : Head source us none layout rest) :
      Head source ts (some e) layout rest

/-- An attribute of the declaration. -/
inductive PrologAttribute (name : Text) : List Token → Text → List Token → Prop
  | intro {key eq t : Token} {rest : List Token} {value : Text}
      (hkey : key.isKind .identifier = true) (hword : key.text = name)
      (heq : eq.isPunctuation ['='] = true) (hvalue : Spells t value) :
      PrologAttribute name (key :: eq :: t :: rest) value rest

/-- What may follow the version in a declaration. -/
inductive PrologRest : List Token → Option Bool → List Token → Prop
  | nil (ts : List Token) : PrologRest ts none ts
  | encoding {ts rest : List Token}
      (h : PrologAttribute "encoding".toList ts Parse.encodingName rest) :
      PrologRest ts none rest
  | standalone {ts us rest : List Token} {value : Text} {b : Bool}
      (h : PrologAttribute "encoding".toList ts Parse.encodingName us)
      (hs : PrologAttribute "standalone".toList us value rest)
      (hvalue : Parse.standalone? value = some b) : PrologRest ts (some b) rest

/-- The declaration of a document. -/
inductive Declaration : List Token → Prolog → List Token → Prop
  | intro {lt mark key mark' gt : Token} {ts us rest : List Token} {text : Text} {version : Version}
      {standalone : Option Bool} (hlt : lt.isPunctuation ['<'] = true)
      (hmark : mark.isPunctuation ['?'] = true) (hkey : key.isKind .identifier = true)
      (hword : key.text = "xml".toList)
      (hversion : PrologAttribute "version".toList ts text us)
      (hvalue : Version.ofText? text = some version)
      (hrest : PrologRest us standalone (mark' :: gt :: rest))
      (hmark' : mark'.isPunctuation ['?'] = true) (hgt : gt.isPunctuation ['>'] = true) :
      Declaration (lt :: mark :: key :: ts) ⟨version, standalone⟩ rest

/-- A declaration that may be missing. -/
inductive OptionalDeclaration : List Token → Option Prolog → List Token → Prop
  | nil (ts : List Token) : OptionalDeclaration ts none ts
  | some {ts rest : List Token} {p : Prolog} (h : Declaration ts p rest) :
      OptionalDeclaration ts (some p) rest

/-- A template, written into a document that is there or into a new one. -/
inductive Derives (source : Text) : List Token → Template → List Token → Prop
  | intro {ts us vs rest : List Token} {lt : Token} {root : Element} {into : Option Embedded}
      {layout : Option LayoutDirective} {declared : Option Prolog}
      (hhead : Head source ts into layout us) (hdeclared : OptionalDeclaration us declared (lt :: vs))
      (hlt : lt.isPunctuation ['<'] = true) (hroot : Tagged vs root rest)
      (htarget : into.isSome = true ∨ declared.isSome = true) :
      Derives source ts ⟨root, into, layout, declared⟩ rest

end XmlTemplate.Grammar

namespace XmlTemplate

/-! ## Room -/

/-- An expression that can be read in an element with the given room. -/
def Embedded.Fits (room : Nat) (e : Embedded) : Prop :=
  e.code.stacked ≤ Script.maxStacked ∧ e.code.depth ≤ scriptDepth room

/-- A continuation that is allowed and can be read in an element with the given room. -/
def Continuation.Fits (permission : Permission) (room : Nat) (c : Continuation) : Prop :=
  permission = .granted ∧ Script.stackedIn c.code ≤ Script.maxStackedIn ∧
    Script.depthAll c.code ≤ scriptDepth room

/-- A value of an attribute that can be read in an element with the given room. -/
def AttributeValue.Fits (room : Nat) : AttributeValue → Prop
  | literal _ => True
  | expression e => e.Fits room

/-- An attribute or fill that can be read in an element with the given room. -/
def AttributeItem.Fits (room : Nat) : AttributeItem → Prop
  | named _ value => value.Fits room
  | fill e => e.Fits room

mutual

/-- An element that can be read in the given room, of which it leaves less to the elements in it. -/
def Element.Fits (permission : Permission) (room : Nat) : Element → Prop
  | .empty name items => nameRoom name ≤ room ∧ ∀ i ∈ items, i.Fits room
  | .node name items content =>
    nameRoom name ≤ room ∧ (∀ i ∈ items, i.Fits room) ∧ Child.AllFit permission room content

/-- A part of a content that can be read in an element with the given room. -/
def Child.Fits (permission : Permission) (room : Nat) : Child → Prop
  | .text _ => True
  | .expression e => e.Fits room
  | .element e => e.Fits permission (room - elementRoom)
  | .continuation c => c.Fits permission room

/-- A content that can be read in an element with the given room. -/
def Child.AllFit (permission : Permission) (room : Nat) : List Child → Prop
  | [] => True
  | c :: cs => c.Fits permission room ∧ Child.AllFit permission room cs

end

/-- A directive that can be read in the given room. -/
def LayoutDirective.Fits (room : Nat) : LayoutDirective → Prop
  | unit _ => True
  | expression e => e.Fits room

/-- A template that can be read in the given room. -/
structure Template.Fits (permission : Permission) (room : Nat) (t : Template) : Prop where
  destination : ∀ e ∈ t.destination, e.Fits (room - readingRoom)
  layout : ∀ l ∈ t.layout, l.Fits (room - readingRoom)
  root : t.root.Fits permission (room - readingRoom)

end XmlTemplate
