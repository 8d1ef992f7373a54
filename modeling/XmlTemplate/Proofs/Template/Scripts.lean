import Mathlib.Data.List.Forall2
import XmlTemplate.Proofs.Template.Tails
import XmlTemplate.Proofs.Token.Cut

/-!
# Scripts as the source shows them

The scripts of a template that has been read are stretches of its source. In the markup every group
between braces is one script and there are no others, in the same order (`Grammar.Tagged.embeds`).
What is kept of it starts behind the opening brace, at the third token of a fill or behind the second
bar of a continuation, and ends at the closing brace. In the head a layout ends at the bracket of
its directive, and the destination with the last token before the comma. The main result is
`Template.cutFrom_of_parse`.
-/

set_option autoImplicit false

namespace XmlTemplate

/-! ## The scripts of a tree -/

/-- A script in the markup, by what it stands for: the value of an attribute or a part of a content,
any number of attributes, or a continuation. -/
inductive EmbeddedScript where
  | whole (e : Embedded)
  | fill (e : Embedded)
  | continuation (c : Continuation)

/-- The source of the script. -/
def EmbeddedScript.source : EmbeddedScript → Text
  | whole e => e.source
  | fill e => e.source
  | continuation c => c.source

/-- The script of an item of a start tag, if there is one. -/
def AttributeItem.scripts : AttributeItem → List EmbeddedScript
  | named _ (.literal _) => []
  | named _ (.expression e) => [.whole e]
  | fill e => [.fill e]

mutual

/-- The scripts of an element, in the order in which they are written. -/
def Element.scripts : Element → List EmbeddedScript
  | .empty _ items => items.flatMap AttributeItem.scripts
  | .node _ items content => items.flatMap AttributeItem.scripts ++ Child.allScripts content

/-- The scripts of a part of a content. -/
def Child.scripts : Child → List EmbeddedScript
  | .text _ => []
  | .expression e => [.whole e]
  | .element e => e.scripts
  | .continuation c => [.continuation c]

/-- The scripts of a content. -/
def Child.allScripts : List Child → List EmbeddedScript
  | [] => []
  | c :: cs => c.scripts ++ Child.allScripts cs

end

/-! ## Groups between braces -/

/-- The groups between braces among the tokens. -/
def braces (ts : List Token) : List Token := ts.filter (Token.isGroup ['{'])

@[simp] theorem braces_append (ts us : List Token) : braces (ts ++ us) = braces ts ++ braces us :=
  List.filter_append ts us

@[simp] theorem braces_nil : braces [] = [] := rfl

theorem braces_curly (text : Text) (p : Span) (inside ts : List Token) :
    braces (.group .curly text p inside :: ts) = .group .curly text p inside :: braces ts := rfl

theorem braces_cons {t : Token} (h : t.isGroup ['{'] = false) (ts : List Token) :
    braces (t :: ts) = braces ts := by
  rw [braces, List.filter_cons_of_neg (Bool.eq_false_iff.1 h), braces]

theorem Token.isGroup_of_isPunctuation {t : Token} {s o : Text} (h : t.isPunctuation s = true) :
    t.isGroup o = false := by
  cases t with
  | leaf => rfl
  | group => cases h

theorem Token.isGroup_of_isKind {t : Token} {k : Kind} {o : Text} (h : t.isKind k = true) :
    t.isGroup o = false := by
  cases t with
  | leaf => rfl
  | group => cases h

namespace Grammar

/-- A group and the script that the grammar derives from it. -/
inductive Embeds : Token → EmbeddedScript → Prop
  | whole {t : Token} {e : Embedded} (h : GroupExpression t e) : Embeds t (.whole e)
  | fill {t : Token} {e : Embedded} (h : Fill t e) : Embeds t (.fill e)
  | continuation {t : Token} {c : Continuation} (h : Body t c) : Embeds t (.continuation c)

variable {ts rest : List Token}

theorem Spells.isGroup {t : Token} {s o : Text} (h : Spells t s) : t.isGroup o = false := by
  cases h
  rfl

theorem IsNameRun.braces {wordNext : Bool} (h : IsNameRun wordNext ts) : braces ts = [] := by
  induction h with
  | nil => rfl
  | @word t ts ht _ ih =>
    cases t with
    | leaf => exact ih
    | group => cases ht
  | @mark _ t ts ht _ ih =>
    cases t with
    | leaf => exact ih
    | group => cases ht

/-- There is no group in a name. -/
theorem Name.braces {name : Text} (h : Name ts name rest) : braces ts = braces rest := by
  cases h with
  | run _ joined => rw [braces_append, joined.braces, List.nil_append]
  | string value => exact braces_cons value.isGroup rest

/-- Each of these relations takes the groups of its scripts off the head and no others. -/
def TakesScripts (ts : List Token) (scripts : List EmbeddedScript) (rest : List Token) : Prop :=
  ∃ groups, braces ts = groups ++ braces rest ∧ List.Forall₂ Embeds groups scripts

theorem takesScripts_nil (h : braces ts = braces rest) : TakesScripts ts [] rest := ⟨[], h, .nil⟩

theorem TakesScripts.of_embeds {t : Token} {s : EmbeddedScript} (h : Embeds t s) :
    TakesScripts (t :: rest) [s] rest := by
  have hgroup : t.isGroup ['{'] = true := by
    cases h with
    | whole h => cases h; rfl
    | fill h => cases h with | intro hg => rw [hg]; rfl
    | continuation h => cases h with | intro hg => rw [hg]; rfl
  exact ⟨[t], List.filter_cons_of_pos hgroup, .cons h .nil⟩

theorem TakesScripts.append {us : List Token} {scripts more : List EmbeddedScript}
    (h : TakesScripts ts scripts us) (h' : TakesScripts us more rest) :
    TakesScripts ts (scripts ++ more) rest := by
  obtain ⟨groups, hts, hgroups⟩ := h
  obtain ⟨groups', hus, hgroups'⟩ := h'
  exact ⟨groups ++ groups', by rw [hts, hus, List.append_assoc], List.rel_append hgroups hgroups'⟩

/-- Tokens in front that are no groups do not count. -/
theorem TakesScripts.congr {us : List Token} {scripts : List EmbeddedScript}
    (hbraces : braces ts = braces us) (h : TakesScripts us scripts rest) :
    TakesScripts ts scripts rest := by
  rwa [TakesScripts, hbraces]

/-! ## Markup -/

theorem Item.embeds {item : AttributeItem} (h : Item ts item rest) :
    TakesScripts ts item.scripts rest := by
  cases h with
  | @named _ _ _ eq t value hname heq hvalue =>
    have hfront := hname.braces.trans (braces_cons (Token.isGroup_of_isPunctuation heq) _)
    apply TakesScripts.congr hfront
    cases hvalue with
    | literal h => exact takesScripts_nil (braces_cons h.isGroup rest)
    | expression h => exact .of_embeds (.whole h)
  | fill h => exact .of_embeds (.fill h)

theorem StartTag.embeds {items : List AttributeItem} {empty : Bool}
    (h : StartTag ts items empty rest) :
    TakesScripts ts (items.flatMap AttributeItem.scripts) rest := by
  induction h with
  | opened hgt => exact takesScripts_nil (braces_cons (Token.isGroup_of_isPunctuation hgt) _)
  | empty hslash hgt =>
    apply takesScripts_nil
    rw [braces_cons (Token.isGroup_of_isPunctuation hslash),
      braces_cons (Token.isGroup_of_isPunctuation hgt)]
  | item first _ ih =>
    rw [List.flatMap_cons]
    exact first.embeds.append ih

theorem EndTag.braces {name : Text} (h : EndTag name ts rest) : braces ts = braces rest := by
  cases h with
  | named hlt hslash hname hgt =>
    rw [braces_cons (Token.isGroup_of_isPunctuation hlt),
      braces_cons (Token.isGroup_of_isPunctuation hslash), hname.braces,
      braces_cons (Token.isGroup_of_isPunctuation hgt)]
  | short hlt hslash hgt =>
    rw [braces_cons (Token.isGroup_of_isPunctuation hlt),
      braces_cons (Token.isGroup_of_isPunctuation hslash),
      braces_cons (Token.isGroup_of_isPunctuation hgt)]

mutual

/-- The groups between braces in an element are its scripts, in the same order. -/
theorem Tagged.embeds : ∀ {ts rest : List Token} {e : Element}, Tagged ts e rest →
    TakesScripts ts e.scripts rest
  | _, _, _, .empty hname htag => htag.embeds.congr hname.braces
  | _, _, _, .node hname htag hcontent hend => by
    have hcontents := (htag.embeds.congr hname.braces).append hcontent.embeds
    have hall := hcontents.append (takesScripts_nil hend.braces)
    rwa [List.append_nil] at hall

theorem Contents.embeds : ∀ {ts rest : List Token} {content : List Child},
    Contents ts content rest → TakesScripts ts (Child.allScripts content) rest
  | _, _, _, .nil _ => takesScripts_nil rfl
  | _, _, _, .cons first more => first.embeds.append more.embeds

theorem Part.embeds : ∀ {ts rest : List Token} {c : Child}, Part ts c rest →
    TakesScripts ts c.scripts rest
  | _, _, _, .text h => takesScripts_nil (braces_cons h.isGroup _)
  | _, _, _, .expression h _ => .of_embeds (.whole h)
  | _, _, _, .continuation h => .of_embeds (.continuation h)
  | _, _, _, .element hlt h =>
    h.embeds.congr (braces_cons (Token.isGroup_of_isPunctuation hlt) _)

end

/-! ## The declaration -/

theorem PrologAttribute.braces {name value : Text} (h : PrologAttribute name ts value rest) :
    braces ts = braces rest := by
  cases h with
  | intro hkey hword heq hvalue =>
    rw [braces_cons (Token.isGroup_of_isKind hkey),
      braces_cons (Token.isGroup_of_isPunctuation heq), braces_cons hvalue.isGroup]

theorem PrologRest.braces {standalone : Option Bool} (h : PrologRest ts standalone rest) :
    braces ts = braces rest := by
  cases h with
  | nil => rfl
  | encoding h => exact h.braces
  | standalone h hs => exact h.braces.trans hs.braces

theorem OptionalDeclaration.braces {declared : Option Prolog}
    (h : OptionalDeclaration ts declared rest) : braces ts = braces rest := by
  cases h with
  | nil => rfl
  | some h =>
    cases h with
    | intro hlt hmark hkey hword hversion hvalue hrest hmark' hgt =>
      rw [braces_cons (Token.isGroup_of_isPunctuation hlt),
        braces_cons (Token.isGroup_of_isPunctuation hmark),
        braces_cons (Token.isGroup_of_isKind hkey), hversion.braces, hrest.braces,
        braces_cons (Token.isGroup_of_isPunctuation hmark'),
        braces_cons (Token.isGroup_of_isPunctuation hgt)]

end Grammar

/-! ## Scripts of the markup in the source -/

/-- A group between braces and the script that it is. The source shows the script from just after the
opening brace, from the third token of a fill or from the end of the second bar of a continuation up
to the closing brace; what a continuation is made to run is the body that stands there. -/
inductive CutFrom (source : Text) : Token → EmbeddedScript → Prop
  | whole {text : Text} {p : Span} {inside : List Token} {e : Embedded}
      (shown : ShowsAt source p.start ('{' :: (e.source ++ ['}'])) p.stop) :
      CutFrom source (.group .curly text p inside) (.whole e)
  | fill {a b first : Token} {text : Text} {p : Span} {inside : List Token} {e : Embedded}
      (ha : a.isPunctuation ['.'] = true) (hb : b.isPunctuation ['.'] = true)
      (shown : ShowsAt source first.span.start (e.source ++ ['}']) p.stop) :
      CutFrom source (.group .curly text p (a :: b :: first :: inside)) (.fill e)
  | continuation {a x b : Token} {text body : Text} {p : Span} {inside : List Token}
      {c : Continuation} (ha : a.isPunctuation ['|'] = true) (hx : x.isKind .identifier = true)
      (hb : b.isPunctuation ['|'] = true) (argument : c.argument = x.text)
      (shown : ShowsAt source b.span.stop (body ++ ['}']) p.stop)
      (statements : c.source = Grammar.statementsOf body) :
      CutFrom source (.group .curly text p (a :: x :: b :: inside)) (.continuation c)

theorem Grammar.Expression.source_eq {source : Text} {p : Span} {e : Embedded}
    (h : Expression source p e) : e.source = source := by
  cases h
  rfl

/-- A script that is derived from a group in its place is what the source shows there. -/
theorem Grammar.Embeds.cutFrom {source : Text} {i j : Nat} {ts : List Token} {g : Token}
    {s : EmbeddedScript} (h : Embeds g s) (htiles : Tiles source i j ts) (hg : g ∈ ts) :
    CutFrom source g s := by
  cases h with
  | whole h =>
    cases h with
    | intro h =>
      apply CutFrom.whole
      rw [h.source_eq]
      exact htiles.showsAt_group hg
  | fill h =>
    cases h with
    | intro heq ha hb h =>
      subst heq
      apply CutFrom.fill ha hb
      rw [h.source_eq]
      exact htiles.showsAt_innerFrom hg (by simp)
  | continuation h =>
    cases h with
    | intro heq ha hx hb valid =>
      subst heq
      exact .continuation ha hx hb rfl (htiles.showsAt_innerAfter hg (by simp)) rfl

/-! ## Scripts of the head in the source -/

/-- A directive and the layout that it is: an expression is shown from the token after the equals
sign up to the closing bracket. -/
inductive LayoutCutFrom (source : Text) : Token → LayoutDirective → Prop
  | unit {g : Token} {indentation : Text} : LayoutCutFrom source g (.unit indentation)
  | expression {key eq first : Token} {text : Text} {p : Span} {inside : List Token} {e : Embedded}
      (hkey : key.text = "format".toList) (heq : eq.isPunctuation ['='] = true)
      (shown : ShowsAt source first.span.start (e.source ++ [']']) p.stop) :
      LayoutCutFrom source (.group .square text p (key :: eq :: first :: inside)) (.expression e)

/-- The head of a template and the scripts in it: a destination is shown from its first token to the
end of its last one, which is the last one before the first comma. -/
inductive HeadCutFrom (source : Text) :
    List Token → Option Embedded → Option LayoutDirective → List Token → Prop
  | nil (ts : List Token) : HeadCutFrom source ts none none ts
  | directive {sign group : Token} {ts rest : List Token} {into : Option Embedded}
      {layout : LayoutDirective} (hsign : sign.isPunctuation ['#'] = true)
      (h : LayoutCutFrom source group layout) (more : HeadCutFrom source ts into none rest) :
      HeadCutFrom source (sign :: group :: ts) into (some layout) rest
  | destination {ts us rest : List Token} {first last comma : Token} {e : Embedded}
      {layout : Option LayoutDirective} (hfirst : ts.head? = some first)
      (hlast : ts.getLast? = some last) (inside : ∀ t ∈ ts, t.isPunctuation [','] = false)
      (hcomma : comma.isPunctuation [','] = true)
      (shown : ShowsAt source first.span.start e.source last.span.stop)
      (more : HeadCutFrom source us none layout rest) :
      HeadCutFrom source (ts ++ comma :: us) (some e) layout rest

theorem Grammar.Directive.cutFrom {source : Text} {i j : Nat} {ts : List Token} {g : Token}
    {layout : LayoutDirective} (h : Directive g layout) (htiles : Tiles source i j ts)
    (hg : g ∈ ts) : LayoutCutFrom source g layout := by
  cases h with
  | unit => exact .unit
  | format heq hkey hword hequals h =>
    subst heq
    apply LayoutCutFrom.expression hword hequals
    rw [h.source_eq]
    exact htiles.showsAt_innerFrom hg (by simp)

theorem Grammar.Head.cutFrom {source : Text} {ts rest : List Token} {into : Option Embedded}
    {layout : Option LayoutDirective} (h : Head source ts into layout rest) {i : Nat}
    (htiles : Tiles source i source.length ts) : HeadCutFrom source ts into layout rest := by
  induction h generalizing i with
  | nil ts => exact .nil ts
  | @directive sign group ts _ _ _ hsign h _ ih =>
    obtain ⟨k, hbehind⟩ := Tiles.behind [sign, group] htiles
    exact .directive hsign (h.cutFrom htiles (by simp)) (ih hbehind)
  | @destination _ us _ _ _ h _ ih =>
    cases h with
    | @intro taken _ _ _ comma _ hfirst hlast hsign hlt inside hcomma h =>
      obtain ⟨hle, hstop⟩ := htiles.inOrder.start_le_stop hfirst hlast
      obtain ⟨k, hbehind⟩ := Tiles.behind (taken ++ [comma]) (by rwa [List.append_assoc])
      refine .destination hfirst hlast inside hcomma ?_ (ih hbehind)
      rw [h.source_eq]
      exact showsAt_cut hle hstop

namespace Template

open Grammar

variable {permission : Permission} {room : Nat} {source : Text} {t : Template}

/-- After the head of a template that has been read, the groups between braces are the scripts of the
markup one by one. -/
theorem embeds_of_parse (h : parse permission room source = .ok t) :
    ∃ ts rest, Token.lex source = .ok ts ∧
      HeadCutFrom source ts t.destination t.layout rest ∧
      (∃ lt ∈ rest.head?, lt.isPunctuation ['<'] = true) ∧
      List.Forall₂ (fun g s => g ∈ ts ∧ Embeds g s) (braces rest) t.root.scripts := by
  obtain ⟨ts, hlex, hderives, -⟩ := derives_of_parse h
  cases hderives with
  | @intro us vs _ lt _ _ _ _ hhead hdeclared hlt hroot htarget =>
    refine ⟨ts, us, hlex, hhead.cutFrom (lex_tiles hlex), ?_, ?_⟩
    · cases hdeclared with
      | nil => exact ⟨lt, rfl, hlt⟩
      | some h =>
        cases h with
        | intro hlt => exact ⟨_, rfl, hlt⟩
    · obtain ⟨taken, rfl, -⟩ := hhead.taken
      obtain ⟨groups, hgroups, hembeds⟩ := hroot.embeds
      have hbraces : braces us = groups := by
        rw [hdeclared.braces, braces_cons (Token.isGroup_of_isPunctuation hlt), hgroups,
          braces_nil, List.append_nil]
      have hmem : ∀ g ∈ groups, g ∈ taken ++ us := by
        intro g hg
        rw [← hbraces] at hg
        exact List.mem_append_right taken (List.mem_filter.1 hg).1
      rw [hbraces]
      exact (List.forall₂_and_left groups _).2 ⟨hmem, hembeds⟩

/-- Every script of a template that has been read is kept as the source shows it, wherever it
stands. -/
theorem cutFrom_of_parse (h : parse permission room source = .ok t) :
    ∃ ts rest, Token.lex source = .ok ts ∧
      HeadCutFrom source ts t.destination t.layout rest ∧
      (∃ lt ∈ rest.head?, lt.isPunctuation ['<'] = true) ∧
      List.Forall₂ (CutFrom source) (braces rest) t.root.scripts := by
  obtain ⟨ts, rest, hlex, hhead, hstart, hembeds⟩ := embeds_of_parse h
  refine ⟨ts, rest, hlex, hhead, hstart, hembeds.imp ?_⟩
  rintro g s ⟨hg, hs⟩
  exact hs.cutFrom (lex_tiles hlex) hg

/-- A layout and a destination, and scripts of all kinds on several lines, next to comments and to
strings with braces in them, in two elements. -/
def scriptedSource : Text :=
  ("#[format = 1 # ]\n] d['a,b'] , # \x7b\x7d\n" ++
    "<a b=\x7b 1 # '\n\x7d \x7b .. # \x7d\n 2 \x7d>\x7b'\x7d'\x7d" ++
    "<c>\x7b|d|\n  3\n\n   \n  4 \x7d\x7b|d|\x7d</c></a>").toList

theorem cutFrom_of_parse_scripted :
    ∃ t, parse .granted maxRoom scriptedSource = .ok t ∧
      t.destination.map Embedded.source = some "d['a,b']".toList ∧
      t.root.scripts.map EmbeddedScript.source =
        [" 1 # '\n".toList, "2 ".toList, "'\x7d'".toList, "3\n\n\n4".toList, "pass".toList] ∧
      ∃ ts rest, Token.lex scriptedSource = .ok ts ∧
        HeadCutFrom scriptedSource ts t.destination t.layout rest ∧
        List.Forall₂ (CutFrom scriptedSource) (braces rest) t.root.scripts := by
  have hread : (parse .granted maxRoom scriptedSource).toOption.map (fun t =>
      (t.destination.map Embedded.source, t.root.scripts.map EmbeddedScript.source)) =
      some (some "d['a,b']".toList,
        [" 1 # '\n".toList, "2 ".toList, "'\x7d'".toList, "3\n\n\n4".toList, "pass".toList]) := by
    decide +kernel
  cases h : parse .granted maxRoom scriptedSource with
  | error e =>
    rw [h] at hread
    cases hread
  | ok t =>
    rw [h] at hread
    obtain ⟨hdestination, hscripts⟩ := Prod.mk.inj (Option.some.inj hread)
    obtain ⟨ts, rest, hlex, hhead, -, hall⟩ := cutFrom_of_parse h
    exact ⟨t, rfl, hdestination, hscripts, ts, rest, hlex, hhead, hall⟩

end Template

end XmlTemplate
