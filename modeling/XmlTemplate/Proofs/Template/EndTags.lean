import XmlTemplate.Proofs.Template.Tails

/-!
# End tags

Every element of a template that is not empty has an end tag (`exists_derivesEnd`), and wherever
`</` stands after the head of a template there is the end tag of an element (`taggedEnd_or_after`).
The relations here are those of the grammar with one place marked, where the end tag of an element
stands.
-/

set_option autoImplicit false

namespace XmlTemplate

namespace Grammar

/-! ## Where an end tag stands -/

variable {ts rest : List Token}

mutual

/-- The tokens derive an element. The end tag of `f`, which is this element or one in it, stands at
`tag`, and `after` comes after it. -/
inductive TaggedEnd (f : Element) (tag after : List Token) :
    List Token → Element → List Token → Prop
  | own {ts us vs : List Token} {name : Text} {items : List AttributeItem} {content : List Child}
      (hname : Name ts name us) (htag : StartTag us items false vs)
      (hcontent : Contents vs content tag) (hend : EndTag name tag after)
      (hf : f = .node name items content) :
      TaggedEnd f tag after ts (.node name items content) after
  | inner {ts us vs ws rest : List Token} {name : Text} {items : List AttributeItem}
      {content : List Child} (hname : Name ts name us) (htag : StartTag us items false vs)
      (h : ContentsEnd f tag after vs content ws) (hend : EndTag name ws rest) :
      TaggedEnd f tag after ts (.node name items content) rest

/-- The same of a content that has `f` in it. -/
inductive ContentsEnd (f : Element) (tag after : List Token) :
    List Token → List Child → List Token → Prop
  | first {ts us rest : List Token} {part : Child} {parts : List Child}
      (h : PartEnd f tag after ts part us) (more : Contents us parts rest) :
      ContentsEnd f tag after ts (part :: parts) rest
  | later {ts us rest : List Token} {part : Child} {parts : List Child}
      (first : Part ts part us) (h : ContentsEnd f tag after us parts rest) :
      ContentsEnd f tag after ts (part :: parts) rest

/-- The same of a part of a content, which is `f` or has it in it. -/
inductive PartEnd (f : Element) (tag after : List Token) : List Token → Child → List Token → Prop
  | element {lt : Token} {ts rest : List Token} {e : Element}
      (hlt : lt.isPunctuation ['<'] = true) (h : TaggedEnd f tag after ts e rest) :
      PartEnd f tag after (lt :: ts) (.element e) rest

end

/-- The tokens derive a template with the end tag of `f` at `tag`. -/
inductive DerivesEnd (source : Text) (f : Element) (tag after : List Token) :
    List Token → Template → List Token → Prop
  | intro {ts us vs rest : List Token} {lt : Token} {root : Element} {into : Option Embedded}
      {layout : Option LayoutDirective} {declared : Option Prolog}
      (hhead : Head source ts into layout us) (hdeclared : OptionalDeclaration us declared (lt :: vs))
      (hlt : lt.isPunctuation ['<'] = true) (hroot : TaggedEnd f tag after vs root rest)
      (htarget : into.isSome = true ∨ declared.isSome = true) :
      DerivesEnd source f tag after ts ⟨root, into, layout, declared⟩ rest

/-! ## Every end tag -/

/-- An end tag has a name or none. -/
theorem EndTag.named_or_short {name : Text} {lt slash : Token} {ts rest : List Token}
    (h : EndTag name (lt :: slash :: ts) rest) :
    lt.isPunctuation ['<'] = true ∧ slash.isPunctuation ['/'] = true ∧
      ∃ gt, gt.isPunctuation ['>'] = true ∧ (Name ts name (gt :: rest) ∨ ts = gt :: rest) := by
  generalize hts : lt :: slash :: ts = us at h
  cases h with
  | named hlt hslash hname hgt =>
    cases hts
    exact ⟨hlt, hslash, _, hgt, .inl hname⟩
  | short hlt hslash hgt =>
    cases hts
    exact ⟨hlt, hslash, _, hgt, .inr rfl⟩

mutual

/-- What stands there is an end tag of the element. -/
theorem TaggedEnd.endTag {f : Element} {tag after ts rest : List Token} {e : Element} :
    TaggedEnd f tag after ts e rest → EndTag f.name tag after
  | .own _ _ _ hend hf => hf ▸ hend
  | .inner _ _ h _ => h.endTag

theorem ContentsEnd.endTag {f : Element} {tag after ts rest : List Token} {cs : List Child} :
    ContentsEnd f tag after ts cs rest → EndTag f.name tag after
  | .first h _ => h.endTag
  | .later _ h => h.endTag

theorem PartEnd.endTag {f : Element} {tag after ts rest : List Token} {part : Child} :
    PartEnd f tag after ts part rest → EndTag f.name tag after
  | .element _ h => h.endTag

end

end Grammar

mutual

/-- The elements with an end tag, which are those that are not empty: an element itself and those in
it. -/
def Element.closed : Element → List Element
  | .empty _ _ => []
  | .node name items content => .node name items content :: Child.closedIn content

/-- Those in a part of a content. -/
def Child.closed : Child → List Element
  | .element e => e.closed
  | _ => []

/-- Those in a content. -/
def Child.closedIn : List Child → List Element
  | [] => []
  | c :: cs => c.closed ++ Child.closedIn cs

end

namespace Grammar

mutual

theorem exists_taggedEnd : ∀ {ts rest : List Token} {e f : Element}, Tagged ts e rest →
    f ∈ e.closed → ∃ tag after, TaggedEnd f tag after ts e rest
  | _, _, _, _, .empty _ _, hf => by cases hf
  | _, _, _, f, .node hname htag hcontent hend, hf => by
    rcases List.mem_cons.1 hf with rfl | hf
    · exact ⟨_, _, .own hname htag hcontent hend rfl⟩
    · obtain ⟨tag, after, h⟩ := exists_contentsEnd hcontent hf
      exact ⟨tag, after, .inner hname htag h hend⟩

theorem exists_contentsEnd : ∀ {ts rest : List Token} {cs : List Child} {f : Element},
    Contents ts cs rest → f ∈ Child.closedIn cs → ∃ tag after, ContentsEnd f tag after ts cs rest
  | _, _, _, _, .nil _, hf => by cases hf
  | _, _, _, f, .cons first more, hf => by
    rcases List.mem_append.1 hf with hf | hf
    · obtain ⟨tag, after, h⟩ := exists_partEnd first hf
      exact ⟨tag, after, .first h more⟩
    · obtain ⟨tag, after, h⟩ := exists_contentsEnd more hf
      exact ⟨tag, after, .later first h⟩

theorem exists_partEnd : ∀ {ts rest : List Token} {part : Child} {f : Element},
    Part ts part rest → f ∈ part.closed → ∃ tag after, PartEnd f tag after ts part rest
  | _, _, _, _, .text _, hf => by cases hf
  | _, _, _, _, .expression _ _, hf => by cases hf
  | _, _, _, _, .continuation _, hf => by cases hf
  | _, _, _, f, .element hlt h, hf => by
    obtain ⟨tag, after, h⟩ := exists_taggedEnd h hf
    exact ⟨tag, after, .element hlt h⟩

end

/-- What stands there is an end tag of the element. -/
theorem DerivesEnd.endTag {source : Text} {f : Element} {tag after ts rest : List Token}
    {t : Template} (h : DerivesEnd source f tag after ts t rest) : EndTag f.name tag after := by
  cases h with
  | intro _ _ _ hroot => exact hroot.endTag

/-- Every element of a template that is not empty has an end tag. -/
theorem exists_derivesEnd {source : Text} {ts rest : List Token} {t : Template} {f : Element}
    (h : Derives source ts t rest) (hf : f ∈ t.root.closed) :
    ∃ tag after, DerivesEnd source f tag after ts t rest := by
  cases h with
  | intro hhead hdeclared hlt hroot htarget =>
    obtain ⟨tag, after, h⟩ := exists_taggedEnd hroot hf
    exact ⟨tag, after, .intro hhead hdeclared hlt h htarget⟩

/-! ## Where a tag ends an element -/

/-- No tag begins before the rest. -/
def NoTag (ts rest : List Token) : Prop :=
  ∃ taken, ts = taken ++ rest ∧ ∀ t ∈ taken, t.isPunctuation ['<'] = false

theorem NoTag.token {t : Token} (h : t.isPunctuation ['<'] = false) (rest : List Token) :
    NoTag (t :: rest) rest :=
  ⟨[t], rfl, List.forall_mem_singleton.2 h⟩

theorem NoTag.trans {ts us rest : List Token} (h : NoTag ts us) (h' : NoTag us rest) :
    NoTag ts rest := by
  obtain ⟨taken, rfl, hno⟩ := h
  obtain ⟨more, rfl, hno'⟩ := h'
  exact ⟨taken ++ more, (List.append_assoc ..).symm, List.forall_mem_append.2 ⟨hno, hno'⟩⟩

theorem NoTag.exists_of_endsHere {ts rest before tag : List Token} (h : NoTag ts rest)
    (hts : ts = before ++ tag) (htag : Parse.EndsHere tag) : ∃ before', rest = before' ++ tag := by
  obtain ⟨taken, rfl, hno⟩ := h
  obtain ⟨more, -, hrest⟩ | ⟨more, rfl, rfl⟩ := List.append_eq_append_iff.1 hts
  · exact ⟨more, hrest⟩
  · cases more with
    | nil => exact ⟨[], rfl⟩
    | cons t more =>
      obtain ⟨lt, slash, us, h, hlt, -⟩ := htag
      obtain rfl : t = lt := (List.cons.inj h).1
      rw [hno t (by simp)] at hlt
      cases hlt

theorem NoTag.mark {t : Token} {s : Text} (h : t.isPunctuation s = true) (hs : s ≠ ['<'])
    (rest : List Token) : NoTag (t :: rest) rest :=
  .token (Bool.eq_false_iff.2 fun hlt => hs (Parse.eq_of_isPunctuation h hlt)) rest

theorem NoTag.value {t : Token} {v : AttributeValue} (h : Value t v) (rest : List Token) :
    NoTag (t :: rest) rest := by
  cases h with
  | literal h => cases h; exact .token rfl rest
  | expression h => cases h; exact .token rfl rest

theorem noTag_run {wordNext : Bool} {run : List Token} (h : IsNameRun wordNext run)
    (rest : List Token) : NoTag (run ++ rest) rest := by
  induction h with
  | nil => exact ⟨[], rfl, List.forall_mem_nil _⟩
  | @word t _ ht _ ih =>
    have hlt : t.isPunctuation ['<'] = false := by
      rcases t with ⟨_ | _ | _ | _, _, _⟩ | _ <;> first | rfl | cases ht
    exact (NoTag.token hlt _).trans ih
  | @mark _ t _ ht _ ih =>
    have hlt : t.isPunctuation ['<'] = false := by
      refine Bool.eq_false_iff.2 fun hlt => ?_
      rcases t with ⟨_ | _ | _ | _, s, _⟩ | _ <;> try cases hlt
      obtain rfl : s = ['<'] := by simpa [Token.isPunctuation] using hlt
      cases ht
    exact (NoTag.token hlt _).trans ih

theorem noTag_name {ts rest : List Token} {n : Text} (h : Name ts n rest) : NoTag ts rest := by
  cases h with
  | run _ joined => exact noTag_run joined rest
  | string value => cases value; exact .token rfl _

theorem noTag_item {ts rest : List Token} {item : AttributeItem} (h : Item ts item rest) :
    NoTag ts rest := by
  cases h with
  | named hname heq hvalue =>
    exact (noTag_name hname).trans ((NoTag.mark heq (by decide) _).trans (.value hvalue rest))
  | fill h =>
    cases h with
    | intro hg => exact .token (by rw [hg]; rfl) _

theorem noTag_startTag {ts rest : List Token} {items : List AttributeItem} {empty : Bool}
    (h : StartTag ts items empty rest) : NoTag ts rest := by
  induction h with
  | opened hgt => exact .mark hgt (by decide) _
  | empty hslash hgt => exact (NoTag.mark hslash (by decide) _).trans (.mark hgt (by decide) _)
  | item first _ ih => exact (noTag_item first).trans ih

/-- After the first token of an end tag. -/
theorem noTag_endTag {lt : Token} {ts rest : List Token} {name : Text}
    (h : EndTag name (lt :: ts) rest) : NoTag ts rest := by
  cases h with
  | named _ hslash hname hgt =>
    exact (NoTag.mark hslash (by decide) _).trans
      ((noTag_name hname).trans (.mark hgt (by decide) rest))
  | short _ hslash hgt => exact (NoTag.mark hslash (by decide) _).trans (.mark hgt (by decide) rest)

theorem not_endsHere {ts : List Token} (h : Parse.GoesOn ts) : ¬Parse.EndsHere ts := by
  obtain ⟨t, us, rfl, hmore⟩ := h
  rintro ⟨lt, slash, vs, hts, hlt, hslash⟩
  obtain ⟨rfl, rfl⟩ := List.cons.inj hts
  obtain ⟨u, ws, hus, hno⟩ := hmore hlt
  obtain ⟨rfl, -⟩ := List.cons.inj hus
  rw [hslash] at hno
  cases hno

mutual

/-- Where `</` stands in the tokens of an element, there is an end tag. -/
theorem taggedEnd_or_after : ∀ {ts rest before tag : List Token} {e : Element}, Tagged ts e rest →
    ts = before ++ tag → Parse.EndsHere tag →
      (∃ f after, TaggedEnd f tag after ts e rest) ∨ ∃ before', rest = before' ++ tag
  | _, _, _, _, _, .empty hname htag, hts, hends =>
    .inr (((noTag_name hname).trans (noTag_startTag htag)).exists_of_endsHere hts hends)
  | _, _, _, tag, _, .node hname htag hcontent hend, hts, hends => by
    obtain ⟨inside, hvs⟩ := ((noTag_name hname).trans (noTag_startTag htag)).exists_of_endsHere
      hts hends
    obtain ⟨f, after, h⟩ | ⟨before, hws⟩ := contentsEnd_or_after hcontent hvs hends
    · exact .inl ⟨f, after, .inner hname htag h hend⟩
    · -- after the content comes the end tag itself, in which no other tag begins
      cases before with
      | nil =>
        obtain rfl := hws
        exact .inl ⟨_, _, .own hname htag hcontent hend rfl⟩
      | cons lt before =>
        obtain rfl := hws
        exact .inr ((noTag_endTag hend).exists_of_endsHere rfl hends)

theorem contentsEnd_or_after : ∀ {ts rest before tag : List Token} {cs : List Child},
    Contents ts cs rest → ts = before ++ tag → Parse.EndsHere tag →
      (∃ f after, ContentsEnd f tag after ts cs rest) ∨ ∃ before', rest = before' ++ tag
  | _, _, before, _, _, .nil _, hts, _ => .inr ⟨before, hts⟩
  | _, _, _, _, _, .cons first more, hts, hends => by
    obtain ⟨f, after, h⟩ | ⟨before, hus⟩ := partEnd_or_after first hts hends
    · exact .inl ⟨f, after, .first h more⟩
    · obtain ⟨f, after, h⟩ | h := contentsEnd_or_after more hus hends
      · exact .inl ⟨f, after, .later first h⟩
      · exact .inr h

theorem partEnd_or_after : ∀ {ts rest before tag : List Token} {part : Child},
    Part ts part rest → ts = before ++ tag → Parse.EndsHere tag →
      (∃ f after, PartEnd f tag after ts part rest) ∨ ∃ before', rest = before' ++ tag
  | _, _, _, _, _, .text h, hts, hends => by
    cases h
    exact .inr ((NoTag.token rfl _).exists_of_endsHere hts hends)
  | _, _, _, _, _, .expression h _, hts, hends => by
    cases h
    exact .inr ((NoTag.token rfl _).exists_of_endsHere hts hends)
  | _, _, _, _, _, .continuation h, hts, hends => by
    cases h with
    | intro hg => exact .inr ((NoTag.token (by rw [hg]; rfl) _).exists_of_endsHere hts hends)
  | _, _, before, tag, _, .element hlt h, hts, hends => by
    cases before with
    | nil =>
      -- a tag that begins an element goes on with a name
      obtain rfl := hts
      exact absurd hends (not_endsHere (Parse.goesOn_of_part (.element hlt h)))
    | cons t before =>
      obtain ⟨f, after, h⟩ | h := taggedEnd_or_after h (List.cons.inj hts).2 hends
      · exact .inl ⟨f, after, .element hlt h⟩
      · exact .inr h

end

end Grammar

end XmlTemplate
