import XmlTemplate.Proofs.Template.Reading

/-!
# Other tokens after a derivation

What the grammar derives, it derives from the tokens that it takes off the head, and whatever comes
after them may be exchanged. Only a name goes on for as long as it can, so that the next token has
to stay or to be missing; in every other rule a token of its own comes last.

Each lemma names the tokens that are taken: `h.taken` says that they stand in front of the rest and
that they derive the same in front of any other.
-/

set_option autoImplicit false

namespace XmlTemplate.Grammar

variable {ts rest : List Token}

/-! ## Names and tags -/

/-- A name stays what it is if the next token does or is missing. -/
theorem Name.taken {name : Text} (h : Name ts name rest) :
    ∃ taken, taken ≠ [] ∧ ts = taken ++ rest ∧
      ∀ rest', (∀ t ∈ rest'.head?, t ∈ rest.head?) → Name (taken ++ rest') name rest' := by
  cases h with
  | @run run _ filled joined longest valid =>
    exact ⟨run, filled, rfl, fun rest' hnext =>
      .run filled joined (fun t ht => longest t (hnext t ht)) valid⟩
  | @string t _ _ value valid =>
    exact ⟨[t], List.cons_ne_nil _ _, rfl, fun rest' _ => .string value valid⟩

/-- In front of tokens that begin with the same ones. -/
theorem Name.taken_append {name : Text} {mid : List Token} (hmid : mid ≠ [])
    (h : Name ts name (mid ++ rest)) :
    ∃ taken, taken ≠ [] ∧ ts = taken ++ mid ++ rest ∧
      ∀ rest', Name (taken ++ mid ++ rest') name (mid ++ rest') := by
  obtain ⟨u, mid, rfl⟩ := List.exists_cons_of_ne_nil hmid
  obtain ⟨taken, hfilled, rfl, hname⟩ := h.taken
  refine ⟨taken, hfilled, (List.append_assoc ..).symm, fun rest' => ?_⟩
  rw [List.append_assoc]
  exact hname _ fun t ht => ht

theorem Item.taken {item : AttributeItem} (h : Item ts item rest) :
    ∃ taken, taken ≠ [] ∧ ts = taken ++ rest ∧ ∀ rest', Item (taken ++ rest') item rest' := by
  cases h with
  | @named _ _ _ eq t _ hname heq hvalue =>
    -- the equals sign is what the name stops at, and it is taken along
    have hmid : [eq, t] ≠ [] := List.cons_ne_nil _ _
    obtain ⟨taken, hfilled, rfl, hname'⟩ := Name.taken_append hmid hname
    refine ⟨taken ++ [eq, t], by simp, rfl, fun rest' => ?_⟩
    exact .named (hname' rest') heq hvalue
  | @fill t _ _ h => exact ⟨[t], List.cons_ne_nil _ _, rfl, fun rest' => .fill h⟩

theorem StartTag.taken {items : List AttributeItem} {empty : Bool}
    (h : StartTag ts items empty rest) :
    ∃ taken, taken ≠ [] ∧ ts = taken ++ rest ∧
      ∀ rest', StartTag (taken ++ rest') items empty rest' := by
  induction h with
  | @opened gt _ hgt => exact ⟨[gt], List.cons_ne_nil _ _, rfl, fun rest' => .opened hgt⟩
  | @empty slash gt _ hslash hgt =>
    exact ⟨[slash, gt], List.cons_ne_nil _ _, rfl, fun rest' => .empty hslash hgt⟩
  | item first _ ih =>
    obtain ⟨more, _, rfl, hmore⟩ := ih
    obtain ⟨taken, hfilled, rfl, hitem⟩ := first.taken
    refine ⟨taken ++ more, by simp [hfilled], (List.append_assoc ..).symm, fun rest' => ?_⟩
    rw [List.append_assoc]
    exact .item (hitem _) (hmore rest')

theorem EndTag.taken {name : Text} (h : EndTag name ts rest) :
    ∃ taken, taken ≠ [] ∧ ts = taken ++ rest ∧ ∀ rest', EndTag name (taken ++ rest') rest' := by
  cases h with
  | @named lt slash gt _ _ hlt hslash hname hgt =>
    have hmid : [gt] ≠ [] := List.cons_ne_nil _ _
    obtain ⟨taken, -, rfl, hname'⟩ := Name.taken_append hmid hname
    refine ⟨lt :: slash :: (taken ++ [gt]), List.cons_ne_nil _ _, by simp, fun rest' => ?_⟩
    exact .named hlt hslash (hname' rest') hgt
  | @short lt slash gt _ hlt hslash hgt =>
    exact ⟨[lt, slash, gt], List.cons_ne_nil _ _, rfl, fun rest' => .short hlt hslash hgt⟩

/-! ## Markup -/

mutual

theorem Tagged.taken : ∀ {ts rest : List Token} {e : Element}, Tagged ts e rest →
    ∃ taken, taken ≠ [] ∧ ts = taken ++ rest ∧ ∀ rest', Tagged (taken ++ rest') e rest'
  | _, _, _, .empty hname htag => by
    obtain ⟨tag, hfilled, rfl, htag'⟩ := htag.taken
    obtain ⟨taken, _, rfl, hname'⟩ := Name.taken_append hfilled hname
    exact ⟨taken ++ tag, by simp [hfilled], rfl, fun rest' => .empty (hname' rest') (htag' rest')⟩
  | _, _, _, .node hname htag hcontent hend => by
    obtain ⟨stop, _, rfl, hend'⟩ := hend.taken
    obtain ⟨content, rfl, hcontent'⟩ := hcontent.taken
    obtain ⟨tag, hfilled, rfl, htag'⟩ := htag.taken
    obtain ⟨taken, _, rfl, hname'⟩ := Name.taken_append hfilled hname
    refine ⟨taken ++ tag ++ content ++ stop, by simp [hfilled], by simp, fun rest' => ?_⟩
    rw [List.append_assoc, List.append_assoc (taken ++ tag)]
    exact .node (hname' _) (htag' _) (hcontent' _) (hend' rest')

theorem Contents.taken : ∀ {ts rest : List Token} {content : List Child},
    Contents ts content rest →
    ∃ taken, ts = taken ++ rest ∧ ∀ rest', Contents (taken ++ rest') content rest'
  | _, _, _, .nil _ => ⟨[], rfl, fun rest' => .nil rest'⟩
  | _, _, _, .cons first more => by
    obtain ⟨parts, rfl, hparts⟩ := more.taken
    obtain ⟨part, _, rfl, hpart⟩ := first.taken
    refine ⟨part ++ parts, (List.append_assoc ..).symm, fun rest' => ?_⟩
    rw [List.append_assoc]
    exact .cons (hpart _) (hparts rest')

theorem Part.taken : ∀ {ts rest : List Token} {c : Child}, Part ts c rest →
    ∃ taken, taken ≠ [] ∧ ts = taken ++ rest ∧ ∀ rest', Part (taken ++ rest') c rest'
  | t :: _, _, _, .text h => ⟨[t], List.cons_ne_nil _ _, rfl, fun _ => .text h⟩
  | t :: _, _, _, .expression h hbar =>
    ⟨[t], List.cons_ne_nil _ _, rfl, fun _ => .expression h hbar⟩
  | t :: _, _, _, .continuation h => ⟨[t], List.cons_ne_nil _ _, rfl, fun _ => .continuation h⟩
  | lt :: _, _, _, .element hlt h => by
    obtain ⟨taken, _, rfl, h'⟩ := h.taken
    exact ⟨lt :: taken, List.cons_ne_nil _ _, rfl, fun rest' => .element hlt (h' rest')⟩

end

/-! ## The head of a template -/

theorem Destination.taken {source : Text} {e : Embedded} (h : Destination source ts e rest) :
    ∃ taken, taken ≠ [] ∧ ts = taken ++ rest ∧
      ∀ rest', Destination source (taken ++ rest') e rest' := by
  cases h with
  | @intro us _ _ _ comma _ hfirst hlast hsign hlt inside hcomma h =>
    refine ⟨us ++ [comma], by simp, by simp, fun rest' => ?_⟩
    rw [List.append_assoc]
    exact .intro hfirst hlast hsign hlt inside hcomma h

theorem Head.taken {source : Text} {into : Option Embedded} {layout : Option LayoutDirective}
    (h : Head source ts into layout rest) :
    ∃ taken, ts = taken ++ rest ∧ ∀ rest', Head source (taken ++ rest') into layout rest' := by
  induction h with
  | nil => exact ⟨[], rfl, fun rest' => .nil rest'⟩
  | @directive sign group _ _ _ _ hsign h _ ih =>
    obtain ⟨taken, rfl, hmore⟩ := ih
    exact ⟨sign :: group :: taken, rfl, fun rest' => .directive hsign h (hmore rest')⟩
  | destination h _ ih =>
    obtain ⟨more, rfl, hmore⟩ := ih
    obtain ⟨taken, _, rfl, h'⟩ := h.taken
    refine ⟨taken ++ more, (List.append_assoc ..).symm, fun rest' => ?_⟩
    rw [List.append_assoc]
    exact .destination (h' _) (hmore rest')

theorem PrologAttribute.taken {name value : Text} (h : PrologAttribute name ts value rest) :
    ∃ taken, ts = taken ++ rest ∧ ∀ rest', PrologAttribute name (taken ++ rest') value rest' := by
  cases h with
  | @intro key eq t _ _ hkey hword heq hvalue =>
    exact ⟨[key, eq, t], rfl, fun rest' => .intro hkey hword heq hvalue⟩

theorem PrologRest.taken {standalone : Option Bool} (h : PrologRest ts standalone rest) :
    ∃ taken, ts = taken ++ rest ∧ ∀ rest', PrologRest (taken ++ rest') standalone rest' := by
  cases h with
  | nil => exact ⟨[], rfl, fun rest' => .nil rest'⟩
  | encoding h =>
    obtain ⟨taken, rfl, h'⟩ := h.taken
    exact ⟨taken, rfl, fun rest' => .encoding (h' rest')⟩
  | standalone h hs hvalue =>
    obtain ⟨more, rfl, hs'⟩ := hs.taken
    obtain ⟨taken, rfl, h'⟩ := h.taken
    refine ⟨taken ++ more, (List.append_assoc ..).symm, fun rest' => ?_⟩
    rw [List.append_assoc]
    exact .standalone (h' _) (hs' rest') hvalue

theorem Declaration.taken {p : Prolog} (h : Declaration ts p rest) :
    ∃ taken, taken ≠ [] ∧ ts = taken ++ rest ∧ ∀ rest', Declaration (taken ++ rest') p rest' := by
  cases h with
  | @intro lt mark key mark' gt _ _ _ _ _ _ hlt hmark hkey hword hversion hvalue hrest hmark' hgt =>
    obtain ⟨more, rfl, hrest'⟩ := hrest.taken
    obtain ⟨version, rfl, hversion'⟩ := hversion.taken
    refine ⟨lt :: mark :: key :: (version ++ more ++ [mark', gt]), List.cons_ne_nil _ _, by simp,
      fun rest' => ?_⟩
    have hlist : version ++ more ++ [mark', gt] ++ rest' =
        version ++ (more ++ mark' :: gt :: rest') := by simp
    rw [List.cons_append, List.cons_append, List.cons_append, hlist]
    exact .intro hlt hmark hkey hword (hversion' _) hvalue (hrest' _) hmark' hgt

theorem OptionalDeclaration.taken {declared : Option Prolog}
    (h : OptionalDeclaration ts declared rest) :
    ∃ taken, ts = taken ++ rest ∧
      ∀ rest', OptionalDeclaration (taken ++ rest') declared rest' := by
  cases h with
  | nil => exact ⟨[], rfl, fun rest' => .nil rest'⟩
  | some h =>
    obtain ⟨taken, _, rfl, h'⟩ := h.taken
    exact ⟨taken, rfl, fun rest' => .some (h' rest')⟩

end XmlTemplate.Grammar
