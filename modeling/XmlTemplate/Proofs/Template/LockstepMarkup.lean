import XmlTemplate.Proofs.Template.Lockstep
import XmlTemplate.Proofs.Template.Reading

/-!
# Elements and templates side by side

The readers of start tags, elements and declarations go in lockstep on tokens that differ in nothing
but places (`agrees_markup`, `agrees_prolog`), and so do those of whole templates, as far as the two
readings of their heads do (`endsAlike_whole`): a destination is cut from the source, so that it
depends on more than the tokens.
-/

set_option autoImplicit false

namespace XmlTemplate

namespace Parse

variable {W : Token → Token → Prop} {S : ParseCause → Span → Prop} {n m : Nat}

/-! ## Tags -/

section Markup

variable (hW : PairsGroups W S)

include hW

theorem agrees_attributeValue (room : Nat) :
    Agrees W S (n + 1) n (fun v w => v.unplaced = w.unplaced) (attributeValue room)
      (attributeValue room) := by
  refine .take_bind hW.toPairs fun v base base' h => ?_
  simp only [Token.isKind_moved, Token.isGroup_moved, Token.shown_moved]
  refine .choice (fun _ => ?literal) fun _ => .choice (fun _ => ?expression) fun _ => ?other
  case literal =>
    refine (agrees_stringValue hW.toPairs h).bind fun s s' hs => ?_
    exact agrees_pure (congrArg AttributeValue.literal hs)
  case expression =>
    refine (agrees_groupExpression hW h room).bind fun e f hef => ?_
    exact agrees_pure (congrArg AttributeValue.expression hef)
  case other => exact agrees_fail (hW.charged h (by simp)) _

/-- The same attributes and fills, but for places, and the same end of the tag. -/
def AlikeItems (r s : List AttributeItem × Bool) : Prop :=
  r.1.map AttributeItem.unplaced = s.1.map AttributeItem.unplaced ∧ r.2 = s.2

omit hW in
theorem AlikeItems.cons {r s : List AttributeItem × Bool} (h : AlikeItems r s)
    {i j : AttributeItem} (hij : i.unplaced = j.unplaced) :
    AlikeItems (i :: r.1, r.2) (j :: s.1, s.2) :=
  ⟨by rw [List.map_cons, List.map_cons, hij, h.1], h.2⟩

theorem agrees_startTag (room items : Nat) :
    Agrees W S items (items - 1) AlikeItems (startTag room items) (startTag room items) := by
  have hP := hW.toPairs
  induction items with
  | zero => exact agrees_endOfInput
  | succ items ih =>
    have htake : Agrees W S (items + 1) items W take take := agrees_take hP
    unfold startTag
    refine .peek_bind hP fun v base base' h => ?_
    simp only [Token.isPunctuation_moved, Token.isGroup_moved, isFill_moved]
    refine .choice (fun _ => ?opened) fun _ => .choice (fun _ => ?empty) fun _ =>
      .choice (fun hfill => ?fill) fun _ => ?named
    case opened => exact htake.discard_bind (agrees_pure ⟨rfl, rfl⟩)
    case empty =>
      have hgt := (agrees_takePunctuation (n := items) hP ['>']).mono (Nat.le_succ items)
        (Nat.le_refl items)
      exact htake.discard_bind (hgt.discard_bind (agrees_pure ⟨rfl, rfl⟩))
    case fill =>
      simp only [Bool.and_eq_true] at hfill
      refine htake.discard_bind ?_
      refine (agrees_fillExpression hW h room hfill.1).bind fun e f hef => ?_
      refine (ih.mono (Nat.le_refl _) (Nat.sub_le items 1)).bind fun r s hrs => ?_
      exact agrees_pure (hrs.cons (congrArg AttributeItem.fill hef))
    case named =>
      refine (agrees_readName hP).bind fun name name' hname => ?_
      subst hname
      refine ((agrees_takePunctuation hP ['=']).mono (Nat.le_succ items)
        (Nat.le_refl items)).discard_bind ?_
      refine ((agrees_attributeValue hW room).mono (Nat.le_succ items) (Nat.le_refl items)).bind
        fun value value' hvalue => ?_
      refine (ih.mono (Nat.le_refl _) (Nat.sub_le items 1)).bind fun r s hrs => ?_
      exact agrees_pure (hrs.cons (congrArg (AttributeItem.named name) hvalue))

end Markup

section Tags

variable (hW : Pairs W S)

include hW

theorem agrees_atEndTag : Agrees W S n n Eq atEndTag atEndTag := by
  unfold atEndTag
  refine .peek_bind hW fun v base base' _ => ?_
  simp only [Token.isPunctuation_moved]
  refine .choice (fun _ => ?_) fun _ => agrees_pure rfl
  refine .peekSecond_bind hW fun u base base' _ => ?_
  simp only [Token.isPunctuation_moved]
  exact agrees_pure rfl

theorem agrees_endTag (name : Text) : Agrees W S (n + 3) n Eq (endTag name) (endTag name) := by
  have hgt : Agrees W S (n + 1) n Eq (Functor.discard (takePunctuation ['>']))
      (Functor.discard (takePunctuation ['>'])) :=
    (agrees_takePunctuation hW ['>']).discard
  unfold endTag
  refine (agrees_takePunctuation hW ['<']).bind fun lt lt' hlt => ?_
  refine (agrees_takePunctuation hW ['/']).discard_bind ?_
  refine .peek_bind hW fun v base base' _ => ?_
  simp only [Token.isPunctuation_moved]
  refine .choice (fun _ => ?named) fun _ => hgt
  case named =>
    refine (agrees_readName hW).bind fun found found' hfound => ?_
    subst hfound
    refine .choice (fun _ => ?mismatch) fun _ => hgt.mono (Nat.le_succ n) (Nat.le_refl n)
    case mismatch => exact agrees_fail_bind (hW.charged hlt (by simp)) _

end Tags

/-! ## Elements -/

/-- Readers of elements, contents and their parts go in lockstep, up to a depth. -/
def AgreesMarkup (W : Token → Token → Prop) (S : ParseCause → Span → Prop)
    (permission : Permission) (depth : Nat) : Prop :=
  ∀ room,
    Agrees W S depth (depth - 1) (fun e f => e.unplaced = f.unplaced)
      (element permission room depth) (element permission room depth) ∧
    Agrees W S (depth - 1) (depth - 1)
      (fun cs ds => Child.allUnplaced cs = Child.allUnplaced ds)
      (children permission room depth) (children permission room depth) ∧
    Agrees W S depth (depth - 1) (fun c d => c.unplaced = d.unplaced)
      (child permission room depth) (child permission room depth)

section Elements

variable (hW : PairsGroups W S)

include hW

/-- They call each other at one depth less, all of them. -/
theorem agrees_markup (permission : Permission) (depth : Nat) :
    AgreesMarkup W S permission depth := by
  have hP := hW.toPairs
  induction depth with
  | zero =>
    -- a depth that is used up leaves no token to either reading
    intro room
    refine ⟨?_, ?_, ?_⟩
    · unfold element
      exact agrees_endOfInput
    · unfold children
      exact agrees_endOfInput
    · unfold child
      exact agrees_endOfInput
  | succ depth ih =>
    intro room
    refine ⟨?element, ?children, ?child⟩
    case element =>
      unfold element
      refine .peek_bind hP fun v base base' h => ?_
      refine (agrees_readName hP).bind fun name name' hname => ?_
      subst hname
      refine .choice (fun _ => agrees_fail_bind (hW.charged h (by simp)) _) fun _ => ?_
      refine (agrees_startTag hW room depth).bind fun r s hrs => ?_
      obtain ⟨items, empty⟩ := r
      obtain ⟨items', empty'⟩ := s
      obtain ⟨hitems, rfl⟩ := hrs
      dsimp only at hitems ⊢
      refine .choice (fun _ => ?empty) fun _ => ?node
      case empty =>
        have hsame : (Element.empty name items).unplaced = (Element.empty name items').unplaced := by
          rw [Element.unplaced, hitems, Element.unplaced]
        exact agrees_pure_of_le (Nat.sub_le depth 1) hsame
      case node =>
        refine (ih room).2.1.bind fun cs ds hcs => ?_
        refine ((agrees_endTag hP name).mono (Nat.le_add_right _ 3) (Nat.le_refl _)).bind
          fun _ _ _ => ?_
        have hsame : (Element.node name items cs).unplaced =
            (Element.node name items' ds).unplaced := by
          rw [Element.unplaced, hitems, hcs, Element.unplaced]
        exact agrees_pure_of_le (Nat.sub_le depth 1) hsame
    case children =>
      unfold children
      refine (agrees_atEndTag hP).bind fun ended ended' hended => ?_
      subst hended
      refine .choice (fun _ => agrees_pure rfl) fun _ => ?_
      refine (ih room).2.2.bind fun c d hcd => ?_
      refine (ih room).2.1.bind fun cs ds hcs => ?_
      have hsame : Child.allUnplaced (c :: cs) = Child.allUnplaced (d :: ds) := by
        rw [Child.allUnplaced, hcd, hcs, Child.allUnplaced]
      exact agrees_pure_of_le (Nat.sub_le depth 1) hsame
    case child =>
      unfold child
      refine .take_bind hP fun v base base' h => ?_
      simp only [Token.isKind_moved, Token.isGroup_moved, Token.isPunctuation_moved,
        isContinuation_moved, Token.shown_moved]
      refine .choice (fun _ => ?text) fun _ => .choice (fun hgroup => .choice (fun _ => ?continuation)
        fun _ => ?expression) fun _ => .choice (fun _ => ?element) fun _ => ?other
      case text =>
        exact (agrees_stringValue hP h).bind fun s s' hs => agrees_pure (congrArg Child.text hs)
      case continuation =>
        exact (agrees_continuation hW h permission room hgroup).bind fun c d hcd =>
          agrees_pure (congrArg Child.continuation hcd)
      case expression =>
        exact (agrees_groupExpression hW h room).bind fun e f hef =>
          agrees_pure (congrArg Child.expression hef)
      case element =>
        exact (ih (room - elementRoom)).1.bind fun e f hef =>
          agrees_pure_of_le (Nat.sub_le depth 1) (congrArg Child.element hef)
      case other => exact agrees_fail (hW.charged h (by simp)) _

end Elements

/-! ## The head of a template -/

section Head

variable (hW : PairsGroups W S)

include hW

theorem agrees_directive (room : Nat) {v : Token} {base base' : Position} {opener : Text}
    (hg : v.isGroup opener = true) (htu : W (v.moved base) (v.moved base')) :
    Agrees W S n n (fun l l' => l.unplaced = l'.unplaced) (directive room (v.moved base))
      (directive room (v.moved base')) := by
  have hinside := Pairs.inside v base base'
  refine .within (n := v.children.length + 3) (m := v.children.length + 1) hW hg htu ?_ (by omega)
  refine (agrees_takeIdentifier hinside).bind fun key key' hkey => ?_
  have hcharged : ∀ cause, cause ≠ .endOfInput → (v.moved base).Charged cause key.span :=
    fun _ => hinside.charged hkey
  obtain ⟨key, -, rfl, rfl⟩ := hkey
  simp only [Token.text_moved] at hcharged ⊢
  refine .choice (fun _ => ?unit) fun _ => .choice (fun _ => ?format) fun _ => ?other
  case unit =>
    refine (agrees_takePunctuation hinside ['=']).discard_bind ?_
    refine .peek_bind hinside fun u base base' hu => ?_
    refine ((agrees_takeString hinside).mono (Nat.le_refl _) (Nat.le_succ _)).bind
      fun unit unit' hunit => ?_
    subst hunit
    refine .choice (fun _ => ?_) fun _ => agrees_fail (hinside.charged hu (by simp)) _
    exact (agrees_noMore hinside).bind fun _ _ _ => agrees_pure rfl
  case format =>
    refine (agrees_takePunctuation hinside ['=']).discard_bind ?_
    refine (agrees_restExpression room).bind fun e f hef => ?_
    exact agrees_pure (congrArg LayoutDirective.expression hef)
  case other => exact agrees_fail (hcharged _ (by simp)) _

/-- The same destination and the same directive, but for places. -/
def AlikeHeads (r s : Option Embedded × Option LayoutDirective) : Prop :=
  r.1.map Embedded.unplaced = s.1.map Embedded.unplaced ∧
    r.2.map LayoutDirective.unplaced = s.2.map LayoutDirective.unplaced

omit hW

theorem AlikeHeads.addLayout {r s : Option Embedded × Option LayoutDirective} (h : AlikeHeads r s)
    {l m : LayoutDirective} (hlm : l.unplaced = m.unplaced) :
    AlikeHeads (r.1, some l) (s.1, some m) := by
  refine ⟨h.1, ?_⟩
  rw [Option.map_some, Option.map_some, hlm]

end Head

/-! ## The declaration -/

/-- The same value, if there is one, at a place that causes can be charged to. -/
def AlikeValues (S : ParseCause → Span → Prop) (r s : Option (Text × Span)) : Prop :=
  r.map Prod.fst = s.map Prod.fst ∧
    ∀ v ∈ r, ∀ cause, cause ≠ .endOfInput → S cause v.2

theorem AlikeValues.none : AlikeValues S none none := ⟨rfl, by simp⟩

section Declaration

variable (hW : Pairs W S)

include hW

theorem agrees_prologAttribute (name : Text) :
    Agrees W S n n (AlikeValues S) (prologAttribute name) (prologAttribute name) := by
  have htake : ∀ (q : Parse Token), Agrees W S (n + 1) n W q q → Agrees W S n n W q q :=
    fun q h => h.mono (Nat.le_succ n) (Nat.le_refl n)
  unfold prologAttribute
  refine .peek_bind hW fun v base base' _ => ?_
  simp only [Token.isPunctuation_moved]
  refine .choice (fun _ => agrees_pure .none) fun _ => ?_
  refine (htake _ (agrees_takeIdentifier hW)).bind fun key key' hkey => ?_
  have hcharged : ∀ cause, cause ≠ .endOfInput → S cause key.span := fun _ => hW.charged hkey
  obtain ⟨key, base, base', rfl, rfl⟩ := hW.alike hkey
  simp only [Token.text_moved]
  refine .choice (fun _ => agrees_fail (hcharged _ (by simp)) _) fun _ => ?_
  refine (htake _ (agrees_takePunctuation hW ['='])).discard_bind ?_
  -- the place of the value goes along with it, for the checks at the end of the declaration
  refine .peek_bind hW fun u base base' hu => ?_
  refine ((agrees_takeString hW).mono (Nat.le_succ n) (Nat.le_refl n)).bind fun s s' hs => ?_
  subst hs
  refine agrees_pure ⟨rfl, ?_⟩
  rintro _ ⟨⟩ cause hcause
  exact hW.charged hu hcause

omit hW in
theorem agrees_declarationOf (version : Version) {standalone standalone' : Option (Text × Span)}
    (h : AlikeValues S standalone standalone') :
    Agrees W S n n Eq (declarationOf version standalone) (declarationOf version standalone') := by
  obtain ⟨hfound, hcharged⟩ := h
  unfold declarationOf
  rcases standalone with _ | ⟨found, x⟩ <;> rcases standalone' with _ | ⟨found', x'⟩ <;>
    simp only [Option.map_none, Option.map_some, Option.some.injEq, reduceCtorEq] at hfound
  · exact agrees_pure rfl
  · subst hfound
    cases hb : standalone? found with
    | none =>
      simp only [hb]
      exact agrees_fail (hcharged _ rfl _ (by simp)) x'
    | some b =>
      simp only [hb]
      exact agrees_pure rfl

theorem agrees_prologEnd (text : Text) {place : Span}
    (hplace : ∀ cause, cause ≠ .endOfInput → S cause place) (place' : Span)
    {encoding encoding' standalone standalone' : Option (Text × Span)}
    (hencoding : AlikeValues S encoding encoding')
    (hstandalone : AlikeValues S standalone standalone') :
    Agrees W S (n + 2) n Eq (prologEnd text place encoding standalone)
      (prologEnd text place' encoding' standalone') := by
  unfold prologEnd
  refine (agrees_takePunctuation hW ['?']).discard_bind ?_
  refine (agrees_takePunctuation hW ['>']).discard_bind ?_
  cases hversion : Version.ofText? text with
  | none => exact agrees_fail (hplace _ (by simp)) _
  | some version =>
    have hend := agrees_declarationOf (W := W) (n := n) version hstandalone
    obtain ⟨hfound, hcharged⟩ := hencoding
    rcases encoding with _ | ⟨found, x⟩ <;> rcases encoding' with _ | ⟨found', x'⟩ <;>
      simp only [Option.map_none, Option.map_some, Option.some.injEq, reduceCtorEq] at hfound
    · exact hend
    · subst hfound
      exact .choice (fun _ => agrees_fail_bind (hcharged _ rfl _ (by simp)) x') fun _ => hend

theorem agrees_prolog : Agrees W S n n Eq prolog prolog := by
  have hmark : ∀ s, Agrees W S n n W (takePunctuation s) (takePunctuation s) :=
    fun s => (agrees_takePunctuation hW s).mono (Nat.le_succ n) (Nat.le_refl n)
  have hend : ∀ (text : Text) {place : Span}, (∀ cause, cause ≠ .endOfInput → S cause place) →
      ∀ (place' : Span) {encoding encoding' standalone standalone' : Option (Text × Span)},
        AlikeValues S encoding encoding' → AlikeValues S standalone standalone' →
          Agrees W S n n Eq (prologEnd text place encoding standalone)
            (prologEnd text place' encoding' standalone') :=
    fun text _ hplace place' _ _ _ _ hencoding hstandalone =>
      (agrees_prologEnd hW text hplace place' hencoding hstandalone).mono (Nat.le_add_right n 2)
        (Nat.le_refl n)
  unfold prolog
  refine (hmark ['<']).discard_bind ((hmark ['?']).discard_bind ?_)
  refine ((agrees_takeIdentifier hW).mono (Nat.le_succ n) (Nat.le_refl n)).bind
    fun key key' hkey => ?_
  have hcharged : ∀ cause, cause ≠ .endOfInput → S cause key.span := fun _ => hW.charged hkey
  obtain ⟨key, base, base', rfl, rfl⟩ := hW.alike hkey
  simp only [Token.text_moved]
  refine .choice (fun _ => agrees_fail (hcharged _ (by simp)) _) fun _ => ?_
  refine .peek_bind hW fun v base base' hv => ?_
  refine (agrees_prologAttribute hW _).bind fun version version' hversion => ?_
  obtain ⟨hfound, hplace⟩ := hversion
  rcases version with _ | ⟨text, place⟩ <;> rcases version' with _ | ⟨text', place'⟩ <;>
    simp only [Option.map_none, Option.map_some, Option.some.injEq, reduceCtorEq] at hfound
  · exact agrees_fail (hW.charged hv (by simp)) _
  · subst hfound
    have hplace : ∀ cause, cause ≠ .endOfInput → S cause place := hplace _ rfl
    refine (agrees_prologAttribute hW _).bind fun encoding encoding' hencoding => ?_
    have hsome : encoding.isSome = encoding'.isSome := by
      simpa only [Option.isSome_map] using congrArg Option.isSome hencoding.1
    rw [hsome]
    refine .choice (fun _ => ?_) fun _ => ?_
    · exact (agrees_prologAttribute hW _).bind fun standalone standalone' hstandalone =>
        hend text hplace place' hencoding hstandalone
    · exact hend text hplace place' hencoding .none

end Declaration

/-! ## Whole templates -/

section Template

variable (hW : PairsGroups W S)

include hW

/-- The root element, where everything before it is known. -/
theorem agrees_root (permission : Permission) (room : Nat) {into into' : Option Embedded}
    {layout layout' : Option LayoutDirective} (hhead : AlikeHeads (into, layout) (into', layout'))
    (declared : Option Prolog) :
    Agrees W S n n (fun t u => t.unplaced = u.unplaced)
      (rootAfter permission room into layout declared)
      (rootAfter permission room into' layout' declared) := by
  obtain ⟨hinto, hlayout⟩ := hhead
  have hnone : into.isNone = into'.isNone := by
    simpa only [Option.isNone_map] using congrArg Option.isNone hinto
  unfold rootAfter
  rw [hnone]
  refine .choice (fun _ => ?missing) fun _ => ?_
  case missing =>
    refine .peek_bind hW.toPairs fun v base base' h => ?_
    exact agrees_fail (hW.charged h (by simp)) _
  refine ((agrees_takePunctuation hW.toPairs ['<']).mono (Nat.le_succ n)
    (Nat.le_refl n)).discard_bind ?_
  refine .remaining_bind fun depth hdepth => ?_
  refine (agrees_markup hW permission depth room).1.bind fun e f hef => ?_
  refine agrees_pure_of_le (Nat.le_trans (Nat.sub_le depth 1) hdepth) ?_
  rw [Template.unplaced, Template.unplaced, hef, hinto, hlayout]

/-- Two readings of templates go in lockstep as far as those of their heads do. -/
theorem endsAlike_whole (permission : Permission) (room : Nat) {source source' : Text}
    {ts us : List Token} {o o' : Option Span}
    (hhead : EndsAlike W S n AlikeHeads o o'
      (head (room - readingRoom) source none none ts.length ⟨ts, o⟩)
      (head (room - readingRoom) source' none none us.length ⟨us, o'⟩)) :
    EndsAlike W S n (fun t u => t.unplaced = u.unplaced) o o'
      (whole permission room source ⟨ts, o⟩) (whole permission room source' ⟨us, o'⟩) := by
  have hnoMore : ∀ t u : Template, t.unplaced = u.unplaced →
      Agrees W S n n (fun t u : Template => t.unplaced = u.unplaced)
        (do noMore; return t) (do noMore; return u) := by
    intro t u htu
    exact (agrees_noMore hW.toPairs).bind fun _ _ _ => agrees_pure htu
  refine EndsAlike.bind ?_ hnoMore
  refine EndsAlike.bind (p := head _ _ _ _ _) (q := head _ _ _ _ _) hhead fun r s hrs => ?_
  -- the second token, which is alike in both, tells whether there is a declaration
  refine .peekSecond_bind hW.toPairs fun v base base' _ => ?_
  simp only [Token.isPunctuation_moved]
  refine .choice (fun _ => ?_) fun _ => ?_
  · refine ((agrees_prolog hW.toPairs).map (Q := Eq) fun _ _ h => congrArg some h).bind
      fun p p' hp => ?_
    subst hp
    exact agrees_root hW permission _ hrs p
  · exact agrees_root hW permission _ hrs none

end Template

end Parse

end XmlTemplate
