import XmlTemplate.Proofs.Template.Reading

/-!
# Reading with more or less allowed

A source can be read with continuations allowed or not, and in more or less room. Both readings go
side by side, token by token, until the one of which more is asked comes to what it may not do: it
fails there, and up to there the two are one and the same (`Template.parse_restricts`). Whoever may do
more, on the other hand, reads whatever the other one reads (`Template.parse_mono`).
-/

set_option autoImplicit false

namespace XmlTemplate

/-- With the second permission and room no more is allowed than with the first ones. What the second
ones may add to the ways in which reading fails is among the given causes. -/
structure Restricts (bad : ParseCause → Prop) (permission : Permission) (room : Nat)
    (permission' : Permission) (room' : Nat) : Prop where
  room_le : room' ≤ room
  tooDeep : room' < room → bad .tooDeep
  allowed : permission' = permission ∨ permission' = .refused ∧ bad .continuationsDisabled

namespace Parse

variable {α β : Type} {bad : ParseCause → Prop}

/-- Wherever the first reader succeeds, the second one does the same or fails for one of the
causes. -/
def Follows (bad : ParseCause → Prop) (p q : Parse α) : Prop :=
  ∀ c a c', p c = .ok a c' → q c = .ok a c' ∨ ∃ e c'', q c = .error e c'' ∧ bad e.cause

section Rules

variable {p q : Parse α} {f g : α → Parse β}

theorem Follows.refl (p : Parse α) : Follows bad p p := fun _ _ _ h => .inl h

theorem Follows.bind (h : Follows bad p q) (hf : ∀ a, Follows bad (f a) (g a)) :
    Follows bad (p >>= f) (q >>= g) := by
  intro c b c' hrun
  obtain ⟨a, c₁, hp, hb⟩ := bind_eq_ok.1 hrun
  obtain hq | ⟨e, c₂, hq, he⟩ := h c a c₁ hp
  · rw [bind_of_ok hq]
    exact hf a c₁ b c' hb
  · exact .inr ⟨e, c₂, bind_of_error hq g, he⟩

/-- What comes after the same reader counts alone. -/
theorem Follows.after (p : Parse α) (hf : ∀ a, Follows bad (f a) (g a)) :
    Follows bad (p >>= f) (p >>= g) :=
  (Follows.refl p).bind hf

/-- A reader that fails is followed by all. -/
theorem Follows.of_fail (cause : ParseCause) (span : Span) : Follows bad (fail cause span) q := by
  intro c a c' h
  cases h

/-- A reader that fails for one of the causes follows all. -/
theorem Follows.fails {cause : ParseCause} (h : bad cause) (span : Span) :
    Follows bad p (fail cause span) :=
  fun c _ _ _ => .inr ⟨⟨cause, some span⟩, c, rfl, h⟩

theorem Follows.within (h : Follows bad p q) (group : Token) :
    Follows bad (Parse.within group p) (Parse.within group q) := by
  intro c a c' hrun
  rw [Parse.within] at hrun
  cases hp : p (Cursor.ofGroup group) with
  | ok b c₁ =>
    rw [hp] at hrun
    cases hrun
    obtain hq | ⟨e, c₂, hq, he⟩ := h _ _ _ hp
    · exact .inl (by rw [Parse.within, hq])
    · exact .inr ⟨e, c, by rw [Parse.within, hq], he⟩
  | error e c₁ =>
    rw [hp] at hrun
    cases hrun

/-- A check that asks more of the second reader. -/
theorem Follows.unless {b b' : Prop} [Decidable b] [Decidable b'] {cause : ParseCause}
    (_ : b → b') (hcause : b' → ¬b → bad cause) (span : Span) (h : Follows bad p q) :
    Follows bad (if b then fail cause span else p) (if b' then fail cause span else q) := by
  by_cases hp : b
  · rw [if_pos hp]
    exact .of_fail cause span
  · rw [if_neg hp]
    by_cases hq : b'
    · rw [if_pos hq]
      exact .fails (hcause hq hp) span
    · rw [if_neg hq]
      exact h

/-- The same choice, made for both. -/
theorem Follows.choice {b : Prop} [Decidable b] {p' q' : Parse α} (h : Follows bad p q)
    (h' : Follows bad p' q') : Follows bad (if b then p else p') (if b then q else q') := by
  split
  · exact h
  · exact h'

end Rules

variable {permission permission' : Permission} {room room' : Nat}

/-! ## Embedded scripts -/

section

variable (h : Restricts bad permission room permission' room')

include h

/-- A script that is too deep for less room only makes reading fail for that. -/
theorem follows_tooDeep {p q : Parse α} (depth : Nat) (span : Span) (hrest : Follows bad p q) :
    Follows bad (if depth > scriptDepth room then fail .tooDeep span else p)
      (if depth > scriptDepth room' then fail .tooDeep span else q) := by
  have hle := h.room_le
  refine Follows.unless (fun hdeep => ?_) (fun hdeep hfits => h.tooDeep ?_) span hrest
  · simp only [scriptDepth] at hdeep ⊢
    omega
  · simp only [scriptDepth] at hdeep hfits
    omega

theorem follows_embed (source : Text) (span : Span) :
    Follows bad (embed room source span) (embed room' source span) := by
  unfold embed
  refine Follows.choice (.refl _) ?_
  split
  · refine Follows.choice (.refl _) ?_
    exact follows_tooDeep h _ span (.refl _)
  · exact .refl _

theorem follows_restExpression (group : Token) :
    Follows bad (restExpression room group) (restExpression room' group) :=
  .after peek fun first => follows_embed h _ first.span

theorem follows_fillExpression (group : Token) :
    Follows bad (fillExpression room group) (fillExpression room' group) :=
  ((Follows.after _ fun _ => .after _ fun _ => follows_restExpression h group).within group)

/-- Continuations are where the two permissions make a difference. -/
theorem follows_continuation (group : Token) :
    Follows bad (continuation permission room group) (continuation permission' room' group) := by
  obtain rfl | ⟨rfl, hrefused⟩ := h.allowed
  · cases permission' with
    | refused => exact .of_fail _ _
    | missing => exact .of_fail _ _
    | granted =>
      refine Follows.within (.after _ fun _ => .after _ fun x => .after _ fun bar => ?_) group
      dsimp only
      split
      · refine Follows.choice (.refl _) ?_
        exact follows_tooDeep h _ group.span (.refl _)
      · exact .refl _
  · exact .fails hrefused group.span

/-! ## Elements -/

theorem follows_attributeValue :
    Follows bad (attributeValue room) (attributeValue room') := by
  refine .after take fun t => Follows.choice (.refl _) (Follows.choice ?_ (.refl _))
  exact (follows_embed h t.text t.span).bind fun e => .refl _

theorem follows_startTag (items : Nat) :
    Follows bad (startTag room items) (startTag room' items) := by
  induction items with
  | zero => exact .refl _
  | succ items ih =>
    unfold startTag
    refine .after peek fun t => Follows.choice (.refl _) (Follows.choice (.refl _)
      (Follows.choice ?fill ?named))
    case fill =>
      exact .after _ fun _ => (follows_fillExpression h t).bind fun e => ih.bind fun _ => .refl _
    case named =>
      exact .after _ fun name => .after _ fun _ => (follows_attributeValue h).bind fun v =>
        ih.bind fun _ => .refl _

/-- The elements of an element get less room in both readings. -/
theorem restricts_sub (n : Nat) :
    Restricts bad permission (room - n) permission' (room' - n) := by
  have hle := h.room_le
  refine ⟨by omega, fun hlt => h.tooDeep ?_, h.allowed⟩
  omega

end

/-- Reading elements, contents and their parts, up to a depth. -/
def FollowsMarkup (bad : ParseCause → Prop) (permission permission' : Permission)
    (depth : Nat) : Prop :=
  ∀ room room', Restricts bad permission room permission' room' →
    Follows bad (element permission room depth) (element permission' room' depth) ∧
    Follows bad (children permission room depth) (children permission' room' depth) ∧
    Follows bad (child permission room depth) (child permission' room' depth)

/-- The readers of markup call each other at one depth less, all of them. -/
theorem follows_markup (bad : ParseCause → Prop) (permission permission' : Permission)
    (depth : Nat) : FollowsMarkup bad permission permission' depth := by
  induction depth with
  | zero =>
    intro room room' _
    refine ⟨?_, ?_, ?_⟩
    · unfold element
      exact .refl _
    · unfold children
      exact .refl _
    · unfold child
      exact .refl _
  | succ depth ih =>
    intro room room' h
    obtain ⟨-, hchildren, hchild⟩ := ih room room' h
    obtain ⟨helement, -, -⟩ := ih _ _ (restricts_sub h elementRoom)
    have hle := h.room_le
    refine ⟨?_, ?_, ?_⟩
    · unfold element
      refine .after peek fun first => .after readName fun name => ?_
      show Follows bad (if room < nameRoom name then fail .tooDeep first.span else _)
        (if room' < nameRoom name then fail .tooDeep first.span else _)
      refine Follows.unless (fun hlt => ?_) (fun hlt hge => h.tooDeep ?_) first.span ?_
      · omega
      · omega
      · refine (follows_startTag h depth).bind fun r => Follows.choice (.refl _) ?_
        exact hchildren.bind fun content => .refl _
    · unfold children
      refine .after atEndTag fun ended => Follows.choice (.refl _) ?_
      exact hchild.bind fun first => hchildren.bind fun rest => .refl _
    · unfold child
      refine .after take fun t => Follows.choice (.refl _) (Follows.choice ?_ (Follows.choice ?_
        (.refl _)))
      · refine Follows.choice ?_ ?_
        · exact (follows_continuation h t).bind fun c => .refl _
        · exact (follows_embed h t.text t.span).bind fun e => .refl _
      · exact helement.bind fun e => .refl _

/-! ## Whole templates -/

section

variable (h : Restricts bad permission room permission' room')

include h

theorem follows_directive (group : Token) :
    Follows bad (directive room group) (directive room' group) := by
  refine Follows.within (.after takeIdentifier fun key => Follows.choice (.refl _)
    (Follows.choice ?_ (.refl _))) group
  exact .after _ fun _ => (follows_restExpression h group).bind fun e => .refl _

theorem follows_destination (source : Text) :
    Follows bad (destination room source) (destination room' source) :=
  .after peek fun first => .after remaining fun _ => .after _ fun _ =>
    follows_embed h _ first.span

theorem follows_head (source : Text) (tokens : Nat) (into : Option Embedded)
    (layout : Option LayoutDirective) :
    Follows bad (head room source into layout tokens) (head room' source into layout tokens) := by
  induction tokens generalizing into layout with
  | zero => exact .refl _
  | succ tokens ih =>
    unfold head
    refine .after peek fun t => Follows.choice ?_ (Follows.choice (.refl _)
      (Follows.choice (.refl _) ?_))
    · exact .after _ fun _ => .after _ fun group => (follows_directive h group).bind fun parsed =>
        Follows.choice (.refl _) (ih into (some parsed))
    · exact (follows_destination h source).bind fun e => ih (some e) layout

theorem follows_template (source : Text) :
    Follows bad (template permission room source) (template permission' room' source) := by
  have hinner := restricts_sub h readingRoom
  unfold template
  refine .after remaining fun _ => (follows_head hinner source _ none none).bind fun r => ?_
  -- the root element comes after the declaration, be there one or not
  have hroot : ∀ declared : Option Prolog, Follows bad
      (if (r.1.isNone && declared.isNone) = true then do fail .missingTarget (← peek).span
      else do
        discard (takePunctuation ['<'])
        let root ← element permission (room - readingRoom) (← remaining)
        return (⟨root, r.1, r.2, declared⟩ : Template))
      (if (r.1.isNone && declared.isNone) = true then do fail .missingTarget (← peek).span
      else do
        discard (takePunctuation ['<'])
        let root ← element permission' (room' - readingRoom) (← remaining)
        return (⟨root, r.1, r.2, declared⟩ : Template)) := by
    intro declared
    refine Follows.choice (.refl _) (.after _ fun _ => .after remaining fun depth => ?_)
    obtain ⟨helement, -, -⟩ := follows_markup bad permission permission' depth _ _ hinner
    exact helement.bind fun root => .refl _
  exact .after peekSecond fun u => Follows.choice (.after _ hroot) (.after _ hroot)

end

end Parse

/-! ## More room -/

theorem Embedded.Fits.mono {room room' : Nat} {e : Embedded} (hle : room ≤ room')
    (h : e.Fits room) : e.Fits room' := by
  refine ⟨h.1, Nat.le_trans h.2 ?_⟩
  simp only [scriptDepth]
  omega

theorem Continuation.Fits.mono {permission : Permission} {room room' : Nat} {c : Continuation}
    (hle : room ≤ room') (h : c.Fits permission room) : c.Fits permission room' := by
  refine ⟨h.1, h.2.1, Nat.le_trans h.2.2 ?_⟩
  simp only [scriptDepth]
  omega

theorem AttributeItem.Fits.mono {room room' : Nat} {i : AttributeItem} (hle : room ≤ room')
    (h : i.Fits room) : i.Fits room' := by
  cases i with
  | fill e => exact Embedded.Fits.mono hle h
  | named name value =>
    cases value with
    | literal s => exact trivial
    | expression e => exact Embedded.Fits.mono hle h

mutual

theorem Element.Fits.mono {permission : Permission} {room room' : Nat} (hle : room ≤ room') :
    ∀ {e : Element}, e.Fits permission room → e.Fits permission room'
  | .empty _ _, h =>
    ⟨Nat.le_trans h.1 hle, fun i hi => AttributeItem.Fits.mono hle (h.2 i hi)⟩
  | .node _ _ _, h =>
    ⟨Nat.le_trans h.1 hle, fun i hi => AttributeItem.Fits.mono hle (h.2.1 i hi),
      Child.AllFit.mono hle h.2.2⟩

theorem Child.Fits.mono {permission : Permission} {room room' : Nat} (hle : room ≤ room') :
    ∀ {c : Child}, c.Fits permission room → c.Fits permission room'
  | .text _, _ => trivial
  | .expression _, h => Embedded.Fits.mono hle h
  | .element _, h => Element.Fits.mono (Nat.sub_le_sub_right hle elementRoom) h
  | .continuation _, h => Continuation.Fits.mono hle h

theorem Child.AllFit.mono {permission : Permission} {room room' : Nat} (hle : room ≤ room') :
    ∀ {cs : List Child}, Child.AllFit permission room cs → Child.AllFit permission room' cs
  | [], _ => trivial
  | _ :: _, h => ⟨Child.Fits.mono hle h.1, Child.AllFit.mono hle h.2⟩

end

theorem LayoutDirective.Fits.mono {room room' : Nat} {l : LayoutDirective} (hle : room ≤ room')
    (h : l.Fits room) : l.Fits room' := by
  cases l with
  | unit u => exact trivial
  | expression e => exact Embedded.Fits.mono hle h

theorem Template.Fits.mono {permission : Permission} {room room' : Nat} {t : Template}
    (hle : room ≤ room') (h : t.Fits permission room) : t.Fits permission room' := by
  have hinner := Nat.sub_le_sub_right hle readingRoom
  exact ⟨fun e he => (h.destination e he).mono hinner, fun l hl => (h.layout l hl).mono hinner,
    h.root.mono hinner⟩

namespace Template

variable {bad : ParseCause → Prop} {permission permission' : Permission} {room room' : Nat}
  {source : Text} {t : Template}

theorem ofTokens_restricts (h : Restricts bad permission room permission' room')
    {tokens : List Token} (hok : ofTokens permission room source tokens = .ok t) :
    ofTokens permission' room' source tokens = .ok t ∨
      ∃ e, ofTokens permission' room' source tokens = .error e ∧ bad e.cause := by
  have hwhole : Parse.Follows bad
      (do let t ← Parse.template permission room source; Parse.noMore; return t)
      (do let t ← Parse.template permission' room' source; Parse.noMore; return t) :=
    (Parse.follows_template h source).bind fun _ => .refl _
  unfold ofTokens at hok ⊢
  dsimp only at hok ⊢
  split at hok
  · next u c hrun =>
    cases hok
    obtain hrun' | ⟨e, c', hrun', he⟩ := hwhole _ _ _ hrun
    · rw [hrun']
      exact .inl rfl
    · rw [hrun']
      exact .inr ⟨e, rfl, he⟩
  · cases hok

/-- What is read with more allowed is read with less allowed as well, or that fails for one of the
causes that come with it. -/
theorem parse_restricts (h : Restricts bad permission room permission' room')
    (hparse : parse permission room source = .ok t) :
    parse permission' room' source = .ok t ∨
      ∃ e, parse permission' room' source = .error e ∧ bad e.cause := by
  unfold parse at hparse ⊢
  cases hlex : Token.lex source with
  | error e =>
    rw [hlex] at hparse
    cases hparse
  | ok tokens =>
    rw [hlex] at hparse
    exact ofTokens_restricts h hparse

/-- In more room the same is read. -/
theorem parse_mono (hroom : room ≤ room') (hparse : parse permission room source = .ok t) :
    parse permission room' source = .ok t := by
  obtain ⟨ts, hlex, hderives, hfits⟩ := derives_of_parse hparse
  exact parse_of_derives hlex hderives (hfits.mono hroom)

/-- In less room the same is read, or it is too deep. -/
theorem parse_or_tooDeep (hroom : room' ≤ room)
    (hparse : parse permission room source = .ok t) :
    parse permission room' source = .ok t ∨
      ∃ p, parse permission room' source = .error ⟨.tooDeep, p⟩ := by
  have h : Restricts (· = .tooDeep) permission room permission room' :=
    ⟨hroom, fun _ => rfl, .inl rfl⟩
  obtain hok | ⟨⟨cause, p⟩, herr, rfl⟩ := parse_restricts h hparse
  · exact .inl hok
  · exact .inr ⟨p, herr⟩

/-- Without continuations being allowed the same is read, or there is one. -/
theorem parse_or_disabled (hparse : parse .granted room source = .ok t) :
    parse .refused room source = .ok t ∨
      ∃ p, parse .refused room source = .error ⟨.continuationsDisabled, p⟩ := by
  have h : Restricts (· = .continuationsDisabled) .granted room .refused room :=
    ⟨Nat.le_refl room, fun hlt => absurd hlt (Nat.lt_irrefl room), .inr ⟨rfl, rfl⟩⟩
  obtain hok | ⟨⟨cause, p⟩, herr, rfl⟩ := parse_restricts h hparse
  · exact .inl hok
  · exact .inr ⟨p, herr⟩

end Template

end XmlTemplate
