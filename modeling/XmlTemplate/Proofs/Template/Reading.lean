import XmlTemplate.Proofs.Template.ReadHead
import XmlTemplate.Proofs.Template.ReadMarkup
import XmlTemplate.Proofs.Token.Tiling

/-!
# What is a template

A source is read as a template if and only if the grammar derives the template from its tokens and
it fits in the room (`Template.parse_eq_ok_iff`).
-/

set_option autoImplicit false

namespace XmlTemplate

namespace Parse

open Grammar

theorem exists_name_of_markup {ts rest : List Token} {e : Element} (h : Tagged ts e rest) :
    ∃ n us, Name ts n us := by
  cases h with
  | empty hname => exact ⟨_, _, hname⟩
  | node hname => exact ⟨_, _, hname⟩

/-- The root element, after the head and the declaration. -/
def rootAfter (permission : Permission) (room : Nat) (into : Option Embedded)
    (layout : Option LayoutDirective) (declared : Option Prolog) : Parse Template := do
  if into.isNone && declared.isNone then fail .missingTarget (← peek).span
  else
    discard <| takePunctuation ['<']
    let root ← element permission room (← remaining)
    return ⟨root, into, layout, declared⟩

/-- The declaration, if there is one, and the root element, after the head. -/
def afterHead (permission : Permission) (room : Nat) (into : Option Embedded)
    (layout : Option LayoutDirective) : Parse Template := do
  let declared ← if (← peekSecond).isPunctuation ['?'] then some <$> prolog else pure none
  rootAfter permission room into layout declared

theorem template_eq (permission : Permission) (room : Nat) (source : Text) :
    template permission room source = (do
      let r ← head (room - readingRoom) source none none (← remaining)
      afterHead permission (room - readingRoom) r.1 r.2) := rfl

/-- The root element, where everything before it is known. -/
theorem reads_root (permission : Permission) (room : Nat) (into : Option Embedded)
    (layout : Option LayoutDirective) (declared : Option Prolog) (ts : List Token) :
    Reads (rootAfter permission room into layout declared) ts fun t rest =>
      (into.isSome = true ∨ declared.isSome = true) ∧ ∃ lt us root, ts = lt :: us ∧
        lt.isPunctuation ['<'] = true ∧ (Tagged us root rest ∧ root.Fits permission room) ∧
          t = ⟨root, into, layout, declared⟩ := by
  have htarget : (into.isSome = true ∨ declared.isSome = true) ↔
      ¬(into.isNone && declared.isNone) = true := by
    cases into <;> cases declared <;> simp
  rw [htarget, rootAfter]
  split
  · next h =>
    cases ts with
    | nil => exact (Reads.peek_nil _).congr (by simp [h])
    | cons t ts => exact (Reads.peek_cons (reads_fail _ _ _)).congr (by simp [h])
  · next h =>
    refine ((reads_takePunctuation ['<'] ts).discard_bind fun lt us _ =>
      Reads.remaining (((reads_markup permission us.length).1 room us (Nat.le_refl _)).bind
        fun root vs _ => reads_pure _ vs)).congr fun t rest => ?_
    constructor
    · rintro ⟨lt, us, ⟨rfl, hlt⟩, root, _, hroot, rfl, rfl⟩
      exact ⟨h, lt, us, root, rfl, hlt, hroot, rfl⟩
    · rintro ⟨-, lt, us, root, rfl, hlt, hroot, rfl⟩
      exact ⟨lt, us, ⟨rfl, hlt⟩, root, rest, hroot, rfl, rfl⟩

/-- A declaration, if the second token says so, and the root element after it. -/
def Rest (permission : Permission) (room : Nat) (into : Option Embedded)
    (layout : Option LayoutDirective) (ts : List Token) (t : Template) (rest : List Token) : Prop :=
  ∃ declared us lt vs, OptionalDeclaration ts declared us ∧ us = lt :: vs ∧
    lt.isPunctuation ['<'] = true ∧ (into.isSome = true ∨ declared.isSome = true) ∧
      ∃ root, (Tagged vs root rest ∧ root.Fits permission room) ∧ t = ⟨root, into, layout, declared⟩

/-- An element does not start as a declaration does. -/
theorem rest_iff {permission : Permission} {room : Nat} {into : Option Embedded}
    {layout : Option LayoutDirective} {lt u : Token} {us rest : List Token} {t : Template} :
    Rest permission room into layout (lt :: u :: us) t rest ↔
      ∃ declared vs, (if u.isPunctuation ['?'] then
          ∃ p, Declaration (lt :: u :: us) p vs ∧ declared = some p
        else declared = none ∧ vs = lt :: u :: us) ∧
        (into.isSome = true ∨ declared.isSome = true) ∧ ∃ lt us root, vs = lt :: us ∧
          lt.isPunctuation ['<'] = true ∧ (Tagged us root rest ∧ root.Fits permission room) ∧
            t = ⟨root, into, layout, declared⟩ := by
  constructor
  · rintro ⟨declared, _, lt', vs, hdeclared, rfl, hlt, htarget, root, hroot, rfl⟩
    refine ⟨declared, lt' :: vs, ?_, htarget, lt', vs, root, rfl, hlt, hroot, rfl⟩
    cases hdeclared with
    | nil =>
      split
      · next hmark =>
        obtain ⟨n, ws, hname⟩ := exists_name_of_markup hroot.1
        exact absurd hname (not_name_of_isPunctuation hmark (by decide))
      · exact ⟨rfl, rfl⟩
    | some h =>
      cases h with
      | intro _ hmark hkey hword hversion hvalue hrest hmark' hgt =>
        rw [if_pos hmark]
        exact ⟨_, .intro ‹_› hmark hkey hword hversion hvalue hrest hmark' hgt, rfl⟩
  · rintro ⟨declared, _, hdeclared, htarget, lt', vs, root, rfl, hlt, hroot, rfl⟩
    refine ⟨declared, _, lt', vs, ?_, rfl, hlt, htarget, root, hroot, rfl⟩
    split at hdeclared
    · obtain ⟨p, h, rfl⟩ := hdeclared
      exact .some h
    · obtain ⟨rfl, h⟩ := hdeclared
      rw [h]
      exact .nil _

theorem reads_template (permission : Permission) (room : Nat) {source : Text} {ts : List Token}
    (hcommas : CommasInPlace source ts) :
    Reads (template permission room source) ts fun t rest =>
      Derives source ts t rest ∧ t.Fits permission room := by
  rw [template_eq]
  refine (Reads.remaining ((reads_head (room - readingRoom) (Nat.le_refl _) hcommas none none).bind
    (S := fun r us t rest => Rest permission (room - readingRoom) r.1 r.2 us t rest)
      fun r us hr => ?_)).congr fun t rest => ?_
  · obtain ⟨into, layout⟩ := r
    obtain ⟨-, -, -, -, -, -, -, lt, us, rfl, hlt⟩ := hr
    cases us with
    | nil =>
      refine (reads_endOfInput [lt]).congr fun t rest => ⟨False.elim, ?_⟩
      rintro ⟨_, _, _, _, h, rfl, -, -, _, ⟨hroot, -⟩, -⟩
      obtain ⟨n, vs, hname⟩ := exists_name_of_markup hroot
      cases h with
      | nil => exact absurd (length_lt_of_name hname) (Nat.not_lt_zero _)
      | some h => cases h
    | cons u us =>
      refine Reads.congr ?_ fun t rest => rest_iff.symm
      by_cases hmark : u.isPunctuation ['?'] = true
      · simp only [hmark, if_true]
        show Reads (if u.isPunctuation ['?'] = true then _ else _) _ _
        rw [if_pos hmark]
        exact ((reads_prolog _).map some).bind fun declared vs _ =>
          reads_root permission (room - readingRoom) into layout declared vs
      · simp only [hmark]
        show Reads (if u.isPunctuation ['?'] = true then _ else _) _ _
        rw [if_neg hmark]
        exact (reads_pure none _).bind fun declared vs _ =>
          reads_root permission (room - readingRoom) into layout declared vs
  · constructor
    · rintro ⟨⟨_, _⟩, us, ⟨e, l, hhead, he, hl, hinto, hlayout, -⟩, declared, _, lt, vs, hdeclared,
        rfl, hlt, htarget, root, ⟨hroot, hfits⟩, rfl⟩
      obtain rfl := joined_none_iff.1 hinto
      obtain rfl := joined_none_iff.1 hlayout
      exact ⟨.intro hhead hdeclared hlt hroot htarget, ⟨he, hl, hfits⟩⟩
    · rintro ⟨h, hfits⟩
      cases h with
      | @intro us _ _ _ _ _ _ _ hhead hdeclared hlt hroot htarget =>
        have hopens : ∃ lt us', us = lt :: us' ∧ lt.isPunctuation ['<'] = true := by
          cases hdeclared with
          | nil => exact ⟨_, _, rfl, hlt⟩
          | some h =>
            cases h with
            | intro hlt => exact ⟨_, _, rfl, hlt⟩
        exact ⟨(_, _), us, ⟨_, _, hhead, hfits.destination, hfits.layout, joined_none_iff.2 rfl,
          joined_none_iff.2 rfl, hopens⟩, _, _, _, _, hdeclared, rfl, hlt, htarget, _,
          ⟨hroot, hfits.root⟩, rfl⟩

/-- A template and nothing after it. -/
def whole (permission : Permission) (room : Nat) (source : Text) : Parse Template := do
  let t ← template permission room source
  noMore
  return t

/-- Commas stand in their places. -/
theorem commasInPlace_of_lex {source : Text} {ts : List Token} (h : Token.lex source = .ok ts) :
    CommasInPlace source ts := by
  have hfirst : Position.first.IsBefore source (source ++ []) := by
    rw [List.append_nil]
    exact .first source
  have htiles := tiles_of_lexes (Token.lex_eq_ok_iff.1 h) hfirst
  intro t ht hcomma
  rcases t with ⟨_ | _ | _ | _, text, p⟩ | _ <;> try cases hcomma
  obtain rfl : text = [','] := by simpa [Token.isPunctuation] using hcomma
  exact (htiles.text_eq_cut ht).symm

end Parse

namespace Template

open Parse Grammar

variable {permission : Permission} {room : Nat} {source : Text} {t : Template}

theorem ofTokens_eq_ok {ts : List Token} :
    ofTokens permission room source ts = .ok t ↔
      ∃ c, whole permission room source ⟨ts, none⟩ = .ok t c := by
  unfold ofTokens whole
  dsimp only
  generalize (do
    let t ← template permission room source
    noMore
    return t : Parse Template) ⟨ts, none⟩ = r
  cases r <;> simp

theorem ofTokens_eq_error {ts : List Token} {e : ParseError} :
    ofTokens permission room source ts = .error e ↔
      ∃ c, whole permission room source ⟨ts, none⟩ = .error e c := by
  unfold ofTokens whole
  dsimp only
  generalize (do
    let t ← template permission room source
    noMore
    return t : Parse Template) ⟨ts, none⟩ = r
  cases r <;> simp

/-- A list of tokens is read as a template if and only if the grammar derives the template from it
and the template fits. -/
theorem ofTokens_eq_ok_iff {ts : List Token} (hcommas : CommasInPlace source ts) :
    ofTokens permission room source ts = .ok t ↔
      Derives source ts t [] ∧ t.Fits permission room := by
  have hwhole := ((reads_template permission room hcommas).bind fun u us _ =>
    (reads_noMore us).bind fun _ vs _ => reads_pure u vs) none t
  rw [ofTokens_eq_ok]
  constructor
  · rintro ⟨c, hc⟩
    obtain ⟨_, ⟨u, us, hu, _, _, ⟨rfl, rfl⟩, rfl, rfl⟩, -⟩ := (hwhole c).1 hc
    exact hu
  · intro h
    exact ⟨_, (hwhole _).2 ⟨[], ⟨t, [], h, (), [], ⟨rfl, rfl⟩, rfl, rfl⟩, rfl⟩⟩

theorem parse_of_lex {ts : List Token} (hlex : Token.lex source = .ok ts) :
    parse permission room source = ofTokens permission room source ts := by
  rw [parse, hlex]
  rfl

/-- What is read is derived by the grammar, and it fits. -/
theorem derives_of_parse (h : parse permission room source = .ok t) :
    ∃ ts, Token.lex source = .ok ts ∧ Derives source ts t [] ∧ t.Fits permission room := by
  cases hlex : Token.lex source with
  | error e =>
    rw [parse, hlex] at h
    cases h
  | ok ts =>
    rw [parse_of_lex hlex] at h
    exact ⟨ts, rfl, (ofTokens_eq_ok_iff (commasInPlace_of_lex hlex)).1 h⟩

/-- What the grammar derives is read, if it fits. -/
theorem parse_of_derives {ts : List Token} (hlex : Token.lex source = .ok ts)
    (h : Derives source ts t []) (hfits : t.Fits permission room) :
    parse permission room source = .ok t := by
  rw [parse_of_lex hlex]
  exact (ofTokens_eq_ok_iff (commasInPlace_of_lex hlex)).2 ⟨h, hfits⟩

/-- A source is read as a template if and only if the grammar derives the template from its tokens,
all of them, and the template fits. -/
theorem parse_eq_ok_iff :
    parse permission room source = .ok t ↔ ∃ ts, Token.lex source = .ok ts ∧
      Derives source ts t [] ∧ t.Fits permission room :=
  ⟨derives_of_parse, fun ⟨_, hlex, h, hfits⟩ => parse_of_derives hlex h hfits⟩

end Template

end XmlTemplate
