import XmlTemplate.Proofs.Template.EndTags

/-!
# Wrong end tags

Up to an end tag, reading depends on the tokens before it alone. If something else stands in its
place, reading therefore comes to it as it came to the tag, and fails as reading an end tag of that
element fails (`Template.ofTokens_of_endTag`). The main result is that a wrong name in an end tag is
found in its own place, whatever comes after it (`Template.ofTokens_wrongEndTag`).
-/

set_option autoImplicit false

namespace XmlTemplate

namespace Parse

open Grammar

variable {permission : Permission} {room : Nat} {source : Text} {ts us vs rest : List Token}
  {o : Option Span}

/-! ## Reading what is known -/

/-- A destination is read without regard to what comes after the comma. -/
theorem destination_of_derives {e : Embedded} (h : Destination source ts e rest)
    (hfits : e.Fits room) : destination room source ⟨ts, o⟩ = .ok e ⟨rest, o⟩ := by
  cases h with
  | @intro us _ first last comma _ hfirst hlast _ _ inside hcomma h =>
    cases us with
    | nil => cases hfirst
    | cons u us =>
      cases hfirst
      have hskip : skipToComma first (first :: us ++ comma :: rest).length
          ⟨first :: us ++ comma :: rest, o⟩ = .ok last ⟨rest, o⟩ := by
        refine (reads_skipToComma first (Nat.le_refl _) o last _).2 ⟨rest, ?_, rfl⟩
        refine ⟨first :: us, comma, rfl, inside, hcomma, ?_⟩
        rw [hlast]
        rfl
      have hembed := (reads_embed room _ first.span rest o e _).2 ⟨rest, ⟨⟨h, hfits⟩, rfl⟩, rfl⟩
      exact (bind_of_ok hskip _).trans hembed

/-- So is the head, up to the first `<`, with what has been read of it before. -/
theorem head_of_derives {into i i' : Option Embedded} {layout l l' : Option LayoutDirective}
    {lt : Token} {n : Nat} (h : Head source ts into layout rest) (hrest : rest.head? = some lt)
    (hlt : lt.isPunctuation ['<'] = true) (hi : Joined i into i') (hl : Joined l layout l')
    (hinto : ∀ e ∈ into, e.Fits room) (hlayout : ∀ d ∈ layout, d.Fits room)
    (hn : ts.length ≤ n) :
    head room source i l n ⟨ts, o⟩ = .ok (i', l') ⟨rest, o⟩ := by
  induction h generalizing i l n with
  | nil ts =>
    cases ts with
    | nil => cases hrest
    | cons t ts =>
      cases hrest
      cases hi
      cases hl
      obtain ⟨n, rfl⟩ := Nat.exists_eq_succ_of_ne_zero (Nat.ne_zero_of_lt hn)
      exact head_markup hlt
  | @directive sign group ts _ into layout hsign h more ih =>
    cases hl
    obtain ⟨n, rfl⟩ := Nat.exists_eq_succ_of_ne_zero (Nat.ne_zero_of_lt hn)
    have hg := isGroup_of_directive h
    have hdirective := (reads_directive room hg ts o layout ⟨ts, o⟩).2
      ⟨ts, ⟨⟨h, hlayout layout rfl⟩, rfl⟩, rfl⟩
    rw [head_directive hsign hg, bind_of_ok hdirective]
    refine ih hrest hi (.kept (some layout)) hinto (by simp) ?_
    simp only [List.length_cons] at hn
    omega
  | @destination ts us _ e layout h more ih =>
    cases hi
    have hlength := length_lt_of_destination h
    obtain ⟨n, rfl⟩ : ∃ m, n = m + 1 := ⟨n - 1, by omega⟩
    have hrun := destination_of_derives (o := o) h (hinto e rfl)
    have hfirst : ∃ t ts', ts = t :: ts' ∧ t.isPunctuation ['#'] = false ∧
        t.isPunctuation ['<'] = false := by
      cases h with
      | @intro us _ first _ _ _ hfirst _ hsign hlt =>
        cases us with
        | nil => cases hfirst
        | cons u us =>
          cases hfirst
          exact ⟨_, _, rfl, hsign, hlt⟩
    obtain ⟨t, ts', rfl, hsign, hno⟩ := hfirst
    rw [head_destination hsign hno, bind_of_ok hrun]
    exact ih hrest (.kept (some e)) hl (by simp) hlayout (by omega)

section AfterHead

variable {into : Option Embedded} {layout : Option LayoutDirective} {declared : Option Prolog}
  {lt u : Token}

theorem rootAfter_of_markup (htarget : into.isSome = true ∨ declared.isSome = true)
    (hlt : lt.isPunctuation ['<'] = true) :
    rootAfter permission room into layout declared ⟨lt :: vs, o⟩ = (do
      let root ← element permission room vs.length
      return (⟨root, into, layout, declared⟩ : Template)) ⟨vs, o⟩ := by
  have hbracket : (takePunctuation ['<'] : Parse Token) ⟨lt :: vs, o⟩ = .ok lt ⟨vs, o⟩ :=
    (reads_takePunctuation ['<'] _ o lt _).2 ⟨vs, ⟨rfl, hlt⟩, rfl⟩
  have hnone : ¬(into.isNone && declared.isNone) = true := by
    cases into <;> cases declared <;> simp at htarget ⊢
  rw [rootAfter, if_neg hnone, discard_bind, bind_of_ok hbracket]
  rfl

/-- The second token tells whether there is a declaration. -/
theorem afterHead_of_declaration (h : u.isPunctuation ['?'] = true) :
    afterHead permission room into layout ⟨lt :: u :: us, o⟩ = (do
      rootAfter permission room into layout (← some <$> prolog)) ⟨lt :: u :: us, o⟩ := by
  rw [afterHead]
  show (if u.isPunctuation ['?'] = true then _ else _ : Parse Template) _ = _
  rw [if_pos h]

theorem afterHead_of_markup (h : u.isPunctuation ['?'] = false) :
    afterHead permission room into layout ⟨lt :: u :: us, o⟩ =
      rootAfter permission room into layout none ⟨lt :: u :: us, o⟩ := by
  rw [afterHead]
  show (if u.isPunctuation ['?'] = true then _ else _ : Parse Template) _ = _
  rw [h]
  rfl

end AfterHead

/-- The head of a template, up to the declaration or the root element. -/
theorem wholeHead_of_derives {into : Option Embedded} {layout : Option LayoutDirective}
    {declared : Option Prolog} {lt : Token} (hhead : Head source ts into layout us)
    (hdeclared : OptionalDeclaration us declared (lt :: vs)) (hlt : lt.isPunctuation ['<'] = true)
    (hinto : ∀ e ∈ into, e.Fits room) (hlayout : ∀ d ∈ layout, d.Fits room) :
    head room source none none ts.length ⟨ts, o⟩ = .ok (into, layout) ⟨us, o⟩ := by
  have hopens : ∃ lt', us.head? = some lt' ∧ lt'.isPunctuation ['<'] = true := by
    cases hdeclared with
    | nil => exact ⟨lt, rfl, hlt⟩
    | some h =>
      cases h with
      | intro hlt => exact ⟨_, rfl, hlt⟩
  obtain ⟨lt', hus, hlt'⟩ := hopens
  exact head_of_derives hhead hus hlt' (joined_none_iff.2 rfl) (joined_none_iff.2 rfl) hinto hlayout
    (Nat.le_refl _)

/-- Where the tokens before the root element are known, only its own are left to be read. -/
theorem template_of_derives {into : Option Embedded} {layout : Option LayoutDirective}
    {declared : Option Prolog} {lt : Token} (hhead : Head source ts into layout us)
    (hdeclared : OptionalDeclaration us declared (lt :: vs)) (hlt : lt.isPunctuation ['<'] = true)
    (htarget : into.isSome = true ∨ declared.isSome = true) (hname : ∃ name ws, Name vs name ws)
    (hinto : ∀ e ∈ into, e.Fits (room - readingRoom))
    (hlayout : ∀ d ∈ layout, d.Fits (room - readingRoom)) :
    template permission room source ⟨ts, o⟩ = (do
      let root ← element permission (room - readingRoom) vs.length
      return (⟨root, into, layout, declared⟩ : Template)) ⟨vs, o⟩ := by
  rw [template_eq]
  refine (bind_of_ok (wholeHead_of_derives hhead hdeclared hlt hinto hlayout) _).trans ?_
  cases hdeclared with
  | nil =>
    obtain ⟨name, ws, hname⟩ := hname
    obtain ⟨u, ws, rfl, hu⟩ := exists_first_of_name hname
    exact (afterHead_of_markup (hu _ (by simp))).trans (rootAfter_of_markup htarget hlt)
  | some h =>
    have hread := ((reads_prolog us).map some o _ _).2 ⟨_, ⟨_, h, rfl⟩, rfl⟩
    cases h with
    | intro _ hmark =>
      refine (afterHead_of_declaration hmark).trans ((bind_of_ok hread _).trans ?_)
      exact rootAfter_of_markup htarget hlt

/-- So is an element up to its content. -/
theorem element_of_startTag {name : Text} {items : List AttributeItem} {depth : Nat}
    (hname : Name ts name us) (htag : StartTag us items false vs) (hroom : nameRoom name ≤ room)
    (hitems : ∀ i ∈ items, i.Fits room) (hdepth : ts.length ≤ depth + 1) :
    element permission room (depth + 1) ⟨ts, o⟩ = (do
      let content ← children permission room depth
      endTag name
      return Element.node name items content) ⟨vs, o⟩ := by
  have hus := length_lt_of_name hname
  have hread := (reads_readName ts o name _).2 ⟨us, hname, rfl⟩
  have htagRead : startTag room depth ⟨us, o⟩ = .ok (items, false) ⟨vs, o⟩ :=
    (reads_startTag room (by omega) o _ _).2 ⟨vs, ⟨htag, hitems⟩, rfl⟩
  obtain ⟨t, ts, rfl, -⟩ := exists_head_of_name hname
  rw [element]
  refine (bind_of_ok hread _).trans ?_
  show (if room < nameRoom name then _ else _ : Parse Element) _ = _
  rw [if_neg (Nat.not_lt.2 hroom)]
  exact bind_of_ok htagRead _

/-! ## Coming to an end tag -/

/-- A reader comes to the end tag of an element after some tokens: if it is not there, the reader
fails as reading the end tag does. -/
def AwaitsTag {α : Type} (name : Text) (before : List Token) (n : Nat) (p : Parse α) : Prop :=
  ∀ (us : List Token) (o : Option Span) (x : ParseError) (c : Cursor), EndsHere us →
    (before ++ us).length ≤ n → endTag name ⟨us, o⟩ = .error x c → p ⟨before ++ us, o⟩ = .error x c

/-- A content goes on with a part. -/
theorem children_of_goesOn {depth : Nat} (h : GoesOn ts) :
    children permission room (depth + 1) ⟨ts, o⟩ = (do
      let first ← child permission room depth
      return first :: (← children permission room depth)) ⟨ts, o⟩ := by
  have hread := (reads_atEndTag ts o false _).2 ⟨ts, ⟨.inr ⟨rfl, h⟩, rfl⟩, rfl⟩
  rw [children]
  exact bind_of_ok hread _

theorem child_of_markup {depth : Nat} {lt : Token} (hlt : lt.isPunctuation ['<'] = true) :
    child permission room (depth + 1) ⟨lt :: ts, o⟩ = (do
      return Child.element (← element permission (room - elementRoom) depth)) ⟨ts, o⟩ := by
  have hkind : ¬lt.isKind .string = true := fun h =>
    not_isPunctuation_of_isKind (by decide) h hlt
  have hgroup : ¬lt.isGroup ['{'] = true := fun h => not_isPunctuation_of_isGroup h hlt
  rw [child]
  show (if lt.isKind .string = true then _ else if lt.isGroup ['{'] = true then _
    else if lt.isPunctuation ['<'] = true then _ else _ : Parse Child) _ = _
  rw [if_neg hkind, if_neg hgroup, if_pos hlt]

/-- Reading an element comes to an end tag as far as reading its content and its own end tag does.
-/
theorem awaitsTag_of_content {n name : Text} {items : List AttributeItem} {content tag : List Token}
    (hname : Name ts n us) (htag : StartTag us items false (content ++ tag))
    (hroom : nameRoom n ≤ room) (hitems : ∀ i ∈ items, i.Fits room)
    (h : ∀ depth, AwaitsTag name content depth (do
      let parts ← children permission room (depth + 1)
      endTag n
      return Element.node n items parts)) :
    ∃ before, ts = before ++ tag ∧ (∀ us, ∃ m ws, Name (before ++ us) m ws) ∧
      ∀ depth, AwaitsTag name before depth (element permission room depth) := by
  obtain ⟨start, hfilled, rfl, htag'⟩ : ∃ start, start ≠ [] ∧ us = start ++ (content ++ tag) ∧
      ∀ us, StartTag (start ++ us) items false us := htag.taken
  obtain ⟨word, -, rfl, hname'⟩ := Name.taken_append hfilled hname
  refine ⟨word ++ start ++ content, by simp, fun us => ?_, fun depth us o x c hus hn hend => ?_⟩
  · rw [List.append_assoc]
    exact ⟨_, _, hname' _⟩
  rw [List.append_assoc] at hn ⊢
  -- the name and the start tag take a token each, which leaves enough depth for the content
  have hlength := length_lt_of_name (hname' (content ++ us))
  have hlength' := length_lt_of_startTag (htag' (content ++ us))
  obtain ⟨depth, rfl⟩ : ∃ d, depth = d + 2 := ⟨depth - 2, by omega⟩
  rw [element_of_startTag (hname' _) (htag' _) hroom hitems hn]
  exact h depth us o x c hus (by omega) hend

variable {f : Element} {tag after : List Token}

mutual

/-- Reading an element comes to each end tag in it, with all that comes before it read. -/
theorem element_awaits : ∀ {room : Nat} {ts rest : List Token} {e : Element},
    TaggedEnd f tag after ts e rest → e.Fits permission room →
    ∃ before, ts = before ++ tag ∧ (∀ us, ∃ n ws, Name (before ++ us) n ws) ∧
      ∀ depth, AwaitsTag f.name before depth (element permission room depth)
  | room, _, _, _, .own hname htag hcontent _ hf, ⟨hroom, hitems, hall⟩ => by
    obtain ⟨content, rfl, hcontent'⟩ := hcontent.taken
    refine awaitsTag_of_content hname htag hroom hitems fun depth us o x c hus hn h => ?_
    -- a content ends at any `</`, and so it is read before the exchanged tag as before its own
    have hread := ((reads_markup permission (depth + 1)).2.1 room _ (by omega) o _ _).2
      ⟨us, ⟨hcontent' us, hall, hus⟩, rfl⟩
    rw [hf] at h
    exact (bind_of_ok hread _).trans (bind_of_error h _)
  | room, _, _, _, .inner hname htag hinside _, ⟨hroom, hitems, hall⟩ => by
    obtain ⟨content, rfl, hcontent⟩ := children_awaits hinside hall
    refine awaitsTag_of_content hname htag hroom hitems fun depth us o x c hus hn h => ?_
    exact bind_of_error (hcontent depth us o x c hus hn h) _

theorem children_awaits : ∀ {room : Nat} {ts rest : List Token} {cs : List Child},
    ContentsEnd f tag after ts cs rest → Child.AllFit permission room cs →
    ∃ before, ts = before ++ tag ∧
      ∀ depth, AwaitsTag f.name before depth (children permission room (depth + 1))
  | room, _, _, _, .first h _, hfits => by
    obtain ⟨before, rfl, hgoes, hpart⟩ := child_awaits h hfits.1
    refine ⟨before, rfl, fun depth us o x c hus hn hend => ?_⟩
    rw [children_of_goesOn (hgoes us)]
    exact bind_of_error (hpart depth us o x c hus hn hend) _
  | room, _, _, _, .later first h, hfits => by
    obtain ⟨before, rfl, hmore⟩ := children_awaits h hfits.2
    obtain ⟨taken, -, rfl, hpart⟩ := first.taken
    refine ⟨taken ++ before, by simp, fun depth us o x c hus hn hend => ?_⟩
    rw [List.append_assoc] at hn ⊢
    have hlength := length_lt_of_part (hpart (before ++ us))
    obtain ⟨depth, rfl⟩ : ∃ d, depth = d + 1 := ⟨depth - 1, by omega⟩
    rw [children_of_goesOn (goesOn_of_part (hpart _))]
    have hread := ((reads_markup permission _).2.2 room _ hn o _ _).2
      ⟨_, ⟨hpart (before ++ us), hfits.1⟩, rfl⟩
    refine (bind_of_ok hread _).trans (bind_of_error (hmore depth us o x c hus ?_ hend) _)
    omega

theorem child_awaits : ∀ {room : Nat} {ts rest : List Token} {part : Child},
    PartEnd f tag after ts part rest → part.Fits permission room →
    ∃ before, ts = before ++ tag ∧ (∀ us, GoesOn (before ++ us)) ∧
      ∀ depth, AwaitsTag f.name before depth (child permission room depth)
  | room, lt :: _, _, _, .element hlt h, hfits => by
    obtain ⟨before, rfl, hname, hread⟩ := element_awaits h hfits
    refine ⟨lt :: before, rfl, fun us => ?_, fun depth us o x c hus hn hend => ?_⟩
    · obtain ⟨n, ws, hname⟩ := hname us
      exact goesOn_of_name hname
    · obtain ⟨depth, rfl⟩ := Nat.exists_eq_succ_of_ne_zero (Nat.ne_zero_of_lt hn)
      refine (child_of_markup hlt).trans (bind_of_error (hread depth us o x c hus ?_ hend) _)
      exact Nat.le_of_succ_le_succ hn

end

/-- Reading a template comes to each end tag in it. -/
theorem whole_awaits {t : Template} (h : DerivesEnd source f tag after ts t rest)
    (hfits : t.Fits permission room) :
    ∃ before, ts = before ++ tag ∧ ∀ (us : List Token) (o : Option Span) (x : ParseError)
      (c : Cursor), EndsHere us → endTag f.name ⟨us, o⟩ = .error x c →
        whole permission room source ⟨before ++ us, o⟩ = .error x c := by
  cases h with
  | @intro _ _ _ lt _ _ _ _ hhead hdeclared hlt hroot htarget =>
    obtain ⟨markup, rfl, hname, hread⟩ := element_awaits hroot hfits.root
    obtain ⟨declaration, rfl, hdeclared'⟩ := hdeclared.taken
    obtain ⟨start, rfl, hhead'⟩ := hhead.taken
    refine ⟨start ++ (declaration ++ lt :: markup), by simp, fun us o x c hus hend => ?_⟩
    have htemplate : template permission room source
        ⟨start ++ (declaration ++ lt :: (markup ++ us)), o⟩ = _ :=
      template_of_derives (hhead' _) (hdeclared' (lt :: (markup ++ us))) hlt htarget (hname us)
        hfits.destination hfits.layout
    have hroot := hread _ us o x c hus (Nat.le_refl _) hend
    have herror := htemplate.trans (bind_of_error hroot _)
    rw [List.append_assoc, List.append_assoc, List.cons_append]
    exact bind_of_error herror _

/-- A wrong name is found as soon as it has been read. -/
theorem endTag_mismatch {name m : Text} {lt slash : Token} (hlt : lt.isPunctuation ['<'] = true)
    (hslash : slash.isPunctuation ['/'] = true) (hm : Name ts m rest) (hne : m ≠ name) :
    endTag name ⟨lt :: slash :: ts, o⟩ =
      .error ⟨.endTagMismatch name m, some lt.span⟩ ⟨rest, o⟩ := by
  have hbracket := (reads_takePunctuation ['<'] (lt :: slash :: ts) o lt _).2 ⟨_, ⟨rfl, hlt⟩, rfl⟩
  have hbar := (reads_takePunctuation ['/'] (slash :: ts) o slash _).2 ⟨_, ⟨rfl, hslash⟩, rfl⟩
  have hread := (reads_readName ts o m _).2 ⟨rest, hm, rfl⟩
  obtain ⟨t, us, rfl, hmarks⟩ := exists_first_of_name hm
  have hgt : t.isPunctuation ['>'] = false := hmarks _ (by simp)
  rw [endTag, bind_of_ok hbracket, discard_bind, bind_of_ok hbar]
  show (if (!t.isPunctuation ['>']) = true then _ else _ : Parse Unit) _ = _
  rw [hgt, Bool.not_false, if_pos rfl]
  refine (bind_of_ok hread _).trans ?_
  show (if m ≠ name then _ else _ : Parse Unit) _ = _
  rw [if_pos hne]
  rfl

end Parse

namespace Template

open Parse Grammar

variable {permission : Permission} {room : Nat} {source : Text} {t : Template} {f : Element}
  {ts before tag after us : List Token}

/-- Where an end tag of a template fails to be read, reading the template fails. -/
theorem ofTokens_of_endTag {x : ParseError} {c : Cursor}
    (h : DerivesEnd source f tag after (before ++ tag) t []) (hfits : t.Fits permission room)
    (hus : EndsHere us) (hend : endTag f.name ⟨us, none⟩ = .error x c) :
    ofTokens permission room source (before ++ us) = .error x := by
  obtain ⟨before', hbefore, hread⟩ := whole_awaits h hfits
  obtain rfl := List.append_cancel_right hbefore
  exact ofTokens_eq_error.2 ⟨c, hread us none x c hus hend⟩

/-- Every element of a template that is not empty has an end tag, and a wrong name in any end tag is
found in its own place, whatever comes after it. -/
theorem ofTokens_wrongEndTag (h : parse permission room source = .ok t)
    (hlex : Token.lex source = .ok ts) :
    (∀ f ∈ t.root.closed, ∃ tag after, DerivesEnd source f tag after ts t []) ∧
      ∀ (f : Element) (before tag after ms tail : List Token) (lt slash gt : Token) (m : Text),
        ts = before ++ lt :: slash :: tag → DerivesEnd source f (lt :: slash :: tag) after ts t [] →
          gt.isPunctuation ['>'] = true → readName ⟨ms ++ [gt], none⟩ = .ok m ⟨[gt], none⟩ →
            m ≠ f.name →
              ofTokens permission room source (before ++ lt :: slash :: (ms ++ gt :: tail)) =
                .error ⟨.endTagMismatch f.name m, some lt.span⟩ := by
  rw [parse_of_lex hlex, ofTokens_eq_ok_iff (commasInPlace_of_lex hlex)] at h
  obtain ⟨h, hfits⟩ := h
  refine ⟨fun f => exists_derivesEnd h, ?_⟩
  rintro f before tag after ms tail lt slash gt m rfl hend hgt hm hne
  obtain ⟨hlt, hslash, -⟩ := hend.endTag.named_or_short
  obtain ⟨_, hname, hrest⟩ := (reads_readName _ none m _).1 hm
  cases hrest
  obtain ⟨taken, -, htaken, hname'⟩ := hname.taken
  obtain rfl := List.append_cancel_right htaken
  exact ofTokens_of_endTag hend hfits ⟨lt, slash, _, rfl, hlt, hslash⟩
    (endTag_mismatch hlt hslash (hname' (gt :: tail) fun t ht => ht) hne)

/-- An element in another one, with an end tag without a name. -/
def nestedSource : Text := "<?xml version='1.0'?><a><b>'t'</></a>".toList

/-- A name is put into the inner end tag, and it is not that of the inner element. -/
theorem ofTokens_wrongEndTag_nested :
    ∃ before lt slash tag, Token.lex nestedSource = .ok (before ++ lt :: slash :: tag) ∧
      ∀ (p : Span) (tail : List Token), ofTokens .refused maxRoom nestedSource
        (before ++ lt :: slash :: ([.leaf .identifier ['c'] p] ++ .leaf .punctuation ['>'] p :: tail)) =
          .error ⟨.endTagMismatch ['b'] ['c'], some lt.span⟩ := by
  have hnames : (parse .refused maxRoom nestedSource).toOption.map
      (fun t => t.root.closed.map Element.name) = some [['a'], ['b']] := by decide +kernel
  cases hparse : parse .refused maxRoom nestedSource with
  | error x =>
    rw [hparse] at hnames
    cases hnames
  | ok t =>
    rw [hparse] at hnames
    have hnames : t.root.closed.map Element.name = [['a'], ['b']] := Option.some.inj hnames
    have hmem : ['b'] ∈ t.root.closed.map Element.name := by simp [hnames]
    obtain ⟨f, hf, hname⟩ := List.mem_map.1 hmem
    obtain ⟨ts, hlex, -, hfits⟩ := derives_of_parse hparse
    obtain ⟨hends, hwrong⟩ := ofTokens_wrongEndTag hparse hlex
    obtain ⟨tag, after, hend⟩ := hends f hf
    obtain ⟨before, rfl, -⟩ := whole_awaits hend hfits
    obtain ⟨lt, slash, tag, rfl, -, -⟩ := endsHere_of_endTag hend.endTag
    refine ⟨before, lt, slash, tag, hlex, fun p tail => ?_⟩
    have hne : ['c'] ≠ f.name := by rw [hname]; decide
    rw [← hname]
    exact hwrong f before tag after _ tail lt slash _ ['c'] rfl hend rfl rfl hne

end Template

end XmlTemplate
