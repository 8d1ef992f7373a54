import XmlTemplate.Proofs.Template.Readers
import XmlTemplate.Proofs.Template.ReprintMarkup

/-!
# The head of a template printed anew

The destination is printed as it stands, up to a comma; the stretch that it is ends where its last
token does, so that blanks and comments before the comma are lost. A directive with a unit is written
as a group of its own and can stand anywhere, but one with an expression stays where it was, before
the destination or after it (`reprints_head`).
-/

set_option autoImplicit false

namespace XmlTemplate

open Grammar

section

variable {old new : Text} {all us ts rest : List Token} {left : Text} {Q : List Token → Prop}

/-! ## The destination -/

/-- Blanks and comments start with a stop. -/
theorem Lexes.isStop_of_nil {grouped : Bool} {x : Char} {s t : Text} {pos : Position}
    (h : Lexes grouped (x :: s) t pos []) : IsStop x := by
  generalize hshown : x :: s = shown at h
  generalize hts : ([] : List Token) = ts at h
  cases h with
  | nil => cases hshown
  | skip hk here =>
    obtain ⟨rfl, -⟩ := List.cons.inj hshown
    rcases hk with rfl | rfl
    · obtain ⟨hblank, -⟩ := lexeme_eq_blanks here
      refine ⟨?_, ?_, ?_, ?_⟩
      · rw [Bool.eq_false_iff]
        intro hword
        rw [isBlank_of_isWord hword] at hblank
        cases hblank
      · rw [Bool.eq_false_iff]
        intro hquote
        rw [isBlank_of_isQuote hquote] at hblank
        cases hblank
      · rintro rfl
        exact absurd hblank (by decide)
      · rintro rfl
        exact absurd hblank (by decide)
    · obtain ⟨rfl, -⟩ := lexeme_eq_comment here
      exact isStop_of_mark (by decide) (by decide)
  | leaf => cases hts
  | group => cases hts

theorem isMark_comma : IsMark ',' := isMark_of_mem (by decide)

theorem isStop_comma : IsStop ',' := isStop_of_mark (by decide) (by decide)

/-- A comma with blanks and comments before it can be left for a comma alone: it starts with a
character that no token goes on with, and what comes after that is as calm. -/
theorem exists_stop_of_comma {f rest : Text} {pos : Position} (hf : Lexes false f (',' :: rest) pos [])
    (hcalm : Calmer left rest) :
    ∃ x r, f ++ ',' :: rest = x :: r ∧ IsStop x ∧ opensDirective (x :: r) = false ∧
      Calmer (' ' :: left) r := by
  have hopens : opensDirective (f ++ ',' :: rest) = false :=
    hf.opensDirective_of_nil (opensDirective_other rfl rest)
  cases f with
  | nil => exact ⟨',', rest, rfl, isStop_comma, hopens, hcalm.cons rfl (by decide)⟩
  | cons x f =>
    exact ⟨x, f ++ ',' :: rest, rfl, hf.isStop_of_nil, hopens,
      (hcalm.after isStop_comma f).cons rfl (by decide)⟩

theorem Shows.eq_of_isPunctuation {grouped : Bool} {s t w : Text} {pos : Position} {u : Token}
    (h : Shows grouped s t pos u) (hu : u.isPunctuation w = true) : s = w := by
  cases h with
  | @leaf c s _ _ kind =>
    cases kind <;> first | cases hu | exact of_decide_eq_true hu
  | group => cases hu

theorem ShiftedAll.getLast? {i j : Nat} {ts ts' : List Token} (h : ShiftedAll i j ts ts') :
    ∀ t ∈ ts.getLast?, ∃ t' ∈ ts'.getLast?, Shifted i j t t' := by
  induction ts generalizing ts' with
  | nil => simp
  | cons t ts ih =>
    cases h with
    | @cons _ t' _ ts' hfirst hrest =>
      intro u hu
      cases ts with
      | nil =>
        cases hrest
        cases hu
        exact ⟨t', rfl, hfirst⟩
      | cons v vs =>
        rw [List.getLast?_cons_cons] at hu
        obtain ⟨u', hu', hshift⟩ := ih hrest u hu
        exact ⟨u', mem_getLast?_cons hu', hshift⟩

theorem ShiftedAll.of_mem {i j : Nat} {ts ts' : List Token} (h : ShiftedAll i j ts ts') :
    ∀ t' ∈ ts', ∃ t ∈ ts, Shifted i j t t' := by
  induction ts generalizing ts' with
  | nil =>
    cases h
    simp
  | cons t ts ih =>
    cases h with
    | cons hfirst hrest =>
      intro u hu
      rcases List.mem_cons.1 hu with rfl | hu
      · exact ⟨t, List.mem_cons_self, hfirst⟩
      · obtain ⟨v, hv, hshift⟩ := ih hrest u hu
        exact ⟨v, List.mem_cons_of_mem t hv, hshift⟩

/-- What stands in a source from the start of one token to the end of another. -/
theorem Position.IsBefore.cut {source w rest : Text} {pos : Position} {start stop : Nat}
    (h : pos.IsBefore source (w ++ rest)) (hstart : start = pos.offset)
    (hstop : stop = pos.offset + w.length) : (source.drop start).take (stop - start) = w := by
  rw [hstart, hstop, h.left, Nat.add_sub_cancel_left, List.take_left]

/-- The tokens of a destination in another place, up to a comma. -/
theorem Grammar.Destination.move {i j : Nat} {ts ts' : List Token} (rest' : List Token)
    {e : Embedded} {first last comma : Token} {w : Text} (hfirst : ts.head? = some first)
    (hlast : ts.getLast? = some last) (hsign : first.isPunctuation ['#'] = false)
    (hlt : first.isPunctuation ['<'] = false) (inside : ∀ t ∈ ts, t.isPunctuation [','] = false)
    (hcomma : comma.isPunctuation [','] = true) (he : Expression w first.span e)
    (hshift : ShiftedAll i j ts ts') (hstart : first.span.start = i)
    (hstop : last.span.stop = i + w.length) {pos' : Position} (hpos' : pos'.offset = j)
    (hnew : pos'.IsBefore new (w ++ left)) :
    ∃ e', Destination new (ts' ++ comma :: rest') e' rest' ∧ e'.unplaced = e.unplaced := by
  obtain ⟨last', hlast', hend⟩ := hshift.getLast? last hlast
  cases hshift with
  | nil => cases hfirst
  | @cons t first' _ more' hbegin hmore =>
    obtain rfl : t = first := Option.some.inj hfirst
    have hstart' : first'.span.start = pos'.offset := by
      have := hbegin.start
      omega
    have hstop' : last'.span.stop = pos'.offset + w.length := by
      have := hend.stop
      omega
    obtain ⟨-, e', he', hsame⟩ := he.move first'.span
    refine ⟨e', .intro rfl hlast' ?_ ?_ ?_ hcomma ?_, hsame⟩
    · rw [hbegin.isPunctuation, hsign]
    · rw [hbegin.isPunctuation, hlt]
    · intro t' ht'
      obtain ⟨t, ht, hsame⟩ := (ShiftedAll.cons hbegin hmore).of_mem t' ht'
      rw [hsame.isPunctuation, inside t ht]
    · rwa [hnew.cut hstart' hstop']

theorem reprints_destination {e : Embedded} (hinto : Destination old ts e rest)
    (hleft : ∀ c ∈ left.head?, isBlank c = false) (h : Reprints old new all rest left Q) :
    Reprints old new all ts (e.unparseDestination ++ left) fun us => ∃ e' vs,
      Destination new us e' vs ∧ e'.unplaced = e.unplaced ∧ Q vs := by
  cases hinto with
  | @intro ts _ first last comma _ hfirst hlast hsign hlt inside hcomma he =>
    obtain ⟨more, rfl⟩ : ∃ more, ts = first :: more := by
      cases ts with
      | nil => cases hfirst
      | cons t more => exact ⟨more, by rw [Option.some.inj hfirst]⟩
    intro shown pos hshown
    -- the stretch `w` from the first token to the last one, and what stands around it
    obtain ⟨a, b, rfl, ha, hb, hend⟩ := hshown.split_append
    obtain ⟨f, s, t, rfl, hf, hs, ht⟩ := ha.split
    obtain ⟨f', s', rest', rfl, hf', hs', hrest⟩ := hb.split
    obtain rfl : s' = [','] := hs'.eq_of_isPunctuation hcomma
    obtain ⟨hcalm, hnew⟩ := h rest' _ hrest
    obtain ⟨x, r, hxr, hx, hopens, hr⟩ := exists_stop_of_comma hf' hcalm
    change f' ++ ',' :: rest' = x :: r at hxr
    rw [List.singleton_append, hxr] at hs ht hf hshown ⊢
    have hw : Lexes false (s ++ t) (x :: r) (pos.after f) (first :: more) := .cons hs ht
    have hstart : first.span.start = (pos.after f).offset := by
      rw [hs.span_eq.2]
      rfl
    have hstop : last.span.stop = (pos.after f).offset + (s ++ t).length := by
      rw [hend last hlast, Position.after_append, Position.offset_after]
    have hplace : (pos.after f).IsBefore old ((s ++ t) ++ x :: r) := by
      have := hshown.place
      rw [List.append_assoc f] at this
      exact this.after f
    rw [hplace.cut hstart hstop] at he
    have hprinted : e.unparseDestination ++ left = (s ++ t) ++ ',' :: ' ' :: left := by
      rw [Embedded.unparseDestination, (he.move first.span).1]
      simp
    rw [hprinted]
    refine ⟨?_, fun pos' hpos' => ?_⟩
    · have hfiller : Calmer ((s ++ t) ++ x :: r) (f ++ ((s ++ t) ++ x :: r)) := by
        rw [List.append_assoc s]
        exact hf.calmer_of_nil hs.head_ne
      rw [List.append_assoc f]
      exact (hr.append_cons hx isStop_comma (s ++ t)).trans hfiller
    · obtain ⟨ts', hts', hshift⟩ := hw.swap_end (fun h => by cases h) (fun u hu => by
        rw [Option.mem_unique hu hlast, hstop]) rfl hx hopens isStop_comma hr
          (Nat.add_comm (pos.after f).offset pos'.offset)
      have hafter : (((pos'.after (s ++ t)).next ',').next ' ').IsBefore new left :=
        (hpos'.after (s ++ t)).next.next
      obtain ⟨us, hus, hq⟩ := hnew _ hafter
      obtain ⟨e', he', hsame⟩ := Destination.move us hfirst hlast hsign hlt inside
        (Token.isPunctuation_leaf [','] ((pos'.after (s ++ t)).span 1)) he hshift hstart hstop rfl
        hpos'
      refine ⟨_, ?_, e', us, he', hsame, hq⟩
      rw [← List.append_nil (',' :: ' ' :: left)] at hts'
      refine hts'.append (.mark isMark_comma (.space ?_ hus))
      rwa [List.append_nil]

/-! ## Directives -/

/-- Tokens of a directive, the same as the given one up to places, and what is asked for after it. -/
def StartsWith (layout : LayoutDirective) (Q : List Token → Prop) (us : List Token) : Prop :=
  ∃ sign group layout' vs, us = sign :: group :: vs ∧ sign.isPunctuation ['#'] = true ∧
    Directive group layout' ∧ layout'.unplaced = layout.unplaced ∧ Q vs

theorem not_backslash_of_isKind {t : Token} (h : t.isKind .identifier = true) :
    t.isPunctuation ['\\'] = false := by
  rw [Bool.eq_false_iff]
  exact Parse.not_isPunctuation_of_isKind (by decide) h

/-- Letters make a word. -/
theorem isWordText_of_letters {w : Text} (hne : w ≠ [])
    (h : (w.all fun c => inRanges letterRanges c.toNat) = true) : IsWordText w where
  filled := hne
  word c hc := isWord_of_letter (List.all_eq_true.1 h c hc)
  noDigit c hc := isDecimal_of_letter (List.all_eq_true.1 h c (List.mem_of_mem_head? hc))

theorem isWordText_indentation : IsWordText "indentation".toList :=
  isWordText_of_letters (by decide) (by decide)

theorem isWordText_format : IsWordText "format".toList :=
  isWordText_of_letters (by decide) (by decide)

/-- What comes after a word in what is written: an equals sign. -/
theorem next_equals (s : Text) : ∀ c ∈ ('=' :: s).head?, isWord c = false ∧ isQuote c = false := by
  rintro _ ⟨⟩
  exact ⟨isMark_equals.lone.notWord, rfl⟩

theorem lexes_unit {s : Text} (hs : s.allBlank = true) (rest : Text) (pos : Position) :
    ∃ children, Lexes true ("indentation".toList ++ '=' :: Literal.quote s) (']' :: rest) pos children ∧
      ∀ text p, Directive (.group .square text p children) (.unit s) := by
  have hquote : ([] ++ ']' :: rest).head? ≠ some '"' := head_ne_quote (by decide) rest
  have hvalue := Lexes.quote (t := s) hquote (.nil true (']' :: rest)
    (((pos.after "indentation".toList).next '=').after (Literal.quote s)))
  rw [List.append_nil] at hvalue
  refine ⟨_, .word isWordText_indentation (next_equals _) (.mark isMark_equals hvalue), ?_⟩
  exact fun text p => .unit rfl rfl (Token.isPunctuation_leaf _ _)
    (.string rfl (Script.readConstant_quote s)) hs

/-- A directive with a unit can be written wherever a directive can stand. -/
theorem reprints_unit {s : Text} (hs : s.allBlank = true) (h : Reprints old new all ts left Q) :
    Reprints old new all ts ((LayoutDirective.unit s).unparse ++ left)
      (StartsWith (.unit s) Q) := by
  let inner := "indentation".toList ++ '=' :: Literal.quote s
  have hgroup : Reprints old new all ts (('[' :: (inner ++ [']'])) ++ left) fun us =>
      ∃ g vs, us = g :: vs ∧ Directive g (.unit s) ∧ Q vs := by
    refine h.write (fun shown hcalm => ?_) fun pos us hus => ?_
    · have hinside := (Calmer.quote (w := s) (head_ne_quote (by decide) left)
        (hcalm.cons (c := ']') rfl (by decide))).cons (c := '=') rfl (by decide)
      simpa [inner] using
        (Calmer.word isWordText_indentation.word hinside).cons (c := '[') rfl (by decide)
    · obtain ⟨children, hchildren, hunit⟩ := lexes_unit hs (left ++ []) (pos.next '[')
      rw [Position.after_cons, Position.after_append] at hus
      rw [List.cons_append, List.append_assoc]
      exact ⟨_, .group .square hchildren hus, hunit _ _⟩
  have hprinted : (LayoutDirective.unit s).unparse ++ left =
      '#' :: '[' :: ((inner ++ [']']) ++ left) := by
    simp [LayoutDirective.unparse, inner]
  rw [hprinted]
  refine hgroup.sign.mono ?_
  rintro _ ⟨sign, _, rfl, hsign, g, vs, rfl, hg, hq⟩
  exact ⟨sign, g, _, vs, rfl, hsign, hg, rfl, hq⟩

/-- A directive of the source is written in its place. -/
theorem reprints_directive {sign g : Token} {layout : LayoutDirective}
    (hsign : sign.isPunctuation ['#'] = true) (hg : Directive g layout)
    (h : Reprints old new all ts left Q) :
    Reprints old new all (sign :: g :: ts) (layout.unparse ++ left) (StartsWith layout Q) := by
  have hdrop := not_backslash_of_isPunctuation hsign (by decide)
  cases hg with
  | unit _ _ _ _ hblank => exact ((reprints_unit hblank h).drop rfl).drop hdrop
  | @format _ key eq first text p inside e hg hkey hword heq he =>
    have hregroups := regroups_from [key, eq] (w := "format".toList ++ ['=']) (T := fun vs =>
        ∃ key eq, vs = [key, eq] ∧ (key.isKind .identifier = true ∧ key.text = "format".toList) ∧
          eq.isPunctuation ['='] = true) hg
      (by rintro _ ⟨⟩; exact not_backslash_of_isPunctuation heq (by decide))
      (fun hst => by
        rw [List.append_assoc]
        exact .word isWordText_format.word (hst.cons rfl (by decide)))
      (fun {s rest pos ts} hlexes => by
        rw [List.append_assoc]
        rw [Position.after_append] at hlexes
        exact ⟨[_, _], .word isWordText_format (next_equals _) (.mark isMark_equals hlexes), _, _,
          rfl, ⟨rfl, rfl⟩, Token.isPunctuation_leaf _ _⟩)
    have hprinted : (LayoutDirective.expression e).unparse ++ left =
        '#' :: '[' :: (("format".toList ++ ['=']) ++ g.innerFrom first ++ ']' :: left) := by
      rw [LayoutDirective.unparse, (he.move p).1]
      simp
    rw [hprinted]
    subst hg
    refine ((Reprints.group (d := .square) hregroups h).sign.drop hdrop).mono ?_
    rintro _ ⟨sign', _, rfl, hsign', _, vs, rfl, ⟨text', p', _, first', more', rfl, ⟨key', eq', rfl,
      ⟨hkey', hword'⟩, heq'⟩, hfrom⟩, hq⟩
    rw [← hfrom] at he
    obtain ⟨-, e', he', hsame⟩ := he.move first'.span
    exact ⟨sign', _, _, vs, rfl, hsign', .format rfl hkey' hword' heq' he',
      congrArg LayoutDirective.expression hsame, hq⟩

/-! ## Directive and destination -/

/-- The expression of a directive stands inside of its group. -/
theorem span_of_directive {i j : Nat} {g : Token} {f : Embedded} (htiles : Tiles old i j ts)
    (hg : g ∈ ts) (h : Directive g (.expression f)) :
    ∃ p, f.span = some p ∧ g.span.start < p.start ∧ p.start < g.span.stop := by
  cases h with
  | @format _ key eq first text p inside e hgroup _ _ _ he =>
    subst hgroup
    obtain ⟨hall, -⟩ := (htiles.inside hg).inOrder
    have hfirst := hall first (by simp)
    cases he with
    | intro =>
      refine ⟨first.span, rfl, ?_, ?_⟩ <;> simp only [Token.span] at * <;> omega

theorem span_of_destination {e : Embedded} (h : Destination old ts e rest) :
    ∃ first ∈ ts, e.span = some first.span := by
  cases h with
  | @intro ts _ first _ _ _ hfirst _ _ _ _ _ he =>
    cases he with
    | intro => exact ⟨first, List.mem_append_left _ (List.mem_of_mem_head? hfirst), rfl⟩

/-- A directive that stands before the destination is not after it. -/
theorem isAfter_of_directive_destination {i j : Nat} {sign g : Token} {e f : Embedded}
    (htiles : Tiles old i j (sign :: g :: ts)) (hg : Directive g (.expression f))
    (he : Destination old ts e rest) : f.isAfter e = false := by
  obtain ⟨p, hp, hstart, hstop⟩ := span_of_directive htiles (by simp) hg
  obtain ⟨first, hfirst, hspan⟩ := span_of_destination he
  obtain ⟨-, hpairs⟩ := htiles.inOrder
  have horder := List.rel_of_pairwise_cons (List.pairwise_cons.1 hpairs).2 hfirst
  rw [Embedded.isAfter, hp, hspan]
  simp only [decide_eq_false_iff_not]
  omega

/-- A directive that stands behind the destination is after it. -/
theorem isAfter_of_destination_directive {i j : Nat} {sign g : Token} {e f : Embedded}
    (htiles : Tiles old i j ts) (he : Destination old ts e (sign :: g :: rest))
    (hg : Directive g (.expression f)) : f.isAfter e = true := by
  cases he with
  | @intro ts _ first _ comma _ hfirst _ _ _ _ _ he =>
    obtain ⟨p, hp, hstart, -⟩ := span_of_directive htiles (by simp) hg
    have hmem : first ∈ ts := List.mem_of_mem_head? hfirst
    obtain ⟨hall, hpairs⟩ := htiles.inOrder
    have hfilled := hall first (List.mem_append_left _ hmem)
    have horder := (List.pairwise_append.1 hpairs).2.2 first hmem g (by simp)
    cases he with
    | intro =>
      rw [Embedded.isAfter, hp]
      simp only [decide_eq_true_eq]
      omega

/-- Tokens of the head of a template, the same as the given one up to places, and what is asked for
after it. -/
def HeadsWith (new : Text) (into : Option Embedded) (layout : Option LayoutDirective)
    (Q : List Token → Prop) (us : List Token) : Prop :=
  ∃ into' layout' vs, Head new us into' layout' vs ∧
    into'.map Embedded.unplaced = into.map Embedded.unplaced ∧
      layout'.map LayoutDirective.unplaced = layout.map LayoutDirective.unplaced ∧ Q vs

theorem headsWith_of_directive {into : Option Embedded} {layout : LayoutDirective}
    (h : StartsWith layout (HeadsWith new into none Q) us) :
    HeadsWith new into (some layout) Q us := by
  obtain ⟨sign, g, layout', vs, rfl, hsign, hg, hsame, into', none', ws, hmore, hinto, hnone, hq⟩ := h
  obtain rfl := Option.map_eq_none_iff.1 hnone
  exact ⟨into', _, ws, .directive hsign hg hmore, hinto, congrArg some hsame, hq⟩

theorem headsWith_of_destination {e : Embedded} {layout : Option LayoutDirective}
    (h : ∃ e' vs, Destination new us e' vs ∧ e'.unplaced = e.unplaced ∧
      HeadsWith new none layout Q vs) : HeadsWith new (some e) layout Q us := by
  obtain ⟨e', vs, he', hsame, none', layout', ws, hmore, hnone, hlayout, hq⟩ := h
  obtain rfl := Option.map_eq_none_iff.1 hnone
  exact ⟨_, layout', ws, .destination he' hmore, congrArg some hsame, hlayout, hq⟩

theorem headsWith_nil (h : Q us) : HeadsWith new none none Q us :=
  ⟨none, none, us, .nil us, rfl, rfl, h⟩

theorem reprints_directive_head {sign g : Token} {into : Option Embedded} {layout : LayoutDirective}
    (hsign : sign.isPunctuation ['#'] = true) (hg : Directive g layout)
    (h : Reprints old new all ts left (HeadsWith new into none Q)) :
    Reprints old new all (sign :: g :: ts) (layout.unparse ++ left)
      (HeadsWith new into (some layout) Q) :=
  (reprints_directive hsign hg h).mono fun _ => headsWith_of_directive

theorem reprints_destination_head {e : Embedded} {layout : Option LayoutDirective}
    (he : Destination old ts e rest) (hleft : ∀ c ∈ left.head?, isBlank c = false)
    (h : Reprints old new all rest left (HeadsWith new none layout Q)) :
    Reprints old new all ts (e.unparseDestination ++ left) (HeadsWith new (some e) layout Q) :=
  (reprints_destination he hleft h).mono fun _ => headsWith_of_destination

theorem unparseHead_of_directive_first {into : Option Embedded} {layout : Option LayoutDirective}
    (h : destinationFirst into layout = false) :
    unparseHead into layout =
      layout.elim [] LayoutDirective.unparse ++ into.elim [] Embedded.unparseDestination := by
  rw [unparseHead, h]
  rfl

theorem unparseHead_of_destination_first {into : Option Embedded} {layout : Option LayoutDirective}
    (h : destinationFirst into layout = true) :
    unparseHead into layout =
      into.elim [] Embedded.unparseDestination ++ layout.elim [] LayoutDirective.unparse := by
  rw [unparseHead, h]
  rfl

/-- The head of a template: the destination and the directive in the order of the source, unless
the directive has a unit, which comes first. -/
theorem reprints_head {i j : Nat} {into : Option Embedded} {layout : Option LayoutDirective}
    (htiles : Tiles old i j ts) (hhead : Head old ts into layout rest)
    (hleft : left.head? = some '<') (h : Reprints old new all rest left Q) :
    Reprints old new all ts (unparseHead into layout ++ left) (HeadsWith new into layout Q) := by
  have hblank : ∀ c ∈ left.head?, isBlank c = false := by
    rw [hleft]
    rintro _ ⟨⟩
    decide
  have hnil : Reprints old new all rest left (HeadsWith new none none Q) :=
    h.mono fun _ => headsWith_nil
  cases hhead with
  | nil => exact hnil
  | @directive sign g ts _ into layout hsign hg more =>
    -- a directive and a destination are printed in the order in which they stand, as far as their
    -- places tell it
    cases more with
    | nil =>
      rw [unparseHead_of_directive_first rfl, List.append_assoc]
      exact reprints_directive_head hsign hg hnil
    | @destination _ us _ e _ he more =>
      cases more
      have hfirst : destinationFirst (some e) (some layout) = false := by
        cases layout with
        | unit => rfl
        | expression => exact isAfter_of_directive_destination htiles hg he
      rw [unparseHead_of_directive_first hfirst, List.append_assoc]
      exact reprints_directive_head hsign hg (reprints_destination_head he hblank hnil)
  | @destination _ us _ e layout he more =>
    cases more with
    | nil =>
      rw [unparseHead_of_directive_first rfl, List.append_assoc]
      exact reprints_destination_head he hblank hnil
    | @directive sign g _ _ _ layout hsign hg more =>
      cases more
      cases layout with
      -- a unit keeps no place, so it is printed in front
      | unit s =>
        rw [unparseHead_of_directive_first rfl, List.append_assoc]
        have hskips : Skips (sign :: g :: rest) rest := by
          refine .cons (not_backslash_of_isPunctuation hsign (by decide)) (.cons ?_ (.refl rest))
          cases hg
          rfl
        have hs : s.allBlank = true := by
          cases hg
          assumption
        exact (reprints_unit hs (reprints_destination_head he hblank (hnil.skip hskips))).mono
          fun _ => headsWith_of_directive
      | expression f =>
        have hfirst : destinationFirst (some e) (some (.expression f)) = true :=
          isAfter_of_destination_directive htiles he hg
        rw [unparseHead_of_destination_first hfirst, List.append_assoc]
        refine reprints_destination_head he ?_ (reprints_directive_head hsign hg hnil)
        rintro _ ⟨⟩
        decide

/-! ## The declaration -/

theorem isMark_question : IsMark '?' := isMark_of_mem (by decide)

theorem Grammar.PrologAttribute.skips {name value : Text} (h : PrologAttribute name ts value rest) :
    Skips ts rest := by
  cases h with
  | intro hkey _ heq hvalue =>
    exact .cons (not_backslash_of_isKind hkey)
      (.cons (not_backslash_of_isPunctuation heq (by decide))
        (.cons hvalue.not_backslash (.refl rest)))

theorem Grammar.PrologRest.skips {standalone : Option Bool} (h : PrologRest ts standalone rest) :
    Skips ts rest := by
  cases h with
  | nil => exact .refl ts
  | encoding h => exact h.skips
  | standalone h hs => exact h.skips.trans hs.skips

theorem Grammar.Declaration.skips {p : Prolog} (h : Declaration ts p rest) : Skips ts rest := by
  cases h with
  | intro hlt hmark hkey _ hversion _ hrest hmark' hgt =>
    refine .cons (not_backslash_of_isPunctuation hlt (by decide))
      (.cons (not_backslash_of_isPunctuation hmark (by decide))
        (.cons (not_backslash_of_isKind hkey) (hversion.skips.trans (hrest.skips.trans ?_))))
    exact .cons (not_backslash_of_isPunctuation hmark' (by decide))
      (.cons (not_backslash_of_isPunctuation hgt (by decide)) (.refl rest))

theorem reprints_prologAttribute {name : Text} (value : Text) (hname : IsWordText name)
    (hleft : left.head? ≠ some '"') (h : Reprints old new all ts left Q) :
    Reprints old new all ts (unparsePrologAttribute name value ++ left) fun us =>
      ∃ vs, PrologAttribute name us value vs ∧ Q vs := by
  have hword := ((h.quote (s := value) hleft).mark isMark_equals).word hname (next_equals _)
  have hblank : ∀ c ∈ (name ++ '=' :: (Literal.quote value ++ left)).head?, isBlank c = false := by
    intro c hc
    obtain ⟨d, w, rfl⟩ := List.exists_cons_of_ne_nil hname.filled
    obtain rfl : d = c := Option.some.inj hc
    exact isBlank_of_isWord (hname.word d List.mem_cons_self)
  rw [unparsePrologAttribute, List.cons_append, List.append_assoc, List.cons_append]
  refine (hword.space hblank).mono ?_
  rintro _ ⟨key, _, rfl, ⟨hkey, hword⟩, eq, _, rfl, heq, t, vs, rfl, ht, hq⟩
  exact ⟨vs, .intro hkey hword heq ht, hq⟩

theorem standalone?_standaloneName (b : Bool) : Parse.standalone? (standaloneName b) = some b := by
  cases b <;> decide

theorem Version.ofText?_text (v : Version) : Version.ofText? v.text = some v := by
  cases v <;> decide

/-- The encoding is written, and what the declaration says of being standalone. -/
theorem reprints_prologRest (standalone : Option Bool) (hleft : left.head? = some '?')
    (h : Reprints old new all ts left Q) :
    Reprints old new all ts (unparsePrologAttribute "encoding".toList Parse.encodingName ++
      ((standalone.elim [] fun b =>
        unparsePrologAttribute "standalone".toList (standaloneName b)) ++ left)) fun us =>
      ∃ vs, PrologRest us standalone vs ∧ Q vs := by
  have hquote : left.head? ≠ some '"' := by
    rw [hleft]
    decide
  have hencoding : IsWordText "encoding".toList := isWordText_of_letters (by decide) (by decide)
  cases standalone with
  | none =>
    refine (reprints_prologAttribute _ hencoding hquote h).mono ?_
    rintro us ⟨vs, hvs, hq⟩
    exact ⟨vs, .encoding hvs, hq⟩
  | some b =>
    have hstandalone : IsWordText "standalone".toList := isWordText_of_letters (by decide) (by decide)
    refine (reprints_prologAttribute _ hencoding (head_ne_quote (by decide) _)
      (reprints_prologAttribute _ hstandalone hquote h)).mono ?_
    rintro us ⟨_, hencoding', vs, hstandalone', hq⟩
    exact ⟨vs, .standalone hencoding' hstandalone' (standalone?_standaloneName b), hq⟩

/-- A declaration can be written anywhere. -/
theorem reprints_prolog (p : Prolog) (h : Reprints old new all ts left Q) :
    Reprints old new all ts (p.unparse ++ left) fun us => ∃ vs, Declaration us p vs ∧ Q vs := by
  have hversion : IsWordText "version".toList := isWordText_of_letters (by decide) (by decide)
  have hxml : IsWordText "xml".toList := isWordText_of_letters (by decide) (by decide)
  have hattributes := reprints_prologAttribute p.version.text hversion
    (head_ne_quote (by decide) _) (reprints_prologRest p.standalone rfl
      ((h.mark isMark_greater).mark isMark_question))
  have hspace : ∀ s : Text, ∀ c ∈ (' ' :: s).head?, isWord c = false ∧ isQuote c = false := by
    rintro s _ ⟨⟩
    exact ⟨isWord_of_mark (by decide), rfl⟩
  have hwhole := ((hattributes.word hxml (hspace _)).mark isMark_question).mark isMark_less
  have hprinted : p.unparse ++ left = '<' :: '?' :: ("xml".toList ++
      (unparsePrologAttribute "version".toList p.version.text ++
        (unparsePrologAttribute "encoding".toList Parse.encodingName ++
          ((p.standalone.elim [] fun b =>
            unparsePrologAttribute "standalone".toList (standaloneName b)) ++
              '?' :: '>' :: left)))) := by
    simp only [Prolog.unparse, List.cons_append, List.append_assoc, List.nil_append]
  rw [hprinted]
  refine hwhole.mono ?_
  rintro _ ⟨lt, _, rfl, hlt, mark, _, rfl, hmark, key, _, rfl, ⟨hkey, hword⟩, _, hversion', _, hrest',
    mark', _, rfl, hmark', gt, vs, rfl, hgt, hq⟩
  exact ⟨vs, .intro hlt hmark hkey hword hversion' (Version.ofText?_text p.version) hrest' hmark' hgt,
    hq⟩

end

end XmlTemplate
