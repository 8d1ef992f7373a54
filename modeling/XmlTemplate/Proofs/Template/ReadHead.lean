import XmlTemplate.Proofs.Template.Readers

/-!
# Reading the head of a template

Directives, the destination and the declaration are read as the grammar derives them. The head is
read with what has been read of it so far, so that a second directive or destination fails
(`HeadFrom`). The destination is cut from the source, for which the tokens have to stand where their
places say (`CommasInPlace`): otherwise a comma alone might be taken for an expression.
-/

set_option autoImplicit false

namespace XmlTemplate

namespace Parse

open Grammar

/-! ## Directives -/

/-- The rest of a directive after the word for a unit of indentation. -/
theorem reads_unitDirective (ts : List Token) :
    Reads (do
      discard <| takePunctuation ['=']
      let span := (← peek).span
      let unit ← takeString
      if unit.allBlank then
        noMore
        return LayoutDirective.unit unit
      else fail (.filledIndentation unit) span) ts fun l rest =>
        ∃ eq value unit, ts = [eq, value] ∧ eq.isPunctuation ['='] = true ∧ Spells value unit ∧
          unit.allBlank = true ∧ l = .unit unit ∧ rest = [] := by
  refine ((reads_takePunctuation ['='] ts).discard_bind (S := fun _ us l rest =>
    ∃ value unit, us = [value] ∧ Spells value unit ∧ unit.allBlank = true ∧ l = .unit unit ∧
      rest = []) fun _ us _ => ?_).congr fun l rest => ?_
  · cases us with
    | nil => exact (Reads.peek_nil _).congr (by simp)
    | cons t us =>
      refine Reads.peek_cons (((reads_takeString (t :: us)).bind (S := fun unit vs l rest =>
        vs = [] ∧ unit.allBlank = true ∧ l = .unit unit ∧ rest = []) fun unit vs _ => ?_).congr
          fun l rest => ?_)
      · by_cases hblank : unit.allBlank = true
        · rw [if_pos hblank]
          refine ((reads_noMore vs).bind fun _ ws _ =>
            reads_pure (LayoutDirective.unit unit) ws).congr fun l rest => ?_
          constructor
          · rintro ⟨_, _, ⟨hvs, rfl⟩, hl, hrest⟩
            exact ⟨hvs, hblank, hl, hrest⟩
          · rintro ⟨hvs, -, hl, hrest⟩
            exact ⟨(), [], ⟨hvs, rfl⟩, hl, hrest⟩
        · rw [if_neg hblank]
          exact (reads_fail _ _ vs).congr (by simp [hblank])
      · constructor
        · rintro ⟨unit, _, ⟨value, h, hvalue⟩, rfl, hblank, hl, hrest⟩
          exact ⟨value, unit, h, hvalue, hblank, hl, hrest⟩
        · rintro ⟨value, unit, h, hvalue, hblank, hl, hrest⟩
          exact ⟨unit, [], ⟨value, h, hvalue⟩, rfl, hblank, hl, hrest⟩
  · constructor
    · rintro ⟨eq, _, ⟨rfl, heq⟩, value, unit, rfl, h⟩
      exact ⟨eq, value, unit, rfl, heq, h⟩
    · rintro ⟨eq, value, unit, rfl, heq, h⟩
      exact ⟨eq, _, ⟨rfl, heq⟩, value, unit, rfl, h⟩

theorem reads_directive (room : Nat) {g : Token} (hg : g.isGroup ['['] = true) (ts : List Token) :
    Reads (directive room g) ts fun l rest => (Directive g l ∧ l.Fits room) ∧ rest = ts := by
  obtain ⟨text, p, inside, rfl⟩ := exists_of_isGroup (d := .square) hg
  have hwords : "format".toList ≠ "indentation".toList := by decide
  refine (Reads.within ((reads_takeIdentifier inside).bind (S := fun key us l rest =>
    (key.text = "indentation".toList ∧ ∃ eq value unit, us = [eq, value] ∧
      eq.isPunctuation ['='] = true ∧ Spells value unit ∧ unit.allBlank = true ∧ l = .unit unit ∧
        rest = []) ∨
    (key.text = "format".toList ∧ ∃ eq first vs e, us = eq :: first :: vs ∧
      eq.isPunctuation ['='] = true ∧
      (Expression (Token.innerFrom (.group .square text p inside) first) first.span e ∧
        e.Fits room) ∧ l = .expression e ∧ rest = first :: vs)) ?_) ts).congr
          fun l rest => and_congr_left fun _ => ?_
  · intro key us _
    by_cases hunit : key.text = "indentation".toList
    · rw [if_pos hunit]
      refine (reads_unitDirective us).congr fun l rest => ?_
      constructor
      · exact fun h => .inl ⟨hunit, h⟩
      · rintro (⟨-, h⟩ | ⟨hformat, -⟩)
        · exact h
        · rw [hformat] at hunit
          exact absurd hunit hwords
    · rw [if_neg hunit]
      by_cases hformat : key.text = "format".toList
      · rw [if_pos hformat]
        refine ((reads_takePunctuation ['='] us).discard_bind fun eq vs _ =>
          (reads_restExpression room _ vs).bind fun e ws _ =>
            reads_pure (LayoutDirective.expression e) ws).congr fun l rest => ?_
        constructor
        · rintro ⟨eq, _, ⟨rfl, heq⟩, e, _, ⟨first, vs, rfl, h, rfl⟩, rfl, rfl⟩
          exact .inr ⟨hformat, eq, first, vs, e, rfl, heq, h, rfl, rfl⟩
        · rintro (⟨h, -⟩ | ⟨-, eq, first, vs, e, rfl, heq, h, rfl, rfl⟩)
          · exact absurd h hunit
          · exact ⟨eq, _, ⟨rfl, heq⟩, e, _, ⟨first, vs, rfl, h, rfl⟩, rfl, rfl⟩
      · rw [if_neg hformat]
        exact (reads_fail _ _ us).congr (by simp only [hunit, hformat, false_and, or_self, implies_true])
  · constructor
    · rintro ⟨_, key, us, ⟨rfl, hkey⟩, ⟨hword, eq, value, unit, rfl, heq, hvalue, hblank, rfl, -⟩ |
        ⟨hword, eq, first, vs, e, rfl, heq, ⟨h, hfits⟩, rfl, -⟩⟩
      · exact ⟨.unit hkey hword heq hvalue hblank, trivial⟩
      · exact ⟨.format rfl hkey hword heq h, hfits⟩
    · rintro ⟨h, hfits⟩
      cases h with
      | unit hkey hword heq hvalue hblank =>
        exact ⟨_, _, _, ⟨rfl, hkey⟩, .inl ⟨hword, _, _, _, rfl, heq, hvalue, hblank, rfl, rfl⟩⟩
      | format hg hkey hword heq h =>
        cases hg
        exact ⟨_, _, _, ⟨rfl, hkey⟩, .inr ⟨hword, _, _, _, _, rfl, heq, ⟨h, hfits⟩, rfl, rfl⟩⟩

theorem isGroup_of_directive {g : Token} {l : LayoutDirective} (h : Directive g l) :
    g.isGroup ['['] = true := by
  cases h with
  | unit => rfl
  | format hg => rw [hg]; rfl

/-! ## Destinations -/

/-- A comma is no expression, so that there is something before the comma after a destination. -/
theorem expression?_comma : Script.expression? [','] = none := rfl

theorem reads_skipToComma {n : Nat} {ts : List Token} (last : Token) (hn : ts.length ≤ n) :
    Reads (skipToComma last n) ts fun t rest => ∃ us comma, ts = us ++ comma :: rest ∧
      (∀ u ∈ us, u.isPunctuation [','] = false) ∧ comma.isPunctuation [','] = true ∧
        t = us.getLast?.getD last := by
  induction n generalizing ts last with
  | zero =>
    obtain rfl := List.length_eq_zero_iff.1 (Nat.le_zero.1 hn)
    exact (reads_endOfInput []).congr (by simp)
  | succ n ih =>
    cases ts with
    | nil => exact (Reads.take_nil _).congr (by simp)
    | cons t ts =>
      rw [skipToComma]
      refine Reads.take_cons ?_
      by_cases ht : t.isPunctuation [','] = true
      · rw [if_pos ht]
        refine (reads_pure last ts).congr fun u rest => ?_
        constructor
        · rintro ⟨rfl, rfl⟩
          exact ⟨[], t, rfl, by simp, ht, rfl⟩
        · rintro ⟨us, comma, h, hus, -, rfl⟩
          cases us with
          | nil =>
            cases h
            exact ⟨rfl, rfl⟩
          | cons u us =>
            cases h
            rw [hus _ List.mem_cons_self] at ht
            cases ht
      · rw [if_neg ht]
        refine (ih t (Nat.le_of_succ_le_succ hn)).congr fun u rest => ?_
        constructor
        · rintro ⟨us, comma, rfl, hus, hcomma, rfl⟩
          refine ⟨t :: us, comma, rfl, List.forall_mem_cons.2 ⟨by simpa using ht, hus⟩, hcomma, ?_⟩
          rw [List.getLast?_cons]
          rfl
        · rintro ⟨us, comma, h, hus, hcomma, rfl⟩
          cases us with
          | nil =>
            cases h
            exact absurd hcomma ht
          | cons u us =>
            cases h
            refine ⟨us, comma, rfl, (List.forall_mem_cons.1 hus).2, hcomma, ?_⟩
            rw [List.getLast?_cons]
            rfl

/-- Every comma of the tokens stands where its place says. -/
def CommasInPlace (source : Text) (ts : List Token) : Prop :=
  ∀ t ∈ ts, t.isPunctuation [','] = true →
    (source.drop t.span.start).take (t.span.stop - t.span.start) = [',']

theorem reads_destination (room : Nat) {source : Text} {ts : List Token}
    (hcommas : CommasInPlace source ts)
    (hhead : ∀ t ∈ ts.head?, t.isPunctuation ['#'] = false ∧ t.isPunctuation ['<'] = false) :
    Reads (destination room source) ts fun e rest =>
      Destination source ts e rest ∧ e.Fits room := by
  cases ts with
  | nil =>
    refine (Reads.peek_nil _).congr fun e rest => ⟨False.elim, ?_⟩
    rintro ⟨h, -⟩
    generalize hus : ([] : List Token) = us at h
    cases h with
    | intro hfirst =>
      rw [(List.append_eq_nil_iff.1 hus.symm).1] at hfirst
      cases hfirst
  | cons first ts =>
    obtain ⟨hsign, hlt⟩ := hhead first rfl
    refine Reads.peek_cons (Reads.remaining (((reads_skipToComma first (Nat.le_refl _)).bind
      fun last us _ => reads_embed room _ first.span us).congr fun e rest => ?_))
    constructor
    · rintro ⟨last, _, ⟨us, comma, hts, inside, hcomma, rfl⟩, ⟨h, hfits⟩, rfl⟩
      cases us with
      | nil =>
        -- a comma in the place of the expression would have to be one
        cases hts
        have hcut := hcommas first List.mem_cons_self hcomma
        rcases h with @⟨code, -, valid⟩
        have hcomma : Script.expression? [','] = some code := hcut ▸ valid
        rw [expression?_comma] at hcomma
        cases hcomma
      | cons u us =>
        cases hts
        rw [List.getLast?_cons] at h
        exact ⟨.intro rfl List.getLast?_cons hsign hlt inside hcomma h, hfits⟩
    · rintro ⟨h, hfits⟩
      generalize htokens : first :: ts = vs at h
      cases h with
      | @intro us _ _ last _ _ hfirst hlast _ _ inside hcomma h =>
        cases us with
        | nil => cases hfirst
        | cons u us =>
          cases hfirst
          cases htokens
          refine ⟨last, _, ⟨_, _, rfl, inside, hcomma, ?_⟩, ⟨h, hfits⟩, rfl⟩
          rw [hlast]
          rfl

/-! ## The head of a template -/

/-- What has been read of something that may be missing, after the rest has been read. -/
inductive Joined {α : Type} : Option α → Option α → Option α → Prop
  | kept (a : Option α) : Joined a none a
  | read (a : α) : Joined none (some a) (some a)

theorem joined_none_iff {α : Type} {a b : Option α} : Joined none a b ↔ b = a := by
  constructor
  · rintro (_ | _) <;> rfl
  · rintro rfl
    cases b with
    | none => exact .kept none
    | some b => exact .read b

theorem length_lt_of_destination {source : Text} {ts rest : List Token} {e : Embedded}
    (h : Destination source ts e rest) : rest.length < ts.length := by
  cases h
  simp only [List.length_append, List.length_cons]
  omega

theorem mem_of_destination {source : Text} {ts rest : List Token} {e : Embedded} {t : Token}
    (h : Destination source ts e rest) (ht : t ∈ rest) : t ∈ ts := by
  cases h
  exact List.mem_append_right _ (.tail _ ht)

theorem length_le_of_head {source : Text} {ts rest : List Token} {e : Option Embedded}
    {l : Option LayoutDirective} (h : Head source ts e l rest) : rest.length ≤ ts.length := by
  induction h with
  | nil => exact Nat.le_refl _
  | directive _ _ _ ih =>
    simp only [List.length_cons]
    omega
  | destination h _ ih =>
    have := length_lt_of_destination h
    omega

/-- The head of a template up to the first `<`, after parts of it have been read. -/
def HeadFrom (room : Nat) (source : Text) (ts : List Token) (into : Option Embedded)
    (layout : Option LayoutDirective) (r : Option Embedded × Option LayoutDirective)
    (rest : List Token) : Prop :=
  ∃ e l, Head source ts e l rest ∧ (∀ x ∈ e, x.Fits room) ∧ (∀ x ∈ l, x.Fits room) ∧
    Joined into e r.1 ∧ Joined layout l r.2 ∧
      ∃ lt us, rest = lt :: us ∧ lt.isPunctuation ['<'] = true

section HeadFrom

variable {room : Nat} {source : Text} {t : Token} {ts rest : List Token} {into : Option Embedded}
  {layout : Option LayoutDirective} {r : Option Embedded × Option LayoutDirective}

theorem not_headFrom_nil : ¬HeadFrom room source [] into layout r rest := by
  rintro ⟨e, l, h, -, -, -, -, lt, us, rfl, -⟩
  have := length_le_of_head h
  simp at this

/-- The next token tells which rule for heads applies. -/
theorem head_cons_cases {e : Option Embedded} {l : Option LayoutDirective}
    (h : Head source (t :: ts) e l rest) :
    (rest = t :: ts ∧ e = none ∧ l = none) ∨
    (t.isPunctuation ['#'] = true ∧ ∃ g us d, ts = g :: us ∧ Directive g d ∧ l = some d ∧
      Head source us e none rest) ∨
    (t.isPunctuation ['#'] = false ∧ t.isPunctuation ['<'] = false ∧ ∃ x us,
      Destination source (t :: ts) x us ∧ e = some x ∧ Head source us none l rest) := by
  generalize htokens : t :: ts = vs at h
  cases h with
  | nil => exact .inl ⟨rfl, rfl, rfl⟩
  | directive hsign hd more =>
    cases htokens
    exact .inr (.inl ⟨hsign, _, _, _, rfl, hd, rfl, more⟩)
  | destination hd more =>
    have hfirst : t.isPunctuation ['#'] = false ∧ t.isPunctuation ['<'] = false := by
      cases hd with
      | @intro us _ _ _ _ _ hfirst _ hsign hlt =>
        cases us with
        | nil => cases hfirst
        | cons u us =>
          cases hfirst
          cases htokens
          exact ⟨hsign, hlt⟩
    exact .inr (.inr ⟨hfirst.1, hfirst.2, _, _, hd, rfl, more⟩)

theorem headFrom_directive_iff (ht : t.isPunctuation ['#'] = true) :
    HeadFrom room source (t :: ts) into layout r rest ↔ ∃ g us d, ts = g :: us ∧ Directive g d ∧
      d.Fits room ∧ layout = none ∧ HeadFrom room source us into (some d) r rest := by
  obtain ⟨into', layout'⟩ := r
  constructor
  · rintro ⟨e, l, h, he, hl, hinto, hlayout, hrest⟩
    rcases head_cons_cases h with ⟨rfl, -, -⟩ | ⟨-, g, us, d, rfl, hd, rfl, more⟩ | ⟨hno, -⟩
    · obtain ⟨_, _, htokens, hlt⟩ := hrest
      cases htokens
      exact absurd (eq_of_isPunctuation ht hlt) (by decide)
    · cases hlayout
      exact ⟨g, us, d, rfl, hd, hl d rfl, rfl, e, none, more, he, by simp, hinto, .kept _, hrest⟩
    · rw [ht] at hno
      cases hno
  · rintro ⟨g, us, d, rfl, hd, hfits, rfl, e, _, more, he, hl, hinto, hlayout, hrest⟩
    cases hlayout
    refine ⟨e, some d, .directive ht hd more, he, ?_, hinto, .read d, hrest⟩
    rintro _ ⟨⟩
    exact hfits

theorem headFrom_markup_iff (ht : t.isPunctuation ['<'] = true) :
    HeadFrom room source (t :: ts) into layout r rest ↔ r = (into, layout) ∧ rest = t :: ts := by
  obtain ⟨into', layout'⟩ := r
  constructor
  · rintro ⟨e, l, h, -, -, hinto, hlayout, -⟩
    rcases head_cons_cases h with ⟨rfl, rfl, rfl⟩ | ⟨hsign, -⟩ | ⟨-, hno, -⟩
    · cases hinto
      cases hlayout
      exact ⟨rfl, rfl⟩
    · exact absurd (eq_of_isPunctuation ht hsign) (by decide)
    · rw [ht] at hno
      cases hno
  · rintro ⟨h, rfl⟩
    cases h
    exact ⟨none, none, .nil _, by simp, by simp, .kept _, .kept _, t, ts, rfl, ht⟩

theorem headFrom_destination_iff (hsign : t.isPunctuation ['#'] = false)
    (hlt : t.isPunctuation ['<'] = false) :
    HeadFrom room source (t :: ts) into layout r rest ↔ ∃ x us,
      Destination source (t :: ts) x us ∧ x.Fits room ∧ into = none ∧
        HeadFrom room source us (some x) layout r rest := by
  obtain ⟨into', layout'⟩ := r
  constructor
  · rintro ⟨e, l, h, he, hl, hinto, hlayout, hrest⟩
    rcases head_cons_cases h with ⟨rfl, -, -⟩ | ⟨hyes, -⟩ | ⟨-, -, x, us, hx, rfl, more⟩
    · obtain ⟨_, _, htokens, hyes⟩ := hrest
      cases htokens
      rw [hlt] at hyes
      cases hyes
    · rw [hsign] at hyes
      cases hyes
    · cases hinto
      exact ⟨x, us, hx, he x rfl, rfl, none, l, more, by simp, hl, .kept _, hlayout, hrest⟩
  · rintro ⟨x, us, hx, hfits, rfl, _, l, more, he, hl, hinto, hlayout, hrest⟩
    cases hinto
    refine ⟨some x, l, .destination hx more, ?_, hl, .read x, hlayout, hrest⟩
    rintro _ ⟨⟩
    exact hfits

end HeadFrom

theorem reads_head (room : Nat) {source : Text} {n : Nat} {ts : List Token} (hn : ts.length ≤ n)
    (hcommas : CommasInPlace source ts) (into : Option Embedded) (layout : Option LayoutDirective) :
    Reads (head room source into layout n) ts (HeadFrom room source ts into layout) := by
  induction n generalizing ts into layout with
  | zero =>
    obtain rfl := List.length_eq_zero_iff.1 (Nat.le_zero.1 hn)
    exact (reads_endOfInput []).congr fun r rest => ⟨False.elim, not_headFrom_nil⟩
  | succ n ih =>
    have hmore := fun (us : List Token) into layout (hus : us.length ≤ n)
      (hcommas : CommasInPlace source us) => ih hus hcommas into layout
    cases ts with
    | nil => exact (Reads.peek_nil _).congr fun r rest => ⟨False.elim, not_headFrom_nil⟩
    | cons t ts =>
      rw [head]
      refine Reads.peek_cons ?_
      by_cases hsign : t.isPunctuation ['#'] = true
      · rw [if_pos hsign]
        refine ((reads_take (t :: ts)).discard_bind fun _ us h => (reads_takeGroup ['['] us).bind
          fun g vs hg => (reads_directive room hg.2 vs).bind (S := fun d ws r rest =>
            ¬layout.isSome = true ∧ HeadFrom room source ws into (some d) r rest)
              fun d ws hd => ?_).congr fun r rest => ?_
        · cases h
          obtain ⟨-, rfl⟩ := hd
          rw [hg.1] at hn hcommas
          refine (ih ?_ ?_ _ _).unless _ _
          · simp only [List.length_cons] at hn
            omega
          · exact fun u hu => hcommas u (.tail _ (.tail _ hu))
        · rw [headFrom_directive_iff hsign]
          constructor
          · rintro ⟨_, _, h, g, us, ⟨rfl, -⟩, d, _, ⟨⟨hd, hfits⟩, rfl⟩, hlayout, more⟩
            cases h
            exact ⟨g, _, d, rfl, hd, hfits, by simpa using hlayout, more⟩
          · rintro ⟨g, us, d, rfl, hd, hfits, rfl, more⟩
            exact ⟨t, _, rfl, g, us, ⟨rfl, isGroup_of_directive hd⟩, d, _, ⟨⟨hd, hfits⟩, rfl⟩,
              by simp, more⟩
      · rw [if_neg hsign]
        by_cases hlt : t.isPunctuation ['<'] = true
        · rw [if_pos hlt]
          exact (reads_pure _ _).congr fun r rest => (headFrom_markup_iff hlt).symm
        · rw [if_neg hlt]
          rw [Bool.not_eq_true] at hsign hlt
          refine (((reads_destination room hcommas ?_).bind fun x us hx =>
            hmore us (some x) layout ?_ ?_).unless _ _).congr fun r rest => ?_
          · rintro _ ⟨⟩
            exact ⟨hsign, hlt⟩
          · have := length_lt_of_destination hx.1
            simp only [List.length_cons] at this hn
            omega
          · exact fun u hu => hcommas u (mem_of_destination hx.1 hu)
          · rw [headFrom_destination_iff hsign hlt]
            constructor
            · rintro ⟨hinto, x, us, ⟨hx, hfits⟩, more⟩
              exact ⟨x, us, hx, hfits, by simpa using hinto, more⟩
            · rintro ⟨x, us, hx, hfits, rfl, more⟩
              exact ⟨by simp, x, us, ⟨hx, hfits⟩, more⟩

/-! ### One step of the head -/

section Steps

variable {room n : Nat} {source : Text} {into : Option Embedded} {layout : Option LayoutDirective}
  {t g : Token} {ts : List Token} {o : Option Span}

/-- Markup ends the head. -/
theorem head_markup (ht : t.isPunctuation ['<'] = true) :
    head room source into layout (n + 1) ⟨t :: ts, o⟩ = .ok (into, layout) ⟨t :: ts, o⟩ := by
  have hsign : ¬t.isPunctuation ['#'] = true := by
    intro hsign
    exact absurd (eq_of_isPunctuation ht hsign) (by decide)
  rw [head]
  show (if t.isPunctuation ['#'] = true then _ else if t.isPunctuation ['<'] = true then _ else _ :
    Parse _) _ = _
  rw [if_neg hsign, if_pos ht]
  rfl

theorem head_directive (ht : t.isPunctuation ['#'] = true) (hg : g.isGroup ['['] = true) :
    head room source into layout (n + 1) ⟨t :: g :: ts, o⟩ = (do
      let parsed ← directive room g
      if layout.isSome then fail .duplicateDirective g.span
      else head room source into (some parsed) n) ⟨ts, o⟩ := by
  rw [head]
  show (if t.isPunctuation ['#'] = true then _ else _ : Parse _) _ = _
  rw [if_pos ht, XmlTemplate.discard_bind]
  have htake : takeGroup ['['] ⟨g :: ts, o⟩ = .ok g ⟨ts, o⟩ := by
    show (if g.isGroup ['['] = true then _ else _ : Parse _) _ = _
    rw [if_pos hg]
    rfl
  exact bind_of_ok htake _

theorem head_destination (hsign : t.isPunctuation ['#'] = false)
    (hlt : t.isPunctuation ['<'] = false) :
    head room source none layout (n + 1) ⟨t :: ts, o⟩ = (do
      head room source (some (← destination room source)) layout n) ⟨t :: ts, o⟩ := by
  rw [head]
  show (if t.isPunctuation ['#'] = true then _ else if t.isPunctuation ['<'] = true then _ else _ :
    Parse _) _ = _
  rw [hsign, hlt]
  rfl

end Steps

/-! ## The declaration -/

/-- Reading the value or the lack of an attribute, as `prologAttribute` answers. -/
def AnswersAttribute (name : Text) (ts : List Token) (r : Option (Text × Span))
    (rest : List Token) : Prop :=
  (r = none ∧ rest = ts ∧ ∃ mark us, ts = mark :: us ∧ mark.isPunctuation ['?'] = true) ∨
    ∃ value p, r = some (value, p) ∧ PrologAttribute name ts value rest ∧
      (ts[2]?).map Token.span = some p

/-- A value and its place, after the equals sign. -/
theorem reads_prologValue (ts : List Token) :
    Reads (do
      let span := (← peek).span
      return some (← takeString, span)) ts fun r rest =>
        ∃ t value, ts = t :: rest ∧ Spells t value ∧ r = some (value, t.span) := by
  cases ts with
  | nil => exact (Reads.peek_nil _).congr (by simp)
  | cons t ts =>
    refine Reads.peek_cons (((reads_takeString (t :: ts)).bind fun value us _ =>
      reads_pure (some (value, t.span)) us).congr fun r rest => ?_)
    constructor
    · rintro ⟨value, _, ⟨_, h, hvalue⟩, rfl, rfl⟩
      cases h
      exact ⟨t, value, rfl, hvalue, rfl⟩
    · rintro ⟨_, value, h, hvalue, rfl⟩
      cases h
      exact ⟨value, _, ⟨t, rfl, hvalue⟩, rfl, rfl⟩

theorem reads_prologAttribute (name : Text) (ts : List Token) :
    Reads (prologAttribute name) ts (AnswersAttribute name ts) := by
  cases ts with
  | nil =>
    refine (Reads.peek_nil _).congr fun r rest => ⟨False.elim, ?_⟩
    rintro (⟨-, -, _, _, h, -⟩ | ⟨_, _, -, h, -⟩) <;> cases h
  | cons t ts =>
    refine Reads.peek_cons ?_
    by_cases hmark : t.isPunctuation ['?'] = true
    · rw [if_pos hmark]
      refine (reads_pure none (t :: ts)).congr fun r rest => ?_
      constructor
      · rintro ⟨rfl, rfl⟩
        exact .inl ⟨rfl, rfl, t, ts, rfl, hmark⟩
      · rintro (⟨hr, hrest, -⟩ | ⟨_, _, -, h, -⟩)
        · exact ⟨hr, hrest⟩
        · cases h with
          | intro hkey => exact absurd hmark (not_isPunctuation_of_isKind (by decide) hkey)
    · rw [if_neg hmark]
      refine ((reads_takeIdentifier (t :: ts)).bind fun key us _ =>
        ((reads_takePunctuation ['='] us).discard_bind fun eq vs _ =>
          reads_prologValue vs).unless _ _).congr fun r rest => ?_
      constructor
      · rintro ⟨key, us, ⟨h, hkey⟩, hword, eq, vs, ⟨rfl, heq⟩, u, value, rfl, hvalue, rfl⟩
        rw [h]
        exact .inr ⟨value, _, rfl, .intro hkey (Decidable.not_not.1 hword) heq hvalue, rfl⟩
      · rintro (⟨-, -, _, _, h, hmark'⟩ | ⟨value, p, rfl, h, hp⟩)
        · cases h
          exact absurd hmark' hmark
        · cases h with
          | intro hkey hword heq hvalue =>
            cases hp
            exact ⟨t, _, ⟨rfl, hkey⟩, not_not_intro hword, _, _, ⟨rfl, heq⟩, _, value, rfl, hvalue,
              rfl⟩

theorem exists_place_of_prologAttribute {name : Text} {ts rest : List Token} {value : Text}
    (h : PrologAttribute name ts value rest) : ∃ p, (ts[2]?).map Token.span = some p := by
  cases h
  exact ⟨_, rfl⟩

/-- What is asked of the end of a declaration and of the values in it. -/
def EndsDeclaration (text : Text) (encoding standalone : Option (Text × Span)) (ts : List Token)
    (p : Prolog) (rest : List Token) : Prop :=
  (∃ mark gt, ts = mark :: gt :: rest ∧ mark.isPunctuation ['?'] = true ∧
    gt.isPunctuation ['>'] = true) ∧ Version.ofText? text = some p.version ∧
    (∀ v ∈ encoding, v.1 = encodingName) ∧
      standalone.map (fun v => standalone? v.1) = p.standalone.map some

/-- The declaration with the given version, where the value of `standalone` is left to be checked. -/
def declarationOf (version : Version) (standalone : Option (Text × Span)) : Parse Prolog :=
  match standalone with
  | none => return ⟨version, none⟩
  | some (found, span) =>
    match standalone? found with
    | none => fail (.prolog (.standalone found)) span
    | some b => return ⟨version, some b⟩

theorem reads_declarationOf (version : Version) (standalone : Option (Text × Span))
    (ts : List Token) :
    Reads (declarationOf version standalone) ts fun p rest =>
      version = p.version ∧
        standalone.map (fun v => standalone? v.1) = p.standalone.map some ∧ rest = ts := by
  unfold declarationOf
  rcases standalone with _ | ⟨found, span⟩
  · refine (reads_pure _ ts).congr fun p rest => ?_
    rcases p with ⟨v, _ | b⟩ <;> simp [eq_comm]
  · cases hfound : standalone? found with
    | none =>
      simp only [hfound]
      refine (reads_fail _ _ ts).congr fun p rest => ?_
      rcases p with ⟨v, _ | b⟩ <;> simp [hfound]
    | some b =>
      simp only [hfound]
      refine (reads_pure _ ts).congr fun p rest => ?_
      rcases p with ⟨v, _ | b'⟩ <;> simp [hfound, eq_comm, and_assoc]

/-- The end of a declaration, where its attributes are known, and the checks of their values. -/
def prologEnd (text : Text) (place : Span) (encoding standalone : Option (Text × Span)) :
    Parse Prolog := do
  discard <| takePunctuation ['?']
  discard <| takePunctuation ['>']
  match Version.ofText? text with
  | none => fail (.prolog (.version text)) place
  | some version =>
    match encoding with
    | some (found, span) =>
      if found ≠ encodingName then fail (.prolog .encoding) span
    | none => pure ()
    declarationOf version standalone

theorem reads_prologEnd (text : Text) (place : Span) (encoding standalone : Option (Text × Span))
    (ts : List Token) :
    Reads (prologEnd text place encoding standalone) ts
      (EndsDeclaration text encoding standalone ts) := by
  unfold prologEnd
  refine ((reads_takePunctuation ['?'] ts).discard_bind fun mark us _ =>
    (reads_takePunctuation ['>'] us).discard_bind (S := fun _ vs (p : Prolog) rest =>
      Version.ofText? text = some p.version ∧ (∀ v ∈ encoding, v.1 = encodingName) ∧
        standalone.map (fun v => standalone? v.1) = p.standalone.map some ∧ rest = vs)
          fun gt vs _ => ?_).congr fun p rest => ?_
  · cases hversion : Version.ofText? text with
    | none => exact (reads_fail _ _ vs).congr (by simp)
    | some version =>
      have hstandalone := reads_declarationOf version standalone vs
      rcases encoding with _ | ⟨found, span⟩
      · exact hstandalone.congr (by simp)
      · by_cases hfound : found = encodingName
        · simp only [hfound]
          exact hstandalone.congr (by simp)
        · simp only [ne_eq, hfound, not_false_eq_true, if_true]
          exact ((reads_fail _ _ vs).bind (S := fun _ _ _ _ => False) fun _ _ h => h.elim).congr
            (by simp [hfound])
  · constructor
    · rintro ⟨mark, _, ⟨rfl, hmark⟩, gt, _, ⟨rfl, hgt⟩, hversion, hencoding, hstandalone, rfl⟩
      exact ⟨⟨mark, gt, rfl, hmark, hgt⟩, hversion, hencoding, hstandalone⟩
    · rintro ⟨⟨mark, gt, rfl, hmark, hgt⟩, hversion, hencoding, hstandalone⟩
      exact ⟨mark, _, ⟨rfl, hmark⟩, gt, _, ⟨rfl, hgt⟩, hversion, hencoding, hstandalone, rfl⟩

/-- The attributes after the version, and the end of the declaration. -/
theorem prologRest_iff {text : Text} {ts : List Token} {p : Prolog} {rest : List Token} :
    (∃ encoding us, AnswersAttribute "encoding".toList ts encoding us ∧
      if encoding.isSome then ∃ standalone vs, AnswersAttribute "standalone".toList us standalone vs ∧
        EndsDeclaration text encoding standalone vs p rest
      else EndsDeclaration text encoding none us p rest) ↔
    ∃ mark gt, PrologRest ts p.standalone (mark :: gt :: rest) ∧ mark.isPunctuation ['?'] = true ∧
      gt.isPunctuation ['>'] = true ∧ Version.ofText? text = some p.version := by
  obtain ⟨version, alone⟩ := p
  constructor
  · rintro ⟨encoding, us, ⟨rfl, rfl, -⟩ | ⟨value, place, rfl, h, -⟩, hmore⟩
    · obtain ⟨⟨mark, gt, rfl, hmark, hgt⟩, hversion, -, halone⟩ := hmore
      cases alone with
      | none => exact ⟨mark, gt, .nil _, hmark, hgt, hversion⟩
      | some b => cases halone
    · obtain ⟨standalone, vs, ⟨rfl, rfl, -⟩ | ⟨value', place', rfl, h', -⟩,
        ⟨mark, gt, rfl, hmark, hgt⟩, hversion, hencoding, halone⟩ := hmore
      · obtain rfl : value = encodingName := hencoding _ rfl
        cases alone with
        | none => exact ⟨mark, gt, .encoding h, hmark, hgt, hversion⟩
        | some b => cases halone
      · obtain rfl : value = encodingName := hencoding _ rfl
        cases alone with
        | none => cases halone
        | some b => exact ⟨mark, gt, .standalone h h' (Option.some.inj halone), hmark, hgt, hversion⟩
  · rintro ⟨mark, gt, h, hmark, hgt, hversion⟩
    have hend : ∃ mark' gt', mark :: gt :: rest = mark' :: gt' :: rest ∧
        mark'.isPunctuation ['?'] = true ∧ gt'.isPunctuation ['>'] = true :=
      ⟨mark, gt, rfl, hmark, hgt⟩
    cases h with
    | nil =>
      exact ⟨none, _, .inl ⟨rfl, rfl, _, _, rfl, hmark⟩, hend, hversion, by simp, rfl⟩
    | encoding h =>
      obtain ⟨place, hplace⟩ := exists_place_of_prologAttribute h
      refine ⟨some (_, place), _, .inr ⟨_, _, rfl, h, hplace⟩, none, _,
        .inl ⟨rfl, rfl, _, _, rfl, hmark⟩, hend, hversion, ?_, rfl⟩
      rintro _ ⟨⟩
      rfl
    | standalone h h' hvalue =>
      obtain ⟨place, hplace⟩ := exists_place_of_prologAttribute h
      obtain ⟨place', hplace'⟩ := exists_place_of_prologAttribute h'
      refine ⟨some (_, place), _, .inr ⟨_, _, rfl, h, hplace⟩, some (_, place'), _,
        .inr ⟨_, _, rfl, h', hplace'⟩, hend, hversion, ?_, congrArg some hvalue⟩
      rintro _ ⟨⟩
      rfl

theorem reads_prolog (ts : List Token) : Reads prolog ts (Declaration ts) := by
  unfold prolog
  refine ((reads_takePunctuation ['<'] ts).discard_bind fun lt us _ =>
    (reads_takePunctuation ['?'] us).discard_bind fun mark vs _ =>
      (reads_takeIdentifier vs).bind (S := fun key ws (p : Prolog) rest =>
        key.text = "xml".toList ∧ ∃ text xs, PrologAttribute "version".toList ws text xs ∧
          ∃ mark' gt, PrologRest xs p.standalone (mark' :: gt :: rest) ∧
            mark'.isPunctuation ['?'] = true ∧ gt.isPunctuation ['>'] = true ∧
              Version.ofText? text = some p.version) fun key ws _ => ?_).congr fun p rest => ?_
  · -- a prolog is told by its keyword before its attributes are read
    by_cases hword : key.text = "xml".toList
    · rw [if_neg (not_not_intro hword)]
      cases ws with
      | nil =>
        refine (Reads.peek_nil _).congr fun p rest => ⟨False.elim, ?_⟩
        rintro ⟨-, _, _, h, -⟩
        cases h
      | cons t ws =>
        refine Reads.peek_cons (((reads_prologAttribute "version".toList (t :: ws)).bind
          (S := fun r xs (p : Prolog) rest => ∃ v ∈ r, ∃ mark' gt,
            PrologRest xs p.standalone (mark' :: gt :: rest) ∧ mark'.isPunctuation ['?'] = true ∧
              gt.isPunctuation ['>'] = true ∧ Version.ofText? v.1 = some p.version)
                fun r xs _ => ?_).congr fun p rest => ?_)
        · rcases r with _ | ⟨text, place⟩
          · exact (reads_fail _ _ xs).congr (by simp)
          · refine ((reads_prologAttribute "encoding".toList xs).bind
              (S := fun encoding us p rest => if encoding.isSome then
                  ∃ standalone vs, AnswersAttribute "standalone".toList us standalone vs ∧
                    EndsDeclaration text encoding standalone vs p rest
                else EndsDeclaration text encoding none us p rest)
              fun encoding us _ => ?_).congr fun p rest => ?_
            · cases encoding with
              | none => exact reads_prologEnd text place none none us
              | some v =>
                exact (reads_prologAttribute "standalone".toList us).bind fun standalone vs _ =>
                  reads_prologEnd text place (some v) standalone vs
            · rw [prologRest_iff]
              simp
        · constructor
          · rintro ⟨r, xs, ⟨rfl, -, -⟩ | ⟨text, place, rfl, h, -⟩, v, hv, hmore⟩
            · cases hv
            · cases hv
              exact ⟨hword, text, xs, h, hmore⟩
          · rintro ⟨-, text, xs, h, hmore⟩
            obtain ⟨place, hplace⟩ := exists_place_of_prologAttribute h
            exact ⟨some (text, place), xs, .inr ⟨text, place, rfl, h, hplace⟩, _, rfl, hmore⟩
    · rw [if_pos hword]
      exact (reads_fail _ _ ws).congr fun p rest => ⟨False.elim, fun h => hword h.1⟩
  · constructor
    · rintro ⟨lt, _, ⟨rfl, hlt⟩, mark, _, ⟨rfl, hmark⟩, key, _, ⟨rfl, hkey⟩, hword, text, xs, hversion,
        mark', gt, hrest, hmark', hgt, hvalue⟩
      exact .intro hlt hmark hkey hword hversion hvalue hrest hmark' hgt
    · intro h
      cases h with
      | intro hlt hmark hkey hword hversion hvalue hrest hmark' hgt =>
        exact ⟨_, _, ⟨rfl, hlt⟩, _, _, ⟨rfl, hmark⟩, _, _, ⟨rfl, hkey⟩, hword, _, _, hversion, _, _,
          hrest, hmark', hgt, hvalue⟩

end Parse

end XmlTemplate
