import XmlTemplate.Proofs.Template.Readers

/-!
# Reading elements

Start tags, end tags, elements and their content are read as the grammar derives them. A reader has
to choose from the next token or two; that the choice is right, and that no other rule could have
been meant, rests on what each rule can start with. The bounds on the recursion of the readers count
for nothing, since every rule but the empty content takes tokens (`length_lt_of_markup`).
-/

set_option autoImplicit false

namespace XmlTemplate

namespace Parse

open Grammar

/-! ## Start tags and end tags -/

theorem reads_attributeValue (room : Nat) (ts : List Token) :
    Reads (attributeValue room) ts fun v rest =>
      ∃ t, ts = t :: rest ∧ Grammar.Value t v ∧ v.Fits room := by
  cases ts with
  | nil => exact (Reads.take_nil _).congr (by simp)
  | cons t ts =>
    refine Reads.take_cons ?_
    by_cases hstring : t.isKind .string = true
    · rw [if_pos hstring]
      refine ((reads_stringValue t ts).bind fun s us _ => reads_pure _ us).congr fun v rest => ?_
      constructor
      · rintro ⟨s, _, ⟨h, rfl⟩, rfl, rfl⟩
        exact ⟨t, rfl, .literal h, trivial⟩
      · rintro ⟨_, htokens, h, -⟩
        cases htokens
        cases h with
        | literal h => exact ⟨_, _, ⟨h, rfl⟩, rfl, rfl⟩
        | expression h =>
          cases h
          cases hstring
    · rw [if_neg hstring]
      by_cases hgroup : t.isGroup ['{'] = true
      · rw [if_pos hgroup]
        refine ((reads_groupExpression room hgroup ts).bind fun e us _ =>
          reads_pure _ us).congr fun v rest => ?_
        constructor
        · rintro ⟨e, _, ⟨⟨h, hfits⟩, rfl⟩, rfl, rfl⟩
          exact ⟨t, rfl, .expression h, hfits⟩
        · rintro ⟨_, htokens, h, hfits⟩
          cases htokens
          cases h with
          | literal h =>
            cases h
            exact absurd rfl hstring
          | expression h => exact ⟨_, _, ⟨⟨h, hfits⟩, rfl⟩, rfl, rfl⟩
      · rw [if_neg hgroup]
        refine (reads_fail _ _ _).congr fun v rest => ⟨False.elim, ?_⟩
        rintro ⟨_, htokens, h, -⟩
        cases htokens
        cases h with
        | literal h =>
          cases h
          exact hstring rfl
        | expression h =>
          cases h
          exact hgroup rfl

/-- Punctuation that stands in no name starts none. -/
theorem not_name_of_isPunctuation {s : Text} {t : Token} {ts rest : List Token} {n : Text}
    (ht : t.isPunctuation s = true) (hs : s ≠ [':'] ∧ s ≠ ['-'] ∧ s ≠ ['.']) :
    ¬Name (t :: ts) n rest := by
  intro h
  obtain ⟨_, _, htokens, h⟩ := exists_head_of_name h
  cases htokens
  rcases t with ⟨_ | _ | _ | _, s', p⟩ | _ <;> try cases ht
  obtain rfl : s' = s := by simpa [Token.isPunctuation] using ht
  simp [Token.isKind, Token.isNameWord, Token.isNameMark, hs] at h

/-- What a name begins with is no mark that a tag, the end of one or a declaration goes on with. -/
theorem exists_first_of_name {ts rest : List Token} {n : Text} (h : Name ts n rest) :
    ∃ u us, ts = u :: us ∧ ∀ s ∈ [['/'], ['>'], ['?']], u.isPunctuation s = false := by
  have hmarks : ∀ s ∈ [['/'], ['>'], ['?']], s ≠ [':'] ∧ s ≠ ['-'] ∧ s ≠ ['.'] := by decide
  obtain ⟨u, us, rfl, -⟩ := exists_head_of_name h
  refine ⟨u, us, rfl, fun s hs => Bool.eq_false_iff.2 fun hu => ?_⟩
  exact not_name_of_isPunctuation hu (hmarks s hs) h

theorem not_item_of_isPunctuation {s : Text} {t : Token} {ts rest : List Token}
    {item : AttributeItem} (ht : t.isPunctuation s = true) (hs : s ≠ [':'] ∧ s ≠ ['-'] ∧ s ≠ ['.']) :
    ¬Item (t :: ts) item rest := by
  intro h
  generalize hus : t :: ts = us at h
  cases h with
  | named hname =>
    rw [← hus] at hname
    exact not_name_of_isPunctuation ht hs hname
  | fill h =>
    cases hus
    cases h with
    | intro hg =>
      rw [hg] at ht
      cases ht

/-- What starts with a group in a start tag is a fill. -/
theorem fill_of_item {d : Delimiter} {t : Token} {ts rest : List Token} {item : AttributeItem}
    (ht : t.isGroup [d.opener] = true) (h : Item (t :: ts) item rest) :
    ∃ e, item = .fill e ∧ Fill t e ∧ rest = ts := by
  obtain ⟨text, p, inside, rfl⟩ := exists_of_isGroup ht
  generalize hus : _ :: ts = us at h
  cases h with
  | named hname =>
    obtain ⟨_, _, rfl, h⟩ := exists_head_of_name hname
    cases hus
    simp [Token.isKind, Token.isNameWord, Token.isNameMark] at h
  | fill h =>
    cases hus
    exact ⟨_, rfl, h, rfl⟩

theorem isFill_of_fill {t : Token} {e : Embedded} (h : Fill t e) :
    (t.isGroup ['{'] && isFill t) = true := by
  cases h with
  | intro hg ha hb =>
    rw [hg]
    simp [Token.isGroup, Delimiter.opener, isFill, Token.children, ha, hb]

/-- Every name takes a token. -/
theorem length_lt_of_name {ts rest : List Token} {n : Text} (h : Name ts n rest) :
    rest.length < ts.length := by
  cases h with
  | run filled =>
    rw [List.length_append]
    have := List.length_pos_iff.2 filled
    omega
  | string => exact Nat.lt_succ_self _

theorem length_lt_of_item {ts rest : List Token} {item : AttributeItem} (h : Item ts item rest) :
    rest.length < ts.length := by
  cases h with
  | named hname =>
    have := length_lt_of_name hname
    simp only [List.length_cons] at this
    omega
  | fill => exact Nat.lt_succ_self _

theorem length_lt_of_startTag {ts rest : List Token} {items : List AttributeItem} {empty : Bool}
    (h : StartTag ts items empty rest) : rest.length < ts.length := by
  induction h with
  | opened => exact Nat.lt_succ_self _
  | empty => exact Nat.lt_succ_of_lt (Nat.lt_succ_self _)
  | item first _ ih => exact Nat.lt_trans ih (length_lt_of_item first)

theorem length_lt_of_endTag {name : Text} {ts rest : List Token} (h : EndTag name ts rest) :
    rest.length < ts.length := by
  cases h with
  | named _ _ hname =>
    have := length_lt_of_name hname
    simp only [List.length_cons] at *
    omega
  | short =>
    simp only [List.length_cons]
    omega

theorem reads_startTag (room : Nat) {n : Nat} {ts : List Token} (hn : ts.length ≤ n) :
    Reads (startTag room n) ts fun r rest =>
      StartTag ts r.1 r.2 rest ∧ ∀ i ∈ r.1, i.Fits room := by
  have hnil : ∀ (r : List AttributeItem × Bool) rest,
      ¬(StartTag [] r.1 r.2 rest ∧ ∀ i ∈ r.1, i.Fits room) :=
    fun r rest h => Nat.not_lt_zero _ (length_lt_of_startTag h.1)
  induction n generalizing ts with
  | zero =>
    obtain rfl := List.length_eq_zero_iff.1 (Nat.le_zero.1 hn)
    exact (reads_endOfInput []).congr fun r rest => ⟨False.elim, hnil r rest⟩
  | succ n ih =>
    have hmore := fun (ts : List Token) (hts : ts.length ≤ n) => ih hts
    cases ts with
    | nil => exact (Reads.peek_nil _).congr fun r rest => ⟨False.elim, hnil r rest⟩
    | cons t ts =>
      rw [startTag]
      refine Reads.peek_cons ?_
      by_cases hgt : t.isPunctuation ['>'] = true
      · rw [if_pos hgt]
        refine ((reads_take (t :: ts)).discard_bind fun _ us _ =>
          reads_pure (([] : List AttributeItem), false) us).congr ?_
        rintro ⟨items, empty⟩ rest
        constructor
        · rintro ⟨_, _, h, hr, rfl⟩
          cases h
          cases hr
          exact ⟨.opened hgt, by simp⟩
        · rintro ⟨h, -⟩
          cases h with
          | opened => exact ⟨_, _, rfl, rfl, rfl⟩
          | empty hslash => exact absurd (eq_of_isPunctuation hgt hslash) (by decide)
          | item first => exact absurd first (not_item_of_isPunctuation hgt (by decide))
      · rw [if_neg hgt]
        by_cases hslash : t.isPunctuation ['/'] = true
        · rw [if_pos hslash]
          refine ((reads_take (t :: ts)).discard_bind fun _ us _ =>
            (reads_takePunctuation ['>'] us).discard_bind fun _ vs _ =>
              reads_pure (([] : List AttributeItem), true) vs).congr ?_
          rintro ⟨items, empty⟩ rest
          constructor
          · rintro ⟨_, _, h, gt, _, ⟨rfl, hgt⟩, hr, rfl⟩
            cases h
            cases hr
            exact ⟨.empty hslash hgt, by simp⟩
          · rintro ⟨h, -⟩
            cases h with
            | opened hgt' => exact absurd hgt' hgt
            | empty _ hgt => exact ⟨_, _, rfl, _, _, ⟨rfl, hgt⟩, rfl, rfl⟩
            | item first => exact absurd first (not_item_of_isPunctuation hslash (by decide))
        · rw [if_neg hslash]
          -- the tag does not end here, so that an attribute or a fill comes next
          have hitem : ∀ {items empty rest}, StartTag (t :: ts) items empty rest →
              ∃ item items' us, items = item :: items' ∧ Item (t :: ts) item us ∧
                StartTag us items' empty rest := by
            intro items empty rest h
            cases h with
            | opened hgt' => exact absurd hgt' hgt
            | empty hslash' => exact absurd hslash' hslash
            | item first more => exact ⟨_, _, _, rfl, first, more⟩
          by_cases hfill : (t.isGroup ['{'] && isFill t) = true
          · rw [if_pos hfill]
            simp only [Bool.and_eq_true] at hfill
            refine ((reads_take (t :: ts)).discard_bind fun _ us h =>
              (reads_fillExpression room hfill.1 us).bind fun e vs h' =>
                (hmore vs ?_).bind fun r ws _ =>
                  reads_pure (AttributeItem.fill e :: r.1, r.2) ws).congr ?_
            · cases h
              rw [h'.2]
              exact Nat.le_of_succ_le_succ hn
            rintro ⟨items, empty⟩ rest
            constructor
            · rintro ⟨_, _, h, e, _, ⟨⟨hf, hfits⟩, rfl⟩, r, _, ⟨htag, hall⟩, hr, rfl⟩
              cases h
              cases hr
              exact ⟨.item (.fill hf) htag, List.forall_mem_cons.2 ⟨hfits, hall⟩⟩
            · rintro ⟨h, hall⟩
              obtain ⟨item, items', us, rfl, first, more⟩ := hitem h
              have hall : ∀ i ∈ item :: items', i.Fits room := hall
              obtain ⟨hfits, hmore⟩ := List.forall_mem_cons.1 hall
              obtain ⟨e, rfl, hf, rfl⟩ := fill_of_item (d := .curly) hfill.1 first
              exact ⟨_, _, rfl, e, _, ⟨⟨hf, hfits⟩, rfl⟩, (items', empty), rest, ⟨more, hmore⟩, rfl,
                rfl⟩
          · rw [if_neg hfill]
            refine ((reads_readName (t :: ts)).bind fun name us h =>
              (reads_takePunctuation ['='] us).discard_bind fun eq vs h' =>
                (reads_attributeValue room vs).bind fun value ws h'' =>
                  (hmore ws ?_).bind fun r ws _ =>
                    reads_pure (AttributeItem.named name value :: r.1, r.2) ws).congr ?_
            · obtain ⟨_, hvs, -⟩ := h''
              have := length_lt_of_name h
              rw [h'.1, hvs] at this
              simp only [List.length_cons] at this hn
              omega
            rintro ⟨items, empty⟩ rest
            constructor
            · rintro ⟨name, _, hname, eq, _, ⟨rfl, heq⟩, value, _, ⟨u, rfl, hvalue, hfits⟩, r, _,
                ⟨htag, hall⟩, hr, rfl⟩
              cases hr
              exact ⟨.item (.named hname heq hvalue) htag, List.forall_mem_cons.2 ⟨hfits, hall⟩⟩
            · rintro ⟨h, hall⟩
              obtain ⟨item, items', us, rfl, first, more⟩ := hitem h
              have hall : ∀ i ∈ item :: items', i.Fits room := hall
              obtain ⟨hfits, hmore⟩ := List.forall_mem_cons.1 hall
              cases first with
              | named hname heq hvalue =>
                exact ⟨_, _, hname, _, _, ⟨rfl, heq⟩, _, _, ⟨_, rfl, hvalue, hfits⟩,
                  (items', empty), rest, ⟨more, hmore⟩, rfl, rfl⟩
              | fill hf => exact absurd (isFill_of_fill hf) hfill

theorem reads_endTag (name : Text) (ts : List Token) :
    Reads (endTag name) ts fun _ rest => EndTag name ts rest := by
  unfold endTag
  refine ((reads_takePunctuation ['<'] ts).bind fun lt us _ =>
    (reads_takePunctuation ['/'] us).discard_bind
      (S := fun _ vs _ rest => (∃ gt, Name vs name (gt :: rest) ∧ gt.isPunctuation ['>'] = true) ∨
        ∃ gt, vs = gt :: rest ∧ gt.isPunctuation ['>'] = true) fun _ vs _ => ?_).congr
      fun _ rest => ?_
  · cases vs with
    | nil =>
      refine (Reads.peek_nil _).congr fun _ rest => ⟨False.elim, ?_⟩
      rintro (⟨_, hname, -⟩ | ⟨_, h, -⟩)
      · exact absurd (length_lt_of_name hname) (Nat.not_lt_zero _)
      · cases h
    | cons t vs =>
      refine Reads.peek_cons ?_
      by_cases hgt : t.isPunctuation ['>'] = true
      · rw [if_neg (by simp [hgt])]
        refine (reads_takePunctuation ['>'] (t :: vs)).discard.congr fun _ rest => ?_
        constructor
        · exact .inr
        · rintro (⟨_, hname, -⟩ | h)
          · exact absurd hname (not_name_of_isPunctuation hgt (by decide))
          · exact h
      · rw [if_pos (by simp [hgt])]
        refine ((reads_readName (t :: vs)).bind
          (S := fun found ws _ rest => found = name ∧ ∃ gt, ws = gt :: rest ∧
            gt.isPunctuation ['>'] = true) fun found ws _ => ?_).congr fun _ rest => ?_
        · by_cases hfound : found = name
          · rw [if_neg (not_not_intro hfound)]
            exact (reads_takePunctuation ['>'] ws).discard.congr (by simp [hfound])
          · rw [if_pos hfound]
            refine ((reads_fail _ _ ws).bind (S := fun _ _ _ _ => False)
              fun _ _ h => h.elim).congr (by simp [hfound])
        · constructor
          · rintro ⟨_, _, hname, rfl, gt, rfl, hgt⟩
            exact .inl ⟨gt, hname, hgt⟩
          · rintro (⟨gt, hname, hgt⟩ | ⟨gt, h, hgt'⟩)
            · exact ⟨name, _, hname, rfl, gt, rfl, hgt⟩
            · cases h
              exact absurd hgt' hgt
  · constructor
    · rintro ⟨lt, _, ⟨rfl, hlt⟩, slash, vs, ⟨rfl, hslash⟩, ⟨gt, hname, hgt⟩ | ⟨gt, rfl, hgt⟩⟩
      · exact .named hlt hslash hname hgt
      · exact .short hlt hslash hgt
    · intro h
      cases h with
      | named hlt hslash hname hgt =>
        exact ⟨_, _, ⟨rfl, hlt⟩, _, _, ⟨rfl, hslash⟩, .inl ⟨_, hname, hgt⟩⟩
      | short hlt hslash hgt =>
        exact ⟨_, _, ⟨rfl, hlt⟩, _, _, ⟨rfl, hslash⟩, .inr ⟨_, rfl, hgt⟩⟩

/-! ## Elements -/

/-- An end tag comes next. -/
def EndsHere (ts : List Token) : Prop :=
  ∃ lt slash rest, ts = lt :: slash :: rest ∧ lt.isPunctuation ['<'] = true ∧
    slash.isPunctuation ['/'] = true

/-- Something comes next that is no end tag. -/
def GoesOn (ts : List Token) : Prop :=
  ∃ t us, ts = t :: us ∧
    (t.isPunctuation ['<'] = true → ∃ u vs, us = u :: vs ∧ u.isPunctuation ['/'] = false)

mutual

theorem length_lt_of_markup {ts rest : List Token} {e : Element} :
    Tagged ts e rest → rest.length < ts.length
  | .empty hname htag => Nat.lt_trans (length_lt_of_startTag htag) (length_lt_of_name hname)
  | .node hname htag hcontent hend => by
    have := length_lt_of_name hname
    have := length_lt_of_startTag htag
    have := length_le_of_content hcontent
    have := length_lt_of_endTag hend
    omega

theorem length_le_of_content {ts rest : List Token} {cs : List Child} :
    Contents ts cs rest → rest.length ≤ ts.length
  | .nil _ => Nat.le_refl _
  | .cons first more =>
    Nat.le_trans (length_le_of_content more) (Nat.le_of_lt (length_lt_of_part first))

theorem length_lt_of_part {ts rest : List Token} {c : Child} :
    Part ts c rest → rest.length < ts.length
  | .text _ => Nat.lt_succ_self _
  | .expression _ _ => Nat.lt_succ_self _
  | .continuation _ => Nat.lt_succ_self _
  | .element _ h => Nat.lt_succ_of_lt (length_lt_of_markup h)

end

theorem reads_atEndTag (ts : List Token) :
    Reads atEndTag ts fun b rest =>
      ((b = true ∧ EndsHere ts) ∨ (b = false ∧ GoesOn ts)) ∧ rest = ts := by
  -- the test looks at two tokens, and only if the first opens a tag at the second
  rcases ts with _ | ⟨t, _ | ⟨u, ts⟩⟩
  · refine (Reads.peek_nil _).congr fun b rest => ⟨False.elim, ?_⟩
    rintro ⟨⟨-, _, _, _, h, -⟩ | ⟨-, _, _, h, -⟩, -⟩ <;> cases h
  · refine Reads.peek_cons ?_
    by_cases ht : t.isPunctuation ['<'] = true
    · rw [if_pos ht]
      refine (reads_endOfInput [t]).congr fun b rest => ⟨False.elim, ?_⟩
      rintro ⟨⟨-, _, _, _, h, -⟩ | ⟨-, _, _, h, hmore⟩, -⟩
      · cases h
      · cases h
        obtain ⟨_, _, h, -⟩ := hmore ht
        cases h
    · rw [if_neg ht]
      refine (reads_pure false [t]).congr fun b rest => and_congr_left fun _ => ?_
      constructor
      · rintro rfl
        exact .inr ⟨rfl, t, [], rfl, fun h => absurd h ht⟩
      · rintro (⟨-, _, _, _, h, -⟩ | ⟨rfl, -⟩)
        · cases h
        · rfl
  · refine Reads.peek_cons ?_
    by_cases ht : t.isPunctuation ['<'] = true
    · rw [if_pos ht]
      refine Reads.congr (R := fun b rest => b = u.isPunctuation ['/'] ∧ rest = t :: u :: ts)
        (reads_pure _ (t :: u :: ts)) fun b rest => and_congr_left fun _ => ?_
      cases hu : u.isPunctuation ['/'] with
      | true =>
        constructor
        · rintro rfl
          exact .inl ⟨rfl, t, u, ts, rfl, ht, hu⟩
        · rintro (⟨rfl, -⟩ | ⟨-, _, _, h, hmore⟩)
          · rfl
          · cases h
            obtain ⟨_, _, h, hno⟩ := hmore ht
            cases h
            rw [hu] at hno
            cases hno
      | false =>
        constructor
        · rintro rfl
          exact .inr ⟨rfl, t, u :: ts, rfl, fun _ => ⟨u, ts, rfl, hu⟩⟩
        · rintro (⟨-, _, _, _, h, -, hslash⟩ | ⟨rfl, -⟩)
          · cases h
            rw [hu] at hslash
            cases hslash
          · rfl
    · rw [if_neg ht]
      refine (reads_pure false (t :: u :: ts)).congr fun b rest => and_congr_left fun _ => ?_
      constructor
      · rintro rfl
        exact .inr ⟨rfl, t, u :: ts, rfl, fun h => absurd h ht⟩
      · rintro (⟨-, _, _, _, h, hlt, -⟩ | ⟨rfl, -⟩)
        · cases h
          exact absurd hlt ht
        · rfl

theorem endsHere_of_endTag {name : Text} {ts rest : List Token} (h : EndTag name ts rest) :
    EndsHere ts := by
  cases h with
  | named hlt hslash => exact ⟨_, _, _, rfl, hlt, hslash⟩
  | short hlt hslash => exact ⟨_, _, _, rfl, hlt, hslash⟩

/-- An element in a content is not taken for the end of the content. -/
theorem goesOn_of_name {lt : Token} {ts rest : List Token} {n : Text} (h : Name ts n rest) :
    GoesOn (lt :: ts) := by
  refine ⟨lt, ts, rfl, fun _ => ?_⟩
  obtain ⟨t, ts, rfl, ht⟩ := exists_first_of_name h
  exact ⟨t, ts, rfl, ht _ (by simp)⟩

theorem goesOn_of_part {ts rest : List Token} {c : Child} (h : Part ts c rest) : GoesOn ts := by
  have hno : ∀ {t : Token} {us : List Token}, t.isPunctuation ['<'] = false → GoesOn (t :: us) :=
    fun {t us} ht => ⟨t, us, rfl, fun hlt => by rw [ht] at hlt; cases hlt⟩
  cases h with
  | text h => cases h; exact hno rfl
  | expression h => cases h; exact hno rfl
  | continuation h =>
    cases h with
    | intro hg => exact hno (by rw [hg]; rfl)
  | element _ h =>
    cases h with
    | empty hname => exact goesOn_of_name hname
    | node hname => exact goesOn_of_name hname

theorem isContinuation_of_body {t : Token} {c : Continuation} (h : Body t c) :
    t.isGroup ['{'] = true ∧ isContinuation t = true := by
  cases h with
  | intro hg ha =>
    rw [hg]
    exact ⟨rfl, ha⟩

section Step

variable {permission : Permission} {depth : Nat}

/-- Elements are read as the grammar derives them, as long as the depth is enough. -/
def ReadsElements (permission : Permission) (depth : Nat) : Prop :=
  ∀ (room : Nat) (ts : List Token), ts.length ≤ depth →
    Reads (element permission room depth) ts fun e rest =>
      Tagged ts e rest ∧ e.Fits permission room

/-- Content is, up to an end tag. -/
def ReadsContents (permission : Permission) (depth : Nat) : Prop :=
  ∀ (room : Nat) (ts : List Token), ts.length + 1 ≤ depth →
    Reads (children permission room depth) ts fun cs rest =>
      Contents ts cs rest ∧ Child.AllFit permission room cs ∧ EndsHere rest

/-- Parts of a content are. -/
def ReadsParts (permission : Permission) (depth : Nat) : Prop :=
  ∀ (room : Nat) (ts : List Token), ts.length ≤ depth →
    Reads (child permission room depth) ts fun c rest => Part ts c rest ∧ c.Fits permission room

theorem readsElements_succ (hchildren : ReadsContents permission depth) :
    ReadsElements permission (depth + 1) := by
  intro room ts hts
  cases ts with
  | nil =>
    refine (Reads.peek_nil _).congr fun e rest => ⟨False.elim, fun h => ?_⟩
    exact absurd (length_lt_of_markup h.1) (Nat.not_lt_zero _)
  | cons t ts =>
    refine Reads.peek_cons (((reads_readName (t :: ts)).bind (S := fun name us e rest =>
      nameRoom name ≤ room ∧
        ((∃ items, (StartTag us items true rest ∧ ∀ i ∈ items, i.Fits room) ∧
          e = .empty name items) ∨
        ∃ items vs cs ws, (StartTag us items false vs ∧ ∀ i ∈ items, i.Fits room) ∧
          (Contents vs cs ws ∧ Child.AllFit permission room cs ∧ EndsHere ws) ∧
            EndTag name ws rest ∧ e = .node name items cs)) fun name us hname => ?_).congr
      fun e rest => ?_)
    · have hus := length_lt_of_name hname
      by_cases hroom : room < nameRoom name
      · rw [if_pos hroom]
        refine ((reads_fail _ _ us).bind (S := fun _ _ _ _ => False) fun _ _ h => h.elim).congr
          fun e rest => ⟨fun ⟨_, _, h, _⟩ => h.elim, fun h => absurd h.1 (Nat.not_le.2 hroom)⟩
      · rw [if_neg hroom]
        -- the name and the start tag take tokens away, which is what the bounds on the depth ask for
        have hitems : us.length ≤ depth := by
          simp only [List.length_cons] at hus hts
          omega
        refine ((reads_startTag room hitems).bind (S := fun r vs e rest =>
          if r.2 then e = .empty name r.1 ∧ rest = vs
          else ∃ cs ws, (Contents vs cs ws ∧ Child.AllFit permission room cs ∧ EndsHere ws) ∧
            EndTag name ws rest ∧ e = .node name r.1 cs) ?_).congr fun e rest => ?_
        · rintro ⟨items, empty⟩ vs ⟨htag, -⟩
          have hvs := length_lt_of_startTag htag
          cases empty with
          | true => exact reads_pure _ vs
          | false =>
            refine ((hchildren room vs ?_).bind fun cs ws _ =>
              (reads_endTag name ws).bind fun _ rest _ =>
                reads_pure (Element.node name items cs) rest).congr fun e rest => ?_
            · simp only [List.length_cons] at hus hts
              omega
            · constructor
              · rintro ⟨cs, ws, hcontent, _, _, hend, rfl, rfl⟩
                exact ⟨cs, ws, hcontent, hend, rfl⟩
              · rintro ⟨cs, ws, hcontent, hend, rfl⟩
                exact ⟨cs, ws, hcontent, (), rest, hend, rfl, rfl⟩
        · constructor
          · rintro ⟨⟨items, empty⟩, vs, htag, h⟩
            refine ⟨Nat.not_lt.1 hroom, ?_⟩
            cases empty with
            | true =>
              obtain ⟨rfl, rfl⟩ := h
              exact .inl ⟨items, htag, rfl⟩
            | false =>
              obtain ⟨cs, ws, hcontent, hend, rfl⟩ := h
              exact .inr ⟨items, vs, cs, ws, htag, hcontent, hend, rfl⟩
          · rintro ⟨-, ⟨items, htag, rfl⟩ | ⟨items, vs, cs, ws, htag, hcontent, hend, rfl⟩⟩
            · exact ⟨(items, true), rest, htag, rfl, rfl⟩
            · exact ⟨(items, false), vs, htag, cs, ws, hcontent, hend, rfl⟩
    · -- the two shapes of an element are the two rules of `Markup`
      constructor
      · rintro ⟨name, us, hname, hroom,
          ⟨items, ⟨htag, hfits⟩, rfl⟩ | ⟨items, vs, cs, ws, ⟨htag, hfits⟩, ⟨hcontent, hall, -⟩,
            hend, rfl⟩⟩
        · exact ⟨.empty hname htag, hroom, hfits⟩
        · exact ⟨.node hname htag hcontent hend, hroom, hfits, hall⟩
      · rintro ⟨h, hfits⟩
        cases h with
        | empty hname htag =>
          exact ⟨_, _, hname, hfits.1, .inl ⟨_, ⟨htag, hfits.2⟩, rfl⟩⟩
        | node hname htag hcontent hend =>
          exact ⟨_, _, hname, hfits.1, .inr ⟨_, _, _, _, ⟨htag, hfits.2.1⟩,
            ⟨hcontent, hfits.2.2, endsHere_of_endTag hend⟩, hend, rfl⟩⟩

theorem readsContents_succ (hchild : ReadsParts permission depth)
    (hchildren : ReadsContents permission depth) : ReadsContents permission (depth + 1) := by
  intro room ts hts
  rw [children]
  refine ((reads_atEndTag ts).bind (S := fun b us cs rest =>
    if b then cs = [] ∧ rest = us
    else ∃ part vs parts, (Part us part vs ∧ part.Fits permission room) ∧
      (Contents vs parts rest ∧ Child.AllFit permission room parts ∧ EndsHere rest) ∧
        cs = part :: parts) fun b us h => ?_).congr fun cs rest => ?_
  · obtain ⟨-, rfl⟩ := h
    cases b with
    | true => exact reads_pure _ us
    | false =>
      refine ((hchild room us (Nat.le_of_succ_le_succ hts)).bind fun part vs h =>
        (hchildren room vs ?_).bind fun parts ws _ => reads_pure (part :: parts) ws).congr
          fun cs rest => ?_
      · have := length_lt_of_part h.1
        omega
      · constructor
        · rintro ⟨part, vs, hpart, parts, _, hparts, rfl, rfl⟩
          exact ⟨part, vs, parts, hpart, hparts, rfl⟩
        · rintro ⟨part, vs, parts, hpart, hparts, rfl⟩
          exact ⟨part, vs, hpart, parts, rest, hparts, rfl, rfl⟩
  · constructor
    · rintro ⟨b, us, ⟨⟨rfl, hend⟩ | ⟨rfl, -⟩, rfl⟩, h⟩
      · obtain ⟨rfl, rfl⟩ := h
        exact ⟨.nil _, trivial, hend⟩
      · obtain ⟨part, vs, parts, ⟨hpart, hfits⟩, ⟨hparts, hall, hend⟩, rfl⟩ := h
        exact ⟨.cons hpart hparts, ⟨hfits, hall⟩, hend⟩
    · rintro ⟨hcontent, hall, hend⟩
      cases hcontent with
      | nil => exact ⟨true, ts, ⟨.inl ⟨rfl, hend⟩, rfl⟩, rfl, rfl⟩
      | cons hpart hparts =>
        exact ⟨false, ts, ⟨.inr ⟨rfl, goesOn_of_part hpart⟩, rfl⟩, _, _, _,
          ⟨hpart, hall.1⟩, ⟨hparts, hall.2, hend⟩, rfl⟩

theorem readsParts_succ (helement : ReadsElements permission depth) :
    ReadsParts permission (depth + 1) := by
  intro room ts hts
  cases ts with
  | nil =>
    refine (Reads.take_nil _).congr fun c rest => ⟨False.elim, fun h => ?_⟩
    exact absurd (length_lt_of_part h.1) (Nat.not_lt_zero _)
  | cons t ts =>
    rw [child]
    refine Reads.take_cons ?_
    -- the first token tells the four kinds of children apart, so that in each branch the three other
    -- rules contradict the test that led there
    by_cases hstring : t.isKind .string = true
    · rw [if_pos hstring]
      refine ((reads_stringValue t ts).bind fun s us _ => reads_pure (Child.text s) us).congr
        fun c rest => ?_
      constructor
      · rintro ⟨s, _, ⟨h, rfl⟩, rfl, rfl⟩
        exact ⟨.text h, trivial⟩
      · rintro ⟨h, -⟩
        cases h with
        | text h => exact ⟨_, _, ⟨h, rfl⟩, rfl, rfl⟩
        | expression h => cases h; cases hstring
        | continuation h =>
          cases h with
          | intro hg => rw [hg] at hstring; cases hstring
        | element hlt => exact absurd hlt (not_isPunctuation_of_isKind (by decide) hstring)
    · rw [if_neg hstring]
      by_cases hgroup : t.isGroup ['{'] = true
      · rw [if_pos hgroup]
        by_cases hbar : isContinuation t = true
        · rw [if_pos hbar]
          refine ((reads_continuation permission room hgroup ts).bind fun c us _ =>
            reads_pure (Child.continuation c) us).congr fun c rest => ?_
          constructor
          · rintro ⟨c, _, ⟨⟨h, hfits⟩, rfl⟩, rfl, rfl⟩
            exact ⟨.continuation h, hfits⟩
          · rintro ⟨h, hfits⟩
            cases h with
            | text h => cases h; cases hgroup
            | expression _ hno => rw [hbar] at hno; cases hno
            | continuation h => exact ⟨_, _, ⟨⟨h, hfits⟩, rfl⟩, rfl, rfl⟩
            | element hlt => exact absurd hlt (not_isPunctuation_of_isGroup hgroup)
        · rw [if_neg hbar]
          refine ((reads_groupExpression room hgroup ts).bind fun e us _ =>
            reads_pure (Child.expression e) us).congr fun c rest => ?_
          constructor
          · rintro ⟨e, _, ⟨⟨h, hfits⟩, rfl⟩, rfl, rfl⟩
            exact ⟨.expression h (by simpa using hbar), hfits⟩
          · rintro ⟨h, hfits⟩
            cases h with
            | text h => cases h; cases hgroup
            | expression h => exact ⟨_, _, ⟨⟨h, hfits⟩, rfl⟩, rfl, rfl⟩
            | continuation h => exact absurd (isContinuation_of_body h).2 hbar
            | element hlt => exact absurd hlt (not_isPunctuation_of_isGroup hgroup)
      · rw [if_neg hgroup]
        by_cases hlt : t.isPunctuation ['<'] = true
        · rw [if_pos hlt]
          refine ((helement (room - elementRoom) ts (Nat.le_of_succ_le_succ hts)).bind
            fun e us _ => reads_pure (Child.element e) us).congr fun c rest => ?_
          constructor
          · rintro ⟨e, _, ⟨h, hfits⟩, rfl, rfl⟩
            exact ⟨.element hlt h, hfits⟩
          · rintro ⟨h, hfits⟩
            cases h with
            | text h => cases h; exact absurd rfl hstring
            | expression h => cases h; exact absurd rfl hgroup
            | continuation h => exact absurd (isContinuation_of_body h).1 hgroup
            | element _ h => exact ⟨_, _, ⟨h, hfits⟩, rfl, rfl⟩
        · rw [if_neg hlt]
          refine (reads_fail _ _ ts).congr fun c rest => ⟨False.elim, ?_⟩
          rintro ⟨h, -⟩
          cases h with
          | text h => cases h; exact hstring rfl
          | expression h => cases h; exact hgroup rfl
          | continuation h => exact hgroup (isContinuation_of_body h).1
          | element hlt' => exact hlt hlt'

end Step

/-- Elements, their content and its parts are read as the grammar derives them. The induction is on
the depth, which the tokens that are left never exceed. -/
theorem reads_markup (permission : Permission) (depth : Nat) :
    ReadsElements permission depth ∧ ReadsContents permission depth ∧
      ReadsParts permission depth := by
  induction depth with
  | zero =>
    refine ⟨fun room ts hts => ?_, fun room ts hts => absurd hts (Nat.not_succ_le_zero _),
      fun room ts hts => ?_⟩
    · refine (reads_endOfInput ts).congr fun e rest => ⟨False.elim, fun h => ?_⟩
      have := length_lt_of_markup h.1
      omega
    · refine (reads_endOfInput ts).congr fun e rest => ⟨False.elim, fun h => ?_⟩
      have := length_lt_of_part h.1
      omega
  | succ depth ih =>
    obtain ⟨helement, hchildren, hchild⟩ := ih
    exact ⟨readsElements_succ hchildren, readsContents_succ hchild hchildren,
      readsParts_succ helement⟩

end Parse

end XmlTemplate
