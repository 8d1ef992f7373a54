import XmlTemplate.Proofs.Markup.Reader
import XmlTemplate.Proofs.Markup.Tree
import XmlTemplate.Text.Blank

/-!
# What the reader makes of each written part

Names hold no mark of the markup, and escaped texts hold neither angle brackets nor, in a value,
double quotes. So the reader finds the ends of tags and values where the printer has put them:
`Tag.read?_start`, `Tag.read?_empty` and `Tag.read?_stop` for tags, `unescape?_escape` for texts,
and `Reading.feed_of_flat` for everything between two angle brackets.
-/

set_option autoImplicit false

namespace XmlTemplate

/-! ## Names -/

/-- Characters with a meaning in markup, and white space, stand in no name. -/
theorem isNamePart_ne {c : Char} (h : isNamePart c.toNat = true) :
    c ≠ '<' ∧ c ≠ '>' ∧ c ≠ '"' ∧ c ≠ '&' ∧ c ≠ '=' ∧ c ≠ '/' ∧ c ≠ ' ' := by
  refine ⟨?_, ?_, ?_, ?_, ?_, ?_, ?_⟩ <;> (rintro rfl; revert h; decide)

theorem isName_parts {name : Text} (h : isName name = true) :
    ∀ c ∈ name, isNamePart c.toNat = true := by
  cases name with
  | nil => intro c hc; cases hc
  | cons c s =>
    simp only [isName, Bool.and_eq_true, List.all_eq_true] at h
    intro d hd
    rcases List.mem_cons.1 hd with rfl | hd
    · rw [isNamePart, h.1, Bool.true_or]
    · exact h.2 d hd

theorem exists_cons_of_isName {name : Text} (h : isName name = true) :
    ∃ c s, name = c :: s ∧ isNameStart c.toNat = true ∧ ∀ d ∈ s, isNamePart d.toNat = true := by
  cases name with
  | nil => cases h
  | cons c s =>
    simp only [isName, Bool.and_eq_true, List.all_eq_true] at h
    exact ⟨c, s, rfl, h.1, h.2⟩

theorem nameHead_append {name s : Text} (h : isName name = true)
    (hs : nameHead s = []) : nameHead (name ++ s) = name := by
  rw [nameHead, List.takeWhile_append_of_pos (isName_parts h), ← nameHead, hs, List.append_nil]

theorem nameTail_append {name s : Text} (h : isName name = true)
    (hs : nameHead s = []) : nameTail (name ++ s) = s := by
  have happ : nameHead s ++ nameTail s = s := List.takeWhile_append_dropWhile
  rw [nameTail, List.dropWhile_append_of_pos (isName_parts h), ← nameTail]
  rwa [hs] at happ

/-! ## Escaped texts -/

/-- A text without angle brackets. -/
def IsFlat (s : Text) : Prop := ∀ c ∈ s, c ≠ '<' ∧ c ≠ '>'

instance (s : Text) : Decidable (IsFlat s) := List.decidableBAll (fun c => c ≠ '<' ∧ c ≠ '>') s

theorem IsFlat.append {s t : Text} (hs : IsFlat s) (ht : IsFlat t) : IsFlat (s ++ t) := by
  intro c hc
  rcases List.mem_append.1 hc with hc | hc
  · exact hs c hc
  · exact ht c hc

theorem isFlat_of_isName {name : Text} (h : isName name = true) : IsFlat name := by
  intro c hc
  obtain ⟨h₁, h₂, -⟩ := isNamePart_ne (isName_parts h c hc)
  exact ⟨h₁, h₂⟩

theorem isFlat_entity (c : Char) : IsFlat (entity c) := by
  rw [entity]
  split
  · decide
  split
  · decide
  split
  · decide
  · decide

theorem isFlat_escape (place : Place) (s : Text) : IsFlat (escape place s) := by
  induction s with
  | nil => intro c hc; cases hc
  | cons c s ih =>
    rw [escape_cons]
    refine IsFlat.append ?_ ih
    split
    · exact isFlat_entity c
    next hc =>
      intro d hd
      obtain rfl := List.mem_singleton.1 hd
      cases place <;> (constructor <;> (rintro rfl; exact hc (by decide)))

theorem escape_append (place : Place) (s t : Text) :
    escape place (s ++ t) = escape place s ++ escape place t := by
  induction s with
  | nil => rfl
  | cons c s ih => rw [List.cons_append, escape_cons, escape_cons, ih, List.append_assoc]

/-- No double quote is left in an attribute value. -/
theorem quote_notMem_escape (s : Text) : '"' ∉ escape .value s := by
  induction s with
  | nil => intro h; cases h
  | cons c s ih =>
    rw [escape_cons]
    intro h
    rcases List.mem_append.1 h with h | h
    · split at h
      · rw [entity] at h
        split at h
        · revert h; decide
        split at h
        · revert h; decide
        split at h
        · revert h; decide
        · revert h; decide
      next hc =>
        obtain rfl := List.mem_singleton.1 h
        exact hc (by decide)
    · exact ih h

theorem unescape?_cons_of_ne {c : Char} (h : c ≠ '&') (s : Text) :
    unescape? (c :: s) = (unescape? s).map (c :: ·) := by
  rw [unescape?, if_neg h]
  all_goals
    rintro - rfl
    exact absurd rfl h

/-- Replacing entities undoes escaping. -/
theorem unescape?_escape_append (place : Place) (s t : Text) :
    unescape? (escape place s ++ t) = (unescape? t).map (s ++ ·) := by
  induction s with
  | nil => simp
  | cons c s ih =>
    have hmap : (Option.map (fun u => s ++ u) (unescape? t)).map (c :: ·) =
        (unescape? t).map fun u => c :: s ++ u := by
      rw [Option.map_map]
      rfl
    rw [escape_cons, List.append_assoc]
    by_cases hc : isSpecial place c = true
    -- a special character is one of four, and each of them has an entity
    · rw [if_pos hc, entity]
      split
      next h => subst h; rw [← hmap, ← ih]; rfl
      split
      next h => subst h; rw [← hmap, ← ih]; rfl
      split
      next h => subst h; rw [← hmap, ← ih]; rfl
      next h₁ h₂ h₃ =>
        have h : c = '"' := by
          cases place <;> simp [isSpecial, h₁, h₂, h₃] at hc
          exact hc
        subst h; rw [← hmap, ← ih]; rfl
    -- the ampersand is special in every place
    · have hne : c ≠ '&' := by
        rintro rfl
        cases place <;> exact hc (by decide)
      rw [if_neg hc, List.singleton_append, unescape?_cons_of_ne hne, ih, hmap]

theorem unescape?_escape (place : Place) (s : Text) : unescape? (escape place s) = some s := by
  have h := unescape?_escape_append place s []
  rw [List.append_nil] at h
  simpa [unescape?] using h

/-- A text without special characters is written as it is. -/
theorem escape_of_plain {place : Place} {s : Text} (h : ∀ c ∈ s, isSpecial place c = false) :
    escape place s = s := by
  induction s with
  | nil => rfl
  | cons c s ih =>
    rw [escape_cons, h c List.mem_cons_self, ih fun d hd => h d (List.mem_cons_of_mem _ hd)]
    rfl

/-! ## Attributes and tags -/

theorem readAttributes?_name {m : Text} (hm : ∀ c ∈ m, isNamePart c.toNat = true) (read s : Text) :
    readAttributes? (.name read) (m ++ '=' :: '"' :: s) =
      readAttributes? (.value (read ++ m) []) s := by
  induction m generalizing read with
  | nil => rw [List.nil_append, List.append_nil, readAttributes?]
  | cons c m ih =>
    have hpart := hm c List.mem_cons_self
    have hc : c ≠ '=' := (isNamePart_ne hpart).2.2.2.2.1
    have hstep : readAttributes? (.name read) (c :: (m ++ '=' :: '"' :: s)) =
        readAttributes? (.name (read ++ [c])) (m ++ '=' :: '"' :: s) := by
      rw [readAttributes?, if_pos hpart]
      exact fun _ h => absurd h hc
    rw [List.cons_append, hstep, ih fun d hd => hm d (List.mem_cons_of_mem _ hd),
      List.append_assoc]
    rfl

/-- An attribute that has been written is read back. -/
theorem readAttributes?_attributeText {name : Text} (h : isName name = true) (value s : Text)
    (spaced : Bool) :
    readAttributes? (.between spaced) (Document.attributeText name value ++ s) =
      (readAttributes? (.between false) s).map fun r => ((name, value) :: r.1, r.2) := by
  obtain ⟨c, rest, rfl, hstart, hparts⟩ := exists_cons_of_isName h
  have hpart : isNamePart c.toNat = true := isName_parts h c List.mem_cons_self
  have hslash : c ≠ '/' := (isNamePart_ne hpart).2.2.2.2.2.1
  have hspace : isSpace c = false := by
    rw [Bool.eq_false_iff]
    intro hsp
    simp only [isSpace, Bool.or_eq_true, beq_iff_eq] at hsp
    rcases hsp with ((rfl | rfl) | rfl) | rfl <;> revert hpart <;> decide
  -- the space before the name, then the first character of the name
  have hblank : readAttributes? (.between spaced)
      (' ' :: (c :: rest ++ ['=', '"'] ++ escape .value value ++ ['"'] ++ s)) =
      readAttributes? (.between true)
        (c :: rest ++ ['=', '"'] ++ escape .value value ++ ['"'] ++ s) := by
    rw [readAttributes?, if_pos (by decide)]
    simp
  have hfirst : readAttributes? (.between true)
      (c :: (rest ++ '=' :: '"' :: (escape .value value ++ '"' :: s))) =
      readAttributes? (.name [c]) (rest ++ '=' :: '"' :: (escape .value value ++ '"' :: s)) := by
    rw [readAttributes?, if_neg (by rw [hspace]; decide), if_pos (by rw [hstart]; rfl)]
    exact fun h _ => absurd h hslash
  -- the attribute in the two forms in which these steps read it
  have hshape : Document.attributeText (c :: rest) value ++ s =
      ' ' :: (c :: rest ++ ['=', '"'] ++ escape .value value ++ ['"'] ++ s) := by
    simp [Document.attributeText]
  have hshape' : c :: rest ++ ['=', '"'] ++ escape .value value ++ ['"'] ++ s =
      c :: (rest ++ '=' :: '"' :: (escape .value value ++ '"' :: s)) := by
    simp
  rw [hshape, hblank, hshape', hfirst, readAttributes?_name hparts,
    readAttributes?_value (quote_notMem_escape value), readAttributes?, List.nil_append,
    unescape?_escape]
  cases readAttributes? (.between false) s with
  | none => rfl
  | some r => rfl

theorem readAttributes?_printAttributes {attributes : List (Text × Text)}
    (h : ∀ a ∈ attributes, isName a.1 = true) (s : Text) :
    readAttributes? (.between false) (printAttributes attributes ++ s) =
      (readAttributes? (.between false) s).map fun r => (attributes ++ r.1, r.2) := by
  induction attributes with
  | nil => simp [printAttributes]
  | cons a rest ih =>
    have hcut : printAttributes (a :: rest) ++ s =
        Document.attributeText a.1 a.2 ++ (printAttributes rest ++ s) := by
      simp [printAttributes]
    rw [hcut, readAttributes?_attributeText (h a List.mem_cons_self),
      ih fun b hb => h b (List.mem_cons_of_mem _ hb), Option.map_map]
    rfl

/-- Attributes begin with a space, which stands in no name. -/
theorem nameHead_printAttributes (attributes : List (Text × Text)) {s : Text}
    (hs : nameHead s = []) : nameHead (printAttributes attributes ++ s) = [] := by
  cases attributes with
  | nil => exact hs
  | cons a rest =>
    have hspace : isNamePart ' '.toNat = false := by decide
    exact List.takeWhile_cons_of_neg (by rw [hspace]; exact Bool.false_ne_true)

/-- A start tag is read by its name and what follows its attributes. -/
theorem Tag.read?_append {name : Text} (h : isName name = true) {attributes : List (Text × Text)}
    (ha : ∀ a ∈ attributes, isName a.1 = true) {s : Text} (hs : nameHead s = []) :
    Tag.read? (name ++ printAttributes attributes ++ s) =
      (readAttributes? (.between false) s).map fun r =>
        if r.2 then .empty name (attributes ++ r.1) else .start name (attributes ++ r.1) := by
  have hhead := nameHead_printAttributes attributes hs
  obtain ⟨c, rest, hname, -, -⟩ := exists_cons_of_isName h
  have hslash : c ≠ '/' :=
    (isNamePart_ne (isName_parts h c (hname ▸ List.mem_cons_self))).2.2.2.2.2.1
  -- the name goes up to the space before the first attribute
  have hread : Tag.read? (name ++ (printAttributes attributes ++ s)) =
      (readAttributes? (.between false) (printAttributes attributes ++ s)).map
        fun r => if r.2 then .empty name r.1 else .start name r.1 := by
    have hh := nameHead_append h hhead
    have ht := nameTail_append h hhead
    rw [hname] at hh ht h ⊢
    rw [List.cons_append] at hh ht ⊢
    rw [Tag.read?, hh, ht, if_pos h]
    exact fun _ hc => absurd (List.cons.inj hc).1 hslash
  rw [List.append_assoc, hread, readAttributes?_printAttributes ha, Option.map_map]
  rfl

theorem Tag.read?_start {name : Text} (h : isName name = true) {attributes : List (Text × Text)}
    (ha : ∀ a ∈ attributes, isName a.1 = true) :
    Tag.read? (name ++ printAttributes attributes) = some (.start name attributes) := by
  have hr := Tag.read?_append h ha (s := []) rfl
  rw [List.append_nil] at hr
  simpa [readAttributes?] using hr

theorem Tag.read?_empty {name : Text} (h : isName name = true) {attributes : List (Text × Text)}
    (ha : ∀ a ∈ attributes, isName a.1 = true) (layout : Layout) :
    Tag.read? (name ++ printAttributes attributes ++ layout.emptyEnd.dropLast) =
      some (.empty name attributes) := by
  cases layout with
  | terse =>
    rw [Tag.read?_append h ha (by decide)]
    simp [Layout.emptyEnd, readAttributes?]
  | pretty unit =>
    rw [Tag.read?_append h ha rfl]
    simp [Layout.emptyEnd, readAttributes?, isSpace]

theorem Tag.read?_stop {name : Text} (h : isName name = true) :
    Tag.read? ('/' :: name) = some (.stop name) := by
  rw [Tag.read?, if_pos h]

/-! ## Between angle brackets -/

theorem isFlat_stop {name : Text} (h : isName name = true) : IsFlat ('/' :: name) := by
  have hslash : IsFlat ['/'] := by decide
  exact hslash.append (isFlat_of_isName h)

theorem isFlat_attributeText {name : Text} (h : isName name = true) (value : Text) :
    IsFlat (Document.attributeText name value) := by
  have hmarks : IsFlat ['=', '"'] ∧ IsFlat ['"'] ∧ IsFlat [' '] := by decide
  obtain ⟨h₁, h₂, h₃⟩ := hmarks
  exact IsFlat.append (IsFlat.append (IsFlat.append (IsFlat.append h₃ (isFlat_of_isName h)) h₁)
    (isFlat_escape .value value)) h₂

theorem isFlat_printAttributes {attributes : List (Text × Text)}
    (h : ∀ a ∈ attributes, isName a.1 = true) : IsFlat (printAttributes attributes) := by
  intro c hc
  obtain ⟨a, ha, hca⟩ := List.mem_flatMap.1 hc
  exact isFlat_attributeText (h a ha) a.2 c hca

namespace Reading

theorem feed_append (r : Reading) (s t : Text) :
    r.feed (s ++ t) = (r.feed s).bind fun r' => r'.feed t := by
  induction s generalizing r with
  | nil => rfl
  | cons c s ih =>
    rw [List.cons_append, feed, feed, Option.bind_assoc]
    exact congrArg _ (funext fun r' => ih r')

/-- Without angle brackets, a text is added to what is read of a tag or of character data. -/
theorem feed_of_flat {s : Text} (h : IsFlat s) (r : Reading) :
    r.feed s = some { r with raw := r.raw ++ s } := by
  induction s generalizing r with
  | nil => rw [feed, List.append_nil]
  | cons c s ih =>
    obtain ⟨h₁, h₂⟩ := h c List.mem_cons_self
    rw [feed, step, if_neg h₁, if_neg h₂, Option.bind_some,
      ih fun d hd => h d (List.mem_cons_of_mem _ hd), List.append_assoc]
    rfl

theorem feed_open {r : Reading} (h : r.inTag = false) (s : Text) :
    r.feed ('<' :: s) =
      r.flush?.bind fun nodes => feed ⟨r.opened, nodes, [], true⟩ s := by
  rw [feed, step, if_pos rfl, h, if_neg Bool.false_ne_true, Option.bind_map]
  rfl

theorem feed_close {r : Reading} (h : r.inTag = true) (s : Text) :
    r.feed ('>' :: s) =
      ((Tag.read? r.raw).bind r.takeTag?).bind fun r' => r'.feed s := by
  rw [feed, step, if_neg (by decide), if_pos rfl, if_pos h]

end Reading

end XmlTemplate
