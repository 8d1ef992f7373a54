import XmlTemplate.Proofs.Markup.RoundTrip

/-!
# The tags of a document under construction

Operations can be made on a document in any order that its checks let pass, and not every order
makes a document. Which do can be told without the text: it is enough to know the names of the open
elements and what has been written of a tag that is not finished (`Tags`). Each operation takes one
step (`Tags.step?`), which fails where a tag begins inside of another or an end tag has the wrong
name. Operations nest if all steps succeed and the last one, and no other, closes the outermost
element (`nest`).

The steps follow the reader. What it has read shows the tags (`Reading.Shows`), and what an
operation adds to the text takes the one to the next and the other likewise, or both fail
(`Reading.Shows.stepped`).
-/

set_option autoImplicit false

namespace XmlTemplate

/-- The names of the open elements, innermost first, what has been written of a tag whose end mark
is still to come, and the depth that the document counts. -/
structure Tags where
  opened : List Text
  unfinished : Option Text
  depth : Nat
  deriving DecidableEq, Repr

namespace Tags

/-- Whether no element is open, and no tag is unfinished. -/
def isClosed (t : Tags) : Bool := t.opened.isEmpty && t.unfinished.isNone

/-- Write a text, which is part of the unfinished tag if there is one. -/
def addText (t : Tags) (s : Text) : Tags := { t with unfinished := t.unfinished.map (· ++ s) }

theorem addText_of_none {t : Tags} (h : t.unfinished = none) (w : Text) : t.addText w = t := by
  obtain ⟨opened, unfinished, depth⟩ := t
  obtain rfl : unfinished = none := h
  rfl

/-- Take a whole tag into account. -/
def take? (t : Tags) : Tag → Option Tags
  | .start name _ => some { t with opened := name :: t.opened, unfinished := none }
  | .empty .. => some { t with unfinished := none }
  | .stop name =>
    match t.opened with
    | [] => none
    | n :: rest => if n = name then some { t with opened := rest, unfinished := none } else none

theorem take?_depth {t t' : Tags} {tag : Tag} (h : t.take? tag = some t') : t'.depth = t.depth := by
  cases tag with
  | start name attributes =>
    cases h
    rfl
  | empty name attributes =>
    cases h
    rfl
  | stop name =>
    rw [take?] at h
    split at h
    · cases h
    · split at h
      · cases h
        rfl
      · cases h

/-- Write the end mark of a tag, after some last characters and with the depth after it. It is
character data where no tag is unfinished. -/
def finish? (t : Tags) (last : Text) (depth : Nat) : Option Tags :=
  match t.unfinished with
  | none => some { t with depth }
  | some raw => (Tag.read? (raw ++ last)).bind ({ t with depth } : Tags).take?

theorem finish?_of_none {t : Tags} (h : t.unfinished = none) (last : Text) (depth : Nat) :
    t.finish? last depth = some { t with depth } := by
  rw [finish?]
  split
  · rfl
  next raw hraw =>
    rw [h] at hraw
    cases hraw

theorem finish?_of_some {t : Tags} {raw : Text} (h : t.unfinished = some raw) (last : Text)
    (depth : Nat) :
    t.finish? last depth = (Tag.read? (raw ++ last)).bind ({ t with depth } : Tags).take? := by
  rw [finish?]
  split
  next hnone =>
    rw [h] at hnone
    cases hnone
  next raw' hraw =>
    rw [h] at hraw
    cases hraw
    rfl

/-- The tags after an operation on a document of the given layout. -/
def step? (layout : Layout) (t : Tags) : Operation → Option Tags
  | .beginTag name =>
    if t.unfinished.isSome then none else some { t with unfinished := some name }
  | .addAttribute name value => some (t.addText (Document.attributeText name value))
  | .enterContent => t.finish? [] (t.depth + 1)
  | .endEmptyTag => t.finish? layout.emptyEnd.dropLast t.depth
  | .endElement name =>
    if t.unfinished.isSome then none
    else ({ t with depth := t.depth - 1 } : Tags).take? (.stop name)
  | .addText value => some (t.addText (escape .content value ++ layout.lineBreak t.depth))

/-- The tags after operations. None may follow the one that closes the outermost element. -/
def run? (layout : Layout) (t : Tags) : List Operation → Option Tags
  | [] => some t
  | op :: rest =>
    (t.step? layout op).bind fun t' =>
      if t'.isClosed && !rest.isEmpty then none else t'.run? layout rest

end Tags

/-- Whether operations on a new document nest: they begin with a tag, each tag is finished before
the next one begins, each end tag has the name of the innermost open element, and the last operation
closes the element that the first one has begun. -/
def nest (layout : Layout) : List Operation → Bool
  | .beginTag name :: rest =>
    match Tags.run? layout ⟨[], some name, 0⟩ rest with
    | some t => t.isClosed
    | none => false
  | _ => false

/-! ## Legible texts -/

/-- A text in which every ampersand begins an entity. -/
def IsLegible (s : Text) : Prop := ∃ value, unescape? s = some value

theorem isLegible_nil : IsLegible [] := ⟨[], rfl⟩

/-- A legible text is read for itself. -/
theorem unescape?_append {s : Text} {v : Text} (h : unescape? s = some v) (t : Text) :
    unescape? (s ++ t) = (unescape? t).map (v ++ ·) := by
  have hcons : ∀ {c : Char} {s w : Text}, (unescape? s).map (c :: ·) = some w →
      (∀ v, unescape? s = some v → unescape? (s ++ t) = (unescape? t).map (v ++ ·)) →
      (unescape? (s ++ t)).map (c :: ·) = (unescape? t).map (w ++ ·) := by
    intro c s w hw ih
    obtain ⟨v, hv, rfl⟩ := Option.map_eq_some_iff.1 hw
    rw [ih v hv, Option.map_map]
    rfl
  -- one case for each entity, one for an ampersand that begins none, and one for other characters
  induction s using unescape?.induct generalizing v with
  | case1 =>
    cases h
    simp
  | case2 s ih | case3 s ih | case4 s ih | case5 s ih =>
    rw [unescape?] at h
    exact hcons h fun _ hv => ih hv
  | case6 s h₁ h₂ h₃ h₄ =>
    rw [unescape?, if_pos rfl] at h
    · cases h
    all_goals assumption
  | case7 c s h₁ h₂ h₃ h₄ hc ih =>
    rw [unescape?_cons_of_ne hc] at h
    rw [List.cons_append, unescape?_cons_of_ne hc]
    exact hcons h fun _ hv => ih hv

theorem IsLegible.append {s t : Text} (hs : IsLegible s) (ht : IsLegible t) :
    IsLegible (s ++ t) := by
  obtain ⟨v, hv⟩ := hs
  obtain ⟨w, hw⟩ := ht
  exact ⟨v ++ w, by rw [unescape?_append hv, hw]; rfl⟩

theorem isLegible_escape (place : Place) (s : Text) : IsLegible (escape place s) :=
  ⟨s, unescape?_escape place s⟩

/-- Without ampersands every text is legible. -/
theorem isLegible_of_notMem {s : Text} (h : '&' ∉ s) : IsLegible s := by
  induction s with
  | nil => exact isLegible_nil
  | cons c s ih =>
    obtain ⟨hc, hs⟩ := List.ne_and_not_mem_of_not_mem_cons h
    obtain ⟨v, hv⟩ := ih hs
    exact ⟨c :: v, by rw [unescape?_cons_of_ne (Ne.symm hc), hv]; rfl⟩

/-- Blanks are no part of a text without blanks. -/
theorem prefix_of_append_blank {s u e t : Text} (hu : u.allBlank = true)
    (he : e.any isBlank = false) (h : s ++ u = e ++ t) : ∃ rest, s = e ++ rest := by
  rcases List.append_eq_append_iff.1 h with ⟨rest, hrest, hu'⟩ | ⟨rest, hrest, -⟩
  · cases rest with
    | nil => exact ⟨[], by rw [hrest, List.append_nil, List.append_nil]⟩
    | cons c rest =>
      have hblank : isBlank c = true :=
        List.all_eq_true.1 hu c (hu' ▸ List.mem_append_left t List.mem_cons_self)
      have hmem : c ∈ e := hrest ▸ List.mem_append_right s List.mem_cons_self
      exact absurd hblank (List.any_eq_false.1 he c hmem)
  · exact ⟨rest, hrest⟩

/-- Blanks at the end of a text play no part in its being legible. -/
theorem IsLegible.of_append_blank {s u : Text} (hu : u.allBlank = true)
    (h : IsLegible (s ++ u)) : IsLegible s := by
  have hcons : ∀ {c : Char} {s : Text}, (∃ v, (unescape? (s ++ u)).map (c :: ·) = some v) →
      (IsLegible (s ++ u) → IsLegible s) → ∃ v, (unescape? s).map (c :: ·) = some v := by
    rintro c s ⟨v, hv⟩ ih
    obtain ⟨w, hw, -⟩ := Option.map_eq_some_iff.1 hv
    obtain ⟨w', hw'⟩ := ih ⟨w, hw⟩
    exact ⟨c :: w', by rw [hw']; rfl⟩
  induction s using unescape?.induct with
  | case1 => exact isLegible_nil
  | case2 s ih | case3 s ih | case4 s ih | case5 s ih =>
    rw [IsLegible] at h ⊢
    rw [unescape?]
    simp only [List.cons_append, unescape?] at h
    exact hcons h ih
  | case6 s h₁ h₂ h₃ h₄ =>
    -- what follows the ampersand begins no entity, with or without the blanks
    have hnone : ∀ {e : Text}, e.any isBlank = false → (∀ rest, s ≠ e ++ rest) →
        ∀ rest, s ++ u ≠ e ++ rest := by
      intro e he hs rest heq
      obtain ⟨rest', hrest'⟩ := prefix_of_append_blank hu he heq
      exact hs rest' hrest'
    obtain ⟨v, hv⟩ := h
    rw [List.cons_append, unescape?, if_pos rfl] at hv
    · cases hv
    · exact fun rest _ => hnone (e := ['l', 't', ';']) (by decide) (fun r => h₁ r rfl) rest
    · exact fun rest _ => hnone (e := ['g', 't', ';']) (by decide) (fun r => h₂ r rfl) rest
    · exact fun rest _ => hnone (e := ['a', 'm', 'p', ';']) (by decide) (fun r => h₃ r rfl) rest
    · exact fun rest _ =>
        hnone (e := ['q', 'u', 'o', 't', ';']) (by decide) (fun r => h₄ r rfl) rest
  | case7 c s h₁ h₂ h₃ h₄ hc ih =>
    rw [IsLegible, List.cons_append, unescape?_cons_of_ne hc] at h
    rw [IsLegible, unescape?_cons_of_ne hc]
    exact hcons h ih

theorem isLegible_of_allBlank {s : Text} (h : s.allBlank = true) : IsLegible s := by
  rw [← escape_of_allBlank h .content]
  exact isLegible_escape .content s

theorem isLegible_attributeText {name : Text} (h : isName name = true) (value : Text) :
    IsLegible (Document.attributeText name value) := by
  have hname : IsLegible name :=
    isLegible_of_notMem fun hmem => (isNamePart_ne (isName_parts h _ hmem)).2.2.2.1 rfl
  have hspace : IsLegible [' '] := isLegible_of_notMem (by decide)
  have hmarks : IsLegible ['=', '"'] := isLegible_of_notMem (by decide)
  have hquote : IsLegible ['"'] := isLegible_of_notMem (by decide)
  exact (((hspace.append hname).append hmarks).append (isLegible_escape .value value)).append hquote

/-! ## What has been read -/

namespace Reading

/-- What has been read shows the tags: the names of the open elements and the unfinished tag. -/
structure Shows (r : Reading) (t : Tags) : Prop where
  opened : t.opened = r.opened.map OpenElement.name
  unfinished : t.unfinished = if r.inTag then some r.raw else none
  legible : r.inTag = false → IsLegible r.raw

theorem Shows.opened_eq_nil_iff {r : Reading} {t : Tags} (h : r.Shows t) :
    t.opened = [] ↔ r.opened = [] := by
  rw [h.opened, List.map_eq_nil_iff]

theorem Shows.isClosed_iff {r : Reading} {t : Tags} (h : r.Shows t) :
    t.isClosed = true ↔ r.opened = [] ∧ r.inTag = false := by
  rw [Tags.isClosed, Bool.and_eq_true, List.isEmpty_iff, h.opened_eq_nil_iff, h.unfinished]
  cases r.inTag <;> simp

/-- Without open elements, the nodes that have been read are the outermost ones. -/
theorem outermost_of_nil {r : Reading} (h : r.opened = []) : r.outermost = r.nodes := by
  rw [outermost, h]
  rfl

/-- Inside of an element, the outermost nodes are those before the outermost element. -/
theorem outermost_of_ne_nil {r r' : Reading} (h : r.opened ≠ []) (h' : r'.opened = r.opened) :
    r'.outermost = r.outermost := by
  rw [outermost, outermost, h']
  cases hlast : r.opened.getLast? with
  | none => exact absurd (List.getLast?_eq_none_iff.1 hlast) h
  | some f => rfl

/-- An element inside of another plays no part in what the outermost nodes are. -/
theorem outermost_of_cons {r r' : Reading} {f : OpenElement} (h : r.opened = f :: r'.opened)
    (hne : r'.opened ≠ []) : r'.outermost = r.outermost := by
  rw [outermost, outermost, h]
  cases hlast : r'.opened.getLast? with
  | none => exact absurd (List.getLast?_eq_none_iff.1 hlast) hne
  | some g => rw [List.getLast?_cons, hlast]; rfl

theorem Shows.addText {r : Reading} {t : Tags} (h : r.Shows t) {w : Text} (hl : IsLegible w) :
    ({ r with raw := r.raw ++ w } : Reading).Shows (t.addText w) where
  opened := h.opened
  unfinished := by
    rw [Tags.addText, h.unfinished]
    cases r.inTag <;> rfl
  legible hr := (h.legible hr).append hl

/-- After the tag of a reading that leads to another and to the given tags, whose outermost nodes
are those from before and the element that the tag closes, if none is open after it. -/
structure Taken (r : Reading) (t' : Tags) (r' : Reading) : Prop where
  shows : r'.Shows t'
  raw_eq : r'.raw = []
  inTag_eq : r'.inTag = false
  closing : r'.opened = [] → ∃ name attributes children,
    r'.outermost = r.outermost ++ [.element name attributes children]
  inside : r'.opened ≠ [] → r'.outermost = r.outermost

/-- A tag is taken by the reader if and only if it is by the tags. -/
theorem takeTag?_taken {r : Reading} {t : Tags} (h : t.opened = r.opened.map OpenElement.name)
    (tag : Tag) : Option.Rel (r.Taken) (t.take? tag) (r.takeTag? tag) := by
  cases tag with
  | start name attributes =>
    have hshows : Shows ⟨⟨name, attributes, r.nodes⟩ :: r.opened, [], [], false⟩
        { t with opened := name :: t.opened, unfinished := none } :=
      ⟨by rw [h]; rfl, rfl, fun _ => isLegible_nil⟩
    refine .some ⟨hshows, rfl, rfl, (nomatch ·), fun _ => ?_⟩
    by_cases hr : r.opened = []
    · rw [outermost_of_nil hr, outermost, hr]
      rfl
    · exact (outermost_of_cons rfl hr).symm
  | empty name attributes =>
    have hshows : Shows ⟨r.opened, r.nodes ++ [.element name attributes []], [], false⟩
        { t with unfinished := none } := ⟨h, rfl, fun _ => isLegible_nil⟩
    refine .some ⟨hshows, rfl, rfl, fun hnil => ⟨name, attributes, [], ?_⟩, fun hne => ?_⟩
    · have hr : r.opened = [] := hnil
      rw [outermost_of_nil hr, outermost_of_nil hnil]
    · have hr : r.opened ≠ [] := hne
      exact outermost_of_ne_nil hr rfl
  | stop name =>
    rw [Tags.take?, takeTag?, h]
    cases hr : r.opened with
    | nil => exact .none
    | cons f rest =>
      rw [List.map_cons]
      dsimp only
      by_cases hname : f.name = name
      · rw [if_pos hname, if_pos hname]
        refine .some ⟨⟨rfl, rfl, fun _ => isLegible_nil⟩, rfl, rfl,
          fun hnil => ⟨f.name, f.attributes, r.nodes, ?_⟩, fun hne => ?_⟩
        · have hrest : rest = [] := hnil
          rw [outermost_of_nil hnil, outermost, hr, hrest]
          rfl
        · exact outermost_of_cons hr hne
      · rw [if_neg hname, if_neg hname]
        exact .none

/-- After an operation: the tags are shown. While some element is open, the outermost nodes stay
what they were, and when the last one is closed, it is added to them and a line break follows. -/
structure Stepped (layout : Layout) (r : Reading) (t t' : Tags) (r' : Reading) : Prop where
  shows : r'.Shows t'
  closing : t.isClosed = false → t'.isClosed = true → r'.raw = layout.lineBreak t'.depth ∧
    ∃ name attributes children, r'.outermost = r.outermost ++ [.element name attributes children]
  inside : t.isClosed = false → t'.isClosed = false → r'.outermost = r.outermost

theorem feed_mark {r : Reading} (h : r.inTag = false) (s : Text) :
    r.feed ('>' :: s) = ({ r with raw := r.raw ++ ['>'] } : Reading).feed s := by
  rw [feed, step, if_neg (by decide), if_pos rfl, h]
  rfl

/-- Written text leaves the outermost nodes as they are. -/
theorem Shows.stepped_addText {r : Reading} {t : Tags} (h : r.Shows t) (layout : Layout) {w : Text}
    (hf : IsFlat w) (hl : IsLegible w) :
    Option.Rel (r.Stepped layout t) (some (t.addText w)) (r.feed w) := by
  rw [feed_of_flat hf]
  refine .some ⟨h.addText hl, fun hopen hclosed => ?_, fun _ _ => rfl⟩
  have hsame : (t.addText w).isClosed = t.isClosed := by
    rw [Tags.isClosed, Tags.isClosed, Tags.addText, Option.isNone_map]
  rw [hsame, hopen] at hclosed
  cases hclosed

/-- A tag that has been taken and a line break after it. -/
theorem stepped_of_taken {r r₁ : Reading} {t : Tags} {tags : Option Tags} {read : Option Reading}
    (h : Option.Rel r₁.Taken tags read) {layout : Layout} (hlayout : layout.isBlank = true)
    {depth : Nat} (hdepth : ∀ t', tags = some t' → t'.depth = depth)
    (hout : t.isClosed = false → r₁.outermost = r.outermost) :
    Option.Rel (r.Stepped layout t) tags
      (read.bind fun r' => r'.feed (layout.lineBreak depth)) := by
  cases h with
  | none => exact .none
  | @some t' r' htaken =>
    have hblank := allBlank_lineBreak hlayout depth
    have hshows := htaken.shows
    have hclosed : t'.isClosed = true ↔ r'.opened = [] := by
      rw [hshows.isClosed_iff, and_iff_left htaken.inTag_eq]
    rw [Option.bind_some, feed_of_flat (isFlat_of_allBlank hblank), htaken.raw_eq,
      List.nil_append]
    refine .some ⟨⟨hshows.opened, ?_, fun _ => isLegible_of_allBlank hblank⟩,
      fun hlive h' => ⟨?_, ?_⟩, fun hlive h' => ?_⟩
    · rw [hshows.unfinished, htaken.inTag_eq]
      rfl
    · rw [hdepth t' rfl]
    · rw [← hout hlive]
      exact htaken.closing (hclosed.1 h')
    · rw [← hout hlive]
      exact htaken.inside fun hnil => Bool.eq_false_iff.1 h' (hclosed.2 hnil)

/-- The end mark of a tag and a line break after it. -/
theorem Shows.stepped_finish {r : Reading} {t : Tags} (h : r.Shows t) {layout : Layout}
    (hlayout : layout.isBlank = true) {last : Text} (hf : IsFlat last) (hl : IsLegible last)
    (depth : Nat) :
    Option.Rel (r.Stepped layout t) (t.finish? last depth)
      (r.feed (last ++ '>' :: layout.lineBreak depth)) := by
  have hblank := allBlank_lineBreak hlayout depth
  rw [feed_append, feed_of_flat hf, Option.bind_some]
  by_cases hr : r.inTag = true
  · have hraw : t.unfinished = some r.raw := by rw [h.unfinished, if_pos hr]
    rw [Tags.finish?_of_some hraw, feed_close (r := { r with raw := r.raw ++ last }) hr]
    dsimp only
    cases Tag.read? (r.raw ++ last) with
    | none => exact .none
    | some tag =>
      have hopened : ({ t with depth } : Tags).opened = r.opened.map OpenElement.name := h.opened
      have htaken := takeTag?_taken (r := { r with raw := r.raw ++ last }) hopened tag
      exact stepped_of_taken htaken hlayout (fun _ => Tags.take?_depth) fun _ => rfl
  · have hr' : r.inTag = false := Bool.eq_false_iff.2 hr
    have hnone : t.unfinished = none := by rw [h.unfinished, if_neg hr]
    have hmark : IsLegible ['>'] := isLegible_of_notMem (by decide)
    rw [Tags.finish?_of_none hnone, feed_mark (r := { r with raw := r.raw ++ last }) hr',
      feed_of_flat (isFlat_of_allBlank hblank)]
    refine .some ⟨⟨h.opened, hnone.trans (if_neg hr).symm, fun _ => ?_⟩, fun hopen hclosed => ?_,
      fun _ _ => rfl⟩
    · exact (((h.legible hr').append hl).append hmark).append (isLegible_of_allBlank hblank)
    · have hsame : t.isClosed = true := hclosed
      rw [hopen] at hsame
      cases hsame

theorem feed_open_of_inTag {r : Reading} (h : r.inTag = true) (s : Text) :
    r.feed ('<' :: s) = none := by
  rw [feed, step, if_pos rfl, if_pos h]
  rfl

/-- Outside of tags, a tag can begin after what has been read. -/
theorem Shows.feed_open {r : Reading} {t : Tags} (h : r.Shows t) (hr : r.inTag = false) :
    ∃ nodes, ∀ s, r.feed ('<' :: s) = feed ⟨r.opened, nodes, [], true⟩ s := by
  obtain ⟨value, hvalue⟩ := h.legible hr
  refine ⟨r.nodes ++ textNodes value, fun s => ?_⟩
  rw [Reading.feed_open hr, flush?, hvalue]
  rfl

theorem isSome_unfinished_iff {r : Reading} {t : Tags} (h : r.Shows t) :
    t.unfinished.isSome = r.inTag := by
  rw [h.unfinished]
  cases r.inTag <;> rfl

theorem Shows.ne_nil_of_open {r : Reading} {t : Tags} (h : r.Shows t) (hr : r.inTag = false)
    (hopen : t.isClosed = false) : r.opened ≠ [] := by
  intro hnil
  rw [h.isClosed_iff.2 ⟨hnil, hr⟩] at hopen
  cases hopen

/-- A tag begins where none is unfinished. -/
theorem Shows.stepped_beginTag {r : Reading} {t : Tags} (h : r.Shows t) (layout : Layout)
    {name : Text} (hn : isName name = true) :
    Option.Rel (r.Stepped layout t) (t.step? layout (.beginTag name)) (r.feed ('<' :: name)) := by
  rw [Tags.step?, isSome_unfinished_iff h]
  by_cases hr : r.inTag = true
  · rw [if_pos hr, feed_open_of_inTag hr]
    exact .none
  · have hr' : r.inTag = false := Bool.eq_false_iff.2 hr
    obtain ⟨nodes, hopen⟩ := h.feed_open hr'
    rw [if_neg hr, hopen, feed_of_flat (isFlat_of_isName hn), List.nil_append]
    refine .some ⟨⟨h.opened, rfl, fun hfalse => Bool.noConfusion hfalse⟩, fun _ hclosed => ?_,
      fun hlive _ => ?_⟩
    · rw [Tags.isClosed, Option.isNone_some, Bool.and_false] at hclosed
      cases hclosed
    · exact outermost_of_ne_nil (h.ne_nil_of_open hr' hlive) rfl

/-- An end tag closes the innermost element, if it has its name and no tag is unfinished. -/
theorem Shows.stepped_endElement {r : Reading} {t : Tags} (h : r.Shows t) {layout : Layout}
    (hlayout : layout.isBlank = true) {name : Text} (hn : isName name = true) :
    Option.Rel (r.Stepped layout t) (t.step? layout (.endElement name))
      (r.feed ('<' :: '/' :: name ++ '>' :: layout.lineBreak (t.depth - 1))) := by
  rw [Tags.step?, isSome_unfinished_iff h]
  by_cases hr : r.inTag = true
  · rw [if_pos hr, List.cons_append, feed_open_of_inTag hr]
    exact .none
  · have hr' : r.inTag = false := Bool.eq_false_iff.2 hr
    obtain ⟨nodes, hopen⟩ := h.feed_open hr'
    have htaken := takeTag?_taken (r := ⟨r.opened, nodes, '/' :: name, true⟩)
      (t := { t with depth := t.depth - 1 }) h.opened (.stop name)
    rw [if_neg hr, List.cons_append, hopen, feed_append, feed_of_flat (isFlat_stop hn),
      Option.bind_some, List.nil_append, feed_close rfl, Tag.read?_stop hn, Option.bind_some]
    refine stepped_of_taken htaken hlayout (fun _ => Tags.take?_depth) fun hlive => ?_
    exact outermost_of_ne_nil (h.ne_nil_of_open hr' hlive) rfl

/-- The text that an operation adds takes what has been read to what shows the next tags, or is not
to be read if the operation has no place there. -/
theorem Shows.stepped {r : Reading} {t : Tags} (h : r.Shows t) {layout : Layout}
    (hlayout : layout.isBlank = true) {op : Operation} (hop : op.isNamed = true) :
    Option.Rel (r.Stepped layout t) (t.step? layout op) (r.feed (op.added layout t.depth)) := by
  have hbreak := allBlank_lineBreak hlayout
  cases op with
  | addAttribute name value =>
    exact h.stepped_addText layout (isFlat_attributeText hop value)
      (isLegible_attributeText hop value)
  | addText value =>
    exact h.stepped_addText layout
      ((isFlat_escape .content value).append (isFlat_of_allBlank (hbreak t.depth)))
      ((isLegible_escape .content value).append (isLegible_of_allBlank (hbreak t.depth)))
  | enterContent =>
    have hflat : IsFlat [] := by decide
    exact h.stepped_finish hlayout hflat isLegible_nil (t.depth + 1)
  | endEmptyTag =>
    have hend : layout.emptyEnd ++ layout.lineBreak t.depth =
        layout.emptyEnd.dropLast ++ '>' :: layout.lineBreak t.depth := by
      cases layout <;> rfl
    have hflat : IsFlat layout.emptyEnd.dropLast := isFlat_emptyEnd layout
    have hlegible : IsLegible layout.emptyEnd.dropLast := by
      cases layout with
      | terse => exact isLegible_of_notMem (by decide)
      | pretty unit =>
        show IsLegible [' ', '/']
        exact isLegible_of_notMem (by decide)
    rw [Operation.added, hend]
    exact h.stepped_finish hlayout hflat hlegible t.depth
  | beginTag name => exact h.stepped_beginTag layout hop
  | endElement name => exact h.stepped_endElement hlayout hop

end Reading

end XmlTemplate
