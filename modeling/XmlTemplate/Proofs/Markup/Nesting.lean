import XmlTemplate.Proofs.Markup.Tags

/-!
# Which operations make a document

The text of a document that operations have been performed on is read as a document if the
operations nest (`isDocument_of_nest`), and only then if the last of them is an end tag
(`nest_of_isDocument`), provided that the layout is blank.

An operation can take a unit back from the text before it adds to it, so that the texts after one
operation and the next are not prefixes of one another. What has been read of the earlier one is
still what has been read up to there, except for blanks at its end.
-/

set_option autoImplicit false

namespace XmlTemplate

/-- Whether a node is an element. -/
def Node.isElement : Node → Bool
  | .text _ => false
  | .element .. => true

/-! ## Reading after each operation -/

theorem allBlank_removed {layout : Layout} (h : layout.isBlank = true) (op : Operation) :
    (op.removed layout).allBlank = true := by
  cases op with
  | endElement name => exact h
  | _ => rfl

namespace Reading

/-- What has been read up to some blanks is what has been read with them, less the blanks. -/
theorem feed_append_blank {s u : Text} (hu : u.allBlank = true) (r : Reading) :
    r.feed (s ++ u) = (r.feed s).map fun r' => { r' with raw := r'.raw ++ u } := by
  rw [feed_append]
  cases r.feed s with
  | none => rfl
  | some r' => exact feed_of_flat (isFlat_of_allBlank hu) r'

/-- Less some blanks, what has been read shows the same tags, except for what has been written of an
unfinished one. -/
theorem Shows.of_append_blank {r : Reading} {u : Text} (hu : u.allBlank = true) {t : Tags}
    (h : ({ r with raw := r.raw ++ u } : Reading).Shows t) :
    ∃ unfinished, r.Shows { t with unfinished } ∧ unfinished.isSome = t.unfinished.isSome := by
  refine ⟨if r.inTag then some r.raw else none, ⟨h.opened, rfl, fun hr => ?_⟩, ?_⟩
  · exact (h.legible hr).of_append_blank hu
  · have hsome := isSome_unfinished_iff h
    rw [hsome]
    cases r.inTag <;> rfl

/-- Of an unfinished tag it matters for an end tag only that there is one. -/
theorem step?_endElement_congr (layout : Layout) (t : Tags) {unfinished : Option Text}
    (h : unfinished.isSome = t.unfinished.isSome) (name : Text) :
    ({ t with unfinished } : Tags).step? layout (.endElement name) =
      t.step? layout (.endElement name) := by
  rw [Tags.step?, Tags.step?, h]
  rfl

theorem isClosed_congr (t : Tags) {unfinished : Option Text}
    (h : unfinished.isSome = t.unfinished.isSome) :
    ({ t with unfinished } : Tags).isClosed = t.isClosed := by
  rw [Tags.isClosed, Tags.isClosed]
  cases unfinished <;> cases ht : t.unfinished <;> simp_all

/-- Reading the text after an operation, given what has been read of the text before it. -/
theorem stepped_of_feed {layout : Layout} (hlayout : layout.isBlank = true) {op : Operation}
    (hop : op.isNamed = true) {before : Text} {r : Reading} {t : Tags}
    (hr : start.feed (before ++ op.removed layout) = some r) (h : r.Shows t) :
    Option.Rel (r.Stepped layout t) (t.step? layout op)
      (start.feed (before ++ op.added layout t.depth)) := by
  have hblank := allBlank_removed hlayout op
  -- `r₀` is what has been read up to the blanks that the operation takes back
  rw [feed_append_blank hblank] at hr
  obtain ⟨r₀, hr₀, rfl⟩ := Option.map_eq_some_iff.1 hr
  rw [feed_append, hr₀, Option.bind_some]
  cases op with
  | endElement name =>
    obtain ⟨unfinished, h₀, hsome⟩ := h.of_append_blank hblank
    have hstep := h₀.stepped hlayout hop
    rw [step?_endElement_congr layout t hsome] at hstep
    have hclosed := isClosed_congr t hsome
    revert hstep
    show Option.Rel _ _ (r₀.feed (Operation.added layout t.depth (.endElement name))) → _
    generalize t.step? layout (.endElement name) = tags
    generalize r₀.feed (Operation.added layout t.depth (.endElement name)) = read
    intro hstep
    cases hstep with
    | none => exact .none
    | some hstep =>
      exact .some ⟨hstep.shows, fun hlive => hstep.closing (hclosed.trans hlive),
        fun hlive => hstep.inside (hclosed.trans hlive)⟩
  | _ =>
    rw [Operation.removed, List.append_nil] at h ⊢
    exact h.stepped hlayout hop

/-- What cannot be read before an operation cannot be read after it. -/
theorem feed_eq_none_of_removed {layout : Layout} (hlayout : layout.isBlank = true)
    {op : Operation} {before : Text} (h : start.feed (before ++ op.removed layout) = none)
    (depth : Nat) : start.feed (before ++ op.added layout depth) = none := by
  rw [feed_append_blank (allBlank_removed hlayout op), Option.map_eq_none_iff] at h
  rw [feed_append, h]
  rfl

/-! ## Outermost nodes -/

theorem outermost_takeTag? {r r' : Reading} {tag : Tag} (h : r.takeTag? tag = some r') :
    r.outermost <+: r'.outermost := by
  have htaken := takeTag?_taken (t := ⟨r.opened.map OpenElement.name, none, 0⟩) rfl tag
  rw [h] at htaken
  cases htake : Tags.take? ⟨r.opened.map OpenElement.name, none, 0⟩ tag with
  | none =>
    rw [htake] at htaken
    cases htaken
  | some t' =>
    rw [htake] at htaken
    cases htaken with
    | some htaken =>
      by_cases hr : r'.opened = []
      · obtain ⟨name, attributes, children, hout⟩ := htaken.closing hr
        rw [hout]
        exact List.prefix_append _ _
      · exact ⟨[], by rw [List.append_nil, htaken.inside hr]⟩

/-- Outermost nodes stay. -/
theorem outermost_step {r r' : Reading} {c : Char} (h : r.step c = some r') :
    r.outermost <+: r'.outermost := by
  rw [step] at h
  split at h
  · split at h
    · cases h
    · obtain ⟨nodes, hflush, rfl⟩ := Option.map_eq_some_iff.1 h
      obtain ⟨value, -, rfl⟩ := Option.map_eq_some_iff.1 hflush
      by_cases hr : r.opened = []
      · rw [outermost_of_nil hr, outermost_of_nil (r := ⟨r.opened, _, [], true⟩) hr]
        exact List.prefix_append _ _
      · have hsame : outermost ⟨r.opened, r.nodes ++ textNodes value, [], true⟩ = r.outermost :=
          outermost_of_ne_nil hr rfl
        exact ⟨[], by rw [List.append_nil, hsame]⟩
  · split at h
    · split at h
      · obtain ⟨tag, -, htake⟩ := Option.bind_eq_some_iff.1 h
        exact outermost_takeTag? htake
      · cases h
        exact List.prefix_refl _
    · cases h
      exact List.prefix_refl _

theorem outermost_feed {r r' : Reading} {s : Text} (h : r.feed s = some r') :
    r.outermost <+: r'.outermost := by
  induction s generalizing r with
  | nil =>
    cases h
    exact List.prefix_refl _
  | cons c s ih =>
    rw [feed] at h
    obtain ⟨r₁, hstep, hfeed⟩ := Option.bind_eq_some_iff.1 h
    exact (outermost_step hstep).trans (ih hfeed)

/-! ## A single root -/

theorem isSpace_of_isElement {n : Node} (h : n.isElement = true) : n.isSpace = false := by
  cases n with
  | text value => cases h
  | element name attributes children => rfl

/-- A single root is the only element. -/
theorem countP_of_isSingleRoot {nodes : List Node} (h : isSingleRoot nodes = true) :
    nodes.countP Node.isElement = 1 := by
  have hfilter : (nodes.filter fun n => !n.isSpace).countP Node.isElement =
      nodes.countP Node.isElement := by
    rw [List.countP_filter]
    apply List.countP_congr
    intro n _
    cases hn : n.isElement with
    | false => rw [Bool.false_and]
    | true => rw [isSpace_of_isElement hn, Bool.not_false, Bool.and_self]
  rw [isSingleRoot] at h
  rw [← hfilter]
  split at h
  next hnodes =>
    rw [hnodes]
    rfl
  next => cases h

/-- An element with nothing but white space around it is a single root. -/
theorem isSingleRoot_append {nodes rest : List Node} (hnodes : nodes.all Node.isSpace = true)
    (hrest : rest.all Node.isSpace = true) (name : Text) (attributes : List (Text × Text))
    (children : List Node) :
    isSingleRoot (nodes ++ .element name attributes children :: rest) = true := by
  have hnone : ∀ {l : List Node}, l.all Node.isSpace = true →
      l.filter (fun n => !n.isSpace) = [] := by
    intro l hl
    rw [List.filter_eq_nil_iff]
    intro n hn
    rw [List.all_eq_true.1 hl n hn]
    decide
  rw [isSingleRoot, List.filter_append, hnone hnodes, List.filter_cons_of_pos (by rfl),
    hnone hrest]
  rfl

/-- What has been read can end only outside of all elements and tags. -/
theorem finish?_eq_some {r : Reading} {nodes : List Node} (h : r.finish? = some nodes) :
    r.opened = [] ∧ r.inTag = false ∧
      ∃ value, unescape? r.raw = some value ∧ nodes = r.outermost ++ textNodes value := by
  rw [finish?] at h
  split at h
  · cases h
  next hend =>
    rw [Bool.or_eq_true, not_or, Bool.not_eq_true, Bool.not_eq_true, Bool.not_eq_false',
      List.isEmpty_iff] at hend
    obtain ⟨value, hvalue, rfl⟩ := Option.map_eq_some_iff.1 h
    refine ⟨hend.2, hend.1, value, hvalue, ?_⟩
    rw [outermost_of_nil hend.2]

theorem finish?_of_closed {r : Reading} (hopened : r.opened = []) (htag : r.inTag = false)
    {value : Text} (hvalue : unescape? r.raw = some value) :
    r.finish? = some (r.outermost ++ textNodes value) := by
  rw [finish?, hopened, htag, flush?, hvalue, outermost_of_nil hopened]
  rfl

/-- Outermost nodes stay from one operation to the next. -/
theorem outermost_added {layout : Layout} (hlayout : layout.isBlank = true) {op : Operation}
    {before : Text} {depth : Nat} {r r' : Reading}
    (hr : start.feed (before ++ op.removed layout) = some r)
    (hr' : start.feed (before ++ op.added layout depth) = some r') :
    r.outermost <+: r'.outermost := by
  rw [feed_append_blank (allBlank_removed hlayout op)] at hr
  obtain ⟨r₀, hr₀, rfl⟩ := Option.map_eq_some_iff.1 hr
  rw [feed_append, hr₀, Option.bind_some] at hr'
  exact outermost_feed (r := r₀) hr'

end Reading

/-! ## Reading documents -/

namespace Tags

/-- The depth that the tags count is that of the document. -/
theorem step?_depth {layout : Layout} {t t' : Tags} {op : Operation}
    (h : t.step? layout op = some t') : t'.depth = op.depthAfter t.depth := by
  have hfinish : ∀ {last : Text} {depth : Nat}, t.finish? last depth = some t' →
      t'.depth = depth := by
    intro last depth hf
    cases hu : t.unfinished with
    | none =>
      rw [finish?_of_none hu] at hf
      cases hf
      rfl
    | some raw =>
      rw [finish?_of_some hu] at hf
      obtain ⟨tag, -, htake⟩ := Option.bind_eq_some_iff.1 hf
      exact take?_depth htake
  cases op with
  | beginTag name =>
    rw [step?] at h
    split at h
    · cases h
    · cases h
      rfl
  | addAttribute name value =>
    cases h
    rfl
  | enterContent => exact hfinish h
  | endEmptyTag => exact hfinish h
  | endElement name =>
    rw [step?] at h
    split at h
    · cases h
    · exact take?_depth h
  | addText value =>
    cases h
    rfl

/-- An end tag has to end something. -/
theorem isClosed_of_step?_endElement {layout : Layout} {t t' : Tags} {name : Text}
    (h : t.step? layout (.endElement name) = some t') : t.isClosed = false := by
  rw [step?] at h
  split at h
  · cases h
  · rw [isClosed]
    cases hopened : t.opened with
    | nil =>
      rw [take?, hopened] at h
      cases h
    | cons n rest => rfl

end Tags

namespace Document

variable {declaration : Text} {d e : Document} {r : Reading} {t : Tags}

/-- The text of a document after its declaration has been read, and what has been read shows the
tags. -/
structure ReadAs (declaration : Text) (d : Document) (r : Reading) (t : Tags) : Prop where
  feed : ∃ body, d.text = declaration ++ body ∧ Reading.start.feed body = some r
  shows : r.Shows t
  depth_eq : t.depth = d.depth

/-- The text of a document after its declaration cannot be read, not even in part. -/
def IsUnreadable (declaration : Text) (d : Document) : Prop :=
  ∃ body, d.text = declaration ++ body ∧ Reading.start.feed body = none

theorem IsUnreadable.not_isDocument (h : d.IsUnreadable declaration) :
    ¬IsDocument declaration d.text := by
  obtain ⟨body, ht, hnone⟩ := h
  rintro ⟨body', nodes, ht', hread, -⟩
  rw [ht] at ht'
  obtain rfl := List.append_cancel_left ht'
  rw [readNodes, hnone] at hread
  cases hread

theorem ReadAs.isDocument_iff (h : d.ReadAs declaration r t) :
    IsDocument declaration d.text ↔
      ∃ nodes, r.finish? = some nodes ∧ isSingleRoot nodes = true := by
  obtain ⟨body, ht, hfeed⟩ := h.feed
  constructor
  · rintro ⟨body', nodes, ht', hread, hroot⟩
    rw [ht] at ht'
    obtain rfl := List.append_cancel_left ht'
    rw [readNodes, hfeed] at hread
    exact ⟨nodes, hread, hroot⟩
  · rintro ⟨nodes, hfinish, hroot⟩
    refine ⟨body, nodes, ht, ?_, hroot⟩
    rw [readNodes, hfeed]
    exact hfinish

/-- No operation takes anything back from the declaration, whose last character is no blank. -/
theorem text_of_perform (hdeclaration : declaration.getLast? = some '>')
    (hlayout : d.layout.isBlank = true) {body : Text} (ht : d.text = declaration ++ body)
    {op : Operation} (h : d.perform op = .ok e) :
    ∃ before, body = before ++ op.removed d.layout ∧
      e.text = declaration ++ (before ++ op.added d.layout d.depth) := by
  obtain ⟨-, -, before, hbefore, he⟩ := perform_eq_ok h
  rw [ht] at hbefore
  rcases List.append_eq_append_iff.1 hbefore with ⟨a, rfl, hbody⟩ | ⟨c, hc, hremoved⟩
  · exact ⟨a, hbody, by rw [he, List.append_assoc]⟩
  -- what would be taken back from the declaration would end with its last character
  · have hnil : c = [] := by
      apply Decidable.byContradiction
      intro hne
      rw [hc, List.getLast?_append, List.getLast?_eq_some_getLast hne, Option.some_or]
        at hdeclaration
      have hmem : '>' ∈ c := Option.some.inj hdeclaration ▸ List.getLast_mem hne
      have hblank : isBlank '>' = true :=
        List.all_eq_true.1 (allBlank_removed hlayout op) '>'
          (hremoved ▸ List.mem_append_left body hmem)
      exact absurd hblank (by decide)
    rw [hnil, List.append_nil] at hc
    rw [hnil, List.nil_append] at hremoved
    exact ⟨[], hremoved.symm, by rw [he, hc, List.nil_append]⟩

theorem IsUnreadable.perform (hdeclaration : declaration.getLast? = some '>')
    (hlayout : d.layout.isBlank = true) (h : d.IsUnreadable declaration) {op : Operation}
    (hop : d.perform op = .ok e) : e.IsUnreadable declaration := by
  obtain ⟨body, ht, hnone⟩ := h
  obtain ⟨before, rfl, he⟩ := text_of_perform hdeclaration hlayout ht hop
  exact ⟨_, he, Reading.feed_eq_none_of_removed hlayout hnone d.depth⟩

theorem IsUnreadable.performAll (hdeclaration : declaration.getLast? = some '>')
    {ops : List Operation} (hlayout : d.layout.isBlank = true) (h : d.IsUnreadable declaration)
    (hops : d.performAll ops = .ok e) : e.IsUnreadable declaration := by
  induction ops generalizing d with
  | nil =>
    cases hops
    exact h
  | cons op rest ih =>
    obtain ⟨d', hop, hrest⟩ := performAll_cons_eq_ok_iff.1 hops
    have hlayout' : d'.layout.isBlank = true := by
      rw [layout_of_perform hop]
      exact hlayout
    exact ih hlayout' (h.perform hdeclaration hlayout hop) hrest

/-- After one more operation, the text can be read and shows the next tags, or it cannot be read
because the operation has no place there. -/
theorem ReadAs.perform (hdeclaration : declaration.getLast? = some '>')
    (hlayout : d.layout.isBlank = true) (h : d.ReadAs declaration r t) {op : Operation}
    (hop : d.perform op = .ok e) :
    (t.step? d.layout op = none ∧ e.IsUnreadable declaration) ∨
      ∃ t' r', t.step? d.layout op = some t' ∧ e.ReadAs declaration r' t' ∧
        r.Stepped d.layout t t' r' ∧ r.outermost <+: r'.outermost := by
  obtain ⟨body, ht, hfeed⟩ := h.feed
  obtain ⟨before, rfl, he⟩ := text_of_perform hdeclaration hlayout ht hop
  obtain ⟨hnamed, hshape, -⟩ := perform_eq_ok hop
  have hstep := Reading.stepped_of_feed hlayout hnamed hfeed h.shows
  rw [h.depth_eq] at hstep
  generalize htags : t.step? d.layout op = tags at hstep
  generalize hread : Reading.start.feed (before ++ op.added d.layout d.depth) = read at hstep
  cases hstep with
  | none => exact Or.inl ⟨rfl, _, he, hread⟩
  | @some t' r' hstepped =>
    have hdepth : t'.depth = e.depth := by
      rw [Tags.step?_depth htags, h.depth_eq]
      exact (congrArg Shape.depth hshape).symm
    exact Or.inr ⟨t', r', rfl, ⟨⟨_, he, hread⟩, hstepped.shows, hdepth⟩, hstepped,
      Reading.outermost_added hlayout hfeed hread⟩

/-- A document in which an element or a tag is open is not finished. -/
theorem ReadAs.not_isDocument_of_open (h : d.ReadAs declaration r t) (ht : t.isClosed = false) :
    ¬IsDocument declaration d.text := by
  rw [h.isDocument_iff]
  rintro ⟨nodes, hfinish, -⟩
  obtain ⟨hopened, htag, -⟩ := Reading.finish?_eq_some hfinish
  rw [h.shows.isClosed_iff.2 ⟨hopened, htag⟩] at ht
  cases ht

/-- A document with two outermost elements has one too many. -/
theorem ReadAs.not_isDocument_of_countP (h : d.ReadAs declaration r t)
    (hcount : 2 ≤ r.outermost.countP Node.isElement) : ¬IsDocument declaration d.text := by
  rw [h.isDocument_iff]
  rintro ⟨nodes, hfinish, hroot⟩
  obtain ⟨-, -, value, -, rfl⟩ := Reading.finish?_eq_some hfinish
  have hone := Reading.countP_of_isSingleRoot hroot
  rw [List.countP_append] at hone
  omega

/-- An end tag after the outermost element has been closed belongs to another such element, or to
none. -/
theorem ReadAs.not_isDocument_of_element (hdeclaration : declaration.getLast? = some '>')
    {init : List Operation} {name : Text} (hlayout : d.layout.isBlank = true)
    (h : d.ReadAs declaration r t) (hcount : 1 ≤ r.outermost.countP Node.isElement)
    (hops : d.performAll (init ++ [.endElement name]) = .ok e) :
    ¬IsDocument declaration e.text := by
  -- outermost nodes stay, so that the element is still there before the end tag
  induction init generalizing d r t with
  | nil =>
    rw [List.nil_append, performAll_singleton] at hops
    rcases h.perform hdeclaration hlayout hops with ⟨-, hnone⟩ | ⟨t', r', hstep, h', hstepped, -⟩
    · exact hnone.not_isDocument
    · have hopen := Tags.isClosed_of_step?_endElement hstep
      cases ht' : t'.isClosed with
      | false => exact h'.not_isDocument_of_open ht'
      | true =>
        -- the end tag closes a second outermost element
        obtain ⟨-, n, attributes, children, hout⟩ := hstepped.closing hopen ht'
        apply h'.not_isDocument_of_countP
        rw [hout, List.countP_append]
        exact Nat.add_le_add hcount (Nat.le_refl 1)
  | cons op rest ih =>
    obtain ⟨d', hop, hrest⟩ := performAll_cons_eq_ok_iff.1 hops
    have hlayout' : d'.layout.isBlank = true := by
      rw [layout_of_perform hop]
      exact hlayout
    rcases h.perform hdeclaration hlayout hop with ⟨-, hnone⟩ | ⟨t', r', -, h', -, hout⟩
    · exact (hnone.performAll hdeclaration hlayout' hrest).not_isDocument
    · exact ih hlayout' h' (Nat.le_trans hcount hout.countP_le) hrest

/-- Where the outermost element has been closed at depth zero, and nothing but white space stands
before it, the text is a document. -/
theorem ReadAs.isDocument_of_closed {r' : Reading} {t' : Tags} (h : d.ReadAs declaration r' t')
    {layout : Layout} (hstepped : r.Stepped layout t t' r') (hopen : t.isClosed = false)
    (hclosed : t'.isClosed = true) (hspace : r.outermost.all Node.isSpace = true)
    (hdepth : d.depth = 0) : IsDocument declaration d.text := by
  obtain ⟨hraw, name, attributes, children, hout⟩ := hstepped.closing hopen hclosed
  obtain ⟨hopened, htag⟩ := h.shows.isClosed_iff.1 hclosed
  rw [h.depth_eq, hdepth] at hraw
  have hvalue : unescape? r'.raw = some (layout.lineBreak 0) := by
    rw [hraw]
    cases layout <;> rfl
  have hbreak : (textNodes (layout.lineBreak 0)).all Node.isSpace = true := by
    cases layout <;> rfl
  rw [h.isDocument_iff]
  refine ⟨_, Reading.finish?_of_closed hopened htag hvalue, ?_⟩
  rw [hout, List.append_assoc, List.singleton_append]
  exact Reading.isSingleRoot_append hspace hbreak name attributes children

/-- Operations that close the outermost element with the last one make a document. -/
theorem ReadAs.isDocument_of_run? {ops : List Operation}
    (hdeclaration : declaration.getLast? = some '>') (hlayout : d.layout.isBlank = true)
    (h : d.ReadAs declaration r t) (hopen : t.isClosed = false)
    (hspace : r.outermost.all Node.isSpace = true) (hops : d.performAll ops = .ok e)
    (hdepth : e.depth = 0) {t' : Tags} (hrun : t.run? d.layout ops = some t')
    (hclosed : t'.isClosed = true) : IsDocument declaration e.text := by
  -- as long as some element is open, nothing is added to the white space among the outermost nodes
  induction ops generalizing d r t with
  | nil =>
    cases hrun
    rw [hopen] at hclosed
    cases hclosed
  | cons op rest ih =>
    obtain ⟨d₁, hop, hrest⟩ := performAll_cons_eq_ok_iff.1 hops
    have hlayout₁ := layout_of_perform hop
    rw [Tags.run?] at hrun
    rcases h.perform hdeclaration hlayout hop with ⟨hnone, -⟩ | ⟨t₁, r₁, hstep, h₁, hstepped, -⟩
    · rw [hnone] at hrun
      cases hrun
    · rw [hstep, Option.bind_some] at hrun
      cases hclosed₁ : t₁.isClosed with
      | false =>
        rw [hclosed₁, Bool.false_and, if_neg Bool.false_ne_true, ← hlayout₁] at hrun
        rw [← hstepped.inside hopen hclosed₁] at hspace
        exact ih (hlayout₁ ▸ hlayout) h₁ hclosed₁ hspace hrest hrun
      | true =>
        cases rest with
        | nil =>
          cases hrest
          exact h₁.isDocument_of_closed hstepped hopen hclosed₁ hspace hdepth
        | cons op' rest =>
          rw [hclosed₁] at hrun
          cases hrun

/-- Operations that end with an end tag and make a document close the outermost element with that
end tag. -/
theorem ReadAs.run?_of_isDocument {ops : List Operation}
    (hdeclaration : declaration.getLast? = some '>') (hlayout : d.layout.isBlank = true)
    (h : d.ReadAs declaration r t) (hopen : t.isClosed = false)
    (hlast : ∀ op, ops.getLast? = some op → ∃ name, op = .endElement name)
    (hops : d.performAll ops = .ok e) (hdocument : IsDocument declaration e.text) :
    ∃ t', t.run? d.layout ops = some t' ∧ t'.isClosed = true := by
  -- a step that fails leaves a text that is unreadable for good
  induction ops generalizing d r t with
  | nil =>
    cases hops
    exact absurd hdocument (h.not_isDocument_of_open hopen)
  | cons op rest ih =>
    obtain ⟨d₁, hop, hrest⟩ := performAll_cons_eq_ok_iff.1 hops
    have hlayout₁ := layout_of_perform hop
    have hblank₁ : d₁.layout.isBlank = true := hlayout₁ ▸ hlayout
    have hlast₁ : ∀ op, rest.getLast? = some op → ∃ name, op = .endElement name := by
      intro op' hop'
      apply hlast
      rw [List.getLast?_cons, hop']
      rfl
    rw [Tags.run?]
    rcases h.perform hdeclaration hlayout hop with ⟨-, hnone⟩ | ⟨t₁, r₁, hstep, h₁, hstepped, -⟩
    · exact absurd hdocument (hnone.performAll hdeclaration hblank₁ hrest).not_isDocument
    · rw [hstep, Option.bind_some]
      cases hclosed₁ : t₁.isClosed with
      | false =>
        rw [Bool.false_and, if_neg Bool.false_ne_true, ← hlayout₁]
        exact ih hblank₁ h₁ hclosed₁ hlast₁ hrest
      | true =>
        rcases List.eq_nil_or_concat rest with rfl | ⟨init, last, rfl⟩
        · exact ⟨t₁, rfl, hclosed₁⟩
        -- with the outermost element closed too early, the last end tag is one too many
        · rw [List.concat_eq_append] at hlast₁ hrest
          obtain ⟨name, rfl⟩ := hlast₁ last List.getLast?_concat
          obtain ⟨-, n, attributes, children, hout⟩ := hstepped.closing hopen hclosed₁
          have hcount : 1 ≤ r₁.outermost.countP Node.isElement := by
            rw [hout, List.countP_append]
            exact Nat.le_add_left 1 _
          exact absurd hdocument
            (h₁.not_isDocument_of_element hdeclaration hblank₁ hcount hrest)

/-! ## New documents -/

/-- The declaration as a text, and the line break after it. -/
theorem text_start (version : Version) (standalone : Option Bool) (layout : Layout) :
    (start version standalone layout).text = Document.declaration version ++
      (standaloneText standalone).flatten ++ ['?', '>'] ++ layout.lineBreak 0 := by
  have htext : (⟨version, layout, 0, [], some (Document.declaration version)⟩ : Document).text =
      Document.declaration version := text_of_latest rfl
  have hshape := shape_pushAll ⟨version, layout, 0, [], some (Document.declaration version)⟩
    (standaloneText standalone ++ [['?', '>']])
  rw [start, text_newline, text_pushAll, htext, layout_eq_of_shape hshape,
    depth_eq_of_shape hshape]
  simp

theorem text_start_terse (version : Version) (standalone : Option Bool) :
    (start version standalone .terse).text = Document.declaration version ++
      (standaloneText standalone).flatten ++ ['?', '>'] := by
  rw [text_start, Layout.lineBreak, List.append_nil]

theorem layout_start (version : Version) (standalone : Option Bool) (layout : Layout) :
    (start version standalone layout).layout = layout := by
  rw [start, layout_eq_of_shape (shape_newline _), layout_eq_of_shape (shape_pushAll _ _)]

theorem depth_start (version : Version) (standalone : Option Bool) (layout : Layout) :
    (start version standalone layout).depth = 0 := by
  rw [start, depth_eq_of_shape (shape_newline _), depth_eq_of_shape (shape_pushAll _ _)]

/-- A new document in which the first tag has been begun. -/
theorem readAs_beginTag {version : Version} {standalone : Option Bool} {layout : Layout}
    {name : Text} (h : (start version standalone layout).beginTag name = .ok d) :
    d.ReadAs (start version standalone .terse).text
      ⟨[], textNodes (layout.lineBreak 0), name, true⟩ ⟨[], some name, 0⟩ := by
  rw [beginTag] at h
  split at h
  next hname =>
    cases h
    have hflat : IsFlat (layout.lineBreak 0) := by
      cases layout with
      | terse => exact (by decide : IsFlat [])
      | pretty unit => exact (by decide : IsFlat ['\n'])
    have hvalue : unescape? (layout.lineBreak 0) = some (layout.lineBreak 0) := by
      cases layout <;> rfl
    refine ⟨⟨layout.lineBreak 0 ++ '<' :: name, ?_, ?_⟩,
      ⟨rfl, rfl, fun hfalse => Bool.noConfusion hfalse⟩, (depth_start ..).symm⟩
    · rw [text_openTag, text_start, text_start_terse, List.append_assoc]
      rfl
    · rw [Reading.feed_append, Reading.feed_of_flat hflat, Option.bind_some,
        Reading.feed_open rfl, Reading.flush?]
      show ((unescape? (layout.lineBreak 0)).map _).bind _ = _
      rw [hvalue]
      exact Reading.feed_of_flat (isFlat_of_isName hname) _
  next => cases h

end Document

section Operations

variable {version : Version} {standalone : Option Bool} {layout : Layout} {d : Document}

theorem getLast?_start : (Document.start version standalone .terse).text.getLast? = some '>' := by
  rw [Document.text_start_terse, List.getLast?_append]
  rfl

/-- Operations on a new document that nest make a document. -/
theorem isDocument_of_nest {ops : List Operation} (hlayout : layout.isBlank = true)
    (h : (Document.start version standalone layout).performAll ops = .ok d) (hdepth : d.depth = 0)
    (hnest : nest layout ops = true) :
    IsDocument (Document.start version standalone .terse).text d.text := by
  rw [nest.eq_def] at hnest
  split at hnest
  next name rest =>
    split at hnest
    next t' hrun =>
      obtain ⟨d₁, hbegin, hrest⟩ := Document.performAll_cons_eq_ok_iff.1 h
      have hlayout₁ : d₁.layout = layout :=
        (Document.layout_of_perform hbegin).trans (Document.layout_start version standalone layout)
      have hspace : (textNodes (layout.lineBreak 0)).all Node.isSpace = true := by
        cases layout <;> rfl
      rw [← hlayout₁] at hrun
      exact (Document.readAs_beginTag hbegin).isDocument_of_run? getLast?_start (hlayout₁ ▸ hlayout)
        rfl hspace hrest hdepth hrun hnest
    next => cases hnest
  next => cases hnest

/-- Operations on a new document that begin with a tag and end with an end tag nest if they make a
document. -/
theorem nest_of_isDocument {name : Text} {rest : List Operation} (hlayout : layout.isBlank = true)
    (h : (Document.start version standalone layout).performAll (.beginTag name :: rest) = .ok d)
    (hlast : ∀ op, rest.getLast? = some op → ∃ n, op = .endElement n)
    (hdocument : IsDocument (Document.start version standalone .terse).text d.text) :
    nest layout (.beginTag name :: rest) = true := by
  obtain ⟨d₁, hbegin, hrest⟩ := Document.performAll_cons_eq_ok_iff.1 h
  have hlayout₁ : d₁.layout = layout :=
    (Document.layout_of_perform hbegin).trans (Document.layout_start version standalone layout)
  obtain ⟨t', hrun, hclosed⟩ := (Document.readAs_beginTag hbegin).run?_of_isDocument getLast?_start
    (hlayout₁ ▸ hlayout) rfl hlast hrest hdocument
  rw [hlayout₁] at hrun
  rw [nest, hrun]
  exact hclosed

end Operations

end XmlTemplate
