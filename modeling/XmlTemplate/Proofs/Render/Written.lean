import XmlTemplate.Proofs.Render.Orderly

/-!
# What a run has written

`Evaluates` speaks of all documents of one shape at once, so it has no rule for a value that shows
the document itself. Here one run is followed, in the states that it goes through:
`WritesElement` relates an element and the state before to the tree that has been written and the
state after, where the values of expressions are texts as they were shown at their time.

It covers every run. Where an element without continuations is written and each expression that
comes to be evaluated leaves the document alone (`Embedded.LeavesAlone`), there is such a tree
(`exists_writesElement`). What the run has done to the document is then told from the tree: it has
added the print of the tree, in the layout and at the depth of the document
(`WritesElement.appends`).
-/

set_option autoImplicit false

namespace XmlTemplate

open Render

/-- Evaluating the expression in the state leaves the document of the given number, if there is one,
as it is. It does where the expression calls none of its methods. -/
structure Embedded.LeavesAlone (expand : Expander) (target : Option Nat) (x : Embedded)
    (s : RenderState) : Prop where
  of_ok : ∀ v s', evalEmbedded expand x s = .ok v s' → ∀ id ∈ target,
    s'.store.documents[id]? = s.store.documents[id]?
  of_error : ∀ e s', evalEmbedded expand x s = .error e s' → ∀ id ∈ target,
    s'.store.documents[id]? = s.store.documents[id]?

namespace Render

/-! ## Attributes -/

/-- A rendering gives a value and leaves the document of the given number as it is. -/
structure Gives {α : Type} (id : Nat) (p : Render α) (s : RenderState) (v : α) (s' : RenderState) :
    Prop where
  run : p s = .ok v s'
  documents_eq : s'.store.documents[id]? = s.store.documents[id]?

/-- A value is written as an attribute. It is shown when the attribute has been begun. -/
inductive WritesAttribute (id : Nat) (name : Text) (v : Value) :
    RenderState → Text → RenderState → Prop
  | intro {s : RenderState} {d : Document} {value : Text} (found : s.store.documents[id]? = some d)
      (shown : display v (s.put id (d.beginAttribute (some name))) =
        .ok value (s.put id (d.beginAttribute (some name)))) :
      WritesAttribute id name v s value (s.put id (d.writeAttribute name value))

/-- An item of a fill is written as an attribute: it is a pair whose first half is shown as a
name. -/
inductive WritesPair (id : Nat) (item : Value) : RenderState → Text × Text → RenderState → Prop
  | intro {key v : Value} {name value : Text} {s s₁ s' : RenderState}
      (halves : Gives id (unpackPair item) s (key, v) s₁) (shown : display key s₁ = .ok name s₁)
      (isName : XmlTemplate.isName name = true) (written : WritesAttribute id name v s₁ value s') :
      WritesPair id item s (name, value) s'

/-- Items are written as attributes, one after the other. -/
inductive WritesPairs (id : Nat) :
    List Value → RenderState → List (Text × Text) → RenderState → Prop
  | nil {s : RenderState} : WritesPairs id [] s [] s
  | cons {item : Value} {rest : List Value} {s s₁ s' : RenderState} {a : Text × Text}
      {as : List (Text × Text)} (head : WritesPair id item s a s₁)
      (tail : WritesPairs id rest s₁ as s') : WritesPairs id (item :: rest) s (a :: as) s'

/-- The items of an iterator are written as attributes, in no more than the given number of
rounds. -/
inductive DrainsPairs (id iterator : Nat) :
    Nat → RenderState → List (Text × Text) → RenderState → Prop
  | done {s : RenderState} : DrainsPairs id iterator 0 s [] s
  | stop {rounds : Nat} {s s' : RenderState} (none : Gives id (next? iterator) s none s') :
      DrainsPairs id iterator (rounds + 1) s [] s'
  | more {rounds : Nat} {item : Value} {s s₁ s₂ s' : RenderState} {a : Text × Text}
      {as : List (Text × Text)} (next : Gives id (next? iterator) s (some item) s₁)
      (head : WritesPair id item s₁ a s₂) (tail : DrainsPairs id iterator rounds s₂ as s') :
      DrainsPairs id iterator (rounds + 1) s (a :: as) s'

/-- The value of a fill is written as attributes. A range holds no pairs, so only an empty one will
do. -/
def WritesFill (id : Nat) (v : Value) (s : RenderState) (as : List (Text × Text))
    (s' : RenderState) : Prop :=
  match v with
  | .dict _ es => WritesPairs id (pairs es) s as s'
  | v =>
    match v.iteration? with
    | some (.items vs) => WritesPairs id vs s as s'
    | some (.range _ _ count) => count = 0 ∧ as = [] ∧ s' = s
    | some (.shared iterator) =>
      DrainsPairs id iterator (s.store.iterators[iterator]?.getD []).length s as s'
    | none => False

section Relations

variable (expand : Expander) (id : Nat)

/-- An attribute or fill of a start tag is written as attributes. -/
inductive WritesItem : AttributeItem → RenderState → List (Text × Text) → RenderState → Prop
  | literal {name value : Text} {s s' : RenderState}
      (added : changeDocument id (·.addAttribute name value) s = .ok () s') :
      WritesItem (.named name (.literal value)) s [(name, value)] s'
  | expression {name value : Text} {x : Embedded} {v : Value} {s s₁ s' : RenderState}
      (isName : XmlTemplate.isName name = true)
      (eval : Gives id (takingRoom attributeRoom (evalEmbedded expand x)) s v s₁)
      (written : WritesAttribute id name v s₁ value s') :
      WritesItem (.named name (.expression x)) s [(name, value)] s'
  | fill {x : Embedded} {v : Value} {s s₁ s' : RenderState} {as : List (Text × Text)}
      (eval : Gives id (takingRoom attributeRoom (evalEmbedded expand x)) s v s₁)
      (written : WritesFill id v s₁ as s') : WritesItem (.fill x) s as s'

/-- Attributes and fills of a start tag are written as attributes, one after the other. -/
inductive WritesItems :
    List AttributeItem → RenderState → List (Text × Text) → RenderState → Prop
  | nil {s : RenderState} : WritesItems [] s [] s
  | cons {item : AttributeItem} {rest : List AttributeItem} {s s₁ s' : RenderState}
      {as bs : List (Text × Text)} (head : WritesItem expand id item s as s₁)
      (tail : WritesItems rest s₁ bs s') : WritesItems (item :: rest) s (as ++ bs) s'

/-! ## Elements -/

/-- The beginning of a start tag is written, for which the room suffices. -/
def BeginsTag (name : Text) (s s' : RenderState) : Prop :=
  (do
    checkRoom name
    changeDocument id (·.beginTag name)) s = .ok () s'

mutual

/-- An element is written as a tree. -/
inductive WritesElement : Element → RenderState → Markup → RenderState → Prop
  | empty {name : Text} {items : List AttributeItem} {s s₁ s₂ s' : RenderState}
      {as : List (Text × Text)} (begun : BeginsTag id name s s₁)
      (tag : WritesItems expand id items s₁ as s₂)
      (ended : changeDocument id (fun d => .ok d.endEmptyTag) s₂ = .ok () s') :
      WritesElement (.empty name items) s (.empty name as) s'
  | node {name : Text} {items : List AttributeItem} {children : List Child}
      {s s₁ s₂ s₃ s₄ s' : RenderState} {as : List (Text × Text)} {ks : List Content}
      (begun : BeginsTag id name s s₁) (tag : WritesItems expand id items s₁ as s₂)
      (entered : changeDocument id (fun d => .ok d.enterContent) s₂ = .ok () s₃)
      (content : WritesChildren children s₃ ks s₄)
      (left : leaveElement id (·.endElement name) s₄ = .ok () s') :
      WritesElement (.node name items children) s (.node name as ks) s'

/-- A part of the content of an element is written as a text or a tree. -/
inductive WritesChild : Child → RenderState → Content → RenderState → Prop
  | text {value : Text} {s s' : RenderState}
      (added : changeDocument id (fun d => .ok (d.addText value)) s = .ok () s') :
      WritesChild (.text value) s (.text value) s'
  | expression {value : Text} {x : Embedded} {v : Value} {s s₁ s' : RenderState}
      (eval : Gives id (takingRoom childRoom (evalEmbedded expand x)) s v s₁)
      (shown : takingRoom textRoom (display v) s₁ = .ok value s₁)
      (added : changeDocument id (fun d => .ok (d.addText value)) s₁ = .ok () s') :
      WritesChild (.expression x) s (.text value) s'
  | element {e : Element} {m : Markup} {s s' : RenderState}
      (inside : WritesElement e { s with room := s.room - elementRoom } m s') :
      WritesChild (.element e) s (.markup m) { s' with room := s.room }

/-- The parts of the content of an element are written as texts and trees, one after the other. -/
inductive WritesChildren : List Child → RenderState → List Content → RenderState → Prop
  | nil {s : RenderState} : WritesChildren [] s [] s
  | cons {c : Child} {rest : List Child} {s s₁ s' : RenderState} {k : Content}
      {ks : List Content} (head : WritesChild c s k s₁) (tail : WritesChildren rest s₁ ks s') :
      WritesChildren (c :: rest) s (k :: ks) s'

end

end Relations

/-! ## Every run is covered -/

variable {α : Type} {expand : Expander} {id : Nat} {s s' : RenderState}

/-- What reads leaves the document as it is. -/
theorem Reads.gives {E : Fault → Prop} {p : Render α} {Q : α → Prop} {a : α} (hp : Reads E p Q)
    (hrun : p s = .ok a s') : Gives id p s a s' where
  run := hrun
  documents_eq := by
    obtain ⟨-, hdocuments⟩ := hp.of_ok s a s' hrun
    rw [hdocuments]

/-- An expression that leaves the document alone gives its value. -/
theorem gives_evalEmbedded {x : Embedded} {taken : Nat} {v : Value}
    (hx : x.LeavesAlone expand (some id) { s with room := s.room - taken })
    (hrun : takingRoom taken (evalEmbedded expand x) s = .ok v s') :
    Gives id (takingRoom taken (evalEmbedded expand x)) s v s' where
  run := hrun
  documents_eq := by
    obtain ⟨t, heval, rfl⟩ := takingRoom_eq_ok.1 hrun
    exact hx.of_ok v t heval id rfl

theorem exists_writesAttribute {name : Text} {v : Value}
    (hrun : writeAttribute id (some name) v s = .ok () s') :
    ∃ value, WritesAttribute id name v s value s' := by
  obtain ⟨_, s₁, hbegin, hrest⟩ := bind_eq_ok.1 hrun
  obtain ⟨value, s₂, hshown, hend⟩ := bind_eq_ok.1 hrest
  obtain ⟨d, _, hd, ⟨⟩, rfl⟩ := changeDocument_eq_ok.1 hbegin
  obtain rfl := unchanging_display v _ value s₂ hshown
  obtain ⟨hid, -⟩ := List.getElem?_eq_some_iff.1 hd
  obtain ⟨d₁, _, hd₁, ⟨⟩, rfl⟩ := changeDocument_eq_ok.1 hend
  rw [getElem?_put hid] at hd₁
  cases hd₁
  rw [put_put]
  exact ⟨value, .intro hd hshown⟩

theorem exists_writesPair {item : Value} (hrun : writePair id item s = .ok () s') :
    ∃ a, WritesPair id item s a s' := by
  obtain ⟨⟨key, v⟩, s₁, hhalves, hrest⟩ := bind_eq_ok.1 hrun
  obtain ⟨name, s₂, hshown, hattribute⟩ := bind_eq_ok.1 hrest
  obtain rfl := unchanging_display key s₁ name s₂ hshown
  obtain ⟨_, s₃, hwrite, hcheck⟩ := bind_eq_ok.1 hattribute
  obtain ⟨value, hwritten⟩ := exists_writesAttribute hwrite
  -- the name is looked at when the attribute has been written
  split at hcheck
  · cases hcheck
  next hname =>
    cases hcheck
    rw [Bool.not_eq_true, Bool.not_eq_eq_eq_not, Bool.not_false] at hname
    have hgives : Gives id (unpackPair item) s (key, v) s₂ := (reads_unpackPair item).gives hhalves
    exact ⟨(name, value), .intro hgives hshown hname hwritten⟩

theorem exists_writesPairs {items : List Value}
    (hrun : forItems (writePair id) items s = .ok () s') : ∃ as, WritesPairs id items s as s' := by
  induction items generalizing s with
  | nil =>
    cases hrun
    exact ⟨[], .nil⟩
  | cons item rest ih =>
    obtain ⟨_, s₁, hitem, hrest⟩ := bind_eq_ok.1 hrun
    obtain ⟨a, ha⟩ := exists_writesPair hitem
    obtain ⟨as, has⟩ := ih hrest
    exact ⟨a :: as, .cons ha has⟩

theorem exists_drainsPairs {iterator rounds : Nat}
    (hrun : drain iterator (writePair id) rounds s = .ok () s') :
    ∃ as, DrainsPairs id iterator rounds s as s' := by
  induction rounds generalizing s with
  | zero =>
    cases hrun
    exact ⟨[], .done⟩
  | succ rounds ih =>
    obtain ⟨item?, s₁, hnext, hrest⟩ := bind_eq_ok.1 hrun
    have hgives : Gives id (next? iterator) s item? s₁ := (reads_next? iterator).gives hnext
    cases item? with
    | none =>
      cases hrest
      exact ⟨[], .stop hgives⟩
    | some item =>
      obtain ⟨_, s₂, hitem, hrest⟩ := bind_eq_ok.1 hrest
      obtain ⟨a, ha⟩ := exists_writesPair hitem
      obtain ⟨as, has⟩ := ih hrest
      exact ⟨a :: as, .more hgives ha has⟩

/-- A fill that is written consists of pairs. -/
theorem exists_writesFill {v : Value} (hrun : writeAttributes id v s = .ok () s') :
    ∃ as, WritesFill id v s as s' := by
  rw [writeAttributes.eq_def] at hrun
  split at hrun
  next es => exact exists_writesPairs hrun
  next _ hv =>
    simp only [WritesFill.eq_2 id v s _ s' hv]
    cases hsource : v.iteration? with
    | none =>
      rw [hsource] at hrun
      cases hrun
    | some source =>
      rw [hsource] at hrun
      cases source with
      | items vs => exact exists_writesPairs hrun
      | range first step count =>
        -- a number is no pair
        cases count with
        | zero =>
          cases hrun
          exact ⟨[], rfl, rfl, rfl⟩
        | succ count =>
          obtain ⟨_, s₁, hitem, -⟩ := bind_eq_ok.1 hrun
          cases hitem
      | shared iterator =>
        have hleft : left iterator s =
          .ok (s.store.iterators[iterator]?.getD []).length s := rfl
        exact exists_drainsPairs ((bind_of_ok hleft _).symm.trans hrun)

/-- An attribute or fill that is written, while its expression leaves the document alone. -/
theorem exists_writesItem {item : AttributeItem}
    (hx : ∀ x s₁, AttributeItem.ComesTo expand id [item] s x s₁ →
      x.LeavesAlone expand (some id) s₁)
    (hrun : writeItems expand id [item] s = .ok () s') :
    ∃ as, WritesItem expand id item s as s' := by
  cases item with
  | named name value =>
    obtain ⟨_, s₁, hnamed, hnothing⟩ := bind_eq_ok.1 hrun
    cases hnothing
    cases value with
    | literal value => exact ⟨[(name, value)], .literal hnamed⟩
    | expression x =>
      obtain ⟨v, s₁, heval, hcall⟩ := bind_eq_ok.1 hnamed
      have hgives := gives_evalEmbedded (hx x _ .named) heval
      cases hname : isName name with
      | true =>
        have hwrite : writeAttribute id (some name) v s₁ = .ok () s' := by
          rw [← hcall, ← discard_bind_pure (writeAttribute id (some name) v) Value.none]
          show _ = discard (nameOf (.str none name) >>= _) s₁
          rw [nameOf_of_isName none hname, pure_bind]
        obtain ⟨value, hwritten⟩ := exists_writesAttribute hwrite
        exact ⟨[(name, value)], .expression hname hgives hwritten⟩
      | false =>
        -- the call looks at the name before anything else
        have hfaulty : nameOf (.str none name) s₁ =
            .error (.violation (.invalidName name)) s₁ := by
          rw [nameOf, if_neg (Bool.eq_false_iff.1 hname)]
          rfl
        have hrefused := discard_of_error
          (bind_of_error hfaulty fun n => do writeAttribute id n v; return Value.none)
        cases hrefused.symm.trans hcall
  | fill x =>
    obtain ⟨v, s₁, heval, hrest⟩ := bind_eq_ok.1 hrun
    obtain ⟨_, s₂, hfill, hnothing⟩ := bind_eq_ok.1 hrest
    cases hnothing
    obtain ⟨as, has⟩ := exists_writesFill hfill
    exact ⟨as, .fill (gives_evalEmbedded (hx x _ .fill) heval) has⟩

theorem exists_writesItems {items : List AttributeItem}
    (hx : ∀ x s₁, AttributeItem.ComesTo expand id items s x s₁ →
      x.LeavesAlone expand (some id) s₁)
    (hrun : writeItems expand id items s = .ok () s') :
    ∃ as, WritesItems expand id items s as s' := by
  induction items generalizing s with
  | nil =>
    cases hrun
    exact ⟨[], .nil⟩
  | cons item rest ih =>
    rw [writeItems_cons] at hrun
    obtain ⟨_, s₁, hitem, hrest⟩ := bind_eq_ok.1 hrun
    have hfirst : ∀ x s₂, AttributeItem.ComesTo expand id [item] s x s₂ →
        x.LeavesAlone expand (some id) s₂ := by
      intro x s₂ h
      cases h with
      | named => exact hx x _ .named
      | fill => exact hx x _ .fill
      | later first others => cases others
    obtain ⟨as, has⟩ := exists_writesItem hfirst hitem
    obtain ⟨bs, hbs⟩ := ih (fun x s₂ h => hx x s₂ (.later hitem h)) hrest
    exact ⟨as ++ bs, .cons has hbs⟩

/-- What comes after the beginning of a start tag starts where that has led. -/
theorem startTag_of_begins {name : Text} {s₁ : RenderState} (h : BeginsTag id name s s₁)
    (rest : Render α) :
    (do
      checkRoom name
      changeDocument id (·.beginTag name)
      rest) s = rest s₁ := by
  rw [← bind_assoc (checkRoom name), bind_of_ok h]

theorem begins_of_startTag {name : Text} {rest : Render α} {a : α}
    (hrun : (do
      checkRoom name
      changeDocument id (·.beginTag name)
      rest) s = .ok a s') : ∃ s₁, BeginsTag id name s s₁ ∧ rest s₁ = .ok a s' := by
  rw [← bind_assoc (checkRoom name)] at hrun
  obtain ⟨_, s₁, hbegun, hrest⟩ := bind_eq_ok.1 hrun
  exact ⟨s₁, hbegun, hrest⟩

/-- To look up a name leaves every document alone. -/
theorem leavesAlone_of_isLookup {x : Embedded} {target : Option Nat}
    (hlookup : x.code.isLookup = true) :
    x.LeavesAlone expand target s := by
  have hreads : Reads (·.isViolation = false) (evalEmbedded expand x) fun _ => True :=
    reads_of_isLookup hlookup
  constructor
  · intro v s' hrun id _
    obtain ⟨-, hdocuments⟩ := hreads.of_ok s v s' hrun
    rw [hdocuments]
  · intro e s' hrun id _
    obtain ⟨-, hdocuments⟩ := hreads.of_error s e s' hrun
    rw [hdocuments]

/-- An element is begun in a document. -/
theorem BeginsTag.exists_document {name : Text} (h : BeginsTag id name s s') :
    ∃ d, s.store.documents[id]? = some d := by
  obtain ⟨_, s₁, hroom, hchange⟩ := bind_eq_ok.1 h
  obtain rfl := unchanging_checkRoom name s _ s₁ hroom
  obtain ⟨d, -, hd, -⟩ := changeDocument_eq_ok.1 hchange
  exact ⟨d, hd⟩

mutual

/-- An element without continuations that is written, while each expression that comes to be
evaluated leaves the document alone, is written as some tree. -/
theorem exists_writesElement : ∀ (e : Element) {s s' : RenderState}, e.isPlain = true →
    (∀ x s₁, e.ComesTo expand id s x s₁ → x.LeavesAlone expand (some id) s₁) →
    writeElement expand id e s = .ok () s' → ∃ m, WritesElement expand id e s m s'
  | .empty name items, s, s', _, hx, hrun => by
    rw [writeElement] at hrun
    obtain ⟨s₁, hbegun, hrest⟩ := begins_of_startTag hrun
    obtain ⟨_, s₂, hitems, hended⟩ := bind_eq_ok.1 hrest
    obtain ⟨as, has⟩ := exists_writesItems (fun x t h => hx x t (.attributes hbegun h)) hitems
    exact ⟨_, .empty hbegun has hended⟩
  | .node name items children, s, s', hplain, hx, hrun => by
    rw [writeElement] at hrun
    obtain ⟨s₁, hbegun, hrest⟩ := begins_of_startTag hrun
    obtain ⟨_, s₂, hitems, hrest⟩ := bind_eq_ok.1 hrest
    obtain ⟨_, s₃, hentered, hrest⟩ := bind_eq_ok.1 hrest
    obtain ⟨_, s₄, hchildren, hleft⟩ := bind_eq_ok.1 hrest
    obtain ⟨as, has⟩ := exists_writesItems (fun x t h => hx x t (.attributes hbegun h)) hitems
    obtain ⟨ks, hks⟩ := exists_writesChildren children hplain
      (fun x t h => hx x t (.content hbegun hitems hentered h)) hchildren
    exact ⟨_, .node hbegun has hentered hks hleft⟩

theorem exists_writesChild : ∀ (c : Child) {s s' : RenderState}, c.isPlain = true →
    (∀ x s₁, c.ComesTo expand id s x s₁ → x.LeavesAlone expand (some id) s₁) →
    writeChild expand id c s = .ok () s' → ∃ k, WritesChild expand id c s k s'
  | .text value, _, _, _, _, hrun => by
    rw [writeChild] at hrun
    exact ⟨.text value, .text hrun⟩
  | .expression x, s, s', _, hx, hrun => by
    rw [writeChild] at hrun
    obtain ⟨v, s₁, heval, hcall⟩ := bind_eq_ok.1 hrun
    obtain ⟨t, hcall', rfl⟩ := takingRoom_eq_ok.1 hcall
    have hcut : callDocument .addText id [v] =
        (display v >>= fun value => changeDocument id fun d => .ok (d.addText value)) >>=
          fun _ => pure .none := (bind_assoc ..).symm
    rw [hcut, discard_bind_pure] at hcall'
    obtain ⟨value, t', hdisplay, hchange⟩ := bind_eq_ok.1 hcall'
    obtain rfl := unchanging_display v _ value t' hdisplay
    obtain ⟨d, _, hd, ⟨⟩, rfl⟩ := changeDocument_eq_ok.1 hchange
    have hshown : takingRoom textRoom (display v) s₁ = .ok value s₁ :=
      takingRoom_eq_ok.2 ⟨_, hdisplay, rfl⟩
    have hadded : changeDocument id (fun d => .ok (d.addText value)) s₁ =
        .ok () (s₁.put id (d.addText value)) := changeDocument_eq_ok.2 ⟨d, _, hd, rfl, rfl⟩
    exact ⟨.text value, .expression (gives_evalEmbedded (hx x _ .expression) heval) hshown hadded⟩
  | .element e, s, s', hplain, hx, hrun => by
    rw [writeChild] at hrun
    obtain ⟨t, hrun', rfl⟩ := takingRoom_eq_ok.1 hrun
    obtain ⟨m, hm⟩ := exists_writesElement e hplain (fun x t h => hx x t (.element h)) hrun'
    exact ⟨.markup m, .element hm⟩
  | .continuation _, _, _, hplain, _, _ => nomatch hplain

theorem exists_writesChildren : ∀ (cs : List Child) {s s' : RenderState},
    Child.arePlain cs = true →
    (∀ x s₁, Child.AnyComesTo expand id cs s x s₁ → x.LeavesAlone expand (some id) s₁) →
    writeChildren expand id cs s = .ok () s' → ∃ ks, WritesChildren expand id cs s ks s'
  | [], _, _, _, _, hrun => by
    cases hrun
    exact ⟨[], .nil⟩
  | c :: rest, s, s', hplain, hx, hrun => by
    rw [Child.arePlain, Bool.and_eq_true] at hplain
    rw [writeChildren] at hrun
    obtain ⟨_, s₁, hfirst, hrest⟩ := bind_eq_ok.1 hrun
    obtain ⟨k, hk⟩ := exists_writesChild c hplain.1 (fun x t h => hx x t (.here h)) hfirst
    obtain ⟨ks, hks⟩ := exists_writesChildren rest hplain.2
      (fun x t h => hx x t (.later hfirst h)) hrest
    exact ⟨k :: ks, .cons hk hks⟩

end

/-! ## What has been added -/

/-- The document of the given number has the shape and the text. -/
def Stands (id : Nat) (s : RenderState) (σ : Document.Shape) (w : Text) : Prop :=
  ∃ d, s.store.documents[id]? = some d ∧ d.shape = σ ∧ d.text = w

/-- The document of the given number has the shape and the text, and it is settled. -/
def Rests (id : Nat) (s : RenderState) (σ : Document.Shape) (w : Text) : Prop :=
  ∃ d, s.store.documents[id]? = some d ∧ d.shape = σ ∧ d.text = w ∧ d.Settled

variable {σ : Document.Shape} {w : Text}

theorem Rests.stands (h : Rests id s σ w) : Stands id s σ w := by
  obtain ⟨d, hd, hσ, ht, -⟩ := h
  exact ⟨d, hd, hσ, ht⟩

/-- The room is not part of a document. -/
theorem Stands.withRoom (h : Stands id s σ w) (room : Nat) : Stands id { s with room } σ w := h

theorem Stands.addNothing (h : Stands id s σ w) : Stands id s σ (w ++ printAttributes []) := by
  rw [printAttributes, List.flatMap_nil, List.append_nil]
  exact h

theorem Gives.stands {p : Render α} {a : α} (h : Gives id p s a s') (hs : Stands id s σ w) :
    Stands id s' σ w := by
  obtain ⟨d, hd, hσ, ht⟩ := hs
  exact ⟨d, h.documents_eq.trans hd, hσ, ht⟩

theorem Gives.rests {p : Render α} {a : α} (h : Gives id p s a s') (hs : Rests id s σ w) :
    Rests id s' σ w := by
  obtain ⟨d, hd, hσ, ht⟩ := hs
  exact ⟨d, h.documents_eq.trans hd, hσ, ht⟩

theorem WritesAttribute.stands {name value : Text} {v : Value}
    (h : WritesAttribute id name v s value s') (hs : Stands id s σ w) :
    Stands id s' σ (w ++ Document.attributeText name value) := by
  obtain ⟨found, -⟩ := h
  rename_i d
  obtain ⟨d', hd', rfl, rfl⟩ := hs
  rw [found] at hd'
  cases hd'
  obtain ⟨hid, -⟩ := List.getElem?_eq_some_iff.1 found
  exact ⟨_, getElem?_put hid _, Document.shape_writeAttribute .., Document.text_writeAttribute ..⟩

theorem WritesPair.stands {item : Value} {a : Text × Text} (h : WritesPair id item s a s')
    (hs : Stands id s σ w) : Stands id s' σ (w ++ Document.attributeText a.1 a.2) := by
  cases h with
  | intro halves shown isName written => exact written.stands (halves.stands hs)

theorem WritesPairs.stands {items : List Value} {as : List (Text × Text)}
    (h : WritesPairs id items s as s') (hs : Stands id s σ w) :
    Stands id s' σ (w ++ printAttributes as) := by
  induction h generalizing w with
  | nil => exact hs.addNothing
  | cons head tail ih =>
    have hrest := ih (head.stands hs)
    rw [List.append_assoc] at hrest
    exact hrest

theorem DrainsPairs.stands {iterator rounds : Nat} {as : List (Text × Text)}
    (h : DrainsPairs id iterator rounds s as s') (hs : Stands id s σ w) :
    Stands id s' σ (w ++ printAttributes as) := by
  induction h generalizing w with
  | done => exact hs.addNothing
  | stop none => exact (none.stands hs).addNothing
  | more next head tail ih =>
    have hrest := ih (head.stands (next.stands hs))
    rw [List.append_assoc] at hrest
    exact hrest

theorem WritesFill.stands {v : Value} {as : List (Text × Text)} (h : WritesFill id v s as s')
    (hs : Stands id s σ w) : Stands id s' σ (w ++ printAttributes as) := by
  rw [WritesFill.eq_def] at h
  split at h
  · exact WritesPairs.stands h hs
  · split at h
    · exact WritesPairs.stands h hs
    · obtain ⟨-, rfl, rfl⟩ := h
      exact hs.addNothing
    · exact DrainsPairs.stands h hs
    · exact h.elim

/-- A change of the document that has the shape and the text. -/
theorem Stands.changed {f : Document → Except Violation Document} {u : Unit}
    (hs : Stands id s σ w) (hrun : changeDocument id f s = .ok u s') :
    ∃ d e, d.shape = σ ∧ d.text = w ∧ f d = .ok e ∧ s'.store.documents[id]? = some e := by
  obtain ⟨d, hd, hσ, ht⟩ := hs
  obtain ⟨d', e, hd', he, rfl⟩ := changeDocument_eq_ok.1 hrun
  rw [hd] at hd'
  cases hd'
  obtain ⟨hid, -⟩ := List.getElem?_eq_some_iff.1 hd
  exact ⟨d, e, hσ, ht, he, getElem?_put hid e⟩

theorem WritesItem.stands {item : AttributeItem} {as : List (Text × Text)}
    (h : WritesItem expand id item s as s') (hs : Stands id s σ w) :
    Stands id s' σ (w ++ printAttributes as) := by
  have hone : ∀ a : Text × Text, printAttributes [a] = Document.attributeText a.1 a.2 :=
    fun a => List.append_nil _
  cases h with
  | literal added =>
    rw [hone]
    obtain ⟨d, e, rfl, rfl, he, hd⟩ := hs.changed added
    rw [Document.addAttribute] at he
    split at he
    · cases he
      exact ⟨_, hd, Document.shape_writeAttribute .., Document.text_writeAttribute ..⟩
    · cases he
  | expression isName eval written =>
    rw [hone]
    exact written.stands (eval.stands hs)
  | fill eval written => exact written.stands (eval.stands hs)

/-- The attributes and fills of a start tag add what they are written as. -/
theorem WritesItems.stands {items : List AttributeItem} {as : List (Text × Text)}
    (h : WritesItems expand id items s as s') (hs : Stands id s σ w) :
    Stands id s' σ (w ++ printAttributes as) := by
  induction h generalizing w with
  | nil => exact hs.addNothing
  | cons head tail ih =>
    have hrest := ih (head.stands hs)
    rw [List.append_assoc] at hrest
    rw [printAttributes, List.flatMap_append]
    exact hrest

theorem BeginsTag.stands {name : Text} (h : BeginsTag id name s s') (hs : Stands id s σ w) :
    Stands id s' σ (w ++ '<' :: name) := by
  obtain ⟨_, s₁, hroom, hchange⟩ := bind_eq_ok.1 h
  obtain rfl := unchanging_checkRoom name s _ s₁ hroom
  obtain ⟨d, e, rfl, rfl, he, hd⟩ := hs.changed hchange
  rw [Document.beginTag] at he
  split at he
  · cases he
    exact ⟨_, hd, Document.shape_openTag .., Document.text_openTag ..⟩
  · cases he

/-- A start tag that is completed. -/
theorem rests_entered {u : Unit}
    (h : changeDocument id (fun d => .ok d.enterContent) s = .ok u s') (hs : Stands id s σ w) :
    Rests id s' σ.inner (w ++ '>' :: σ.layout.lineBreak (σ.depth + 1)) := by
  obtain ⟨d, _, rfl, rfl, ⟨⟩, hd⟩ := hs.changed h
  exact ⟨_, hd, d.shape_enterContent, d.text_enterContent, d.settled_enterContent⟩

/-- A start tag that ends as the tag of an empty element. -/
theorem rests_endEmptyTag {u : Unit}
    (h : changeDocument id (fun d => .ok d.endEmptyTag) s = .ok u s') (hs : Stands id s σ w) :
    Rests id s' σ (w ++ (σ.layout.emptyEnd ++ σ.layout.lineBreak σ.depth)) := by
  obtain ⟨d, _, rfl, rfl, ⟨⟩, hd⟩ := hs.changed h
  refine ⟨_, hd, d.shape_endEmptyTag, ?_, d.settled_endEmptyTag⟩
  rw [Document.text_endEmptyTag, List.append_assoc]
  rfl

theorem rests_addText {value : Text} {u : Unit}
    (h : changeDocument id (fun d => .ok (d.addText value)) s = .ok u s') (hs : Rests id s σ w) :
    Rests id s' σ
      (w ++ ((Content.text value).item σ.layout σ.depth ++ σ.layout.lineBreak σ.depth)) := by
  obtain ⟨d, _, rfl, rfl, ⟨⟩, hd⟩ := hs.stands.changed h
  refine ⟨_, hd, d.shape_addText value, ?_, d.settled_addText value⟩
  rw [Document.text_addText, List.append_assoc]
  rfl

/-- The content of an element as it stands when more of it can follow. -/
theorem startTag_contentText (w : Text) (layout : Layout) (depth : Nat) (ks : List Content) :
    w ++ '>' :: layout.lineBreak (depth + 1) ++ contentText layout (depth + 1) ks =
      w ++ '>' :: Content.lines layout depth ks ++ layout.lineBreak (depth + 1) := by
  rw [List.append_assoc, List.cons_append, lineBreak_contentText, List.append_assoc,
    List.cons_append]

/-- An end tag after a text with the line break that more of the content would need. -/
theorem rests_left {name : Text} {u : Unit}
    (h : leaveElement id (·.endElement name) s = .ok u s')
    (hs : Rests id s σ.inner (w ++ σ.layout.lineBreak (σ.depth + 1))) :
    Rests id s' σ (w ++ σ.layout.lineBreak σ.depth ++ '<' :: '/' :: name ++ ['>'] ++
      σ.layout.lineBreak σ.depth) := by
  obtain ⟨d, hd, hσ, ht, hsettled⟩ := hs
  obtain ⟨hid, -⟩ := List.getElem?_eq_some_iff.1 hd
  have hlayout : d.layout = σ.layout := congrArg Document.Shape.layout hσ
  have hdepth : d.depth = σ.depth + 1 := congrArg Document.Shape.depth hσ
  rw [← put_of_getElem? hd, leaveElement_put hid hsettled.isSome_latest] at h
  obtain ⟨d', e, hd', he, rfl⟩ := changeDocument_eq_ok.1 h
  rw [getElem?_put hid] at hd'
  cases hd'
  have hname : isName name = true := by
    rw [Document.endElement] at he
    split at he
    next hname => exact hname
    next => cases he
  rw [← hlayout] at ht
  obtain ⟨e', he', hshape, htext, hrests⟩ :=
    Document.endElement_of_settled hname hsettled hdepth ht
  rw [he] at he'
  cases he'
  rw [put_put]
  refine ⟨e, getElem?_put hid e, ?_, ?_, hrests⟩
  · rw [hshape, hσ]
    rfl
  · rw [htext, hlayout]

mutual

/-- What is written as a tree adds the print of the tree to the document, and settles it. -/
theorem WritesElement.rests : ∀ {e : Element} {s s' : RenderState} {m : Markup}
    {σ : Document.Shape} {w : Text}, WritesElement expand id e s m s' → Stands id s σ w →
      Rests id s' σ (w ++ m.print σ.layout σ.depth)
  | .empty _ _, _, _, _, σ, _, .empty begun tag ended, hs => by
    have hended := rests_endEmptyTag ended (tag.stands (begun.stands hs))
    simpa [Markup.print, Markup.body] using hended
  | .node _ _ _, _, _, _, σ, _, .node begun tag entered content left, hs => by
    have hcontent := content.rests (rests_entered entered (tag.stands (begun.stands hs)))
    have hlines := (startTag_contentText _ σ.layout σ.depth _) ▸ hcontent
    have hleft := rests_left left hlines
    simpa [Markup.print, Markup.body] using hleft

theorem WritesChild.rests : ∀ {c : Child} {s s' : RenderState} {k : Content}
    {σ : Document.Shape} {w : Text}, WritesChild expand id c s k s' → Rests id s σ w →
      Rests id s' σ (w ++ (k.item σ.layout σ.depth ++ σ.layout.lineBreak σ.depth))
  | .text _, _, _, _, _, _, .text added, hs => rests_addText added hs
  | .expression _, _, _, _, _, _, .expression eval _ added, hs =>
    rests_addText added (eval.rests hs)
  | .element _, _, _, _, _, _, .element inside, hs => inside.rests hs.stands

theorem WritesChildren.rests : ∀ {cs : List Child} {s s' : RenderState} {ks : List Content}
    {σ : Document.Shape} {w : Text}, WritesChildren expand id cs s ks s' → Rests id s σ w →
      Rests id s' σ (w ++ contentText σ.layout σ.depth ks)
  | [], _, _, _, _, _, .nil, hs => by
    rw [contentText, List.append_nil]
    exact hs
  | _ :: _, _, _, _, _, _, .cons head tail, hs => by
    have hrest := tail.rests (head.rests hs)
    rw [List.append_assoc] at hrest
    exact hrest

end

end Render

end XmlTemplate
