import XmlTemplate.Proofs.Render.Bypasses
import XmlTemplate.Proofs.Render.Calls
import XmlTemplate.Proofs.Render.Written

/-!
# A batch of attributes

`addAttributes` goes through items, writes each of them as an attribute and stops at the first one
that it refuses. An item is refused in four ways (`RefusesPair`): it is no pair, its name cannot be
shown, its value cannot be shown, or what has been written for its name is no name. In the last two
ways something of the item has been written by then, since a name is only looked at when its
attribute is complete.

The items of an iterator are taken one by one, and writing one takes no other. So it makes no
difference for what is written whether they are taken one by one or all at once, and what comes
after a refused item is left to the iterator (`addAttributes_ends`).
-/

set_option autoImplicit false

namespace XmlTemplate

open Render

/-- The items of a batch: those of a sequence, the entries of a dictionary, or what an iterator has
still to give. -/
def Value.batch? (s : RenderState) : Value → Option (List Value)
  | .dict _ es | .entries es => some (pairs es)
  | .list _ vs | .tuple _ vs => some vs
  | .iterator i => s.store.iterators[i]?
  | _ => .none

/-- The state in which the value, if it is an iterator, has the given values still to give. -/
def RenderState.leaving (s : RenderState) (v : Value) (rest : List Value) : RenderState :=
  match v with
  | .iterator i => s.leave i rest
  | _ => s

namespace Render

/-- The call of `addAttribute` for a pair, with the text of its name and its value. -/
def callPair (id : Nat) (pair : Value) : Render Unit := do
  let (n, v) ← unpackPair pair
  let name ← display n
  discard <| callDocument .addAttribute id [.str none name, v]

/-! ## Going through items -/

section

variable {body : Value → Render Unit} {s s₁ s' : RenderState} {e : Fault}

/-- The body ends well on all items, or there is a first one on which it fails. -/
theorem forItems_cases (body : Value → Render Unit) (items : List Value) (s : RenderState) :
    (∃ s', forItems body items s = .ok () s') ∨
      ∃ before item after s₁ e s', items = before ++ item :: after ∧
        forItems body before s = .ok () s₁ ∧ body item s₁ = .error e s' := by
  induction items generalizing s with
  | nil => exact .inl ⟨s, rfl⟩
  | cons item rest ih =>
    cases hitem : body item s with
    | error e s' => exact .inr ⟨[], item, rest, s, e, s', rfl, rfl, hitem⟩
    | ok u t =>
      rcases ih t with ⟨s', hrest⟩ | ⟨before, next, after, s₁, e, s', rfl, hbefore, hnext⟩
      · exact .inl ⟨s', (bind_of_ok hitem _).trans hrest⟩
      · exact .inr ⟨item :: before, next, after, s₁, e, s', rfl,
          (bind_of_ok hitem _).trans hbefore, hnext⟩

theorem forItems_stops {before : List Value} {item : Value} (after : List Value)
    (hbefore : forItems body before s = .ok () s₁) (hitem : body item s₁ = .error e s') :
    forItems body (before ++ item :: after) s = .error e s' := by
  induction before generalizing s with
  | nil =>
    cases hbefore
    exact bind_of_error hitem _
  | cons first before ih =>
    obtain ⟨_, t, hfirst, hrest⟩ := bind_eq_ok.1 hbefore
    exact (bind_of_ok hfirst _).trans (ih hrest)

theorem bypasses_forItems {i : Nat} {items : List Value}
    (hbody : ∀ item ∈ items, Bypasses i (body item)) : Bypasses i (forItems body items) := by
  induction items with
  | nil => exact .pure ()
  | cons item rest ih =>
    obtain ⟨hitem, hrest⟩ := List.forall_mem_cons.1 hbody
    exact hitem.bind fun _ => ih hrest

end

/-! ## Pairs that are written -/

variable {id : Nat} {s s₁ s' : RenderState}

/-- The attribute has been begun when its value is shown. -/
theorem writeAttribute_eq {d : Document} (found : s.store.documents[id]? = some d) (name : Text)
    (v : Value) :
    writeAttribute id (some name) v s =
      (display v >>= fun value => changeDocument id fun d => .ok (d.endAttribute value))
        (s.put id (d.beginAttribute (some name))) := by
  have hbegin : changeDocument id (fun d => .ok (d.beginAttribute (some name))) s =
      .ok () (s.put id (d.beginAttribute (some name))) :=
    changeDocument_eq_ok.2 ⟨d, _, found, rfl, rfl⟩
  exact bind_of_ok hbegin _

/-- An attribute that has been begun is completed with the text of its value. -/
theorem endAttribute_begun {d : Document} (found : s.store.documents[id]? = some d)
    (name value : Text) :
    changeDocument id (fun d => .ok (d.endAttribute value))
        (s.put id (d.beginAttribute (some name))) =
      .ok () (s.put id (d.writeAttribute name value)) :=
  changeDocument_put_of_ok (List.getElem?_eq_some_iff.1 found).1 rfl

theorem WritesAttribute.run {name value : Text} {v : Value}
    (h : WritesAttribute id name v s value s') :
    writeAttribute id (some name) v s = .ok () s' := by
  cases h with
  | intro found shown =>
    rw [writeAttribute_eq found]
    exact (bind_of_ok shown _).trans (endAttribute_begun found name value)

/-- A pair is written as by a call for it. -/
theorem WritesPair.call {item : Value} {a : Text × Text} (h : WritesPair id item s a s') :
    callPair id item s = .ok () s' := by
  cases h with
  | @intro key v name value _ s₁ _ halves shown hname written =>
    have hcall : discard (callDocument .addAttribute id [.str none name, v]) s₁ = .ok () s' := by
      rw [← written.run, ← discard_bind_pure (writeAttribute id (some name) v) Value.none]
      show discard (nameOf (.str none name) >>= _) s₁ = _
      rw [nameOf_of_isName none hname, pure_bind]
    exact (bind_of_ok halves.run _).trans ((bind_of_ok shown _).trans hcall)

theorem WritesPairs.calls {items : List Value} {as : List (Text × Text)}
    (h : WritesPairs id items s as s') : forItems (callPair id) items s = .ok () s' := by
  induction h with
  | nil => rfl
  | cons head _ ih => exact (bind_of_ok head.call _).trans ih

/-! ## Items that are refused -/

/-- An item of a batch is refused, with a fault and with what of it has been written. -/
inductive RefusesPair (id : Nat) (item : Value) :
    RenderState → Fault → (added : Text) → RenderState → Prop
  /-- The item is no pair: it has no items, or not two. -/
  | noPair {fault : Fault} {s s' : RenderState}
      (kind : fault = .unsuitable ∨ ∃ b, fault = .badValue b)
      (halves : unpackPair item s = .error fault s') : RefusesPair id item s fault [] s'
  /-- The first half cannot be shown. -/
  | name {fault : Fault} {key v : Value} {s s₁ s' : RenderState}
      (halves : Gives id (unpackPair item) s (key, v) s₁)
      (shown : display key s₁ = .error fault s') : RefusesPair id item s fault [] s'
  /-- The second half cannot be shown, for which the attribute has been begun. -/
  | value {fault : Fault} {key v : Value} {name : Text} {d : Document} {s s₁ s' : RenderState}
      (halves : Gives id (unpackPair item) s (key, v) s₁) (shown : display key s₁ = .ok name s₁)
      (found : s₁.store.documents[id]? = some d)
      (unshown : display v (s₁.put id (d.beginAttribute (some name))) = .error fault s') :
      RefusesPair id item s fault (' ' :: name ++ ['=', '"']) s'
  /-- The attribute has been written, but its name is none. -/
  | noName {key v : Value} {name value : Text} {s s₁ s' : RenderState}
      (halves : Gives id (unpackPair item) s (key, v) s₁) (shown : display key s₁ = .ok name s₁)
      (notName : isName name = false) (written : WritesAttribute id name v s₁ value s') :
      RefusesPair id item s (.invalidName name) (Document.attributeText name value) s'

theorem takeItems_succeeds (source : Iteration) (count : Nat) (s : RenderState) :
    ∃ vs s', takeItems source count s = .ok vs s' := by
  induction count generalizing s with
  | zero => exact ⟨[], s, rfl⟩
  | succ count ih =>
    cases source with
    | items vs => exact ⟨_, s, rfl⟩
    | range first step n => exact ⟨_, s, rfl⟩
    | shared i =>
      rcases next?_cases i s with ⟨v, rest, hs⟩ | hs
      · obtain ⟨vs, s', hvs⟩ := ih (s.leave i rest)
        exact ⟨v :: vs, s', (bind_of_ok (next?_of_cons hs) _).trans (bind_of_ok hvs _)⟩
      · exact ⟨[], s, bind_of_ok (next?_of_none hs) _⟩

/-- What is no pair has no items, too few or too many. -/
theorem fault_of_unpackPair {v : Value} {fault : Fault} (h : unpackPair v s = .error fault s') :
    fault = .unsuitable ∨ ∃ b, fault = .badValue b := by
  rw [unpackPair] at h
  cases hsource : v.iteration? with
  | none =>
    rw [hsource] at h
    cases h
    exact .inl rfl
  | some source =>
    obtain ⟨vs, t, hvs⟩ := takeItems_succeeds source 3 s
    rw [hsource] at h
    rcases bind_eq_error.1 h with hno | ⟨us, t', hus, hcount⟩
    · rw [hvs] at hno
      cases hno
    · split at hcount <;> cases hcount <;> exact .inr ⟨_, rfl⟩

/-- An attribute is not completed only if its value cannot be shown. -/
theorem unshown_of_writeAttribute {d : Document} {name : Text} {v : Value} {fault : Fault}
    (found : s.store.documents[id]? = some d)
    (h : writeAttribute id (some name) v s = .error fault s') :
    display v (s.put id (d.beginAttribute (some name))) = .error fault s' := by
  rw [writeAttribute_eq found] at h
  rcases bind_eq_error.1 h with hshown | ⟨value, t, hshown, hend⟩
  · exact hshown
  · obtain rfl := unchanging_display v _ value t hshown
    rw [endAttribute_begun found] at hend
    cases hend

/-- There are no other ways to refuse an item. -/
theorem exists_refusesPair {item : Value} {fault : Fault}
    (hdocument : ∃ d, s.store.documents[id]? = some d)
    (hrun : writePair id item s = .error fault s') :
    ∃ added, RefusesPair id item s fault added s' := by
  rcases bind_eq_error.1 hrun with hhalves | ⟨⟨key, v⟩, s₁, hhalves, hrest⟩
  · exact ⟨[], .noPair (fault_of_unpackPair hhalves) hhalves⟩
  have hgives : Gives id (unpackPair item) s (key, v) s₁ := (reads_unpackPair item).gives hhalves
  rcases bind_eq_error.1 hrest with hunshown | ⟨name, t, hshown, hattribute⟩
  · exact ⟨[], .name hgives hunshown⟩
  obtain rfl := unchanging_display key s₁ name t hshown
  rcases bind_eq_error.1 hattribute with hunwritten | ⟨_, t', hwrite, hcheck⟩
  · obtain ⟨d, hd⟩ := hdocument
    have found := hgives.documents_eq.trans hd
    exact ⟨_, .value hgives hshown found (unshown_of_writeAttribute found hunwritten)⟩
  · obtain ⟨value, hwritten⟩ := exists_writesAttribute hwrite
    split at hcheck
    next hname =>
      cases hcheck
      rw [Bool.not_eq_eq_eq_not, Bool.not_true] at hname
      exact ⟨_, .noName hgives hshown hname hwritten⟩
    next => cases hcheck

/-- What only reads documents leaves them as they are where it fails, too. -/
theorem Stands.of_error {α : Type} {E : Fault → Prop} {p : Render α} {Q : α → Prop} {fault : Fault}
    {σ : Document.Shape} {w : Text} (hs : Stands id s σ w) (hp : Reads E p Q)
    (h : p s = .error fault s') : Stands id s' σ w := by
  obtain ⟨d, hd, hσ, ht⟩ := hs
  obtain ⟨-, hdocuments⟩ := hp.of_error s fault s' h
  exact ⟨d, by rw [hdocuments, hd], hσ, ht⟩

/-- What of a refused item has been written has been added to the document. -/
theorem RefusesPair.stands {item : Value} {fault : Fault} {added : Text} {σ : Document.Shape}
    {w : Text} (h : RefusesPair id item s fault added s') (hs : Stands id s σ w) :
    Stands id s' σ (w ++ added) := by
  cases h with
  | noPair _ halves =>
    rw [List.append_nil]
    exact hs.of_error (reads_unpackPair item) halves
  | name halves shown =>
    rw [List.append_nil]
    exact (halves.stands hs).of_error (reads_display _) shown
  | @value _ key v name d _ s₁ _ halves shown found unshown =>
    obtain ⟨hid, -⟩ := List.getElem?_eq_some_iff.1 found
    obtain ⟨e, he, rfl, rfl⟩ := halves.stands hs
    rw [found] at he
    cases he
    have hbegun : Stands id (s₁.put id (d.beginAttribute (some name))) d.shape
        (d.text ++ (' ' :: name ++ ['=', '"'])) := by
      refine ⟨d.beginAttribute (some name), getElem?_put hid _, rfl, ?_⟩
      rw [Document.text_beginAttribute, Option.getD_some, List.append_assoc]
    exact hbegun.of_error (reads_display v) unshown
  | noName halves shown notName written => exact written.stands (halves.stands hs)

/-! ## The items of a batch -/

section

variable {v : Value} {items : List Value}

/-- The value is no item of itself, which matters for iterators alone. -/
def IsApart (v : Value) (items : List Value) : Prop := ∀ i, v = .iterator i → v ∉ items

theorem bypasses_writePairs (id : Nat) {i : Nat} (hitems : .iterator i ∉ items) :
    ∀ item ∈ items, Bypasses i (writePair id item) := by
  intro item hitem
  refine bypasses_writePair id ?_
  rintro rfl
  exact hitems hitem

theorem left_of_getElem? {i : Nat} (h : s.store.iterators[i]? = some items) :
    left i s = .ok items.length s := by
  show EStateM.Result.ok (s.store.iterators[i]?.getD []).length s = _
  rw [h]
  rfl

/-- Pairs that are written one after the other are written as a batch. -/
theorem writeAttributes_of_all (hv : v.batch? s = some items) (hapart : IsApart v items)
    (hrun : forItems (writePair id) items (s.leaving v []) = .ok () s') :
    writeAttributes id v s = .ok () s' := by
  cases v with
  | dict | entries | list | tuple =>
    cases hv
    exact hrun
  | iterator i =>
    have hgiven : s.store.iterators[i]? = some (items ++ []) := by
      rw [List.append_nil]
      exact hv
    obtain ⟨hdrain, hrest⟩ := drain_append (bypasses_writePairs id (hapart i rfl)) hgiven hrun 0
    refine (bind_of_ok (left_of_getElem? hv) _).trans (hdrain.trans ?_)
    rw [leave_of_getElem? hrest]
    rfl
  | _ => cases hv

/-- A batch stops at the first item that is refused. -/
theorem writeAttributes_of_refused {before after : List Value} {item : Value} {fault : Fault}
    (hv : v.batch? s = some items) (hapart : IsApart v items)
    (hitems : items = before ++ item :: after)
    (hbefore : forItems (writePair id) before (s.leaving v after) = .ok () s₁)
    (hitem : writePair id item s₁ = .error fault s') :
    writeAttributes id v s = .error fault s' := by
  cases v with
  | dict | entries | list | tuple =>
    have hstops := forItems_stops after hbefore hitem
    rw [← hitems] at hstops
    cases hv
    exact hstops
  | iterator i =>
    subst hitems
    have hleft : left i s = .ok (before.length + (after.length + 1)) s := by
      rw [left_of_getElem? hv, List.length_append, List.length_cons]
    have hpast : Value.iterator i ∉ before := fun h => hapart i rfl (List.mem_append_left _ h)
    obtain ⟨hdrain, hrest⟩ :=
      drain_append (bypasses_writePairs id hpast) hv hbefore (after.length + 1)
    -- the item is taken before it is refused
    have hnext : next? i (s₁.leave i (item :: after)) = .ok (some item) s₁ := by
      rw [next?_of_cons (getElem?_leave hrest _), leave_leave, leave_of_getElem? hrest]
    refine (bind_of_ok hleft _).trans (hdrain.trans ?_)
    exact (bind_of_ok hnext _).trans (bind_of_error hitem _)
  | _ => cases hv

/-- All items are written, or there is a first one that is refused; the items after it are left to
an iterator from the start. -/
theorem batch_cases (id : Nat) (hv : v.batch? s = some items) (hapart : IsApart v items) :
    (∃ s', forItems (writePair id) items (s.leaving v []) = .ok () s') ∨
      ∃ before item after s₁ fault s', items = before ++ item :: after ∧
        forItems (writePair id) before (s.leaving v after) = .ok () s₁ ∧
        writePair id item s₁ = .error fault s' := by
  rcases forItems_cases (writePair id) items (s.leaving v []) with
    hall | ⟨before, item, after, s₁, fault, s', rfl, hbefore, hitem⟩
  · exact .inl hall
  refine .inr ?_
  cases v with
  | dict | entries | list | tuple => exact ⟨before, item, after, s₁, fault, s', rfl, hbefore, hitem⟩
  | iterator i =>
    -- the first item that is refused is the same one whatever is left to the iterator
    have hbody := bypasses_writePairs id (hapart i rfl)
    have hfirst : Bypasses i (forItems (writePair id) before) :=
      bypasses_forItems fun x hx => hbody x (List.mem_append_left _ hx)
    have hlast : Bypasses i (writePair id item) := hbody item (by simp)
    refine ⟨before, item, after, s₁.leave i after, fault, s'.leave i after, rfl, ?_, ?_⟩
    · have h := hfirst.of_ok _ _ _ hbefore after
      rwa [RenderState.leaving, leave_leave] at h
    · exact hlast.of_error _ _ _ hitem after
  | _ => cases hv

/-- What has been left to an iterator is still there. -/
theorem left_of_batch {rest : List Value} {i : Nat} {p : Render Unit} (hp : Bypasses i p)
    (hv : (Value.iterator i).batch? s = some items)
    (hend : stateAfter p (s.leaving (.iterator i) rest) = s') :
    s'.store.iterators[i]? = some rest := by
  rw [← hend]
  exact (hp.keeps _).trans (getElem?_leave hv rest)

end

/-! ## The call with a batch -/

/-- How a call with a batch of items ends, and what it has added to the document. Either every item
is a pair that is written, and the call has done what a call for each pair does; or the pairs before
some item are written and the item is refused. The items after it are left to an iterator. -/
inductive BatchEnds (id : Nat) (v : Value) (items : List Value) (s : RenderState) :
    EStateM.Result Fault RenderState Value → (added : Text) → Prop
  | all {as : List (Text × Text)} {s' : RenderState}
      (written : WritesPairs id items (s.leaving v []) as s')
      (calls : forItems (callPair id) items (s.leaving v []) = .ok () s')
      (left : ∀ i, v = .iterator i → s'.store.iterators[i]? = some []) :
      BatchEnds id v items s (.ok .none s') (printAttributes as)
  | refused {before after : List Value} {item : Value} {as : List (Text × Text)} {fault : Fault}
      {added : Text} {s₁ s' : RenderState} (split : items = before ++ item :: after)
      (written : WritesPairs id before (s.leaving v after) as s₁)
      (refused : RefusesPair id item s₁ fault added s')
      (left : ∀ i, v = .iterator i → s'.store.iterators[i]? = some after) :
      BatchEnds id v items s (.error fault s') (printAttributes as ++ added)

theorem Stands.leaving {σ : Document.Shape} {w : Text} (hs : Stands id s σ w) (v : Value)
    (rest : List Value) : Stands id (s.leaving v rest) σ w := by
  cases v <;> exact hs

/-- A call with a batch writes the items up to the first one that is refused, if there is one. The
document keeps its shape, depth included, and its text grows by what has been written. -/
theorem addAttributes_ends {v : Value} {items : List Value} {σ : Document.Shape} {w : Text}
    (hv : v.batch? s = some items) (hapart : IsApart v items) (hs : Stands id s σ w) :
    ∃ added, BatchEnds id v items s (callDocument .addAttributes id [v] s) added ∧
      Stands id (stateAfter (callDocument .addAttributes id [v]) s) σ (w ++ added) := by
  rcases batch_cases id hv hapart with
    ⟨s', hall⟩ | ⟨before, item, after, s₁, fault, s', hitems, hbefore, hitem⟩
  · obtain ⟨as, has⟩ := exists_writesPairs hall
    have hcall : callDocument .addAttributes id [v] s = .ok .none s' :=
      bind_of_ok (writeAttributes_of_all hv hapart hall) _
    refine ⟨printAttributes as, ?_, ?_⟩
    · rw [hcall]
      refine .all has has.calls ?_
      rintro i rfl
      have hbody := bypasses_forItems (bypasses_writePairs id (hapart i rfl))
      exact left_of_batch hbody hv (stateAfter_of_ok hall)
    · rw [stateAfter_of_ok hcall]
      exact has.stands (hs.leaving v [])
  · obtain ⟨as, has⟩ := exists_writesPairs hbefore
    have hstands := has.stands (hs.leaving v after)
    obtain ⟨d, hd, -, -⟩ := hstands
    obtain ⟨added, hrefused⟩ := exists_refusesPair ⟨d, hd⟩ hitem
    have hcall : callDocument .addAttributes id [v] s = .error fault s' :=
      bind_of_error (writeAttributes_of_refused hv hapart hitems hbefore hitem) _
    refine ⟨printAttributes as ++ added, ?_, ?_⟩
    · rw [hcall]
      refine .refused hitems has hrefused ?_
      rintro i rfl
      have hbody := bypasses_writePairs id (hapart i rfl)
      rw [hitems] at hbody
      have hrun : forItems (writePair id) (before ++ [item]) (s.leaving (.iterator i) after) =
          .error fault s' := forItems_stops [] hbefore hitem
      have htaken : ∀ x ∈ before ++ [item], Bypasses i (writePair id x) := by
        intro x hx
        refine hbody x ?_
        rw [List.append_cons]
        exact List.mem_append_left _ hx
      have hpart := bypasses_forItems htaken
      exact left_of_batch hpart hv (stateAfter_of_error hrun)
    · rw [stateAfter_of_error hcall, ← List.append_assoc]
      exact hrefused.stands (has.stands (hs.leaving v after))

/-- An iterator with a pair, a pair whose name is none, and another pair. -/
def batchItems : List Value :=
  [.tuple none [.str none ['a'], .str none ['x']], .tuple none [.str none ['<'], .str none ['y']],
    .tuple none [.str none ['b'], .str none ['z']]]

/-- A document and the iterator. -/
def batchState : RenderState :=
  ⟨⟨[.start .v1_0 none .terse], [batchItems], .empty, 0⟩, [], maxRoom⟩

/-- The pair after the one that is refused is still to be given. -/
theorem addAttributes_ends_iterator :
    ∃ s' added, callDocument .addAttributes 0 [.iterator 0] batchState =
        .error (.invalidName ['<']) s' ∧
      BatchEnds 0 (.iterator 0) batchItems batchState (.error (.invalidName ['<']) s') added ∧
      Stands 0 s' (Document.start .v1_0 none .terse).shape
        ((Document.start .v1_0 none .terse).text ++ added) ∧
      s'.store.iterators[0]? = some [.tuple none [.str none ['b'], .str none ['z']]] := by
  have hs : Stands 0 batchState (Document.start .v1_0 none .terse).shape
      (Document.start .v1_0 none .terse).text := ⟨_, rfl, rfl, rfl⟩
  have hapart : IsApart (.iterator 0) batchItems := by
    rintro i ⟨⟩
    simp [batchItems]
  have hbatch : (Value.iterator 0).batch? batchState = some batchItems := rfl
  obtain ⟨added, hends, hstands⟩ := addAttributes_ends hbatch hapart hs
  exact ⟨_, added, rfl, hends, hstands, rfl⟩

/-- A pair whose name is none is not refused for its name where its value cannot be shown. -/
theorem addAttributes_longNumber :
    unpackPair (uncheckedPair Value.unwritableSize) (.single (.start .v1_0 none .terse) []) =
        .ok (.str none ['<'], .int Value.unwritableSize) (.single (.start .v1_0 none .terse) []) ∧
      display (.str none ['<']) (.single (.start .v1_0 none .terse) []) =
        .ok ['<'] (.single (.start .v1_0 none .terse) []) ∧
      isName ['<'] = false ∧
      ¬∃ s', callDocument .addAttributes 0 [.list none [uncheckedPair Value.unwritableSize]]
        (.single (.start .v1_0 none .terse) []) = .error (.invalidName ['<']) s' := by
  have hlong : Value.unwritableSize ≤ ((Value.unwritableSize : Nat) : Int).natAbs :=
    Nat.le_of_eq (Int.natAbs_natCast Value.unwritableSize).symm
  refine ⟨rfl, rfl, by decide, ?_⟩
  rintro ⟨s', h⟩
  rw [callDocument_uncheckedPair hlong] at h
  cases h

end Render

end XmlTemplate
