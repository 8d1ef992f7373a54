import XmlTemplate.Proofs.Document.Operations
import XmlTemplate.Proofs.Sequence
import XmlTemplate.Render.Template

/-!
# Runs of renderings

What a rendering answers, in terms of what its parts answer: one equation for each way to put
renderings together, once for parts that succeed and once for parts that fail. Documents are read
and changed in a state in which the document of the given number has been put in its place
(`RenderState.put`).
-/

set_option autoImplicit false

namespace XmlTemplate

/-- The state with another document in the place of the given number. -/
def RenderState.put (s : RenderState) (id : Nat) (d : Document) : RenderState :=
  { s with store.documents := s.store.documents.set id d }

/-- A state with one document, a scope and all the room there is. -/
def RenderState.single (d : Document) (scope : Scope) : RenderState :=
  ⟨⟨[d], [], .empty, 0⟩, scope, maxRoom⟩

namespace Render

variable {α : Type} {s s' : RenderState}

theorem discard_bind_pure (p : Render Unit) (a : α) : discard (p >>= fun _ => pure a) = p := by
  funext s
  show EStateM.map _ (EStateM.bind p _) s = p s
  rw [EStateM.map, EStateM.bind]
  cases p s <;> rfl

theorem discard_of_error {p : Render α} {e : Fault} (h : p s = .error e s') :
    discard p s = .error e s' := by
  show EStateM.map _ p s = .error e s'
  rw [EStateM.map, h]

theorem discard_eq_ok {p : Render α} {u : Unit} :
    discard p s = .ok u s' ↔ ∃ a, p s = .ok a s' := by
  show EStateM.map _ p s = .ok u s' ↔ _
  rw [EStateM.map]
  cases p s <;> simp

/-- The state that a rendering leaves, however it ends. -/
def stateAfter (p : Render α) (s : RenderState) : RenderState :=
  match p s with
  | .ok _ s' | .error _ s' => s'

/-! ## Less room and other scopes -/

theorem takingRoom_of_ok {taken : Nat} {p : Render α} {a : α}
    (h : p { s with room := s.room - taken } = .ok a s') :
    takingRoom taken p s = .ok a { s' with room := s.room } := by
  rw [takingRoom, h]

theorem takingRoom_of_error {taken : Nat} {p : Render α} {e : Fault}
    (h : p { s with room := s.room - taken } = .error e s') :
    takingRoom taken p s = .error e { s' with room := s.room } := by
  rw [takingRoom, h]

theorem takingRoom_eq_ok {taken : Nat} {p : Render α} {a : α} :
    takingRoom taken p s = .ok a s' ↔
      ∃ t, p { s with room := s.room - taken } = .ok a t ∧ s' = { t with room := s.room } := by
  rw [takingRoom]
  cases p { s with room := s.room - taken } with
  | ok b t =>
    constructor
    · intro h
      cases h
      exact ⟨t, rfl, rfl⟩
    · rintro ⟨t', h, rfl⟩
      cases h
      rfl
  | error e t => simp

theorem takingRoom_eq_error {taken : Nat} {p : Render α} {e : Fault} :
    takingRoom taken p s = .error e s' ↔
      ∃ t, p { s with room := s.room - taken } = .error e t ∧ s' = { t with room := s.room } := by
  rw [takingRoom]
  cases p { s with room := s.room - taken } with
  | ok b t => simp
  | error e' t =>
    constructor
    · intro h
      cases h
      exact ⟨t, rfl, rfl⟩
    · rintro ⟨t', h, rfl⟩
      cases h
      rfl

theorem inScope_of_ok {scope : Scope} {p : Render α} {a : α}
    (h : p { s with scope } = .ok a s') :
    inScope scope p s = .ok a { s' with scope := s.scope } := by
  rw [inScope, h]

theorem inScope_of_error {scope : Scope} {p : Render α} {e : Fault}
    (h : p { s with scope } = .error e s') :
    inScope scope p s = .error e { s' with scope := s.scope } := by
  rw [inScope, h]

theorem inScope_eq_ok {scope : Scope} {p : Render α} {a : α} :
    inScope scope p s = .ok a s' ↔
      ∃ t, p { s with scope } = .ok a t ∧ s' = { t with scope := s.scope } := by
  rw [inScope]
  cases p { s with scope } with
  | ok b t =>
    constructor
    · intro h
      cases h
      exact ⟨t, rfl, rfl⟩
    · rintro ⟨t', h, rfl⟩
      cases h
      rfl
  | error e t => simp

/-! ## A document in its place -/

variable {id : Nat}

@[simp]
theorem room_put (s : RenderState) (id : Nat) (d : Document) : (s.put id d).room = s.room := rfl

theorem getElem?_put (hid : id < s.store.documents.length) (d : Document) :
    (s.put id d).store.documents[id]? = some d :=
  List.getElem?_set_self hid

theorem put_put (s : RenderState) (id : Nat) (d e : Document) :
    (s.put id d).put id e = s.put id e := by
  simp [RenderState.put]

/-- Putting a document where it already is changes nothing. -/
theorem put_of_getElem? {d : Document} (h : s.store.documents[id]? = some d) : s.put id d = s := by
  obtain ⟨hid, hd⟩ := List.getElem?_eq_some_iff.1 h
  obtain ⟨⟨documents, iterators, cache, next⟩, scope, room⟩ := s
  subst hd
  simp [RenderState.put]

theorem document_eq (s : RenderState) (id : Nat) :
    document id s = match s.store.documents[id]? with
      | some d => .ok d s
      | none => .error .unsuitable s := by
  have hdocuments : documents s = .ok s.store.documents s := rfl
  rw [document, bind_of_ok hdocuments]
  cases s.store.documents[id]? <;> rfl

theorem document_of_getElem? {d : Document} (h : s.store.documents[id]? = some d) :
    document id s = .ok d s := by
  rw [document_eq, h]

theorem document_put (hid : id < s.store.documents.length) (d : Document) :
    document id (s.put id d) = .ok d (s.put id d) :=
  document_of_getElem? (getElem?_put hid d)

/-- Changing a document puts the answer of the operation in its place, and a violation changes
nothing. -/
theorem changeDocument_put (hid : id < s.store.documents.length) (d : Document)
    (f : Document → Except Violation Document) :
    changeDocument id f (s.put id d) = match f d with
      | .ok e => .ok () (s.put id e)
      | .error v => .error (.violation v) (s.put id d) := by
  rw [changeDocument, bind_of_ok (document_put hid d)]
  cases f d with
  | ok e =>
    show EStateM.Result.ok () ((s.put id d).put id e) = _
    rw [put_put]
  | error v => rfl

theorem changeDocument_put_of_ok (hid : id < s.store.documents.length) {d e : Document}
    {f : Document → Except Violation Document} (h : f d = .ok e) :
    changeDocument id f (s.put id d) = .ok () (s.put id e) := by
  rw [changeDocument_put hid, h]

theorem document_eq_ok {d : Document} :
    document id s = .ok d s' ↔ s.store.documents[id]? = some d ∧ s' = s := by
  rw [document_eq]
  cases s.store.documents[id]? with
  | none => simp
  | some d₀ =>
    constructor
    · intro h
      cases h
      exact ⟨rfl, rfl⟩
    · rintro ⟨h, rfl⟩
      cases h
      rfl

/-- A change of a document succeeds if the document is there and the operation succeeds. -/
theorem changeDocument_eq_ok {f : Document → Except Violation Document} {u : Unit} :
    changeDocument id f s = .ok u s' ↔
      ∃ d e, s.store.documents[id]? = some d ∧ f d = .ok e ∧ s' = s.put id e := by
  constructor
  · intro h
    obtain ⟨d, s₁, hdocument, -⟩ := bind_eq_ok.1 h
    obtain ⟨hd, rfl⟩ := document_eq_ok.1 hdocument
    obtain ⟨hid, -⟩ := List.getElem?_eq_some_iff.1 hd
    rw [← put_of_getElem? hd, changeDocument_put hid] at h
    cases hf : f d with
    | ok e =>
      rw [hf] at h
      cases h
      exact ⟨d, e, hd, hf, rfl⟩
    | error v =>
      rw [hf] at h
      cases h
  · rintro ⟨d, e, hd, hf, rfl⟩
    obtain ⟨hid, -⟩ := List.getElem?_eq_some_iff.1 hd
    have h := changeDocument_put_of_ok hid hf
    rw [put_of_getElem? hd] at h
    exact h

/-- An element can be left where the latest piece is text, as far as the piece is concerned. -/
theorem leaveElement_put (hid : id < s.store.documents.length) {d : Document}
    (hd : d.layout = .terse ∨ d.latest.isSome = true) (f : Document → Except Violation Document) :
    leaveElement id f (s.put id d) = changeDocument id f (s.put id d) := by
  have hguard : ¬(d.depth ≠ 0 && d.layout ≠ .terse && d.latest.isNone) = true := by
    rcases hd with hterse | hlatest
    · simp [hterse]
    · rw [Option.isNone_eq_false_iff.2 hlatest]
      simp
  rw [leaveElement, bind_of_ok (document_put hid d)]
  simp only [if_neg hguard]

theorem readDocument_of_getElem? {d : Document} (hd : s.store.documents[id]? = some d) :
    readDocument id s = if d.isText then .ok d.text s else .error .unsuitable s := by
  rw [readDocument, bind_of_ok (document_of_getElem? hd)]
  cases d.isText <;> rfl

theorem readDocument_eq_ok {text : Text} (h : readDocument id s = .ok text s') :
    ∃ d, s.store.documents[id]? = some d ∧ d.isText = true ∧ d.text = text ∧ s' = s := by
  obtain ⟨d, s₁, hdocument, hread⟩ := bind_eq_ok.1 h
  obtain ⟨hd, rfl⟩ := document_eq_ok.1 hdocument
  split at hread
  next hisText =>
    cases hread
    exact ⟨d, hd, hisText, rfl, rfl⟩
  next => cases hread

/-- The text of a document without open elements is refused only where it is no text. -/
theorem readComplete_of_depth {d : Document} (hd : s.store.documents[id]? = some d)
    (hdepth : d.depth = 0) :
    readComplete id s = if d.isText then .ok d.text s else .error .unsuitable s := by
  have hdiscard : discard (orViolation d.complete) s = .ok () s := by
    rw [Document.complete, if_pos hdepth]
    rfl
  rw [readComplete, bind_of_ok (document_of_getElem? hd), bind_of_ok hdiscard,
    readDocument_of_getElem? hd]

theorem readComplete_eq_ok {text : Text} (h : readComplete id s = .ok text s') :
    ∃ d, s.store.documents[id]? = some d ∧ d.depth = 0 ∧ d.isText = true ∧ d.text = text ∧
      s' = s := by
  obtain ⟨d, s₁, hdocument, hrest⟩ := bind_eq_ok.1 h
  obtain ⟨hd, rfl⟩ := document_eq_ok.1 hdocument
  obtain ⟨u, s₂, hdiscard, hread⟩ := bind_eq_ok.1 hrest
  rw [Document.complete] at hdiscard
  split at hdiscard
  next hdepth =>
    cases hdiscard
    obtain ⟨d', hd', hisText, rfl, rfl⟩ := readDocument_eq_ok hread
    rw [hd] at hd'
    cases hd'
    exact ⟨d, hd, hdepth, hisText, rfl, rfl⟩
  next => cases hdiscard

/-- A text that is a name is written as it is. -/
theorem nameOf_of_isName (mark : Mark) {name : Text} (h : isName name = true) :
    nameOf (.str mark name) = pure (some name) := by
  rw [nameOf]
  simp only [if_pos h]

/-! ## Attributes of a template -/

theorem writeItems_cons (expand : Expander) (id : Nat) (item : AttributeItem)
    (rest : List AttributeItem) : writeItems expand id (item :: rest) =
      writeItems expand id [item] >>= fun _ => writeItems expand id rest := by
  cases item with
  | named name value => simp only [writeItems, bind_assoc, pure_bind]
  | fill x => simp only [writeItems, bind_assoc, pure_bind]

/-! ## The document of a template -/

/-- The document that a template is written into is the given one, or else its target. -/
def documentFor (expand : Expander) (settings : Settings) (t : Template) (given : Option Nat) :
    Render Nat :=
  match given with
  | some id => pure id
  | none => target expand settings t

theorem writeTemplate_eq_documentFor (expand : Expander) (settings : Settings) (t : Template)
    (given : Option Nat) :
    writeTemplate expand settings t given = documentFor expand settings t given >>= fun id => do
      takingRoom rootRoom (writeElement expand id t.root)
      return id := by
  cases given <;> rfl

/-! ## Numbers as text -/

theorem checkShown_of_none {v : Value} (h : v.obstacle? s.room = none) :
    checkShown v s = .ok () s := by
  have hroom : room s = .ok s.room s := rfl
  rw [checkShown, bind_of_ok hroom, h]
  rfl

theorem checkShown_of_some {v : Value} {fault : Fault} (h : v.obstacle? s.room = some fault) :
    checkShown v s = .error fault s := by
  have hroom : room s = .ok s.room s := rfl
  rw [checkShown, bind_of_ok hroom, h]
  rfl

theorem obstacle?_int (n : Int) (hroom : s.room ≠ 0) :
    (Value.int n).obstacle? s.room =
      if n.natAbs ≥ Value.unwritableSize then some (.badValue .longNumber) else none := by
  obtain ⟨k, hk⟩ := Nat.exists_eq_succ_of_ne_zero hroom
  rw [hk, Value.obstacle?]

theorem display_int (n : Int) :
    display (.int n) = checkShown (.int n) >>= fun _ => do
      return (Value.int n).display (← documents) := rfl

theorem display_shortNumber {n : Int} (h : n.natAbs < Value.unwritableSize) (hroom : s.room ≠ 0) :
    display (.int n) s = .ok (Text.ofInt n) s := by
  have hobstacle := obstacle?_int n hroom
  rw [if_neg (Nat.not_le.2 h)] at hobstacle
  rw [display_int, bind_of_ok (checkShown_of_none hobstacle)]
  rfl

/-- A number that is too long to be written has no text. -/
theorem display_longNumber {n : Int} (h : Value.unwritableSize ≤ n.natAbs) (hroom : s.room ≠ 0) :
    display (.int n) s = .error (.badValue .longNumber) s := by
  have hobstacle := obstacle?_int n hroom
  rw [if_pos h] at hobstacle
  exact bind_of_error (checkShown_of_some hobstacle) _

end Render

end XmlTemplate
