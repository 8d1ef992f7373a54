import XmlTemplate.Proofs.Render.Run

/-!
# Renderings that read

Much of what a method of a document does with its arguments only reads: it shows a value, takes a
pair apart or looks at a name. Such a rendering leaves every document as it is, however it ends.
`Reads E p Q` says so of one rendering, together with what it answers (`Q`) and which faults it can
end in (`E`). Reading a value never ends in a violation of the order of a document
(`Fault.isViolation`); only the look at a name may.
-/

set_option autoImplicit false

namespace XmlTemplate

/-- Whether a fault is a call that does not fit the state of a document. -/
def Fault.isViolation : Fault → Bool
  | .violation _ => true
  | _ => false

/-- Nothing that keeps a value, an entry or an item from being shown is a violation. -/
theorem Value.isViolation_obstacle :
    (∀ (room : Nat) (v : Value), ∀ e ∈ v.obstacle? room, e.isViolation = false) ∧
    (∀ (room : Nat) (es : List (Value × Value)),
      ∀ e ∈ obstacleInEntries? room es, e.isViolation = false) ∧
    ∀ (room : Nat) (vs : List Value), ∀ e ∈ obstacleIn? room vs, e.isViolation = false := by
  have hor : ∀ {x y : Option Fault}, (∀ e ∈ x, e.isViolation = false) →
      (∀ e ∈ y, e.isViolation = false) → ∀ e ∈ x.or y, e.isViolation = false := by
    intro x y hx hy e he
    rcases Option.or_eq_some_iff.1 he with h | ⟨-, h⟩
    · exact hx e h
    · exact hy e h
  apply Value.obstacle?.mutual_induct
  -- no room is left
  case case1 =>
    intro v e he
    rw [obstacle?] at he
    cases he
    rfl
  -- a number, or one of the three of a range, is too long
  case case2 | case8 =>
    intros
    rename_i hlong e he
    rw [obstacle?, if_pos hlong] at he
    cases he
    rfl
  case case3 | case9 =>
    intros
    rename_i hshort e he
    rw [obstacle?, if_neg hshort] at he
    cases he
  -- what a value holds
  case case4 | case5 | case6 | case7 | case10 =>
    intros
    rename_i ih e he
    rw [obstacle?] at he
    exact ih e he
  -- the other values can be shown
  case case11 =>
    intro v n hint hlist htuple hdict hentries hrange hformat e he
    rw [obstacle?] at he
    · cases he
    all_goals assumption
  case case12 | case14 => rintro room e ⟨⟩
  case case13 =>
    intro room v rest hv hrest
    rw [obstacleIn?]
    exact hor hv hrest
  case case15 =>
    intro room k v rest hk hv hrest
    rw [obstacleInEntries?]
    exact hor hk (hor hv hrest)

namespace Render

variable {α β : Type} {E E' : Fault → Prop}

/-- A rendering that leaves the documents as they are, however it ends: it answers what `Q` says, or
fails as `E` says. -/
structure Reads (E : Fault → Prop) (p : Render α) (Q : α → Prop) : Prop where
  of_ok : ∀ s a s', p s = .ok a s' → Q a ∧ s'.store.documents = s.store.documents
  of_error : ∀ s e s', p s = .error e s' → E e ∧ s'.store.documents = s.store.documents

/-! ## Putting renderings together -/

namespace Reads

variable {p : Render α} {Q Q' : α → Prop} {R : β → Prop}

theorem pure {a : α} (h : Q a) : Reads E (Pure.pure a) Q where
  of_ok s b s' hrun := by
    cases hrun
    exact ⟨h, rfl⟩
  of_error s e s' hrun := by cases hrun

theorem throw {e : Fault} (h : E e) : Reads E (MonadExcept.throw e : Render α) Q where
  of_ok s b s' hrun := by cases hrun
  of_error s e' s' hrun := by
    cases hrun
    exact ⟨h, rfl⟩

theorem bind {f : α → Render β} (hp : Reads E p Q) (hf : ∀ a, Q a → Reads E (f a) R) :
    Reads E (p >>= f) R where
  of_ok s b s' hrun := by
    obtain ⟨a, s₁, hrun₁, hrun'⟩ := bind_eq_ok.1 hrun
    obtain ⟨ha, hdocuments₁⟩ := hp.of_ok s a s₁ hrun₁
    obtain ⟨hb, hdocuments'⟩ := (hf a ha).of_ok s₁ b s' hrun'
    exact ⟨hb, hdocuments'.trans hdocuments₁⟩
  of_error s e s' hrun := by
    rcases bind_eq_error.1 hrun with hrun₁ | ⟨a, s₁, hrun₁, hrun'⟩
    · exact hp.of_error s e s' hrun₁
    · obtain ⟨ha, hdocuments₁⟩ := hp.of_ok s a s₁ hrun₁
      obtain ⟨he, hdocuments'⟩ := (hf a ha).of_error s₁ e s' hrun'
      exact ⟨he, hdocuments'.trans hdocuments₁⟩

theorem mono (hp : Reads E p Q) (hE : ∀ e, E e → E' e) : Reads E' p Q where
  of_ok := hp.of_ok
  of_error s e s' hrun := by
    obtain ⟨he, hdocuments⟩ := hp.of_error s e s' hrun
    exact ⟨hE e he, hdocuments⟩

theorem discard (hp : Reads E p Q) : Reads E (Functor.discard p) fun _ => True :=
  hp.bind fun _ _ => pure trivial

theorem get : Reads E (MonadState.get : Render RenderState) fun _ => True where
  of_ok s a s' hrun := by
    cases hrun
    exact ⟨trivial, rfl⟩
  of_error s e s' hrun := by cases hrun

/-- Changes beside the documents are none of them. -/
theorem modify {f : RenderState → RenderState}
    (hf : ∀ s, (f s).store.documents = s.store.documents) :
    Reads E (modify f : Render Unit) fun _ => True where
  of_ok s a s' hrun := by
    cases hrun
    exact ⟨trivial, hf s⟩
  of_error s e s' hrun := by cases hrun

end Reads

/-! ## Documents -/

theorem reads_documents : Reads (·.isViolation = false) documents fun _ => True :=
  Reads.get.bind fun _ _ => .pure trivial

theorem reads_document (i : Nat) : Reads (·.isViolation = false) (document i) fun _ => True := by
  refine reads_documents.bind fun ds _ => ?_
  split
  · exact .pure trivial
  · exact .throw rfl

theorem reads_readDocument (i : Nat) :
    Reads (·.isViolation = false) (readDocument i) fun _ => True := by
  refine (reads_document i).bind fun d _ => ?_
  split
  · exact .pure trivial
  · exact .throw rfl

theorem reads_readComplete (i : Nat) : Reads (fun _ => True) (readComplete i) fun _ => True := by
  refine (reads_document i).mono (fun _ _ => trivial) |>.bind fun d _ => ?_
  have hcomplete : Reads (fun _ => True) (orViolation d.complete) fun _ => True := by
    cases d.complete with
    | ok text => exact .pure trivial
    | error v => exact .throw trivial
  exact hcomplete.discard.bind fun _ _ => (reads_readDocument i).mono fun _ _ => trivial

/-! ## Values -/

theorem reads_newText (t : Text) : Reads (·.isViolation = false) (newText t) fun _ => True := by
  have hfresh : Reads (·.isViolation = false) fresh fun _ => True := by
    constructor
    · rintro s mark s' ⟨⟩
      exact ⟨trivial, rfl⟩
    · rintro s e s' ⟨⟩
  exact hfresh.bind fun _ _ => .pure trivial

theorem reads_checkShown (v : Value) :
    Reads (·.isViolation = false) (checkShown v) fun _ => True := by
  have hroom : Reads (·.isViolation = false) room fun _ => True :=
    Reads.get.bind fun _ _ => .pure trivial
  refine hroom.bind fun r _ => ?_
  split
  next e he => exact .throw (Value.isViolation_obstacle.1 r v e he)
  next => exact .pure trivial

theorem reads_display (v : Value) : Reads (·.isViolation = false) (display v) fun _ => True := by
  rw [display.eq_def]
  split
  · exact .pure trivial
  · exact reads_readDocument _
  · exact (reads_checkShown _).bind fun _ _ => reads_documents.bind fun _ _ => .pure trivial

/-! ## Items -/

theorem reads_next? (i : Nat) : Reads (·.isViolation = false) (next? i) fun _ => True := by
  refine Reads.get.bind fun s _ => ?_
  split
  next v rest _ =>
    have htaken : Reads (·.isViolation = false)
        (modify fun s => { s with store.iterators := s.store.iterators.set i rest } : Render Unit)
        fun _ => True := .modify fun _ => rfl
    exact htaken.bind fun _ _ => .pure trivial
  next => exact .pure trivial

theorem reads_left (i : Nat) : Reads (·.isViolation = false) (left i) fun _ => True :=
  Reads.get.bind fun _ _ => .pure trivial

theorem reads_takeItems (source : Iteration) (count : Nat) :
    Reads (·.isViolation = false) (takeItems source count) fun _ => True := by
  induction count with
  | zero => exact .pure trivial
  | succ count ih =>
    cases source with
    | items vs => exact .pure trivial
    | range first step n => exact .pure trivial
    | shared i =>
      refine (reads_next? i).bind fun v? _ => ?_
      cases v? with
      | none => exact .pure trivial
      | some v => exact ih.bind fun _ _ => .pure trivial

theorem reads_unpackPair (v : Value) :
    Reads (·.isViolation = false) (unpackPair v) fun _ => True := by
  rw [unpackPair]
  split
  · exact .throw rfl
  · refine (reads_takeItems _ 3).bind fun vs _ => ?_
    split
    · exact .pure trivial
    all_goals exact .throw rfl

/-! ## Names -/

theorem reads_nameParts (vs : List Value) :
    Reads (·.isViolation = false) (nameParts vs) fun _ => True := by
  induction vs with
  | nil => exact .pure trivial
  | cons v rest ih =>
    rw [nameParts.eq_def]
    split
    · exact .pure trivial
    next heq =>
      cases heq
      split
      · exact ih
      · exact .pure trivial
    · exact .throw rfl

/-- What is written for a name is a name, if it is a text. -/
theorem reads_nameOf (v : Value) :
    Reads (fun _ => True) (nameOf v) fun name => ∀ n ∈ name, isName n = true := by
  have hfaulty : Reads (fun _ => True)
      (do throw (.violation (.invalidName (← display v))) : Render (Option Text))
      fun name => ∀ n ∈ name, isName n = true :=
    ((reads_display v).mono fun _ _ => trivial).bind fun _ _ => .throw trivial
  rw [nameOf.eq_def]
  dsimp only
  -- only that the fault of many branches is one matters in them
  generalize (do throw (.violation (.invalidName (← display v))) : Render (Option Text)) = faulty
    at hfaulty ⊢
  have hparts (c : Char) (rest : List Value) : Reads (fun _ => True)
      (if isNameStart c.toNat = true then do
        if ← nameParts rest then return none else faulty
      else faulty) fun name => ∀ n ∈ name, isName n = true := by
    split
    · refine ((reads_nameParts rest).mono fun _ _ => trivial).bind fun b _ => ?_
      split
      · exact .pure fun _ hn => (nomatch hn)
      · exact hfaulty
    · exact hfaulty
  split
  next s =>
    split
    next hname =>
      refine .pure fun n hn => ?_
      cases hn
      exact hname
    next => exact hfaulty
  next =>
    split
    · exact hfaulty
    · split
      · exact hparts _ _
      · exact hparts _ _
      · split
        · exact .throw trivial
        · split
          · exact .throw trivial
          · exact hfaulty
        · exact .throw trivial
      · exact .throw trivial

end Render

end XmlTemplate
