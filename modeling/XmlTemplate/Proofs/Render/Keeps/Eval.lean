import XmlTemplate.Proofs.Render.Keeps.Call
import XmlTemplate.Render.Eval

/-!
# What scripts can reach

An expression can reach what the scope and the iterators refer to, and so can a statement. Both go
by induction on their syntax; operators change nothing but the mark of the next value.
-/

set_option autoImplicit false

namespace XmlTemplate

namespace Render

open Script (Expr Stmt ArithOp CompareOp)

variable {A : Nat → Prop} {may : Nat → Operation → Prop}

/-! ## Arithmetic -/

theorem mem_repeatBefore {α : Type} {items rest : List α} {n : Nat} {a : α}
    (h : a ∈ repeatBefore items n rest) : a ∈ items ∨ a ∈ rest := by
  induction n generalizing rest with
  | zero => exact Or.inr h
  | succ n ih =>
    rcases ih h with h | h
    · exact Or.inl h
    · exact List.mem_append.1 h

theorem keeps_times {α : Type} (items : List α) (n limit : Int) (fault : Fault) :
    Keeps A may (times items n limit fault) fun as => ∀ a ∈ as, a ∈ items := by
  rw [times]
  split
  · exact .throw _
  · split
    · exact .pure (List.forall_mem_nil _)
    · split
      · exact .throw _
      · split
        · exact .throw _
        · refine .pure fun a ha => ?_
          rcases mem_repeatBefore ha with h | h
          · exact h
          · exact (nomatch h)

theorem keeps_timesText (mark : Mark) (s : Text) (n : Int) :
    Keeps A may (timesText mark s n) (Value.Within A) := by
  rw [timesText]
  split
  · exact .pure trivial
  · exact (keeps_times s n maxSize .sizeTooLarge).bind fun _ _ => keeps_newText _

theorem keeps_timesItems {vs : List Value} (hvs : ∀ v ∈ vs, v.Within A) (n : Int) :
    Keeps A may (timesItems vs n) fun ws => ∀ w ∈ ws, w.Within A :=
  (keeps_times vs n maxSize .outOfMemory).weaken fun _ hws w hw => hvs w (hws w hw)

theorem keeps_timesTuple (mark : Mark) {vs : List Value} (hvs : ∀ v ∈ vs, v.Within A) (n : Int) :
    Keeps A may (timesTuple mark vs n) (Value.Within A) := by
  rw [timesTuple]
  split
  · exact .pure (Value.allWithin_iff.2 hvs)
  · exact (keeps_timesItems hvs n).bind fun _ hws => keeps_newTuple hws

theorem keeps_appendText (mark : Mark) (s : Text) (mark' : Mark) (t : Text) :
    Keeps A may (appendText mark s mark' t) (Value.Within A) := by
  rw [appendText]
  split
  · exact .pure trivial
  · split
    · exact .pure trivial
    · exact keeps_newText _

theorem within_append {vs ws : List Value} (hvs : ∀ v ∈ vs, v.Within A)
    (hws : ∀ w ∈ ws, w.Within A) : ∀ v ∈ vs ++ ws, v.Within A := by
  intro v hv
  rcases List.mem_append.1 hv with hv | hv
  · exact hvs v hv
  · exact hws v hv

theorem keeps_appendTuple (mark : Mark) {vs : List Value} (hvs : ∀ v ∈ vs, v.Within A)
    (mark' : Mark) {ws : List Value} (hws : ∀ w ∈ ws, w.Within A) :
    Keeps A may (appendTuple mark vs mark' ws) (Value.Within A) := by
  rw [appendTuple]
  split
  · exact .pure (Value.allWithin_iff.2 hws)
  · split
    · exact .pure (Value.allWithin_iff.2 hvs)
    · exact keeps_newTuple (within_append hvs hws)

theorem keeps_divide (op : ArithOp) (a b : Int) :
    Keeps A may (divide op a b) (Value.Within A) := by
  rw [divide.eq_def]
  split
  · split
    · exact .throw _
    · split
      · exact .pure trivial
      · exact .throw _
  · split
    · exact .throw _
    · exact .pure trivial
  · split
    · exact .throw _
    · exact .pure trivial

theorem unchanging_roundedOf (v : Value) : Unchanging (roundedOf v) := by
  rw [roundedOf.eq_def]
  split
  · exact .pure _
  · split
    · exact .pure _
    · exact .throw _
  · split
    · exact .throw _
    · split
      · exact .pure _
      · exact .throw _

theorem keeps_ofRounded (x : Rounded) : Keeps A may (ofRounded x) (Value.Within A) := by
  rw [ofRounded.eq_def]
  split
  · exact keeps_fresh.bind fun _ _ => .pure trivial
  · exact .pure trivial

theorem keeps_arithRounded (op : ArithOp) (x y : Rounded) :
    Keeps A may (arithRounded op x y) (Value.Within A) := by
  cases op with
  | add | sub | mul => exact keeps_ofRounded _
  | quotient | floorQuotient | remainder =>
    rw [arithRounded]
    split
    · exact .throw _
    · exact keeps_ofRounded _

theorem keeps_negate (v : Value) : Keeps A may (negate v) (Value.Within A) := by
  rw [negate]
  split
  · exact (unchanging_roundedOf v).keeps.bind fun _ _ => keeps_ofRounded _
  · exact (unchanging_wholeNumber v).keeps.bind fun _ _ => .pure trivial

theorem keeps_arithWhole (op : ArithOp) {v w : Value} (hv : v.Within A) (hw : w.Within A) :
    Keeps A may (arithWhole op v w) (Value.Within A) := by
  rw [arithWhole.eq_def]
  split
  · exact .pure trivial
  · exact .pure trivial
  · exact .pure trivial
  · exact keeps_divide _ _ _
  · exact keeps_appendText _ _ _ _
  · exact keeps_newList (within_append (Value.allWithin_iff.1 hv) (Value.allWithin_iff.1 hw))
  · exact keeps_appendTuple _ (Value.allWithin_iff.1 hv) _ (Value.allWithin_iff.1 hw)
  · exact keeps_timesText _ _ _
  · exact keeps_timesText _ _ _
  · exact (keeps_timesItems (Value.allWithin_iff.1 hv) _).bind fun _ hvs => keeps_newList hvs
  · exact (keeps_timesItems (Value.allWithin_iff.1 hw) _).bind fun _ hvs => keeps_newList hvs
  · exact keeps_timesTuple _ (Value.allWithin_iff.1 hv) _
  · exact keeps_timesTuple _ (Value.allWithin_iff.1 hw) _
  · exact .throw _

theorem keeps_arith (op : ArithOp) {v w : Value} (hv : v.Within A) (hw : w.Within A) :
    Keeps A may (arith op v w) (Value.Within A) := by
  rw [arith]
  split
  · refine (unchanging_roundedOf v).keeps.bind fun x _ => ?_
    exact (unchanging_roundedOf w).keeps.bind fun y _ => keeps_arithRounded op x y
  · exact keeps_arithWhole op hv hw

/-! ## Comparisons -/

theorem keeps_isIn (v w : Value) : Keeps A may (isIn v w) fun _ => True := by
  have hamong (x : Value) (vs : List Value) : Keeps A may (isAmong x vs) fun _ => True :=
    (unchanging_isAmong x vs).keeps
  rw [isIn.eq_def]
  split
  · split
    · exact .pure trivial
    · exact .throw _
  · split
    · exact .pure trivial
    · exact .throw _
  · split
    · split
      · exact hamong _ _
      · exact .throw _
    · exact .pure trivial
  · exact .pure trivial
  · exact hamong _ _
  · exact hamong _ _
  · exact (unchanging_left _).keeps.bind fun _ _ => keeps_seek _ _ _
  · exact .throw _

theorem keeps_compare (op : CompareOp) (v w : Value) :
    Keeps A may (compare op v w) (Value.Within A) := by
  cases op with
  | equal | notEqual => exact (unchanging_areEqual v w).keeps.bind fun _ _ => .pure trivial
  | less | greater =>
    refine Unchanging.room.keeps.bind fun _ _ => ?_
    exact (unchanging_orFault _).keeps.bind fun _ _ => .pure trivial
  | isIn | notIn => exact (keeps_isIn v w).bind fun _ _ => .pure trivial

/-! ## Items and members -/

theorem keeps_itemAt {α : Type} (kind : String) (items : List α) (key : Value) :
    Keeps A may (itemAt kind items key) fun a => a ∈ items := by
  rw [itemAt]
  refine (unchanging_wholeNumber key).keeps.bind fun i _ => ?_
  dsimp only
  split
  · exact .throw_bind _
  · split
    next a ha =>
      obtain ⟨place, -, ha⟩ := Option.bind_eq_some_iff.1 ha
      exact .pure (List.mem_of_getElem? ha)
    next => exact .throw _

theorem keeps_index {v : Value} (hv : v.Within A) (key : Value) :
    Keeps A may (index v key) (Value.Within A) := by
  rw [index.eq_def]
  split
  next vs => exact (keeps_itemAt "list" vs key).weaken fun w hw => Value.allWithin_iff.1 hv w hw
  next vs => exact (keeps_itemAt "tuple" vs key).weaken fun w hw => Value.allWithin_iff.1 hv w hw
  next s => exact (keeps_itemAt "string" s key).bind fun _ _ => keeps_cutText _
  next =>
    refine (unchanging_wholeNumber key).keeps.bind fun _ _ => ?_
    split
    · exact .pure trivial
    · exact .throw _
  next es =>
    split
    · split
      next w hw => exact .pure (Value.within_of_lookup hv hw)
      next => exact (unchanging_shown key).keeps.bind fun _ _ => .throw _
    · exact .throw _
  next => exact .throw _

theorem keeps_member {v : Value} (hv : v.Within A) (field : Text) :
    Keeps A may (member v field) (Value.Within A) := by
  rw [member.eq_def]
  split
  -- texts, their type, and dictionaries have methods
  next =>
    split
    · exact .pure trivial
    · exact .throw _
  next =>
    split
    · exact .pure trivial
    · exact .throw _
  next =>
    split
    · exact .pure hv
    · exact .throw _
  -- the unit of a layout refers to what the layout refers to
  next =>
    split
    · exact .pure hv
    · split
      · exact .pure trivial
      · split
        · exact .pure trivial
        · split
          · exact .pure trivial
          · exact .throw _
  next =>
    split
    · exact .pure trivial
    · split
      · exact .pure trivial
      · split
        · exact .pure trivial
        · split
          · exact .pure trivial
          · exact .throw _
  -- the methods of a document refer to it, and the rest of what it has does not
  next id =>
    split
    next m _ => exact .pure hv
    next =>
      refine (unchanging_document id).keeps.bind fun d _ => ?_
      split
      · exact .pure trivial
      · split
        · refine .pure ?_
          cases d.layout <;> trivial
        · exact .throw _
  next => exact .throw _

/-! ## Expressions -/

variable {expand : Expander}

mutual

/-- An expression reaches what the state refers to, and so does its value. -/
theorem keeps_eval (h : Confines A may expand) :
    ∀ e : Expr, Keeps A may (eval expand e) (Value.Within A)
  | .name x => keeps_valueOf x
  | .none | .bool _ | .int _ | .str _ => .pure trivial
  | .tuple items => (keeps_evalAll h items).bind fun _ hvs => keeps_newTuple hvs
  | .list items => (keeps_evalAll h items).bind fun _ hvs => keeps_newList hvs
  | .dict entries => (keeps_evalEntries h _ entries).bind fun _ hes => keeps_makeDict hes
  | .member object field => (keeps_eval h object).bind fun _ hv => keeps_member hv field
  | .index object key => by
    refine (keeps_eval h object).bind fun v hv => ?_
    exact (keeps_eval h key).bind fun k _ => keeps_index hv k
  | .call f args named => by
    refine (keeps_eval h f).bind fun v hv => ?_
    refine (keeps_evalAll h args).bind fun vs hvs => ?_
    exact (keeps_evalNamed h named).bind fun es hes => keeps_call h hv hvs hes
  | .negate e => (keeps_eval h e).bind fun v _ => keeps_negate v
  | .not e => (keeps_eval h e).bind fun _ _ => .pure trivial
  | .arith op left right => by
    refine (keeps_eval h left).bind fun v hv => ?_
    exact (keeps_eval h right).bind fun w hw => keeps_arith op hv hw
  | .compare op left right => by
    refine (keeps_eval h left).bind fun v _ => ?_
    exact (keeps_eval h right).bind fun w _ => keeps_compare op v w
  | .and left right => by
    refine (keeps_eval h left).bind fun v hv => ?_
    split
    · exact keeps_eval h right
    · exact .pure hv
  | .or left right => by
    refine (keeps_eval h left).bind fun v hv => ?_
    split
    · exact .pure hv
    · exact keeps_eval h right
  | .choose condition yes no => by
    refine (keeps_eval h condition).bind fun v _ => ?_
    split
    · exact keeps_eval h yes
    · exact keeps_eval h no
  | .bind x e => by
    refine (keeps_eval h e).bind fun v hv => ?_
    exact (keeps_bindName hv).bind fun _ _ => .pure hv

theorem keeps_evalAll (h : Confines A may expand) : ∀ es : List Expr,
    Keeps A may (evalAll expand es) fun vs => ∀ v ∈ vs, v.Within A
  | [] => .pure (List.forall_mem_nil _)
  | e :: rest => by
    refine (keeps_eval h e).bind fun v hv => ?_
    refine (keeps_evalAll h rest).bind fun vs hvs => ?_
    exact .pure (List.forall_mem_cons.2 ⟨hv, hvs⟩)

theorem keeps_evalEntries (h : Confines A may expand) (checked : Nat) : ∀ es : List (Expr × Expr),
    Keeps A may (evalEntries expand checked es) (Value.EntriesWithin A)
  | [] => .pure trivial
  | (k, e) :: rest => by
    refine (keeps_eval h k).bind fun key hkey => ?_
    refine (keeps_eval h e).bind fun v hv => ?_
    dsimp only
    split
    · exact .throw_bind _
    · refine (keeps_evalEntries h (checked - 1) rest).bind fun es hes => ?_
      exact .pure ⟨⟨hkey, hv⟩, hes⟩

theorem keeps_evalNamed (h : Confines A may expand) : ∀ es : List (Text × Expr),
    Keeps A may (evalNamed expand es) (Scope.Within A)
  | [] => .pure (List.forall_mem_nil _)
  | (x, e) :: rest => by
    refine (keeps_eval h e).bind fun v hv => ?_
    refine (keeps_evalNamed h rest).bind fun es hes => ?_
    exact .pure (List.forall_mem_cons.2 ⟨hv, hes⟩)

end

/-! ## Statements -/

mutual

/-- A statement reaches what the state refers to. -/
theorem keeps_exec (h : Confines A may expand) :
    ∀ st : Stmt, Keeps A may (exec expand st) fun _ => True
  | .pass => .pure trivial
  | .run e => (keeps_eval h e).discard
  | .assign x e => (keeps_eval h e).bind fun _ hv => keeps_bindName hv
  | .loop x source body => by
    refine (keeps_eval h source).bind fun v hv => ?_
    split
    · exact .throw _
    next items hitems =>
      refine keeps_forEach (fun w hw => ?_) (hv.iteration? hitems)
      exact (keeps_bindName hw).bind fun _ _ => keeps_execAll h body
  | .branch condition yes no => by
    refine (keeps_eval h condition).bind fun v _ => ?_
    split
    · exact keeps_execAll h yes
    · exact keeps_execAll h no

theorem keeps_execAll (h : Confines A may expand) :
    ∀ sts : List Stmt, Keeps A may (execAll expand sts) fun _ => True
  | [] => .pure trivial
  | st :: rest => (keeps_exec h st).bind fun _ _ => keeps_execAll h rest

end

end Render

end XmlTemplate
