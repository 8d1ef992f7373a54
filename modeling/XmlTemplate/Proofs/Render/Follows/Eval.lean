import XmlTemplate.Proofs.Render.Follows.Call
import XmlTemplate.Proofs.Script.Names
import XmlTemplate.Render.Eval

/-!
# Following scripts

An expression evaluates alike in related scopes if its names mean the same in both and, where it
binds a name, the scopes are related afterwards (`Scope.Admits`). A program may bind names in
several ways, so of programs it is shown for scopes that agree in every respect (`Scope.Agrees`).
-/

set_option autoImplicit false

namespace XmlTemplate

namespace Scope

variable {R : Scope → Scope → Prop}

/-- The names mean the same in related scopes, which stay related if a name is bound. -/
def Admits (R : Scope → Scope → Prop) (names : List Text) (binds : Bool) : Prop :=
  (∀ x ∈ names, Sees R x) ∧ (binds = true → Binds R)

theorem admits_append {xs ys : List Text} {b c : Bool} :
    Admits R (xs ++ ys) (b || c) ↔ Admits R xs b ∧ Admits R ys c := by
  simp only [Admits, List.forall_mem_append, Bool.or_eq_true, or_imp]
  exact and_and_and_comm

/-- All names mean the same in related scopes, which stay related if a name is bound. -/
structure Agrees (R : Scope → Scope → Prop) : Prop where
  sees : ∀ x, Sees R x
  binds : Binds R

theorem Agrees.admits (h : Agrees R) (names : List Text) (binds : Bool) : Admits R names binds :=
  ⟨fun x _ => h.sees x, fun _ => h.binds⟩

end Scope

namespace Render

open Script

variable {R : Scope → Scope → Prop} {α : Type}

/-! ## Arithmetic -/

theorem follows_times (items : List α) (n limit : Int) (fault : Fault) :
    Follows R (times items n limit fault) (times items n limit fault) := by
  rw [times]
  split
  · exact .throw _ _
  · split
    · exact .pure _
    · split
      · exact .throw _ _
      · split
        · exact .throw _ _
        · exact .pure _

theorem follows_timesText (mark : Mark) (s : Text) (n : Int) :
    Follows R (timesText mark s n) (timesText mark s n) := by
  rw [timesText]
  split
  · exact .pure _
  · exact (follows_times s n _ _).bind fun _ => follows_newText _

theorem follows_timesTuple (mark : Mark) (vs : List Value) (n : Int) :
    Follows R (timesTuple mark vs n) (timesTuple mark vs n) := by
  rw [timesTuple]
  split
  · exact .pure _
  · exact (follows_times vs n _ _).bind fun _ => follows_newTuple _

theorem follows_appendText (mark : Mark) (s : Text) (mark' : Mark) (t : Text) :
    Follows R (appendText mark s mark' t) (appendText mark s mark' t) := by
  rw [appendText]
  split
  · exact .pure _
  · split
    · exact .pure _
    · exact follows_newText _

theorem follows_appendTuple (mark : Mark) (vs : List Value) (mark' : Mark) (ws : List Value) :
    Follows R (appendTuple mark vs mark' ws) (appendTuple mark vs mark' ws) := by
  rw [appendTuple]
  split
  · exact .pure _
  · split
    · exact .pure _
    · exact follows_newTuple _

theorem follows_divide (op : ArithOp) (a b : Int) : Follows R (divide op a b) (divide op a b) := by
  rw [divide.eq_def]
  split
  · split
    · exact .throw _ _
    · split
      · exact .pure _
      · exact .throw _ _
  · split
    · exact .throw _ _
    · exact .pure _
  · split
    · exact .throw _ _
    · exact .pure _

theorem follows_roundedOf (v : Value) : Follows R (roundedOf v) (roundedOf v) := by
  rw [roundedOf.eq_def]
  split
  · exact .pure _
  · split
    · exact .pure _
    · exact .throw _ _
  · split
    · exact .throw _ _
    · split
      · exact .pure _
      · exact .throw _ _

theorem follows_ofRounded (x : Rounded) : Follows R (ofRounded x) (ofRounded x) := by
  rw [ofRounded.eq_def]
  split
  · exact follows_fresh.bind fun _ => .pure _
  · exact .pure _

theorem follows_arithRounded (op : ArithOp) (x y : Rounded) :
    Follows R (arithRounded op x y) (arithRounded op x y) := by
  cases op with
  | add | sub | mul => exact follows_ofRounded _
  | quotient | floorQuotient | remainder =>
    rw [arithRounded]
    split
    · exact .throw _ _
    · exact follows_ofRounded _

theorem follows_negate (v : Value) : Follows R (negate v) (negate v) := by
  rw [negate]
  split
  · exact (follows_roundedOf v).bind fun _ => follows_ofRounded _
  · exact (follows_wholeNumber v).bind fun _ => .pure _

theorem follows_arithWhole (op : ArithOp) (v w : Value) :
    Follows R (arithWhole op v w) (arithWhole op v w) := by
  rw [arithWhole.eq_def]
  split
  · exact .pure _
  · exact .pure _
  · exact .pure _
  · exact follows_divide _ _ _
  · exact follows_appendText _ _ _ _
  · exact follows_newList _
  · exact follows_appendTuple _ _ _ _
  · exact follows_timesText _ _ _
  · exact follows_timesText _ _ _
  · exact (follows_times _ _ _ _).bind fun _ => follows_newList _
  · exact (follows_times _ _ _ _).bind fun _ => follows_newList _
  · exact follows_timesTuple _ _ _
  · exact follows_timesTuple _ _ _
  · exact .throw _ _

theorem follows_arith (op : ArithOp) (v w : Value) :
    Follows R (arith op v w) (arith op v w) := by
  rw [arith]
  split
  · exact (follows_roundedOf v).bind fun x =>
      (follows_roundedOf w).bind fun y => follows_arithRounded op x y
  · exact follows_arithWhole op v w

/-! ## Comparisons -/

theorem follows_isIn (v w : Value) : Follows R (isIn v w) (isIn v w) := by
  rw [isIn.eq_def]
  split
  · split
    · exact .pure _
    · exact .throw _ _
  · split
    · exact .pure _
    · exact .throw _ _
  · split
    · split
      · exact follows_isAmong _ _
      · exact .throw _ _
    · exact .pure _
  · exact .pure _
  · exact follows_isAmong _ _
  · exact follows_isAmong _ _
  · exact (follows_left _).bind fun _ => follows_seek _ _ _
  · exact .throw _ _

theorem follows_compare (op : CompareOp) (v w : Value) :
    Follows R (compare op v w) (compare op v w) := by
  cases op with
  | equal | notEqual => exact (follows_areEqual v w).bind fun _ => .pure _
  | less =>
    exact .room_bind fun _ _ hroom =>
      (follows_orFault (Value.lessWithin_less hroom v w)).bind fun _ => .pure _
  | greater =>
    exact .room_bind fun _ _ hroom =>
      (follows_orFault (Value.lessWithin_less hroom w v)).bind fun _ => .pure _
  | isIn | notIn => exact (follows_isIn v w).bind fun _ => .pure _

/-! ## Items and members -/

theorem follows_itemAt (kind : String) (items : List α) (key : Value) :
    Follows R (itemAt kind items key) (itemAt kind items key) := by
  rw [itemAt]
  refine (follows_wholeNumber key).bind fun i => ?_
  dsimp only
  split
  · exact .throw_bind _ _ _
  · split
    · exact .pure _
    · exact .throw _ _

theorem follows_index (v key : Value) : Follows R (index v key) (index v key) := by
  rw [index.eq_def]
  split
  next vs => exact follows_itemAt "list" vs key
  next vs => exact follows_itemAt "tuple" vs key
  next s => exact (follows_itemAt "string" s key).bind fun _ => follows_cutText _
  next =>
    refine (follows_wholeNumber key).bind fun _ => ?_
    split
    · exact .pure _
    · exact .throw _ _
  next =>
    split
    · split
      · exact .pure _
      · exact (follows_shown key).bind fun _ => .throw _ _
    · exact .throw _ _
  next => exact .throw _ _

theorem follows_member (v : Value) (field : Text) :
    Follows R (member v field) (member v field) := by
  rw [member.eq_def]
  split
  -- texts, their type, and dictionaries
  next =>
    split
    · exact .pure _
    · exact .throw _ _
  next =>
    split
    · exact .pure _
    · exact .throw _ _
  next =>
    split
    · exact .pure _
    · exact .throw _ _
  -- layouts and their class
  next =>
    split
    · exact .pure _
    · split
      · exact .pure _
      · split
        · exact .pure _
        · split
          · exact .pure _
          · exact .throw _ _
  next =>
    split
    · exact .pure _
    · split
      · exact .pure _
      · split
        · exact .pure _
        · split
          · exact .pure _
          · exact .throw _ _
  -- documents
  next id =>
    split
    · exact .pure _
    · refine (follows_document id).bind fun d => ?_
      split
      · exact .pure _
      · split
        · exact .pure _
        · exact .throw _ _
  next => exact .throw _ _

/-! ## Expressions -/

variable {expand expand' : Expander}

mutual

/-- An expression that related scopes admit evaluates alike in them. -/
theorem follows_eval (h : ExpandsAlike expand expand') : ∀ e : Expr,
    Scope.Admits R e.names e.binds → Follows R (eval expand e) (eval expand' e)
  | .name x, he => follows_valueOf (he.1 x (List.mem_singleton_self x))
  | .none, _ | .bool _, _ | .int _, _ | .str _, _ => .pure _
  | .tuple items, he => (follows_evalAll h items he).bind fun _ => follows_newTuple _
  | .list items, he => (follows_evalAll h items he).bind fun _ => follows_newList _
  | .dict entries, he => (follows_evalEntries h _ entries he).bind fun _ => follows_makeDict _
  | .member object field, he => (follows_eval h object he).bind fun v => follows_member v field
  | .index object key, he => by
    obtain ⟨hobject, hkey⟩ := Scope.admits_append.1 he
    exact (follows_eval h object hobject).bind fun v =>
      (follows_eval h key hkey).bind fun k => follows_index v k
  | .call f args named, he => by
    obtain ⟨hf, hrest⟩ := Scope.admits_append.1 he
    obtain ⟨hargs, hnamed⟩ := Scope.admits_append.1 hrest
    exact (follows_eval h f hf).bind fun v => (follows_evalAll h args hargs).bind fun vs =>
      (follows_evalNamed h named hnamed).bind fun es => follows_call h v vs es
  | .negate e, he => (follows_eval h e he).bind fun v => follows_negate v
  | .not e, he => (follows_eval h e he).bind fun _ => .pure _
  | .arith op left right, he => by
    obtain ⟨hleft, hright⟩ := Scope.admits_append.1 he
    exact (follows_eval h left hleft).bind fun v =>
      (follows_eval h right hright).bind fun w => follows_arith op v w
  | .compare op left right, he => by
    obtain ⟨hleft, hright⟩ := Scope.admits_append.1 he
    exact (follows_eval h left hleft).bind fun v =>
      (follows_eval h right hright).bind fun w => follows_compare op v w
  | .and left right, he => by
    obtain ⟨hleft, hright⟩ := Scope.admits_append.1 he
    refine (follows_eval h left hleft).bind fun v => ?_
    split
    · exact follows_eval h right hright
    · exact .pure _
  | .or left right, he => by
    obtain ⟨hleft, hright⟩ := Scope.admits_append.1 he
    refine (follows_eval h left hleft).bind fun v => ?_
    split
    · exact .pure _
    · exact follows_eval h right hright
  | .choose condition yes no, he => by
    obtain ⟨hcondition, hrest⟩ := Scope.admits_append.1 he
    obtain ⟨hyes, hno⟩ := Scope.admits_append.1 hrest
    refine (follows_eval h condition hcondition).bind fun v => ?_
    split
    · exact follows_eval h yes hyes
    · exact follows_eval h no hno
  | .bind x e, he => by
    have hbinds : Scope.Binds R := he.2 rfl
    refine (follows_eval h e ⟨he.1, fun _ => hbinds⟩).bind fun v => ?_
    exact (follows_bindName hbinds x v).bind fun _ => .pure _

theorem follows_evalAll (h : ExpandsAlike expand expand') : ∀ es : List Expr,
    Scope.Admits R (namesOfAll es) (anyBinds es) →
      Follows R (evalAll expand es) (evalAll expand' es)
  | [], _ => .pure _
  | e :: rest, hes => by
    obtain ⟨he, hrest⟩ := Scope.admits_append.1 hes
    exact (follows_eval h e he).bind fun v => (follows_evalAll h rest hrest).bind fun vs => .pure _

theorem follows_evalEntries (h : ExpandsAlike expand expand') (checked : Nat) :
    ∀ es : List (Expr × Expr), Scope.Admits R (namesOfEntries es) (entriesBind es) →
      Follows R (evalEntries expand checked es) (evalEntries expand' checked es)
  | [], _ => .pure _
  | (k, e) :: rest, hes => by
    obtain ⟨hk, hes⟩ := Scope.admits_append.1 hes
    obtain ⟨he, hrest⟩ := Scope.admits_append.1 hes
    refine (follows_eval h k hk).bind fun key => (follows_eval h e he).bind fun v => ?_
    dsimp only
    split
    · exact .throw_bind _ _ _
    · exact (follows_evalEntries h (checked - 1) rest hrest).bind fun es => .pure _

theorem follows_evalNamed (h : ExpandsAlike expand expand') : ∀ es : List (Text × Expr),
    Scope.Admits R (namesOfNamed es) (namedBind es) →
      Follows R (evalNamed expand es) (evalNamed expand' es)
  | [], _ => .pure _
  | (x, e) :: rest, hes => by
    obtain ⟨he, hrest⟩ := Scope.admits_append.1 hes
    exact (follows_eval h e he).bind fun v =>
      (follows_evalNamed h rest hrest).bind fun es => .pure _

end

/-! ## Statements -/

mutual

/-- A program runs alike in scopes that agree. -/
theorem follows_exec (hR : Scope.Agrees R) (h : ExpandsAlike expand expand') :
    ∀ st : Stmt, Follows R (exec expand st) (exec expand' st)
  | .pass => .pure _
  | .run e => (follows_eval h e (hR.admits _ _)).discard
  | .assign x e =>
    (follows_eval h e (hR.admits _ _)).bind fun v => follows_bindName hR.binds x v
  | .loop x source body => by
    refine (follows_eval h source (hR.admits _ _)).bind fun v => ?_
    split
    · exact .throw _ _
    next items _ =>
      refine follows_forEach (fun w => ?_) items
      exact (follows_bindName hR.binds x w).bind fun _ => follows_execAll hR h body
  | .branch condition yes no => by
    refine (follows_eval h condition (hR.admits _ _)).bind fun v => ?_
    split
    · exact follows_execAll hR h yes
    · exact follows_execAll hR h no

theorem follows_execAll (hR : Scope.Agrees R) (h : ExpandsAlike expand expand') :
    ∀ sts : List Stmt, Follows R (execAll expand sts) (execAll expand' sts)
  | [] => .pure _
  | st :: rest => (follows_exec hR h st).bind fun _ => follows_execAll hR h rest

end

end Render

end XmlTemplate
