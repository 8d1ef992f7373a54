import XmlTemplate.Proofs.Render.Still.Call

/-!
# What an expression assigns

An expression changes the scope by the names that it binds itself, and by nothing else. `assigned`
lists them with their values, in the order in which evaluating the expression binds them: operands
from left to right, of branches only the one that is taken, and up to the first fault. After an
expression the scope is the one before with these names bound (`assigns_eval`), whether it has been
evaluated or has failed. What an expansion inside of it assigns is not among them, since an expansion
has a scope of its own (`keepsScope_expand`).
-/

set_option autoImplicit false

namespace XmlTemplate

theorem Scope.bindAll_append (scope : Scope) (xs ys : List (Text × Value)) :
    scope.bindAll (xs ++ ys) = (scope.bindAll xs).bindAll ys :=
  List.foldl_append

namespace Render

open Script (Expr)

variable {α β : Type} {p : Render α}

/-! ## Assignments of renderings -/

/-- The names that a rendering binds, with their values, for each state that it starts from. -/
abbrev Assignments := RenderState → List (Text × Value)

/-- What a rendering goes through from a state, and then what comes after it goes through if it
succeeds. -/
def followed {γ : Type} (p : Render α) (here : RenderState → List γ)
    (later : α → RenderState → List γ) : RenderState → List γ := fun s =>
  here s ++ match p s with
    | .ok a s' => later a s'
    | .error _ _ => []

/-- A rendering that changes the scope by the given assignments, however it ends. -/
def Assigns (p : Render α) (here : Assignments) : Prop :=
  ∀ s, (stateAfter p s).scope = s.scope.bindAll (here s)

theorem Preserves.assigns (hp : Preserves RenderState.scope p) : Assigns p fun _ => [] := hp

theorem Assigns.bind {f : α → Render β} {here : Assignments} {later : α → Assignments}
    (hp : Assigns p here) (hf : ∀ a, Assigns (f a) (later a)) :
    Assigns (p >>= f) (followed p here later) := by
  intro s
  have hscope := hp s
  rw [followed, Scope.bindAll_append, ← hscope]
  cases hrun : p s with
  | ok a s₁ =>
    rw [stateAfter_of_ok hrun, stateAfter, bind_of_ok hrun]
    exact hf a s₁
  | error e s₁ =>
    rw [stateAfter_of_error hrun, stateAfter_of_error (bind_of_error hrun f)]
    rfl

/-- What comes after may leave the scope as it is. -/
theorem Assigns.andThen {f : α → Render β} {here : Assignments} (hp : Assigns p here)
    (hf : ∀ a, Preserves RenderState.scope (f a)) : Assigns (p >>= f) here := by
  intro s
  have hscope := hp.bind (fun a => (hf a).assigns) s
  have hnone : followed p here (fun _ _ => []) s = here s := by
    rw [followed]
    cases p s <;> exact List.append_nil _
  rwa [hnone] at hscope

theorem Assigns.takingRoom {here : Assignments} (hp : Assigns p here) (taken : Nat) :
    Assigns (takingRoom taken p) fun s => here { s with room := s.room - taken } := by
  intro s
  have hscope := hp { s with room := s.room - taken }
  cases hrun : p { s with room := s.room - taken } with
  | ok a s' =>
    rw [stateAfter_of_ok hrun] at hscope
    rw [stateAfter_of_ok (takingRoom_of_ok hrun)]
    exact hscope
  | error e s' =>
    rw [stateAfter_of_error hrun] at hscope
    rw [stateAfter_of_error (takingRoom_of_error hrun)]
    exact hscope

theorem assigns_bindName (x : Text) (v : Value) :
    Assigns (bindName x v) fun _ => [(x, v)] := fun _ => rfl

/-! ## Expressions -/

mutual

/-- The names that an expression binds, in order, with the values that they are bound to. -/
def assigned (expand : Expander) : Expr → Assignments
  | .name _ | .none | .bool _ | .int _ | .str _ => fun _ => []
  | .tuple items | .list items => assignedAll expand items
  | .dict entries => assignedEntries expand (checkedEntries entries.length) entries
  | .member e _ | .negate e | .not e => assigned expand e
  | .index left right | .arith _ left right | .compare _ left right =>
    followed (eval expand left) (assigned expand left) fun _ => assigned expand right
  | .call f args named =>
    followed (eval expand f) (assigned expand f) fun _ =>
      followed (evalAll expand args) (assignedAll expand args) fun _ => assignedNamed expand named
  | .and left right =>
    followed (eval expand left) (assigned expand left) fun v =>
      if v.isTrue then assigned expand right else fun _ => []
  | .or left right =>
    followed (eval expand left) (assigned expand left) fun v =>
      if v.isTrue then fun _ => [] else assigned expand right
  | .choose condition yes no =>
    followed (eval expand condition) (assigned expand condition) fun v =>
      if v.isTrue then assigned expand yes else assigned expand no
  | .bind x e => followed (eval expand e) (assigned expand e) fun v _ => [(x, v)]

/-- The names that expressions bind one after the other. -/
def assignedAll (expand : Expander) : List Expr → Assignments
  | [] => fun _ => []
  | e :: rest => followed (eval expand e) (assigned expand e) fun _ => assignedAll expand rest

/-- The names that the keys and values of a dictionary bind. A key that is checked at once and is
not fit for the dictionary ends them. -/
def assignedEntries (expand : Expander) (checked : Nat) : List (Expr × Expr) → Assignments
  | [] => fun _ => []
  | (k, e) :: rest =>
    followed (eval expand k) (assigned expand k) fun key =>
      followed (eval expand e) (assigned expand e) fun _ =>
        if checked ≠ 0 && !key.isKey then fun _ => []
        else assignedEntries expand (checked - 1) rest

/-- The names that arguments given by name bind. -/
def assignedNamed (expand : Expander) : List (Text × Expr) → Assignments
  | [] => fun _ => []
  | (_, e) :: rest =>
    followed (eval expand e) (assigned expand e) fun _ => assignedNamed expand rest

end

section Eval

variable {expand : Expander}

mutual

/-- An expression changes the scope by what it assigns, whether it is evaluated or fails. -/
theorem assigns_eval (h : KeepsScope expand) : ∀ e : Expr,
    Assigns (eval expand e) (assigned expand e)
  | .name x => (still_valueOf x).scope.assigns
  | .none | .bool _ | .int _ | .str _ => Preserves.assigns (.pure _)
  | .tuple items => (assigns_evalAll h items).andThen fun vs => (still_newTuple vs).scope
  | .list items => (assigns_evalAll h items).andThen fun vs => (still_newList vs).scope
  | .dict entries => (assigns_evalEntries h _ entries).andThen fun es => (still_makeDict es).scope
  | .member e field => (assigns_eval h e).andThen fun v => (still_member v field).scope
  | .negate e => (assigns_eval h e).andThen fun v => (still_negate v).scope
  | .not e => (assigns_eval h e).andThen fun _ => .pure _
  | .index left right => by
    refine (assigns_eval h left).bind fun v => ?_
    exact (assigns_eval h right).andThen fun w => (still_index v w).scope
  | .arith op left right => by
    refine (assigns_eval h left).bind fun v => ?_
    exact (assigns_eval h right).andThen fun w => (still_arith op v w).scope
  | .compare op left right => by
    refine (assigns_eval h left).bind fun v => ?_
    exact (assigns_eval h right).andThen fun w => (still_compare op v w).scope
  | .call f args named => by
    refine (assigns_eval h f).bind fun v => (assigns_evalAll h args).bind fun vs => ?_
    exact (assigns_evalNamed h named).andThen fun es => preserves_call h v vs es
  | .and left right => by
    refine (assigns_eval h left).bind fun v => ?_
    split
    · exact assigns_eval h right
    · exact Preserves.assigns (.pure _)
  | .or left right => by
    refine (assigns_eval h left).bind fun v => ?_
    split
    · exact Preserves.assigns (.pure _)
    · exact assigns_eval h right
  | .choose condition yes no => by
    refine (assigns_eval h condition).bind fun v => ?_
    split
    · exact assigns_eval h yes
    · exact assigns_eval h no
  | .bind x e => by
    refine (assigns_eval h e).bind fun v => ?_
    exact (assigns_bindName x v).andThen fun _ => .pure _

theorem assigns_evalAll (h : KeepsScope expand) : ∀ es : List Expr,
    Assigns (evalAll expand es) (assignedAll expand es)
  | [] => Preserves.assigns (.pure _)
  | e :: rest => by
    refine (assigns_eval h e).bind fun v => ?_
    exact (assigns_evalAll h rest).andThen fun vs => .pure _

theorem assigns_evalEntries (h : KeepsScope expand) (checked : Nat) : ∀ es : List (Expr × Expr),
    Assigns (evalEntries expand checked es) (assignedEntries expand checked es)
  | [] => Preserves.assigns (.pure _)
  | (k, e) :: rest => by
    refine (assigns_eval h k).bind fun key => (assigns_eval h e).bind fun v => ?_
    dsimp only
    split
    · exact Preserves.assigns (.throw_bind _)
    · exact (assigns_evalEntries h (checked - 1) rest).andThen fun es => .pure _

theorem assigns_evalNamed (h : KeepsScope expand) : ∀ es : List (Text × Expr),
    Assigns (evalNamed expand es) (assignedNamed expand es)
  | [] => Preserves.assigns (.pure _)
  | (_, e) :: rest => by
    refine (assigns_eval h e).bind fun v => ?_
    exact (assigns_evalNamed h rest).andThen fun es => .pure _

end

end Eval

/-! ## Expansions -/

/-- An expansion leaves the scope around it as it is. -/
theorem keepsScope_expandWithin (room : Nat) : KeepsScope (expandWithin room) := by
  intro source names settings hnames
  rw [expandWithin]
  refine (still_compile _ source settings).scope.bind fun compiled => hnames.bind fun scope => ?_
  exact preserves_inScope scope _

theorem keepsScope_expand : KeepsScope expand := by
  intro source names settings hnames
  exact Preserves.room.bind fun room => keepsScope_expandWithin room source names settings hnames

end Render

end XmlTemplate
