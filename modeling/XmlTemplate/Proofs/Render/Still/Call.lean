import XmlTemplate.Proofs.Render.Still
import XmlTemplate.Render.Template

/-!
# Operators and calls work on the store alone

What operators, functions and methods do with values leaves the scope and the room as they are
(`still_arith`, `still_member`, `still_callDocument` and so on), but for the function that expands a
template. That one leaves the scope as it is, if the expander does (`KeepsScope`), and so does every
call (`preserves_call`).
-/

set_option autoImplicit false

namespace XmlTemplate

namespace Render

open Script (ArithOp CompareOp)

variable {α β : Type}

/-! ## Operators -/

theorem still_times (items : List α) (n limit : Int) (fault : Fault) :
    Still (times items n limit fault) := by
  rw [times]
  split
  · exact .throw _
  · split
    · exact .pure _
    · split
      · exact .throw _
      · split
        · exact .throw _
        · exact .pure _

theorem still_timesText (mark : Mark) (s : Text) (n : Int) : Still (timesText mark s n) := by
  rw [timesText]
  split
  · exact .pure _
  · exact (still_times s n _ _).bind fun _ => still_newText _

theorem still_timesTuple (mark : Mark) (vs : List Value) (n : Int) :
    Still (timesTuple mark vs n) := by
  rw [timesTuple]
  split
  · exact .pure _
  · exact (still_times vs n _ _).bind fun _ => still_newTuple _

theorem still_appendText (mark : Mark) (s : Text) (mark' : Mark) (t : Text) :
    Still (appendText mark s mark' t) := by
  rw [appendText]
  split
  · exact .pure _
  · split
    · exact .pure _
    · exact still_newText _

theorem still_appendTuple (mark : Mark) (vs : List Value) (mark' : Mark) (ws : List Value) :
    Still (appendTuple mark vs mark' ws) := by
  rw [appendTuple]
  split
  · exact .pure _
  · split
    · exact .pure _
    · exact still_newTuple _

theorem still_divide (op : ArithOp) (a b : Int) : Still (divide op a b) := by
  rw [divide.eq_def]
  split
  · split
    · exact .throw _
    · split
      · exact .pure _
      · exact .throw _
  all_goals
    split
    · exact .throw _
    · exact .pure _

theorem still_roundedOf (v : Value) : Still (roundedOf v) := by
  rw [roundedOf.eq_def]
  split
  · exact .pure _
  · split
    · exact .pure _
    · exact .throw _
  · split
    · exact .throw _
    · split
      · exact .pure _
      · exact .throw _

theorem still_ofRounded (x : Rounded) : Still (ofRounded x) := by
  rw [ofRounded.eq_def]
  split
  · exact still_fresh.bind fun _ => .pure _
  · exact .pure _

theorem still_arithRounded (op : ArithOp) (x y : Rounded) : Still (arithRounded op x y) := by
  cases op with
  | add | sub | mul => exact still_ofRounded _
  | quotient | floorQuotient | remainder =>
    rw [arithRounded]
    split
    · exact .throw _
    · exact still_ofRounded _

theorem still_wholeNumber (v : Value) : Still (wholeNumber v) := by
  rw [wholeNumber]
  split
  · exact .pure _
  · exact .throw _

theorem still_negate (v : Value) : Still (negate v) := by
  rw [negate]
  split
  · exact (still_roundedOf v).bind fun _ => still_ofRounded _
  · exact (still_wholeNumber v).bind fun _ => .pure _

theorem still_arithWhole (op : ArithOp) (v w : Value) : Still (arithWhole op v w) := by
  rw [arithWhole.eq_def]
  split
  -- sums, differences and products of numbers, and their quotients
  · exact .pure _
  · exact .pure _
  · exact .pure _
  · exact still_divide _ _ _
  -- sequences in a row
  · exact still_appendText _ _ _ _
  · exact still_newList _
  · exact still_appendTuple _ _ _ _
  -- sequences repeated
  · exact still_timesText _ _ _
  · exact still_timesText _ _ _
  · exact (still_times _ _ _ _).bind fun _ => still_newList _
  · exact (still_times _ _ _ _).bind fun _ => still_newList _
  · exact still_timesTuple _ _ _
  · exact still_timesTuple _ _ _
  · exact .throw _

theorem still_arith (op : ArithOp) (v w : Value) : Still (arith op v w) := by
  rw [arith]
  split
  · exact (still_roundedOf v).bind fun x => (still_roundedOf w).bind fun y =>
      still_arithRounded op x y
  · exact still_arithWhole op v w

theorem still_isIn (v w : Value) : Still (isIn v w) := by
  rw [isIn.eq_def]
  split
  · split
    · exact .pure _
    · exact .throw _
  · split
    · exact .pure _
    · exact .throw _
  · split
    · split
      · exact still_isAmong _ _
      · exact .throw _
    · exact .pure _
  · exact .pure _
  · exact still_isAmong _ _
  · exact still_isAmong _ _
  · exact (still_left _).bind fun _ => still_seek _ _ _
  · exact .throw _

theorem still_compare (op : CompareOp) (v w : Value) : Still (compare op v w) := by
  cases op with
  | equal | notEqual => exact (still_areEqual v w).bind fun _ => .pure _
  | less | greater =>
    exact Preserves.room.bind fun _ => (still_orFault _).bind fun _ => .pure _
  | isIn | notIn => exact (still_isIn v w).bind fun _ => .pure _

theorem still_itemAt (kind : String) (items : List α) (key : Value) :
    Still (itemAt kind items key) := by
  rw [itemAt]
  refine (still_wholeNumber key).bind fun i => ?_
  dsimp only
  split
  · exact .throw_bind _
  · split
    · exact .pure _
    · exact .throw _

theorem still_index (v key : Value) : Still (index v key) := by
  rw [index.eq_def]
  split
  · exact still_itemAt "list" _ key
  · exact still_itemAt "tuple" _ key
  · exact (still_itemAt "string" _ key).bind fun _ => still_cutText _
  · refine (still_wholeNumber key).bind fun _ => ?_
    split
    · exact .pure _
    · exact .throw _
  · split
    · split
      · exact .pure _
      · exact (still_shown key).bind fun _ => .throw _
    · exact .throw _
  · exact .throw _

theorem still_member (v : Value) (field : Text) : Still (member v field) := by
  rw [member.eq_def]
  split
  -- texts, their type, and dictionaries have methods
  · split
    · exact .pure _
    · exact .throw _
  · split
    · exact .pure _
    · exact .throw _
  · exact .choice (.throw _)
  -- layouts and the type of layouts
  · exact .choice (.choice (.choice (.choice (.throw _))))
  · exact .choice (.choice (.choice (.choice (.throw _))))
  -- documents
  · split
    · exact .pure _
    · exact (still_document _).bind fun d => .choice (.choice (.throw _))
  · exact .throw _

/-! ## Methods of documents -/

theorem still_argumentsOf (parameters : List (Text × Option Value)) (args : List Value)
    (named : List (Text × Value)) : Still (argumentsOf parameters args named) := by
  rw [argumentsOf]
  split
  · exact .pure _
  · exact .throw _

theorem still_nameParts (vs : List Value) : Still (nameParts vs) := by
  induction vs with
  | nil => exact .pure _
  | cons v rest ih =>
    rw [nameParts.eq_def]
    split
    · exact .pure _
    next heq =>
      cases heq
      split
      · exact ih
      · exact .pure _
    · exact .throw _

theorem still_nameOf (v : Value) : Still (nameOf v) := by
  have hfaulty : Still (do throw (.violation (.invalidName (← display v))) :
      Render (Option Text)) := (still_display v).bind fun _ => .throw _
  rw [nameOf.eq_def]
  dsimp only
  generalize (do throw (.violation (.invalidName (← display v))) : Render (Option Text)) = faulty
    at hfaulty ⊢
  have hparts (c : Char) (rest : List Value) : Still
      (if isNameStart c.toNat = true then do
        if ← nameParts rest then return none else faulty
      else faulty) := by
    split
    · exact (still_nameParts rest).bind fun b => .choice hfaulty
    · exact hfaulty
  split
  · exact .choice hfaulty
  · split
    · exact hfaulty
    · split
      · exact hparts _ _
      · exact hparts _ _
      · split
        · exact .throw _
        · split
          · exact .throw _
          · exact hfaulty
        · exact .throw _
      · exact .throw _

theorem still_writeAttribute (id : Nat) (name : Option Text) (v : Value) :
    Still (writeAttribute id name v) :=
  (still_changeDocument id _).bind fun _ => (still_display v).bind fun _ =>
    still_changeDocument id _

theorem still_leaveElement (id : Nat) (f : Document → Except Violation Document) :
    Still (leaveElement id f) := by
  refine (still_document id).bind fun d => ?_
  dsimp only
  split
  · exact .throw_bind _
  · exact still_changeDocument id f

theorem still_writePair (id : Nat) (pair : Value) : Still (writePair id pair) := by
  refine (still_unpackPair pair).bind fun ⟨n, v⟩ => (still_display n).bind fun name => ?_
  refine (still_writeAttribute id (some name) v).bind fun _ => ?_
  split
  · exact .throw _
  · exact .pure _

theorem still_writeAttributes (id : Nat) (v : Value) : Still (writeAttributes id v) := by
  rw [writeAttributes.eq_def]
  split
  · exact still_forItems (still_writePair id) _
  · split
    · exact still_forEach (still_writePair id) _
    · exact .throw _

theorem still_callDocument (m : DocumentMethod) (id : Nat) (args : List Value) :
    Still (callDocument m id args) := by
  rw [callDocument.eq_def]
  split
  -- a tag is begun, and attributes are written
  next n =>
    exact (still_nameOf n).bind fun _ => (still_changeDocument id _).bind fun _ => .pure _
  next n v =>
    exact (still_nameOf n).bind fun _ => (still_writeAttribute id _ v).bind fun _ => .pure _
  next v => exact (still_writeAttributes id v).bind fun _ => .pure _
  -- a tag is finished, before a content and without one
  next => exact (still_changeDocument id _).bind fun _ => .pure _
  next => exact (still_changeDocument id _).bind fun _ => .pure _
  -- an element is ended
  next n =>
    refine (still_nameOf n).bind fun _ => (still_display n).bind fun _ => ?_
    exact (still_leaveElement id _).bind fun _ => .pure _
  -- a text is written, and the whole text is read
  next v => exact (still_display v).bind fun _ => (still_changeDocument id _).bind fun _ => .pure _
  next => exact (still_readDocument id).bind fun _ => still_newText _
  next => exact (still_readComplete id).bind fun _ => still_newText _
  next => exact .throw _

/-! ## Functions -/

theorem still_layoutOf (v : Value) : Still (layoutOf v) := by
  rw [layoutOf.eq_def]
  split
  · exact .pure _
  · exact .pure _
  · exact .throw _

theorem still_length (v : Value) : Still (length v) := by
  rw [length.eq_def]
  split
  case h_6 => exact .choice (.throw _)
  case h_7 => exact .throw _
  all_goals exact .pure _

theorem still_makeRange (bounds : List Value) : Still (makeRange bounds) := by
  rw [makeRange.eq_def]
  split
  next stop => exact (still_wholeNumber stop).bind fun _ => .pure _
  next first stop =>
    exact (still_wholeNumber first).bind fun _ => (still_wholeNumber stop).bind fun _ => .pure _
  next first stop step =>
    refine (still_wholeNumber first).bind fun _ => (still_wholeNumber stop).bind fun _ => ?_
    refine (still_wholeNumber step).bind fun _ => ?_
    split
    · exact .throw _
    · exact .pure _
  next => exact .throw _

theorem still_bindingOf (place : Nat) (item : Value) : Still (bindingOf place item) := by
  rw [bindingOf]
  split
  · exact .throw _
  · refine (still_allItems _).bind fun vs => ?_
    split
    · exact .choice (.throw _)
    · exact .throw _

theorem still_bindingsOf (place : Nat) (items : List Value) : Still (bindingsOf place items) := by
  induction items generalizing place with
  | nil => exact .pure _
  | cons item rest ih =>
    exact (still_bindingOf place item).bind fun _ => (ih (place + 1)).bind fun _ => .pure _

theorem still_bindingsLeft (id place rounds : Nat) : Still (bindingsLeft id place rounds) := by
  induction rounds generalizing place with
  | zero => exact .pure _
  | succ rounds ih =>
    refine (still_next? id).bind fun item? => ?_
    cases item? with
    | none => exact .pure _
    | some item =>
      exact (still_bindingOf place item).bind fun _ => (ih (place + 1)).bind fun _ => .pure _

theorem still_scopeOf (v : Value) : Still (scopeOf v) := by
  rw [scopeOf.eq_def]
  dsimp only
  split
  · exact .pure _
  · exact .pure _
  · split
    · exact (still_bindingsOf 0 _).bind fun _ => .pure _
    · split
      · exact .pure _
      · exact .throw_bind _
    · exact (still_left _).bind fun n => (still_bindingsLeft _ 0 n).bind fun _ => .pure _
    · exact .throw_bind _

theorem still_sourceOf (v : Value) : Still (sourceOf v) := by
  rw [sourceOf.eq_def]
  split
  · exact .pure _
  · exact .pure _
  · dsimp only
    split
    · exact .pure _
    · split
      · exact .throw _
      · exact .throw _
  · exact .throw _

theorem still_checkReading (v : Value) : Still (checkReading v) := by
  rw [checkReading.eq_def]
  split
  · split
    · exact .throw _
    · exact .pure _
  · exact .throw _

theorem still_textOf (v : Value) : Still (textOf v) := by
  rw [textOf.eq_def]
  split
  · exact .pure _
  · exact (still_display _).bind fun _ => .pure _
  · exact (still_display _).bind fun _ => still_newText _

theorem still_callText (args : List Value) (named : List (Text × Value)) :
    Still (callText args named) := by
  have htext (v : Value) (b c : Bool) : Still
      (if (!b) = true then return .str none []
        else if c = true then throw .unsuitable else textOf v) := by
    refine .choice ?_
    split
    · exact .throw _
    · exact still_textOf v
  have herrors (v errors : Value) (b c d : Bool) : Still
      (if d = true then do
        checkReading errors
        if (!b) = true then return .str none []
          else if (c || d) = true then throw .unsuitable else textOf v
      else if (!b) = true then return .str none []
        else if (c || d) = true then throw .unsuitable else textOf v) := by
    split
    · exact (still_checkReading errors).bind fun _ => htext v _ _
    · exact htext v _ _
  rw [callText]
  refine (still_argumentsOf _ args named).bind fun bound => ?_
  dsimp only
  split
  · split
    · exact (still_checkReading _).bind fun _ => herrors _ _ _ _ _
    · exact herrors _ _ _ _ _
  · exact .throw _

theorem still_callTextMethod (m : TextMethod) (mark : Mark) (t : Text) (args : List Value)
    (named : List (Text × Value)) : Still (callTextMethod m mark t args named) := by
  have hcut (u : Text) : Still (if u = t then return .str mark t else cutText u) :=
    .choice (still_cutText u)
  rw [callTextMethod.eq_def]
  dsimp only
  split
  · exact still_newText _
  · exact still_newText _
  · exact hcut _
  · exact hcut _
  · exact hcut _
  · exact .throw _

/-! ## Calls -/

/-- An expander that leaves the scope of its caller as it is, where the names that it is given do. -/
def KeepsScope (expand : Expander) : Prop :=
  ∀ source names settings, Preserves RenderState.scope names →
    Preserves RenderState.scope (expand source names settings)

variable {expand : Expander}

theorem preserves_callExpand (h : KeepsScope expand) (args : List Value)
    (named : List (Text × Value)) : Preserves RenderState.scope (callExpand expand args named) := by
  have hrun (source names : Value) (settings : Settings) :
      Preserves RenderState.scope (if settings.isKey = true then do
        expand (← sourceOf source) (do
          return (← scopeOf names).bindAll (named.filter fun e => e.1 ≠ "options".toList)) settings
      else throw .unsuitable) := by
    split
    · refine (still_sourceOf source).scope.bind fun text => h text _ settings ?_
      exact Still.scope ((still_scopeOf names).bind fun scope => .pure _)
    · exact .throw _
  rw [callExpand.eq_def]
  dsimp only
  split
  · exact hrun _ _ _
  · exact hrun _ _ _
  · exact .throw _

/-- A call leaves the scope as it is. -/
theorem preserves_call (h : KeepsScope expand) (f : Value) (args : List Value)
    (named : List (Text × Value)) : Preserves RenderState.scope (call expand f args named) := by
  rw [call.eq_def]
  split
  -- functions: length, text, range, expansion, methods of texts
  next =>
    split
    · exact (still_length _).scope
    · exact .throw _
  next => exact (still_callText args named).scope
  next =>
    split
    · exact (still_makeRange args).scope
    · exact .throw _
  next => exact preserves_callExpand h args named
  next =>
    split
    · exact (still_callTextMethod _ _ _ _ _).scope
    · exact .throw _
  -- layouts
  next =>
    refine Still.scope ((still_argumentsOf _ args named).bind fun vs => ?_)
    split
    · exact .pure _
    · exact .throw _
  next => exact Still.scope ((still_argumentsOf _ args named).discard.bind fun _ => .pure _)
  next =>
    refine Still.scope ((still_argumentsOf _ args named).bind fun vs => ?_)
    split
    · exact .pure _
    · exact .throw _
  -- methods of values
  next => exact (still_callTextMethod _ _ _ _ _).scope
  next => exact Still.scope ((still_argumentsOf _ args named).discard.bind fun _ => .pure _)
  next => exact Still.scope ((still_argumentsOf _ args named).bind fun _ =>
    still_callDocument _ _ _)
  next => exact .throw _

end Render

end XmlTemplate
