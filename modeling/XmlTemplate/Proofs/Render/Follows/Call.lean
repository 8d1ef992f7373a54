import XmlTemplate.Proofs.Render.Follows.Iteration
import XmlTemplate.Render.Call

/-!
# Following calls

A function or a method does the same for the same arguments. An expansion is followed by one of
which it is assumed here that it expands alike (`ExpandsAlike`): given names that follow each other,
the two expansions do so too.
-/

set_option autoImplicit false

namespace XmlTemplate

namespace Render

variable {R : Scope → Scope → Prop}

/-! ## Writing into a document -/

theorem follows_argumentsOf (parameters : List (Text × Option Value)) (args : List Value)
    (named : List (Text × Value)) :
    Follows R (argumentsOf parameters args named) (argumentsOf parameters args named) := by
  rw [argumentsOf]
  split
  · exact .pure _
  · exact .throw _ _

theorem follows_nameParts (vs : List Value) : Follows R (nameParts vs) (nameParts vs) := by
  induction vs with
  | nil => exact .pure _
  | cons v rest ih =>
    rw [nameParts.eq_def]
    split
    · exact .pure _
    next heq =>
      cases heq
      split
      · exact ih
      · exact .pure _
    · exact .throw _ _

theorem follows_nameOf (v : Value) : Follows R (nameOf v) (nameOf v) := by
  have hfaulty : Follows R
      (do throw (.violation (.invalidName (← display v))) : Render (Option Text))
      (do throw (.violation (.invalidName (← display v)))) :=
    (follows_display v).bind fun _ => .throw _ _
  rw [nameOf.eq_def]
  dsimp only
  generalize (do throw (.violation (.invalidName (← display v))) : Render (Option Text)) = faulty
    at hfaulty ⊢
  have hparts (c : Char) (rest : List Value) : Follows R
      (if isNameStart c.toNat = true then do
        if ← nameParts rest then return none else faulty
      else faulty)
      (if isNameStart c.toNat = true then do
        if ← nameParts rest then return none else faulty
      else faulty) := by
    split
    · refine (follows_nameParts rest).bind fun b => ?_
      split
      · exact .pure _
      · exact hfaulty
    · exact hfaulty
  split
  next =>
    split
    · exact .pure _
    · exact hfaulty
  next =>
    split
    · exact hfaulty
    · split
      · exact hparts _ _
      · exact hparts _ _
      · split
        · exact .throw _ _
        · split
          · exact .throw _ _
          · exact hfaulty
        · exact .throw _ _
      · exact .throw _ _

theorem follows_writeAttribute (id : Nat) (name : Option Text) (v : Value) :
    Follows R (writeAttribute id name v) (writeAttribute id name v) :=
  (follows_changeDocument id _).bind fun _ =>
    (follows_display v).bind fun _ => follows_changeDocument id _

theorem follows_leaveElement (id : Nat) (f : Document → Except Violation Document) :
    Follows R (leaveElement id f) (leaveElement id f) := by
  refine (follows_document id).bind fun d => ?_
  dsimp only
  split
  · exact .throw_bind _ _ _
  · exact follows_changeDocument id f

theorem follows_writePair (id : Nat) (pair : Value) :
    Follows R (writePair id pair) (writePair id pair) := by
  refine (follows_unpackPair pair).bind fun ⟨n, v⟩ => ?_
  refine (follows_display n).bind fun name => ?_
  refine (follows_writeAttribute id (some name) v).bind fun _ => ?_
  split
  · exact .throw _ _
  · exact .pure _

theorem follows_writeAttributes (id : Nat) (v : Value) :
    Follows R (writeAttributes id v) (writeAttributes id v) := by
  rw [writeAttributes.eq_def]
  split
  · exact follows_forItems (follows_writePair id) _
  · split
    · exact follows_forEach (follows_writePair id) _
    · exact .throw _ _

theorem follows_callDocument (m : DocumentMethod) (id : Nat) (args : List Value) :
    Follows R (callDocument m id args) (callDocument m id args) := by
  have hchange (f : Document → Except Violation Document) : Follows R
      (do changeDocument id f; return Value.none) (do changeDocument id f; return Value.none) :=
    (follows_changeDocument id f).bind fun _ => .pure _
  rw [callDocument.eq_def]
  split
  next n => exact (follows_nameOf n).bind fun _ => hchange _
  next n v =>
    exact (follows_nameOf n).bind fun _ => (follows_writeAttribute id _ v).bind fun _ => .pure _
  next v => exact (follows_writeAttributes id v).bind fun _ => .pure _
  next => exact hchange _
  next => exact hchange _
  next n =>
    refine (follows_nameOf n).bind fun _ => (follows_display n).bind fun _ => ?_
    exact (follows_leaveElement id _).bind fun _ => .pure _
  next v => exact (follows_display v).bind fun _ => hchange _
  next => exact (follows_readDocument id).bind fun _ => follows_newText _
  next => exact (follows_readComplete id).bind fun _ => follows_newText _
  next => exact .throw _ _

theorem follows_length (v : Value) : Follows R (length v) (length v) := by
  rw [length.eq_def]
  split
  case h_6 =>
    dsimp only
    split
    · exact .pure _
    · exact .throw _ _
  case h_7 => exact .throw _ _
  all_goals exact .pure _

theorem follows_wholeNumber (v : Value) : Follows R (wholeNumber v) (wholeNumber v) := by
  rw [wholeNumber]
  split
  · exact .pure _
  · exact .throw _ _

theorem follows_makeRange (bounds : List Value) :
    Follows R (makeRange bounds) (makeRange bounds) := by
  rw [makeRange.eq_def]
  split
  next stop => exact (follows_wholeNumber stop).bind fun _ => .pure _
  next first stop =>
    exact (follows_wholeNumber first).bind fun _ => (follows_wholeNumber stop).bind fun _ => .pure _
  next first stop step =>
    refine (follows_wholeNumber first).bind fun _ => ?_
    refine (follows_wholeNumber stop).bind fun _ => (follows_wholeNumber step).bind fun _ => ?_
    split
    · exact .throw _ _
    · exact .pure _
  next => exact .throw _ _

/-! ## Expansions -/

theorem follows_bindingOf (place : Nat) (item : Value) :
    Follows R (bindingOf place item) (bindingOf place item) := by
  rw [bindingOf]
  split
  · exact .throw _ _
  next source _ =>
    refine (follows_allItems source).bind fun vs => ?_
    split
    · split
      · exact .pure _
      · exact .throw _ _
    · exact .throw _ _

theorem follows_bindingsOf (place : Nat) (items : List Value) :
    Follows R (bindingsOf place items) (bindingsOf place items) := by
  induction items generalizing place with
  | nil => exact .pure _
  | cons item rest ih =>
    exact (follows_bindingOf place item).bind fun e => (ih (place + 1)).bind fun es => .pure _

theorem follows_bindingsLeft (id place rounds : Nat) :
    Follows R (bindingsLeft id place rounds) (bindingsLeft id place rounds) := by
  induction rounds generalizing place with
  | zero => exact .pure _
  | succ rounds ih =>
    refine (follows_next? id).bind fun item? => ?_
    cases item? with
    | none => exact .pure _
    | some item =>
      exact (follows_bindingOf place item).bind fun e => (ih (place + 1)).bind fun es => .pure _

theorem follows_scopeOf (v : Value) : Follows R (scopeOf v) (scopeOf v) := by
  rw [scopeOf.eq_def]
  dsimp only
  split
  · exact .pure _
  · exact .pure _
  · split
    next vs _ => exact (follows_bindingsOf 0 vs).bind fun _ => .pure _
    next =>
      split
      · exact .pure _
      · exact .throw_bind _ _ _
    next id _ =>
      exact (follows_left id).bind fun n => (follows_bindingsLeft id 0 n).bind fun _ => .pure _
    next => exact .throw_bind _ _ _

theorem follows_sourceOf (v : Value) : Follows R (sourceOf v) (sourceOf v) := by
  rw [sourceOf.eq_def]
  split
  · exact .pure _
  · exact .pure _
  · dsimp only
    split
    · exact .pure _
    · split
      · exact .throw _ _
      · exact .throw _ _
  · exact .throw _ _

/-- The second function expands templates as the first one does, or it finds too little room. -/
def ExpandsAlike (expand expand' : Expander) : Prop :=
  ∀ (R : Scope → Scope → Prop) (source : Text) (names names' : Render Scope) (settings : Settings),
    settings.IsAsked → Follows R names names' →
      Follows R (expand source names settings) (expand' source names' settings)

theorem isAsked_settingsOf (v? : Option Value) : (settingsOf v?).IsAsked := by
  cases v? with
  | none => exact .default
  | some v =>
    rw [settingsOf]
    split
    · exact .value v
    · exact .default

theorem follows_callExpand {expand expand' : Expander} (h : ExpandsAlike expand expand')
    (args : List Value) (named : List (Text × Value)) :
    Follows R (callExpand expand args named) (callExpand expand' args named) := by
  have hrun (source names : Value) (values : Scope) (settings : Settings)
      (hasked : settings.IsAsked) : Follows R
      (do expand (← sourceOf source) (do return (← scopeOf names).bindAll values) settings)
      (do expand' (← sourceOf source) (do return (← scopeOf names).bindAll values) settings) :=
    (follows_sourceOf source).bind fun text =>
      h R text _ _ settings hasked ((follows_scopeOf names).bind fun _ => .pure _)
  have hasked := isAsked_settingsOf (named.lookup "options".toList)
  rw [callExpand.eq_def, callExpand.eq_def]
  dsimp only
  split
  · split
    · exact hrun _ _ _ _ hasked
    · exact .throw _ _
  · split
    · exact hrun _ _ _ _ hasked
    · exact .throw _ _
  · exact .throw _ _

/-! ## Texts -/

theorem follows_checkReading (v : Value) : Follows R (checkReading v) (checkReading v) := by
  rw [checkReading.eq_def]
  split
  · split
    · exact .throw _ _
    · exact .pure _
  · exact .throw _ _

theorem follows_textOf (v : Value) : Follows R (textOf v) (textOf v) := by
  rw [textOf.eq_def]
  split
  · exact .pure _
  · exact (follows_display _).bind fun _ => .pure _
  · exact (follows_display _).bind fun _ => follows_newText _

theorem follows_callText (args : List Value) (named : List (Text × Value)) :
    Follows R (callText args named) (callText args named) := by
  have hcheck {p : Render Value} (b : Bool) (v : Value) (hp : Follows R p p) : Follows R
      (if b = true then do checkReading v; p else p)
      (if b = true then do checkReading v; p else p) := by
    split
    · exact (follows_checkReading v).bind fun _ => hp
    · exact hp
  rw [callText]
  refine (follows_argumentsOf _ args named).bind fun bound => ?_
  dsimp only
  split
  · refine hcheck _ _ (hcheck _ _ ?_)
    split
    · exact .pure _
    · split
      · exact .throw _ _
      · exact follows_textOf _
  · exact .throw _ _

theorem follows_callTextMethod (m : TextMethod) (mark : Mark) (t : Text) (args : List Value)
    (named : List (Text × Value)) :
    Follows R (callTextMethod m mark t args named) (callTextMethod m mark t args named) := by
  have hcut (u : Text) : Follows R (if u = t then return .str mark t else cutText u)
      (if u = t then return .str mark t else cutText u) := by
    split
    · exact .pure _
    · exact follows_cutText u
  rw [callTextMethod.eq_def]
  dsimp only
  split
  · exact follows_newText _
  · exact follows_newText _
  · exact hcut _
  · exact hcut _
  · exact hcut _
  · exact .throw _ _

/-! ## Calls -/

/-- Calls follow each other if expansions do. -/
theorem follows_call {expand expand' : Expander} (h : ExpandsAlike expand expand') (f : Value)
    (args : List Value) (named : List (Text × Value)) :
    Follows R (call expand f args named) (call expand' f args named) := by
  rw [call.eq_def, call.eq_def]
  split
  -- functions: length, text, range, expansion, methods of texts
  next =>
    split
    · exact follows_length _
    · exact .throw _ _
  next => exact follows_callText args named
  next =>
    split
    · exact follows_makeRange args
    · exact .throw _ _
  next => exact follows_callExpand h args named
  next =>
    split
    · exact follows_callTextMethod _ _ _ _ _
    · exact .throw _ _
  -- layouts
  next =>
    refine (follows_argumentsOf _ args named).bind fun vs => ?_
    split
    · exact .pure _
    · exact .throw _ _
  next => exact (follows_argumentsOf _ args named).discard.bind fun _ => .pure _
  next =>
    refine (follows_argumentsOf _ args named).bind fun vs => ?_
    split
    · exact .pure _
    · exact .throw _ _
  -- methods of values
  next => exact follows_callTextMethod _ _ _ _ _
  next => exact (follows_argumentsOf _ args named).discard.bind fun _ => .pure _
  next => exact (follows_argumentsOf _ args named).bind fun vs => follows_callDocument _ _ vs
  next => exact .throw _ _

end Render

end XmlTemplate
