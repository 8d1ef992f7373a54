import XmlTemplate.Render.Store

/-!
# Going through the items of a value

Sequences, texts, dictionaries and ranges give their items anew each time, and a range is never laid
out as a list; an iterator gives what it has not given yet. A run over an iterator takes its items
one by one, so that the body may take some too; it makes no more rounds than the iterator had items
at the start.
-/

set_option autoImplicit false

namespace XmlTemplate

/-- Where items come from. -/
inductive Iteration where
  | items (vs : List Value)
  | range (first step : Int) (count : Nat)
  | shared (id : Nat)

/-- Dictionary entries as pairs. -/
def pairs (es : List (Value × Value)) : List Value := es.map fun e => .tuple none [e.1, e.2]

/-- The items of a value, for values that have items. -/
def Value.iteration? : Value → Option Iteration
  | .str _ s => some (.items (s.map fun c => .str .none [c]))
  | .list _ vs | .tuple _ vs => some (.items vs)
  | .dict _ es => some (.items (es.map Prod.fst))
  | .entries es => some (.items (pairs es))
  | .range first stop step => some (.range first step (Value.rangeLength first stop step))
  | .iterator id => some (.shared id)
  | _ => .none

namespace Render

/-- Run the body on the items of an iterator, in no more than the given number of rounds. -/
def drain (id : Nat) (body : Value → Render Unit) : (rounds : Nat) → Render Unit
  | 0 => return ()
  | rounds + 1 => do
    match ← next? id with
    | none => return ()
    | some v =>
      body v
      drain id body rounds

/-- Run the body on items, one after the other. -/
def forItems (body : Value → Render Unit) : List Value → Render Unit
  | [] => return ()
  | v :: rest => do
    body v
    forItems body rest

/-- Run the body on as many numbers, one step apart. -/
def forRange (body : Value → Render Unit) (first step : Int) : (count : Nat) → Render Unit
  | 0 => return ()
  | count + 1 => do
    body (.int first)
    forRange body (first + step) step count

/-- Run the body on every item. -/
def forEach (source : Iteration) (body : Value → Render Unit) : Render Unit := do
  match source with
  | .items vs => forItems body vs
  | .range first step count => forRange body first step count
  | .shared id => drain id body (← left id)

/-- Up to the given number of items. -/
def takeItems (source : Iteration) : (count : Nat) → Render (List Value)
  | 0 => return []
  | count + 1 => do
    match source with
    | .items vs => return vs.take (count + 1)
    | .range first step n =>
      return (List.range (min n (count + 1))).map fun i => Value.rangeItem first step i
    | .shared id =>
      match ← next? id with
      | none => return []
      | some v => return v :: (← takeItems (.shared id) count)

/-- All items. -/
def allItems (source : Iteration) : Render (List Value) := do
  match source with
  | .items vs => return vs
  | .range _ _ count => takeItems source count
  | .shared id => takeItems source (← left id)

/-- The two items of a value with exactly two. Of an iterator three are taken, to see whether there
is a third. -/
def unpackPair (v : Value) : Render (Value × Value) := do
  match v.iteration? with
  | none => throw .unsuitable
  | some source =>
    match ← takeItems source 3 with
    | [a, b] => return (a, b)
    | [] => throw (.badValue (.tooFewItems 0))
    | [_] => throw (.badValue (.tooFewItems 1))
    | _ => throw (.badValue .tooManyItems)

/-- Whether an iterator has a value equal to the given one among those it still has; the values up
to and with the first such are taken. -/
def seek (id : Nat) (v : Value) : (rounds : Nat) → Render Bool
  | 0 => return false
  | rounds + 1 => do
    match ← next? id with
    | none => return false
    | some w => if ← areSame w v then return true else seek id v rounds

end Render

end XmlTemplate
