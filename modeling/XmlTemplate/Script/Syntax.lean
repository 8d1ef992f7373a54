import XmlTemplate.Text.Basic

/-!
# Syntax of embedded scripts

Templates embed expressions, and their continuations embed short programs. An expression computes a
value and may bind names on its way; a statement binds a name, loops or branches.
-/

set_option autoImplicit false

namespace XmlTemplate.Script

/-- Arithmetic operators. -/
inductive ArithOp where
  | add
  | sub
  | mul
  | quotient
  | floorQuotient
  | remainder
  deriving DecidableEq, Repr

/-- Comparisons. -/
inductive CompareOp where
  | equal
  | notEqual
  | less
  | greater
  | isIn
  | notIn
  deriving DecidableEq, Repr

/-- Expressions. -/
inductive Expr where
  | name (x : Text)
  | none
  | bool (b : Bool)
  | int (n : Nat)
  | str (s : Text)
  | tuple (items : List Expr)
  | list (items : List Expr)
  | dict (entries : List (Expr × Expr))
  | member (object : Expr) (field : Text)
  | index (object key : Expr)
  | call (function : Expr) (arguments : List Expr) (named : List (Text × Expr))
  | negate (e : Expr)
  | not (e : Expr)
  | arith (op : ArithOp) (left right : Expr)
  | compare (op : CompareOp) (left right : Expr)
  | and (left right : Expr)
  | or (left right : Expr)
  | choose (condition yes no : Expr)
  | bind (x : Text) (e : Expr)
  deriving Repr

/-- Statements; a program is a list of them. -/
inductive Stmt where
  | pass
  | run (e : Expr)
  | assign (x : Text) (e : Expr)
  | loop (x : Text) (source : Expr) (body : List Stmt)
  | branch (condition : Expr) (yes no : List Stmt)
  deriving Repr

mutual

/-- How deep loops are nested in a statement. -/
def Stmt.loopDepth : Stmt → Nat
  | .pass | .run _ | .assign .. => 0
  | .loop _ _ body => loopDepthAll body + 1
  | .branch _ yes no => max (loopDepthAll yes) (loopDepthAll no)

/-- How deep loops are nested in a program. -/
def loopDepthAll : List Stmt → Nat
  | [] => 0
  | s :: rest => max s.loopDepth (loopDepthAll rest)

end

mutual

/-- How deep an expression is nested; conjunctions in a row count as one, and so do disjunctions. -/
def Expr.depth : Expr → Nat
  | .name _ | .none | .bool _ | .int _ | .str _ => 1
  | .tuple items | .list items => depthOfAll items + 1
  | .dict entries => depthOfEntries entries + 1
  | .member object _ => object.depth + 1
  | .index object key => max object.depth key.depth + 1
  | .call f arguments named => max f.depth (max (depthOfAll arguments) (depthOfNamed named)) + 1
  | .negate e | .not e | .bind _ e => e.depth + 1
  | .arith _ left right | .compare _ left right => max left.depth right.depth + 1
  | .and left right =>
    match right with
    | .and .. => max (left.depth + 1) right.depth
    | _ => max left.depth right.depth + 1
  | .or left right =>
    match right with
    | .or .. => max (left.depth + 1) right.depth
    | _ => max left.depth right.depth + 1
  | .choose condition yes no => max condition.depth (max yes.depth no.depth) + 1

/-- The deepest of the expressions. -/
def depthOfAll : List Expr → Nat
  | [] => 0
  | e :: rest => max e.depth (depthOfAll rest)

/-- The deepest of the keys and values. -/
def depthOfEntries : List (Expr × Expr) → Nat
  | [] => 0
  | (k, v) :: rest => max (max k.depth v.depth) (depthOfEntries rest)

/-- The deepest of the values. -/
def depthOfNamed : List (Text × Expr) → Nat
  | [] => 0
  | (_, v) :: rest => max v.depth (depthOfNamed rest)

end

mutual

/-- How deep a statement is nested, its expressions included. -/
def Stmt.depth : Stmt → Nat
  | .pass => 1
  | .run e | .assign _ e => e.depth + 1
  | .loop _ source body => max source.depth (depthAll body) + 1
  | .branch condition yes no => max condition.depth (max (depthAll yes) (depthAll no)) + 1

/-- The deepest of the statements. -/
def depthAll : List Stmt → Nat
  | [] => 0
  | s :: rest => max s.depth (depthAll rest)

end

/-- How many signs in a row brackets count for. -/
def bracketSigns : Nat := 28

mutual

/-- How many signs, negations and alternatives stand in front of an operand of an expression, with
nothing else but brackets between them. -/
def Expr.stacked : Expr → Nat
  | .name _ | .none | .bool _ | .int _ | .str _ => 0
  | .tuple items => stackedAll items
  | .list items => stackedAll items + bracketSigns
  | .dict entries => stackedEntries entries + bracketSigns
  | .member object _ => object.stacked
  | .index object key => max object.stacked (key.stacked + bracketSigns)
  | .call f arguments named =>
    max f.stacked (max (stackedAll arguments) (stackedNamed named) + bracketSigns)
  | .negate e | .not e => e.stacked + 1
  | .bind _ e => e.stacked
  | .arith _ left right | .compare _ left right => max left.stacked right.stacked
  | .and left right | .or left right => max left.stacked right.stacked
  | .choose condition yes no => max (max condition.stacked yes.stacked) (no.stacked + 1)

/-- The most that stand in front of an operand of one of the expressions. -/
def stackedAll : List Expr → Nat
  | [] => 0
  | e :: rest => max e.stacked (stackedAll rest)

/-- The most that stand in front of an operand of one of the keys and values. -/
def stackedEntries : List (Expr × Expr) → Nat
  | [] => 0
  | (k, v) :: rest => max (max k.stacked v.stacked) (stackedEntries rest)

/-- The most that stand in front of an operand of one of the values. -/
def stackedNamed : List (Text × Expr) → Nat
  | [] => 0
  | (_, v) :: rest => max v.stacked (stackedNamed rest)

end

mutual

/-- The most that stand in front of an operand in a statement. -/
def Stmt.stacked : Stmt → Nat
  | .pass => 0
  | .run e | .assign _ e => e.stacked
  | .loop _ source body => max source.stacked (stackedIn body)
  | .branch condition yes no => max condition.stacked (max (stackedIn yes) (stackedIn no))

/-- The most that stand in front of an operand in a program. -/
def stackedIn : List Stmt → Nat
  | [] => 0
  | s :: rest => max s.stacked (stackedIn rest)

end

/-- The most that may stand in front of an operand in an expression. -/
def maxStacked : Nat := 5947

/-- The most that may stand in front of an operand in a program. -/
def maxStackedIn : Nat := 5965

end XmlTemplate.Script
