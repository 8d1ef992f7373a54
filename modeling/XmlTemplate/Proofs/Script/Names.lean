import XmlTemplate.Script.Syntax

/-!
# Names in expressions

Which names an expression asks the scope for, and whether it binds any on its way.
-/

set_option autoImplicit false

namespace XmlTemplate.Script

mutual

/-- The names that an expression asks for, in order. -/
def Expr.names : Expr → List Text
  | .name x => [x]
  | .none | .bool _ | .int _ | .str _ => []
  | .tuple items | .list items => namesOfAll items
  | .dict entries => namesOfEntries entries
  | .member object _ => object.names
  | .index object key => object.names ++ key.names
  | .call f arguments named => f.names ++ (namesOfAll arguments ++ namesOfNamed named)
  | .negate e | .not e | .bind _ e => e.names
  | .arith _ left right | .compare _ left right | .and left right | .or left right =>
    left.names ++ right.names
  | .choose condition yes no => condition.names ++ (yes.names ++ no.names)

/-- The names that expressions ask for. -/
def namesOfAll : List Expr → List Text
  | [] => []
  | e :: rest => e.names ++ namesOfAll rest

/-- The names that keys and values ask for. -/
def namesOfEntries : List (Expr × Expr) → List Text
  | [] => []
  | (k, v) :: rest => k.names ++ (v.names ++ namesOfEntries rest)

/-- The names that values of arguments ask for. -/
def namesOfNamed : List (Text × Expr) → List Text
  | [] => []
  | (_, v) :: rest => v.names ++ namesOfNamed rest

end

mutual

/-- Whether an expression binds a name on its way. -/
def Expr.binds : Expr → Bool
  | .name _ | .none | .bool _ | .int _ | .str _ => false
  | .tuple items | .list items => anyBinds items
  | .dict entries => entriesBind entries
  | .member object _ => object.binds
  | .index object key => object.binds || key.binds
  | .call f arguments named => f.binds || (anyBinds arguments || namedBind named)
  | .negate e | .not e => e.binds
  | .bind _ _ => true
  | .arith _ left right | .compare _ left right | .and left right | .or left right =>
    left.binds || right.binds
  | .choose condition yes no => condition.binds || (yes.binds || no.binds)

/-- Whether one of the expressions binds a name. -/
def anyBinds : List Expr → Bool
  | [] => false
  | e :: rest => e.binds || anyBinds rest

/-- Whether one of the keys and values binds a name. -/
def entriesBind : List (Expr × Expr) → Bool
  | [] => false
  | (k, v) :: rest => k.binds || (v.binds || entriesBind rest)

/-- Whether one of the values of arguments binds a name. -/
def namedBind : List (Text × Expr) → Bool
  | [] => false
  | (_, v) :: rest => v.binds || namedBind rest

end

end XmlTemplate.Script
