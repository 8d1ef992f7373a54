import XmlTemplate.Script.Lexer
import XmlTemplate.Script.Syntax

/-!
# Reading embedded scripts

A recursive reader with one function for each level of precedence, from the conditional down to the
atom. Each call takes one unit of fuel, and no more than twelve calls come between two tokens, so
that fuel of twelve for each token is enough for every script. `expression?` reads the source of an
embedded expression, which stands in brackets of its own, and `program?` the body of a continuation.
-/

set_option autoImplicit false

namespace XmlTemplate.Script

/-- A reader takes tokens from the head of a list, or fails. -/
abbrev Reader := StateT (List Tok) Option

/-- The next token, which stays. -/
def peek : Reader (Option Tok) := do return (← get).head?

/-- The token after the next one, which stays. -/
def peekSecond : Reader (Option Tok) := do return (← get).tail.head?

/-- Take the next token. -/
def skip : Reader Unit := modify List.tail

/-- Whether the next token is the mark. -/
def atMark (s : String) : Reader Bool := do return (← peek) = some (.mark s.toList)

/-- Whether the next token is the word. -/
def atWord (s : String) : Reader Bool := do return (← peek) = some (.keyword s.toList)

/-- Take the mark, or fail. -/
def mark (s : String) : Reader Unit := do
  if ← atMark s then skip else failure

/-- Take the word, or fail. -/
def word (s : String) : Reader Unit := do
  if ← atWord s then skip else failure

/-- Take a token of the given form, or fail. -/
def token (t : Tok) : Reader Unit := do
  if (← peek) = some t then skip else failure

/-- Take a name. -/
def identifier : Reader Text := do
  match ← peek with
  | some (.name x) => skip; return x
  | _ => failure

/-- The name that always means truth. -/
def debugName : Text := "__debug__".toList

/-- Take a name that can be bound. -/
def target : Reader Text := do
  let x ← identifier
  if x = debugName then failure else return x

/-- The operator of a sum at the head of the tokens. -/
def sumOp? : Option Tok → Option ArithOp
  | some (.mark ['+']) => some .add
  | some (.mark ['-']) => some .sub
  | _ => none

/-- The operator of a product at the head of the tokens. -/
def productOp? : Option Tok → Option ArithOp
  | some (.mark ['*']) => some .mul
  | some (.mark ['/']) => some .quotient
  | some (.mark ['/', '/']) => some .floorQuotient
  | some (.mark ['%']) => some .remainder
  | _ => none

/-- The comparison of one token at the head of the tokens. -/
def compareOp? : Option Tok → Option CompareOp
  | some (.mark ['=', '=']) => some .equal
  | some (.mark ['!', '=']) => some .notEqual
  | some (.mark ['<']) => some .less
  | some (.mark ['>']) => some .greater
  | some (.keyword ['i', 'n']) => some .isIn
  | _ => none

/-- String literals that stand next to each other are one. -/
def joinStrings (s : Text) : Nat → Reader Text
  | 0 => return s
  | fuel + 1 => do
    match ← peek with
    | some (.str t) => skip; joinStrings (s ++ t) fuel
    | _ => return s

mutual

/-- An expression that may bind its value to a name first. -/
def named : Nat → Reader Expr
  | 0 => failure
  | fuel + 1 => do
    match ← peek, ← peekSecond with
    | some (.name _), some (.mark [':', '=']) =>
      let x ← target
      skip
      return .bind x (← conditional fuel)
    | _, _ => conditional fuel

/-- A choice between two expressions, or one alone. -/
def conditional : Nat → Reader Expr
  | 0 => failure
  | fuel + 1 => do
    let yes ← disjunction fuel
    if ← atWord "if" then
      skip
      let condition ← disjunction fuel
      word "else"
      return .choose condition yes (← conditional fuel)
    else return yes

/-- Conjunctions with `or` between them. -/
def disjunction : Nat → Reader Expr
  | 0 => failure
  | fuel + 1 => do
    let left ← conjunction fuel
    if ← atWord "or" then
      skip
      return .or left (← disjunction fuel)
    else return left

/-- Negations with `and` between them. -/
def conjunction : Nat → Reader Expr
  | 0 => failure
  | fuel + 1 => do
    let left ← inversion fuel
    if ← atWord "and" then
      skip
      return .and left (← conjunction fuel)
    else return left

/-- A comparison with any number of `not` before it. -/
def inversion : Nat → Reader Expr
  | 0 => failure
  | fuel + 1 => do
    if ← atWord "not" then
      skip
      return .not (← inversion fuel)
    else comparison fuel

/-- A sum, or two sums compared. -/
def comparison : Nat → Reader Expr
  | 0 => failure
  | fuel + 1 => do
    let left ← sum fuel
    match compareOp? (← peek) with
    | some op =>
      skip
      return .compare op left (← sum fuel)
    | none =>
      if ← atWord "not" then
        skip
        word "in"
        return .compare .notIn left (← sum fuel)
      else return left

/-- Products with plus and minus between them. -/
def sum : Nat → Reader Expr
  | 0 => failure
  | fuel + 1 => do sumFrom fuel (← product fuel)

/-- The rest of a sum. -/
def sumFrom : Nat → Expr → Reader Expr
  | 0, _ => failure
  | fuel + 1, left => do
    match sumOp? (← peek) with
    | some op =>
      skip
      sumFrom fuel (.arith op left (← product fuel))
    | none => return left

/-- Factors with multiplication and division between them. -/
def product : Nat → Reader Expr
  | 0 => failure
  | fuel + 1 => do productFrom fuel (← factor fuel)

/-- The rest of a product. -/
def productFrom : Nat → Expr → Reader Expr
  | 0, _ => failure
  | fuel + 1, left => do
    match productOp? (← peek) with
    | some op =>
      skip
      productFrom fuel (.arith op left (← factor fuel))
    | none => return left

/-- A primary with any number of minus signs before it. -/
def factor : Nat → Reader Expr
  | 0 => failure
  | fuel + 1 => do
    if ← atMark "-" then
      skip
      return .negate (← factor fuel)
    else primaryFrom fuel (← atom fuel)

/-- Members, keys and arguments after an expression. -/
def primaryFrom : Nat → Expr → Reader Expr
  | 0, _ => failure
  | fuel + 1, object => do
    match ← peek with
    | some (.mark ['.']) =>
      skip
      primaryFrom fuel (.member object (← identifier))
    | some (.mark ['[']) =>
      skip
      let (keys, comma) ← elements fuel "]"
      match keys, comma with
      | [], _ => failure
      | [key], false => primaryFrom fuel (.index object key)
      | keys, _ => primaryFrom fuel (.index object (.tuple keys))
    | some (.mark ['(']) =>
      skip
      let (positional, byName) ← arguments fuel
      primaryFrom fuel (.call object positional byName)
    | _ => return object

/-- Expressions with commas between them up to and with the closing bracket, and whether a comma
stands after any of them. -/
def elements : Nat → String → Reader (List Expr × Bool)
  | 0, _ => failure
  | fuel + 1, closer => do
    if ← atMark closer then
      skip
      return ([], false)
    else
      let first ← named fuel
      if ← atMark "," then
        skip
        let (rest, _) ← elements fuel closer
        return (first :: rest, true)
      else
        mark closer
        return ([first], false)

/-- The arguments of a call up to and with the closing bracket: those by place, then those by name,
no name twice. -/
def arguments : Nat → Reader (List Expr × List (Text × Expr))
  | 0 => failure
  | fuel + 1 => do
    if ← atMark ")" then
      skip
      return ([], [])
    else
      match ← peek, ← peekSecond with
      | some (.name _), some (.mark ['=']) =>
        let x ← target
        skip
        let value ← conditional fuel
        if ← atMark "," then skip else if ← atMark ")" then pure () else failure
        let (positional, byName) ← arguments fuel
        if positional.isEmpty && !(byName.any fun entry => entry.1 = x) then
          return ([], (x, value) :: byName)
        else failure
      | _, _ =>
        let value ← named fuel
        if ← atMark "," then skip else if ← atMark ")" then pure () else failure
        let (positional, byName) ← arguments fuel
        return (value :: positional, byName)

/-- Keys and values with commas between them up to and with the closing bracket. -/
def dictEntries : Nat → Reader (List (Expr × Expr))
  | 0 => failure
  | fuel + 1 => do
    if ← atMark "\x7d" then
      skip
      return []
    else
      let key ← conditional fuel
      mark ":"
      let value ← conditional fuel
      if ← atMark "," then skip else if ← atMark "\x7d" then pure () else failure
      return (key, value) :: (← dictEntries fuel)

/-- A name, a literal, or an expression in brackets. -/
def atom : Nat → Reader Expr
  | 0 => failure
  | fuel + 1 => do
    match ← peek with
    | some (.int n) => skip; return .int n
    | some (.str s) => skip; return .str (← joinStrings s fuel)
    | some (.keyword x) =>
      if x = "None".toList then skip; return .none
      else if x = "True".toList then skip; return .bool true
      else if x = "False".toList then skip; return .bool false
      else failure
    | some (.name x) =>
      skip
      return if x = debugName then .bool true else .name x
    | some (.mark ['(']) =>
      skip
      let (items, comma) ← elements fuel ")"
      match items, comma with
      | [item], false => return item
      | items, _ => return .tuple items
    | some (.mark ['[']) =>
      skip
      return .list (← elements fuel "]").1
    | some (.mark ['\x7b']) =>
      skip
      return .dict (← dictEntries fuel)
    | _ => failure

end

/-- Expressions with commas between them, which make a tuple, up to a token that starts none. -/
def bareList : Nat → Reader (List Expr × Bool)
  | 0 => failure
  | fuel + 1 => do
    let first ← conditional fuel
    if ← atMark "," then
      skip
      match ← peek with
      | none | some .lineEnd | some (.mark [';']) | some (.mark [':']) | some (.mark ['=']) =>
        return ([first], true)
      | _ =>
        let (rest, _) ← bareList fuel
        return (first :: rest, true)
    else return ([first], false)

/-- One expression, or a tuple without brackets. -/
def expressions (fuel : Nat) : Reader Expr := do
  match ← bareList fuel with
  | ([e], false) => return e
  | (es, _) => return .tuple es

/-- A name that can be bound, which may stand in brackets of its own. -/
def bracketedTarget : Nat → Reader Text
  | 0 => failure
  | fuel + 1 => do
    if ← atMark "(" then
      skip
      let x ← bracketedTarget fuel
      mark ")"
      return x
    else target

/-- A statement that stands on one line with others. A name, with or without brackets, may be bound
to the expressions after an equals sign; nothing else can stand before one. -/
def simpleStmt (fuel : Nat) : Reader Stmt := do
  if ← atWord "pass" then
    skip
    return .pass
  else match ← expressions fuel with
    | .name x =>
      if ← atMark "=" then
        skip
        return .assign x (← expressions fuel)
      else return .run (.name x)
    | e => return .run e

/-- Statements with semicolons between them up to and with the line end. -/
def simpleLine : Nat → Reader (List Stmt)
  | 0 => failure
  | fuel + 1 => do
    let first ← simpleStmt fuel
    if ← atMark ";" then
      skip
      if (← peek) = some .lineEnd then skip; return [first]
      else return first :: (← simpleLine fuel)
    else
      token .lineEnd
      return [first]

mutual

/-- The statements of the next line, or of a loop or branch with its blocks. -/
def statement : Nat → Reader (List Stmt)
  | 0 => failure
  | fuel + 1 => do
    if ← atWord "for" then
      skip
      let x ← bracketedTarget fuel
      word "in"
      let source ← expressions fuel
      mark ":"
      return [.loop x source (← suite fuel)]
    else if ← atWord "if" then
      skip
      let condition ← named fuel
      mark ":"
      let yes ← suite fuel
      if ← atWord "else" then
        skip
        mark ":"
        return [.branch condition yes (← suite fuel)]
      else return [.branch condition yes []]
    else simpleLine fuel

/-- What follows a colon: statements on the same line, or an indented block. -/
def suite : Nat → Reader (List Stmt)
  | 0 => failure
  | fuel + 1 => do
    if (← peek) = some .lineEnd then
      skip
      token .indent
      let first ← statement fuel
      return first ++ (← block fuel)
    else simpleLine fuel

/-- The rest of an indented block. -/
def block : Nat → Reader (List Stmt)
  | 0 => failure
  | fuel + 1 => do
    if (← peek) = some .dedent then
      skip
      return []
    else
      let first ← statement fuel
      return first ++ (← block fuel)

end

/-- Statements up to the end of the tokens. -/
def statements : Nat → Reader (List Stmt)
  | 0 => failure
  | fuel + 1 => do
    if (← get).isEmpty then return []
    else
      let first ← statement fuel
      return first ++ (← statements fuel)

/-- Fuel that is enough for a list of tokens. -/
def fuelFor (toks : List Tok) : Nat := 12 * (toks.length + 2)

/-- The deepest nesting of loops in a program. -/
def maxLoopDepth : Nat := 20

/-- The expression in a text that holds one expression, with line ends after it. -/
def wholeExpression? (source : Text) : Option Expr := do
  let toks ← lex source
  let (e, rest) ← (expressions (fuelFor toks)).run toks
  if rest.all (· = .lineEnd) then some e else none

/-- The expression in the source of an embedded expression. It is read between round brackets on
lines of their own, so that it may span lines and end in a comment. -/
def expression? (source : Text) : Option Expr :=
  wholeExpression? ('(' :: '\n' :: source ++ ['\n', ')'])

/-- The program in the body of a continuation. -/
def program? (source : Text) : Option (List Stmt) := do
  let toks ← lex (if source.getLast? = some '\n' then source else source ++ ['\n'])
  let (body, _) ← (statements (fuelFor toks)).run toks
  if loopDepthAll body ≤ maxLoopDepth then some body else none

end XmlTemplate.Script
