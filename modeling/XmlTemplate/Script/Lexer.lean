import XmlTemplate.Literal.Value
import XmlTemplate.Script.Number
import XmlTemplate.Text.Identifier

/-!
# From script text to tokens

Scripts are read line by line: the indentation of a line that is neither blank nor a comment opens
and closes blocks, and a line end closes a statement. Inside brackets line ends and indentation mean
nothing. Indentation is measured twice, with tabs that fill up to a multiple of eight columns and
with tabs of one column, and both measures have to agree on which of two lines is deeper.
-/

set_option autoImplicit false

namespace XmlTemplate.Script

/-- The most brackets that may be open at once. -/
def maxBrackets : Nat := 200

/-- The most indentation levels, the outermost included. -/
def maxIndents : Nat := 100

/-- Every way to end a line becomes a line feed. -/
def unifyLineEnds : Text → Text
  | '\r' :: '\n' :: s => '\n' :: unifyLineEnds s
  | c :: s => (if c = '\r' then '\n' else c) :: unifyLineEnds s
  | [] => []

/-- The width of an indentation, with tabs filling up to multiples of eight and with tabs of width
one. -/
structure Margin where
  columns : Nat
  strict : Nat
  deriving DecidableEq, Repr

/-- The margin of the line at the head of the text, and the text after it. A form feed starts the
count anew. A backslash at a line end joins the next line, and the first one that stands after a
margin decides it. -/
def readMargin (m : Margin) (joined : Nat) : Text → Option (Margin × Text)
  | [] => some (if joined = 0 then m else ⟨joined, joined⟩, [])
  | ' ' :: s => readMargin ⟨m.columns + 1, m.strict + 1⟩ joined s
  | '\t' :: s => readMargin ⟨(m.columns / 8 + 1) * 8, m.strict + 1⟩ joined s
  | '\x0c' :: s => readMargin ⟨0, 0⟩ joined s
  | '\\' :: '\n' :: s =>
    if s.isEmpty then none else readMargin m (if joined = 0 then m.columns else joined) s
  | '\\' :: _ => none
  | c :: s => some (if joined = 0 then m else ⟨joined, joined⟩, c :: s)

/-- The open blocks after a line with the given margin, innermost first, and the tokens that opening
and closing blocks gives; nothing where the margin fits no block. -/
def adjustBlocks (m : Margin) : List Margin → Option (List Margin × List Tok)
  | [] => none
  | top :: outer =>
    if m.columns = top.columns then
      if m.strict = top.strict then some (top :: outer, []) else none
    else if m.columns > top.columns then
      if m.strict > top.strict && outer.length + 2 ≤ maxIndents then
        some (m :: top :: outer, [.indent])
      else none
    else match adjustDown outer with
      | some (blocks, closed) => some (blocks, .dedent :: closed)
      | none => none
where
  /-- Close blocks until one has the margin of the line. -/
  adjustDown : List Margin → Option (List Margin × List Tok)
    | [] => none
    | top :: outer =>
      if m.columns = top.columns then
        if m.strict = top.strict then some (top :: outer, []) else none
      else if m.columns > top.columns then none
      else (adjustDown outer).map fun (blocks, closed) => (blocks, .dedent :: closed)

/-- Whether a number starts at the head of the text. -/
def startsNumber : Text → Bool
  | '.' :: d :: _ => d.isDigit
  | c :: _ => c.isDigit
  | [] => false

/-- Marks of two characters. -/
def doubleMarks : List Text := ["//", "==", "!=", ":="].map String.toList

/-- Marks of one character. -/
def singleMarks : List Char := "+-*/%<>=.,:;()[]\x7b\x7d".toList

/-- The closing bracket that belongs to an opening one. -/
def closingBracket? (c : Char) : Option Char :=
  if c = '(' then some ')'
  else if c = '[' then some ']'
  else if c = '\x7b' then some '\x7d'
  else none

/-- Whether the character closes a bracket. -/
def isClosingBracket (c : Char) : Bool := c == ')' || c == ']' || c == '\x7d'

/-- Where the lexer stands: whether at the start of a line, the closing brackets it waits for and
the margins of the open blocks. -/
structure LexState where
  lineStart : Bool
  brackets : List Char
  blocks : List Margin

/-- The tokens of the text from a state on; every step takes a character or leaves the start of a
line, so twice the length of the text and one more are steps enough. -/
def lexFrom : (steps : Nat) → LexState → Text → Option (List Tok)
  | 0, _, _ => none
  | steps + 1, st, s =>
    if st.lineStart then
      match readMargin ⟨0, 0⟩ 0 s with
      | none => none
      | some (m, rest) =>
        match rest with
        | '\n' :: rest' => lexFrom steps st rest'
        | '#' :: _ =>
          match rest.dropWhile (· != '\n') with
          | [] => lexFrom steps { st with lineStart := false } []
          | _ :: rest' => lexFrom steps st rest'
        | _ =>
          match adjustBlocks m st.blocks with
          | none => none
          | some (blocks, changed) =>
            (lexFrom steps { st with lineStart := false, blocks } rest).map (changed ++ ·)
    else
      match s with
      | [] => if st.brackets.isEmpty then some (st.blocks.tail.map fun _ => .dedent) else none
      | c :: rest =>
        if c = ' ' || c = '\t' || c = '\x0c' then lexFrom steps st rest
        else if c = '#' then lexFrom steps st (rest.dropWhile (· != '\n'))
        else if c = '\n' then
          if st.brackets.isEmpty then
            (lexFrom steps { st with lineStart := true } rest).map (.lineEnd :: ·)
          else lexFrom steps st rest
        else if c = '\\' then
          match rest with
          | '\n' :: d :: rest' => lexFrom steps st (d :: rest')
          | _ => none
        else if Literal.startsAt s then
          match Literal.read s with
          | some (.text value, n) => (lexFrom steps st (s.drop n)).map (.str value :: ·)
          | some (.bytes, n) => (lexFrom steps st (s.drop n)).map (.bytes :: ·)
          | none => none
        else if startsNumber s then
          match readNumber s with
          | some (number, rest') => (lexFrom steps st rest').map (number :: ·)
          | none => none
        else if isWordPart c then
          let word := s.takeWhile isWordPart
          if isIdentifier word then
            (lexFrom steps st (s.dropWhile isWordPart)).map (.ofWord word :: ·)
          else none
        else if s.take 3 = ['.', '.', '.'] then
          (lexFrom steps st (s.drop 3)).map (.ellipsis :: ·)
        else if doubleMarks.contains (s.take 2) then
          (lexFrom steps st (s.drop 2)).map (.mark (s.take 2) :: ·)
        else if singleMarks.contains c then
          match closingBracket? c with
          | some closer =>
            if st.brackets.length < maxBrackets then
              let brackets := closer :: st.brackets
              (lexFrom steps { st with brackets } rest).map (.mark [c] :: ·)
            else none
          | none =>
            if isClosingBracket c then
              match st.brackets with
              | closer :: brackets =>
                if c = closer then (lexFrom steps { st with brackets } rest).map (.mark [c] :: ·)
                else none
              | [] => none
            else (lexFrom steps st rest).map (.mark [c] :: ·)
        else none

/-- The tokens of a script text; a text with a null character has none. -/
def lex (source : Text) : Option (List Tok) :=
  if source.contains '\x00' then none
  else
    let s := unifyLineEnds source
    lexFrom (2 * s.length + 2) ⟨true, [], [⟨0, 0⟩]⟩ s

end XmlTemplate.Script
