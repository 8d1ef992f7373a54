import XmlTemplate.Span

/-!
# Tokens of a template

A token is a leaf of one of four kinds or a delimited group that holds tokens. The text of a group
is the source between its delimiters, as written.
-/

set_option autoImplicit false

namespace XmlTemplate

/-- The three pairs of delimiters. -/
inductive Delimiter where
  | round
  | square
  | curly
  deriving DecidableEq, Repr

namespace Delimiter

/-- The character that opens a group. -/
def opener : Delimiter → Char
  | round => '('
  | square => '['
  | curly => '{'

/-- The character that closes a group. -/
def closer : Delimiter → Char
  | round => ')'
  | square => ']'
  | curly => '}'

/-- The pair that a character opens. -/
def ofOpener? (c : Char) : Option Delimiter :=
  if c = '(' then some round
  else if c = '[' then some square
  else if c = '{' then some curly
  else none

/-- The pair that a character closes. -/
def ofCloser? (c : Char) : Option Delimiter :=
  if c = ')' then some round
  else if c = ']' then some square
  else if c = '}' then some curly
  else none

end Delimiter

/-- Kinds of tokens that hold no other token. -/
inductive Kind where
  | identifier
  | number
  | string
  | punctuation
  deriving DecidableEq, Repr

/-- A token and its place in the source; the span of a group covers both delimiters. -/
inductive Token where
  | leaf (kind : Kind) (text : Text) (span : Span)
  | group (delimiter : Delimiter) (text : Text) (span : Span) (children : List Token)
  deriving Repr

namespace Token

/-- The text of a leaf, or the source inside a group. -/
def text : Token → Text
  | leaf _ s _ => s
  | group _ s _ _ => s

/-- The place of the token. -/
def span : Token → Span
  | leaf _ _ p => p
  | group _ _ p _ => p

/-- The tokens inside a group. -/
def children : Token → List Token
  | leaf .. => []
  | group _ _ _ ts => ts

/-- Whether the token is a leaf of the kind. -/
def isKind (k : Kind) : Token → Bool
  | leaf k' _ _ => k' = k
  | group .. => false

/-- Whether the token is the given punctuation. -/
def isPunctuation (s : Text) : Token → Bool
  | leaf .punctuation t _ => t = s
  | _ => false

/-- Whether the token is a group opened by the given text. -/
def isGroup (opener : Text) : Token → Bool
  | group d _ _ _ => [d.opener] = opener
  | _ => false

/-- The token as messages name it. -/
def shown : Token → Text
  | leaf _ s _ => '\'' :: s ++ ['\'']
  | group d _ _ _ => ['\'', d.opener, '.', '.', '.', d.closer, '\'']

/-- The source of the group from a token inside it up to the closing delimiter. -/
def innerFrom (group child : Token) : Text :=
  group.text.drop (child.span.start - group.span.start - 1)

/-- The source of the group after a token inside it, up to the closing delimiter. -/
def innerAfter (group child : Token) : Text :=
  group.text.drop (child.span.stop - group.span.start - 1)

end Token

end XmlTemplate
