import XmlTemplate.Proofs.Document.Operations

/-!
# A reader of markup

The other side of writing: texts are read back into trees of `Node`s. The reader knows start tags,
empty tags and end tags, attributes in double quotes and the four entities, and refuses every other
use of `<` and `&`; a `>` that ends no tag is character data. It goes through the text once and
keeps the open elements on a stack (`Reading.step`).

`readNodes` reads a text of any number of nodes. A text is a document if it is a declaration
followed by exactly one element and nothing else but white space (`IsDocument`).
-/

set_option autoImplicit false

namespace XmlTemplate

/-- The white space of XML: space, tab, carriage return and line feed. -/
def isSpace (c : Char) : Bool := c == ' ' || c == '\t' || c == '\r' || c == '\n'

/-- A node that has been read: character data, or an element. -/
inductive Node where
  | text (value : Text)
  | element (name : Text) (attributes : List (Text × Text)) (children : List Node)

/-- Replace the entities in a text; nothing where an ampersand begins none of the four. -/
def unescape? : Text → Option Text
  | [] => some []
  | '&' :: 'l' :: 't' :: ';' :: s => (unescape? s).map ('<' :: ·)
  | '&' :: 'g' :: 't' :: ';' :: s => (unescape? s).map ('>' :: ·)
  | '&' :: 'a' :: 'm' :: 'p' :: ';' :: s => (unescape? s).map ('&' :: ·)
  | '&' :: 'q' :: 'u' :: 'o' :: 't' :: ';' :: s => (unescape? s).map ('"' :: ·)
  | c :: s => if c = '&' then none else (unescape? s).map (c :: ·)

/-! ## Tags -/

/-- A tag that has been read. -/
inductive Tag where
  | start (name : Text) (attributes : List (Text × Text))
  | empty (name : Text) (attributes : List (Text × Text))
  | stop (name : Text)

/-- Where the reader of a start tag is: between attributes, after white space or not, in the name of
an attribute, or in its value, with what has been read of it. -/
inductive AttributeState where
  | between (spaced : Bool)
  | name (read : Text)
  | value (name read : Text)

/-- The attributes of a start tag, and whether it is the tag of an empty element. -/
def readAttributes? : AttributeState → Text → Option (List (Text × Text) × Bool)
  | .between _, [] => some ([], false)
  | .between _, ['/'] => some ([], true)
  | .between spaced, c :: s =>
    if isSpace c then readAttributes? (.between true) s
    else if spaced && isNameStart c.toNat then readAttributes? (.name [c]) s
    else none
  | .name n, '=' :: '"' :: s => readAttributes? (.value n []) s
  | .name n, c :: s =>
    if isNamePart c.toNat then readAttributes? (.name (n ++ [c])) s else none
  | .name _, [] => none
  | .value n v, '"' :: s =>
    match unescape? v, readAttributes? (.between false) s with
    | some w, some (rest, isEmpty) => some ((n, w) :: rest, isEmpty)
    | _, _ => none
  | .value n v, c :: s => readAttributes? (.value n (v ++ [c])) s
  | .value .., [] => none

/-- A value is read up to the next quotation mark. -/
theorem readAttributes?_value {v : Text} (hv : '"' ∉ v) (n read s : Text) :
    readAttributes? (.value n read) (v ++ '"' :: s) =
      readAttributes? (.value n (read ++ v)) ('"' :: s) := by
  induction v generalizing read with
  | nil => rw [List.nil_append, List.append_nil]
  | cons c v ih =>
    have hc : c ≠ '"' := fun h => hv (h ▸ List.mem_cons_self)
    have hstep : readAttributes? (.value n read) (c :: (v ++ '"' :: s)) =
        readAttributes? (.value n (read ++ [c])) (v ++ '"' :: s) := by
      rw [readAttributes?]
      exact fun h => absurd h hc
    rw [List.cons_append, hstep, ih fun h => hv (List.mem_cons_of_mem _ h), List.append_assoc]
    rfl

/-- The characters at the head of a text that can stand in a name. -/
def nameHead (s : Text) : Text := s.takeWhile fun c => isNamePart c.toNat

/-- The characters after those that can stand in a name. -/
def nameTail (s : Text) : Text := s.dropWhile fun c => isNamePart c.toNat

/-- The tag between two angle brackets. -/
def Tag.read? : Text → Option Tag
  | '/' :: s => if isName s then some (.stop s) else none
  | s =>
    if isName (nameHead s) then
      (readAttributes? (.between false) (nameTail s)).map fun (attributes, isEmpty) =>
        if isEmpty then .empty (nameHead s) attributes else .start (nameHead s) attributes
    else none

/-! ## Nodes -/

/-- An open element, with the nodes before it. -/
structure OpenElement where
  name : Text
  attributes : List (Text × Text)
  before : List Node

/-- What has been read: the open elements, innermost first, the nodes of the innermost one, and the
characters since the last angle bracket, which are those of a tag or of character data. -/
structure Reading where
  opened : List OpenElement
  nodes : List Node
  raw : Text
  inTag : Bool

/-- Character data as nodes: none where it is empty. -/
def textNodes (value : Text) : List Node := if value = [] then [] else [.text value]

namespace Reading

/-- Nothing read yet. -/
def start : Reading := ⟨[], [], [], false⟩

/-- The nodes with the character data read last. -/
def flush? (r : Reading) : Option (List Node) :=
  (unescape? r.raw).map fun value => r.nodes ++ textNodes value

/-- Take a tag into account. -/
def takeTag? (r : Reading) : Tag → Option Reading
  | .start name attributes => some ⟨⟨name, attributes, r.nodes⟩ :: r.opened, [], [], false⟩
  | .empty name attributes =>
    some ⟨r.opened, r.nodes ++ [.element name attributes []], [], false⟩
  | .stop name =>
    match r.opened with
    | [] => none
    | f :: rest =>
      if f.name = name then
        some ⟨rest, f.before ++ [.element f.name f.attributes r.nodes], [], false⟩
      else none

/-- Read one more character. -/
def step (r : Reading) (c : Char) : Option Reading :=
  if c = '<' then
    if r.inTag then none else r.flush?.map fun nodes => ⟨r.opened, nodes, [], true⟩
  else if c = '>' then
    if r.inTag then (Tag.read? r.raw).bind r.takeTag? else some { r with raw := r.raw ++ [c] }
  else some { r with raw := r.raw ++ [c] }

/-- Read a text. -/
def feed (r : Reading) : Text → Option Reading
  | [] => some r
  | c :: s => (r.step c).bind fun r' => r'.feed s

/-- The nodes outside of all elements. -/
def outermost (r : Reading) : List Node :=
  match r.opened.getLast? with
  | none => r.nodes
  | some f => f.before

/-- The nodes that have been read, outside of tags and of elements. -/
def finish? (r : Reading) : Option (List Node) :=
  if r.inTag || !r.opened.isEmpty then none else r.flush?

end Reading

/-- The nodes that a text is made of. -/
def readNodes (s : Text) : Option (List Node) := (Reading.start.feed s).bind Reading.finish?

/-- Whether a node is character data of white space alone. -/
def Node.isSpace : Node → Bool
  | .text value => value.all XmlTemplate.isSpace
  | .element .. => false

/-- Whether there is one element, and nothing else but white space. -/
def isSingleRoot (nodes : List Node) : Bool :=
  match nodes.filter fun n => !n.isSpace with
  | [.element ..] => true
  | _ => false

/-- A text is a document if it is the declaration followed by exactly one element, whose tags nest,
and white space around it. -/
def IsDocument (declaration s : Text) : Prop :=
  ∃ body nodes, s = declaration ++ body ∧ readNodes body = some nodes ∧ isSingleRoot nodes = true

end XmlTemplate
