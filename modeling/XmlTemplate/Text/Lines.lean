import XmlTemplate.Text.Blank

/-!
# Lines and margins

Two notions of a line meet here. A *row* ends at a line feed only; margins are measured and removed
on rows. A *line* ends at any of the separators in `isLineEnd`, carriage return with line feed
counting as one; indentation is added on lines. `unindent` removes the margin that the filled rows
share, and `indentLines` puts a margin before every line that is not blank. Cutting a text loses
nothing (`ofRows_rows`, `flatten_lines`).
-/

set_option autoImplicit false

namespace XmlTemplate.Text

/-- The text cut at its line feeds, which are left out. -/
def rows : Text → List Text
  | [] => [[]]
  | c :: s =>
    if c = '\n' then [] :: rows s
    else match rows s with
      | [] => [[c]]
      | r :: rest => (c :: r) :: rest

/-- Rows with line feeds between them. -/
def ofRows : List Text → Text
  | [] => []
  | [r] => r
  | r :: rest => r ++ '\n' :: ofRows rest

theorem rows_ne_nil (s : Text) : rows s ≠ [] := by
  induction s with
  | nil => simp [rows]
  | cons c s ih =>
    rw [rows]
    split
    · simp
    · split <;> simp

theorem ofRows_nil_cons {rest : List Text} (h : rest ≠ []) :
    ofRows ([] :: rest) = '\n' :: ofRows rest := by
  cases rest with
  | nil => exact absurd rfl h
  | cons => rfl

theorem ofRows_cons_cons (c : Char) (r : Text) (rest : List Text) :
    ofRows ((c :: r) :: rest) = c :: ofRows (r :: rest) := by
  cases rest with
  | nil => rfl
  | cons => rfl

/-- Joining the rows of a text gives the text. -/
theorem ofRows_rows (s : Text) : ofRows (rows s) = s := by
  induction s with
  | nil => rfl
  | cons c s ih =>
    rw [rows]
    cases hs : rows s with
    | nil => exact absurd hs (rows_ne_nil s)
    | cons r rest =>
      rw [hs] at ih
      split
      · next hc => rw [ofRows_nil_cons (List.cons_ne_nil r rest), ih, hc]
      · rw [ofRows_cons_cons, ih]

/-- Characters that can stand in a margin. -/
def isMargin (c : Char) : Bool := c == ' ' || c == '\t'

/-- The longest text that both texts start with. -/
def commonStart : Text → Text → Text
  | c :: s, d :: t => if c = d then c :: commonStart s t else []
  | _, _ => []

/-- The margin of a row with something after it; rows of margin characters alone have none. -/
def margin? (row : Text) : Option Text :=
  if row.all isMargin then none else some (row.takeWhile isMargin)

/-- The longest margin that every filled row starts with. -/
def sharedMargin (rs : List Text) : Text :=
  match rs.filterMap margin? with
  | [] => []
  | m :: rest => rest.foldl commonStart m

/-- Rows of margin characters alone become empty, and the others lose their shared margin. -/
def unindent (s : Text) : Text :=
  let rs := rows s
  let width := (sharedMargin rs).length
  ofRows (rs.map fun r => if r.all isMargin then [] else r.drop width)

/-- Characters that end a line. -/
def isLineEnd (c : Char) : Bool :=
  c == '\n' || c == '\r' || c == '\x0b' || c == '\x0c' || c == '\x1c' || c == '\x1d' || c == '\x1e'
    || c == '\u0085' || c == '\u2028' || c == '\u2029'

/-- The text cut after each line end. -/
def lines : Text → List Text
  | [] => []
  | '\r' :: '\n' :: s => ['\r', '\n'] :: lines s
  | c :: s =>
    if isLineEnd c then [c] :: lines s
    else match lines s with
      | [] => [[c]]
      | l :: rest => (c :: l) :: rest

/-- Lines keep their ends, so that they join to the text as they are. -/
theorem flatten_lines (s : Text) : (lines s).flatten = s := by
  fun_induction lines s with
  | case1 => rfl
  | case2 s ih => rw [List.flatten_cons, ih]; rfl
  | case3 c s _ _ ih => rw [List.flatten_cons, ih]; rfl
  | case4 c s _ _ hs ih => rw [hs] at ih; rw [← ih]; rfl
  | case5 c s _ _ l rest hs ih => rw [hs] at ih; rw [← ih]; rfl

/-- The text with a margin before every line that is not blank. -/
def indentLines (margin s : Text) : Text :=
  (lines s).flatMap fun l => if l.allBlank then l else margin ++ l

end XmlTemplate.Text
