import XmlTemplate.Text.Basic

/-!
# Room

What is nested takes room, and there is only so much of it. Elements take room while a template is
read and while it is written, and so do expansions of templates inside of scripts, and values inside
of values that are shown or compared. What does not find the room it needs fails.
-/

set_option autoImplicit false

namespace XmlTemplate

/-- The room where nothing has been nested yet. -/
def maxRoom : Nat := 992

/-- The room that an element takes from the elements in it. -/
def elementRoom : Nat := 2

/-- The room that it needs to check a name. -/
def nameRoom (name : Text) : Nat := if name.length ≤ 1 then 7 else 10

/-- The room that reading a template takes from its root element. -/
def readingRoom : Nat := 4

/-- The room that keeping templates takes from reading one. -/
def keepingRoom : Nat := 3

/-- How deep a script may be nested that is read in an element with the given room. -/
def scriptDepth (room : Nat) : Nat := 3 * (room - 4)

end XmlTemplate
