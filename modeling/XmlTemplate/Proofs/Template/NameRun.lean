import Mathlib.Data.List.Chain
import XmlTemplate.Proofs.Template.Readers

/-!
# The tokens that a name takes

Of the tokens at a cursor, a name takes the longest run of words and marks without two words side by
side. `IsLongestNameRun` says so without regard to the reading, and `readName_takes` that the
reading takes exactly that run, whether the text of the run is a name or not.

The tokens themselves come one at a time. A `Window` holds the one at hand and the one after it and
fetches a new one whenever it moves on. Taking a run through a window is the same as taking it from
the whole list: the window stands before the tokens behind the run, and none of them is lost or
moved (`Window.takeRun_ofTokens`).
-/

set_option autoImplicit false

namespace XmlTemplate

variable {ts us run rest : List Token} {t : Token}

/-! ## Runs of words and marks -/

/-- Words and marks of names, with no two words side by side. -/
structure AreNameTokens (ts : List Token) : Prop where
  kinds : ∀ t ∈ ts, t.isNameWord = true ∨ t.isNameMark = true
  apart : ts.IsChain fun t u => ¬(t.isNameWord = true ∧ u.isNameWord = true)

/-- The tokens start with a run of words and marks, and no longer part of them is one. -/
structure IsLongestNameRun (ts run rest : List Token) : Prop where
  split : ts = run ++ rest
  joined : AreNameTokens run
  longest : ∀ r, r <+: ts → AreNameTokens r → r <+: run

theorem AreNameTokens.of_append (h : AreNameTokens (ts ++ us)) : AreNameTokens ts where
  kinds := fun t ht => h.kinds t (List.mem_append_left us ht)
  apart := (List.isChain_append.1 h.apart).1

/-- The runs that the grammar puts together token by token, keeping in mind whether a word may come
next. -/
theorem isNameRun_iff {wordNext : Bool} :
    Grammar.IsNameRun wordNext ts ↔
      AreNameTokens ts ∧ (wordNext = false → ∀ t ∈ ts.head?, t.isNameWord = false) := by
  constructor
  · intro h
    induction h with
    | nil => exact ⟨⟨by simp, .nil⟩, by simp⟩
    | @word t ts ht _ ih =>
      obtain ⟨hmore, hfirst⟩ := ih
      refine ⟨⟨List.forall_mem_cons.2 ⟨.inl ht, hmore.kinds⟩, ?_⟩, by simp⟩
      refine List.isChain_cons.2 ⟨?_, hmore.apart⟩
      rintro u hu ⟨-, hword⟩
      rw [hfirst rfl u hu] at hword
      cases hword
    | @mark wordNext t ts ht _ ih =>
      obtain ⟨hmore, -⟩ := ih
      have hno : t.isNameWord = false := by
        rw [Bool.eq_false_iff]
        intro hword
        rw [Parse.isNameMark_of_isNameWord hword] at ht
        cases ht
      refine ⟨⟨List.forall_mem_cons.2 ⟨.inr ht, hmore.kinds⟩, ?_⟩, ?_⟩
      · refine List.isChain_cons.2 ⟨?_, hmore.apart⟩
        rintro u - ⟨hword, -⟩
        rw [hno] at hword
        cases hword
      · rintro - _ ⟨⟩
        exact hno
  · rintro ⟨hall, hfirst⟩
    induction ts generalizing wordNext with
    | nil => exact .nil wordNext
    | cons t ts ih =>
      obtain ⟨hkind, hkinds⟩ := List.forall_mem_cons.1 hall.kinds
      obtain ⟨hnext, hapart⟩ := List.isChain_cons.1 hall.apart
      rcases hkind with hword | hmark
      · obtain rfl : wordNext = true := by
          cases wordNext with
          | true => rfl
          | false =>
            rw [hfirst rfl t rfl] at hword
            cases hword
        apply Grammar.IsNameRun.word hword
        apply ih ⟨hkinds, hapart⟩
        intro _ u hu
        rw [Bool.eq_false_iff]
        exact fun hu' => hnext u hu ⟨hword, hu'⟩
      · exact .mark hmark (ih ⟨hkinds, hapart⟩ (by simp))

/-- What `nameRun` takes is the longest run: it cannot be made longer by one token, and a longer one
would begin with that. -/
theorem isLongestNameRun_of_nameRun (h : nameRun true ts = (run, rest)) :
    IsLongestNameRun ts run rest := by
  obtain ⟨rfl, joined, longest⟩ := Parse.nameRun_eq_iff.1 h
  refine ⟨rfl, (isNameRun_iff.1 joined).1, ?_⟩
  intro r hr htokens
  rcases List.prefix_or_prefix_of_prefix hr (List.prefix_append run rest) with hle | ⟨more, rfl⟩
  · exact hle
  · cases more with
    | nil => exact ⟨[], by simp⟩
    | cons t more =>
      obtain ⟨after, hafter⟩ := hr
      rw [List.append_assoc, List.append_cancel_left_eq, List.cons_append] at hafter
      rw [List.append_cons] at htokens
      have hrun : Grammar.IsNameRun true (run ++ [t]) :=
        isNameRun_iff.2 ⟨htokens.of_append, by simp⟩
      exact absurd hrun (longest t (by rw [← hafter]; rfl))

/-! ## Tokens that come one at a time -/

/-- What can be seen of the tokens: the one at hand, the one after it, and those that have not been
fetched. -/
structure Window where
  current : Option Token
  next : Option Token
  unseen : List Token

namespace Window

/-- A window before the first of the tokens, with two of them fetched. -/
def ofTokens (ts : List Token) : Window := ⟨ts.head?, ts.tail.head?, ts.tail.tail⟩

/-- Move on by one token, and fetch another one. -/
def advance (w : Window) : Window := ⟨w.next, w.unseen.head?, w.unseen.tail⟩

/-- How many tokens the window has yet to move over. -/
def left (w : Window) : Nat := w.current.toList.length + (w.next.toList.length + w.unseen.length)

theorem left_advance {w : Window} (h : w.current = some t) : w.advance.left < w.left := by
  have hfetched : w.unseen.head?.toList.length + w.unseen.tail.length = w.unseen.length := by
    cases w.unseen with
    | nil => rfl
    | cons u us => simp [Nat.add_comm]
  rw [left, left, advance, hfetched, h]
  simp

/-- Take words and marks off the window, for as long as there are any; a word may come next where
`wordNext` holds. -/
def takeRun (wordNext : Bool) (w : Window) : List Token × Window :=
  match _h : w.current with
  | none => ([], w)
  | some t =>
    if t.isNameWord then
      if wordNext then
        let (run, w') := takeRun false w.advance
        (t :: run, w')
      else ([], w)
    else if t.isNameMark then
      let (run, w') := takeRun true w.advance
      (t :: run, w')
    else ([], w)
termination_by w.left
decreasing_by
  all_goals exact left_advance ‹_›

/-- A window that moves on stands before the next of the tokens. -/
theorem advance_ofTokens (ts : List Token) : (ofTokens ts).advance = ofTokens ts.tail := by
  rcases ts with _ | ⟨t, _ | ⟨u, us⟩⟩ <;> rfl

/-- Through the window the same run is taken as from the list, and the window is left before the
tokens behind it. -/
theorem takeRun_ofTokens (wordNext : Bool) (ts : List Token) :
    (ofTokens ts).takeRun wordNext =
      ((nameRun wordNext ts).1, ofTokens (nameRun wordNext ts).2) := by
  induction ts generalizing wordNext with
  | nil =>
    rw [takeRun]
    rfl
  | cons t ts ih =>
    have hnext : (ofTokens (t :: ts)).advance = ofTokens ts := advance_ofTokens (t :: ts)
    rw [takeRun]
    split
    · next h => cases h
    · next u h =>
      obtain rfl : t = u := Option.some.inj h
      rw [nameRun]
      by_cases hword : t.isNameWord = true
      · cases wordNext with
        | true =>
          rw [if_pos hword, hword, hnext, ih]
          rfl
        | false =>
          -- a second word ends the run, although it is a word
          rw [if_pos hword, hword, Parse.isNameMark_of_isNameWord hword]
          rfl
      · rw [if_neg hword, Bool.eq_false_iff.2 hword]
        by_cases hmark : t.isNameMark = true
        · rw [if_pos hmark, hmark, hnext, ih]
          rfl
        · rw [if_neg hmark, Bool.eq_false_iff.2 hmark]
          rfl

end Window

/-! ## Reading a name -/

/-- Reading goes by the run that has been taken. -/
theorem readName_of_nameRun {first : Token} (hfirst : first.isKind .string = false)
    {more : List Token} (hrun : nameRun true (first :: more) = (run, rest))
    (enclosing : Option Span) :
    Parse.readName ⟨first :: more, enclosing⟩ =
      (if run = [] then .error ⟨.expectedName first.shown, some first.span⟩ ⟨rest, enclosing⟩
      else if isName (run.flatMap Token.text) then
        .ok (run.flatMap Token.text) ⟨rest, enclosing⟩
      else .error ⟨.invalidName (run.flatMap Token.text), some first.span⟩ ⟨rest, enclosing⟩) := by
  have hpeek : Parse.peek ⟨first :: more, enclosing⟩ = .ok first ⟨first :: more, enclosing⟩ := rfl
  have hget : (get : Parse Cursor) ⟨first :: more, enclosing⟩ =
      .ok ⟨first :: more, enclosing⟩ ⟨first :: more, enclosing⟩ := rfl
  rw [Parse.readName, bind_of_ok hpeek, hfirst, if_neg Bool.false_ne_true, bind_of_ok hget]
  dsimp only
  rw [hrun]
  cases run with
  | nil =>
    have hsame : first :: more = rest := (isLongestNameRun_of_nameRun hrun).split
    rw [hsame]
    rfl
  | cons t run =>
    rw [if_neg (List.cons_ne_nil t run)]
    change (Parse.checkName ((t :: run).flatMap Token.text) first.span) ⟨rest, enclosing⟩ = _
    rw [Parse.checkName]
    split <;> rfl

/-- A name that is not given as a string takes exactly the longest run of words and marks, if there
is any: it is the text of the run, or no name at all, and then the error is at the first token. If
there is none, nothing is taken and the error is at the first token too. The tokens behind the run
stay as they are, and so does what a window shows of them. -/
theorem readName_takes {first : Token} (hfirst : first.isKind .string = false)
    (more : List Token) (enclosing : Option Span) :
    ∃ run rest, IsLongestNameRun (first :: more) run rest ∧
      Parse.readName ⟨first :: more, enclosing⟩ =
        (if run = [] then .error ⟨.expectedName first.shown, some first.span⟩ ⟨rest, enclosing⟩
        else if isName (run.flatMap Token.text) then
          .ok (run.flatMap Token.text) ⟨rest, enclosing⟩
        else .error ⟨.invalidName (run.flatMap Token.text), some first.span⟩ ⟨rest, enclosing⟩) ∧
      (Window.ofTokens (first :: more)).takeRun true = (run, Window.ofTokens rest) := by
  cases hrun : nameRun true (first :: more) with
  | mk run rest =>
    refine ⟨run, rest, isLongestNameRun_of_nameRun hrun,
      readName_of_nameRun hfirst hrun enclosing, ?_⟩
    rw [Window.takeRun_ofTokens, hrun]

/-- A word, a hyphen and a number, and then a second word. -/
def twoNames : List Token :=
  [.leaf .identifier ['a'] ⟨1, 1, 0, 1⟩, .leaf .punctuation ['-'] ⟨1, 2, 1, 2⟩,
    .leaf .number ['1'] ⟨1, 4, 3, 4⟩, .leaf .identifier ['b'] ⟨1, 6, 5, 6⟩,
    .leaf .punctuation [':'] ⟨1, 7, 6, 7⟩]

/-- The hyphen takes the number along, and the second word is left with what comes behind it. -/
theorem readName_takes_twoNames :
    (∀ first ∈ twoNames.head?, first.isKind .string = false) ∧
      Parse.readName ⟨twoNames, none⟩ = .ok "a-1".toList ⟨twoNames.drop 3, none⟩ ∧
      ∃ run rest, IsLongestNameRun twoNames run rest ∧
        (Window.ofTokens twoNames).takeRun true = (run, Window.ofTokens rest) := by
  have hfirst : (Token.leaf .identifier ['a'] ⟨1, 1, 0, 1⟩).isKind .string = false := rfl
  obtain ⟨run, rest, hlongest, -, hwindow⟩ := readName_takes hfirst (twoNames.drop 1) none
  refine ⟨by simp [twoNames, hfirst], ?_, run, rest, hlongest, hwindow⟩
  rfl

end XmlTemplate
