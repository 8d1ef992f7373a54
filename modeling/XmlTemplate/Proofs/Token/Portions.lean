import XmlTemplate.Proofs.Token.Tiling
import XmlTemplate.Proofs.Token.Group

/-!
# The source lexeme by lexeme

The tokens of a source leave out its blanks and comments. `Text.portions` keeps them: it cuts a
source into lexemes, each with the place where it starts and the text that it covers, and needs to
know no more of what it has read than how many groups are open. The portions of a source are the
source (`textOf_portions`), and without the blanks and comments they are its tokens, a group being
its opening delimiter, its tokens and its closing delimiter (`solid_portions`).

`Cuts` is the same cut told of a stretch with something after it. It is what the proofs go by, since
a stretch of tokens is a stretch of portions (`Lexes.cuts`).
-/

set_option autoImplicit false

namespace XmlTemplate

/-- A lexeme of a source, the offset where it starts and the text that it covers. -/
structure Portion where
  kind : Lexeme
  start : Nat
  text : Text
  deriving DecidableEq, Repr

namespace Portion

/-- Whether the portion stands for something, blanks and comments standing for nothing. -/
def isSolid (p : Portion) : Bool :=
  match p.kind with
  | .blanks | .comment => false
  | _ => true

/-- Whether an offset lies in the portion. -/
def Covers (p : Portion) (i : Nat) : Prop := p.start ≤ i ∧ i < p.start + p.text.length

end Portion

/-- How many groups are open after a lexeme. -/
def Lexeme.depthAfter (depth : Nat) : Lexeme → Nat
  | opening _ => depth + 1
  | closing _ => depth - 1
  | _ => depth

/-- The portions of a text that starts at an offset, inside of so many groups. -/
def portionsFrom (depth start : Nat) : Text → List Portion
  | [] => []
  | c :: s =>
    let here := lexeme (depth != 0) c s
    ⟨here.1, start, (c :: s).take here.2⟩ ::
      portionsFrom (here.1.depthAfter depth) (start + here.2) ((c :: s).drop here.2)
termination_by s => s.length
decreasing_by
  have := lexeme_length_pos (depth != 0) c s
  simp only [List.length_drop, List.length_cons]
  omega

/-- The portions of a source. -/
def Text.portions (source : Text) : List Portion := portionsFrom 0 0 source

/-- What portions cover, one after the other. -/
def textOf (ps : List Portion) : Text := ps.flatMap Portion.text

@[simp] theorem textOf_nil : textOf [] = [] := rfl

@[simp] theorem textOf_cons (p : Portion) (ps : List Portion) :
    textOf (p :: ps) = p.text ++ textOf ps := rfl

@[simp] theorem textOf_append (ps qs : List Portion) :
    textOf (ps ++ qs) = textOf ps ++ textOf qs := List.flatMap_append

/-! ## Portions with something after them -/

/-- Inside of so many groups, the text that starts at an offset is cut into the portions first, and
`rest` comes after them. -/
inductive Cuts : (depth start : Nat) → List Portion → (rest : Text) → Prop
  | nil (depth start : Nat) (rest : Text) : Cuts depth start [] rest
  | cons {depth start : Nat} {c : Char} {s rest : Text} {k : Lexeme} {ps : List Portion}
      (here : lexeme (depth != 0) c (s ++ (textOf ps ++ rest)) = (k, s.length + 1))
      (after : Cuts (k.depthAfter depth) (start + (s.length + 1)) ps rest) :
      Cuts depth start (⟨k, start, c :: s⟩ :: ps) rest

/-- How many groups are open after all of the portions. -/
def depthAfter (depth : Nat) (ps : List Portion) : Nat :=
  ps.foldl (fun n p => p.kind.depthAfter n) depth

theorem depthAfter_append (depth : Nat) (ps qs : List Portion) :
    depthAfter depth (ps ++ qs) = depthAfter (depthAfter depth ps) qs := List.foldl_append

section

variable {depth start : Nat} {ps qs : List Portion} {rest : Text} {p : Portion}

/-- One cut after the other. -/
theorem Cuts.append (h : Cuts depth start ps (textOf qs ++ rest))
    (h' : Cuts (depthAfter depth ps) (start + (textOf ps).length) qs rest) :
    Cuts depth start (ps ++ qs) rest := by
  generalize hv : textOf qs ++ rest = v at h
  induction h with
  | nil => exact h'
  | @cons depth start c s _ k ps here _ ih =>
    subst hv
    rw [List.cons_append]
    refine .cons ?_ (ih ?_ rfl)
    · rwa [textOf_append, List.append_assoc]
    · have hstart : start + (textOf (⟨k, start, c :: s⟩ :: ps)).length =
          start + (s.length + 1) + (textOf ps).length := by
        rw [textOf_cons, List.length_append, List.length_cons]
        omega
      rwa [hstart] at h'

/-- The second part of a cut starts where the first one ends. -/
theorem Cuts.right (h : Cuts depth start (ps ++ qs) rest) :
    Cuts (depthAfter depth ps) (start + (textOf ps).length) qs rest := by
  induction ps generalizing depth start with
  | nil => exact h
  | cons p ps ih =>
    cases h with
    | @cons _ _ c s _ k _ here after =>
      have hright := ih after
      have hstart : start + (s.length + 1) + (textOf ps).length =
          start + (textOf (⟨k, start, c :: s⟩ :: ps)).length := by
        rw [textOf_cons, List.length_append, List.length_cons]
        omega
      rwa [hstart] at hright

/-- The first part of a cut has the second one after it. -/
theorem Cuts.left (h : Cuts depth start (ps ++ qs) rest) :
    Cuts depth start ps (textOf qs ++ rest) := by
  induction ps generalizing depth start with
  | nil => exact .nil _ _ _
  | cons p ps ih =>
    rw [List.cons_append] at h
    cases h with
    | cons here after =>
      rw [textOf_append, List.append_assoc] at here
      exact .cons here (ih after)

/-- What the lexer answers at a portion. -/
theorem Cuts.lexeme_of_mem (h : Cuts depth start ps rest) (hp : p ∈ ps) :
    ∃ (grouped : Bool) (c : Char) (s after : Text), p.text = c :: s ∧
      lexeme grouped c (s ++ after) = (p.kind, s.length + 1) := by
  induction h with
  | nil => cases hp
  | cons here _ ih =>
    rcases List.mem_cons.1 hp with rfl | hp
    · exact ⟨_, _, _, _, rfl, here⟩
    · exact ih hp

/-- An offset in a cut lies in one of the portions. -/
theorem Cuts.exists_covers (h : Cuts depth start ps rest) {i : Nat} (hi : i < (textOf ps).length) :
    ∃ p ∈ ps, p.Covers (start + i) ∧ p.text[start + i - p.start]? = (textOf ps)[i]? := by
  induction h generalizing i with
  | nil => exact absurd hi (Nat.not_lt_zero i)
  | @cons depth start c s rest k ps here after ih =>
    rw [textOf_cons, List.length_append] at hi
    rcases Nat.lt_or_ge i (c :: s).length with hlt | hle
    · refine ⟨_, List.mem_cons_self, ⟨Nat.le_add_right _ _, Nat.add_lt_add_left hlt start⟩, ?_⟩
      rw [Nat.add_sub_cancel_left, textOf_cons, List.getElem?_append_left hlt]
    · obtain ⟨j, rfl⟩ := Nat.exists_eq_add_of_le hle
      obtain ⟨p, hp, hcovers, htext⟩ := ih (i := j) (by simpa using hi)
      have hoffset : start + (s.length + 1) + j = start + ((c :: s).length + j) := by
        rw [List.length_cons]
        omega
      rw [hoffset] at hcovers htext
      refine ⟨p, List.mem_cons_of_mem _ hp, hcovers, ?_⟩
      rw [htext, textOf_cons, List.getElem?_append_right (Nat.le_add_right _ _),
        Nat.add_sub_cancel_left]

/-- A text is cut into the portions of a cut and those of the rest. -/
theorem Cuts.portionsFrom_eq (h : Cuts depth start ps rest) :
    portionsFrom depth start (textOf ps ++ rest) =
      ps ++ portionsFrom (depthAfter depth ps) (start + (textOf ps).length) rest := by
  induction h with
  | nil => rfl
  | @cons depth start c s rest k ps here _ ih =>
    have hstart : start + (c :: s ++ textOf ps).length =
        start + (s.length + 1) + (textOf ps).length := by
      rw [List.length_append, List.length_cons]
      omega
    rw [textOf_cons, List.append_assoc, List.cons_append, portionsFrom]
    simp only [here, List.take_succ_cons, List.take_left', List.drop_succ_cons, List.drop_left']
    rw [ih, hstart]
    rfl

end

/-! ## Tokens as portions -/

mutual

/-- The solid portions that make up a token. -/
def Token.portions : Token → List Portion
  | .leaf kind text p => [⟨.leaf kind, p.start, text⟩]
  | .group d _ p children =>
    ⟨.opening d, p.start, [d.opener]⟩ ::
      (Token.portionsAll children ++ [⟨.closing d, p.stop - 1, [d.closer]⟩])

/-- The solid portions that make up tokens. -/
def Token.portionsAll : List Token → List Portion
  | [] => []
  | t :: ts => t.portions ++ Token.portionsAll ts

end

/-- A stretch of tokens is cut into portions; the groups that it opens it closes again, and without
its blanks and comments it is its tokens. -/
theorem Lexes.cuts {grouped : Bool} {shown rest : Text} {pos : Position} {ts : List Token}
    (h : Lexes grouped shown rest pos ts) {depth : Nat} (hdepth : (depth != 0) = grouped) :
    ∃ ps, Cuts depth pos.offset ps rest ∧ textOf ps = shown ∧ depthAfter depth ps = depth ∧
      ps.filter Portion.isSolid = Token.portionsAll ts := by
  induction h generalizing depth with
  | nil => exact ⟨[], .nil _ _ _, rfl, rfl, rfl⟩
  | @skip _ c s t rest pos ts k hk here _ ih =>
    obtain ⟨ps, hps, rfl, hafter, hsolid⟩ := ih hdepth
    subst hdepth
    have hsame : k.depthAfter depth = depth := by rcases hk with rfl | rfl <;> rfl
    have hskipped : Portion.isSolid ⟨k, pos.offset, c :: s⟩ = false := by
      rcases hk with rfl | rfl <;> rfl
    rw [Position.offset_after] at hps
    refine ⟨⟨k, pos.offset, c :: s⟩ :: ps, .cons here ?_, rfl, ?_, ?_⟩
    · rwa [hsame]
    · change depthAfter (k.depthAfter depth) ps = depth
      rwa [hsame]
    · rw [List.filter_cons_of_neg (by rw [hskipped]; exact Bool.false_ne_true), hsolid]
  | @leaf _ c s t rest pos ts kind here _ ih =>
    obtain ⟨ps, hps, rfl, hafter, hsolid⟩ := ih hdepth
    subst hdepth
    rw [Position.offset_after] at hps
    refine ⟨⟨.leaf kind, pos.offset, c :: s⟩ :: ps, .cons here hps, rfl, hafter, ?_⟩
    rw [List.filter_cons_of_pos rfl, hsolid]
    rfl
  | @group _ d inner t rest pos children ts _ _ ihInside ihAfter =>
    have hgrouped : (depth + 1 != 0) = true := rfl
    obtain ⟨ps, hps, rfl, hinside, hsolid⟩ := ihInside hgrouped
    obtain ⟨qs, hqs, rfl, hafter, hsolid'⟩ := ihAfter hdepth
    have hopen : (pos.next d.opener).offset = pos.offset + 1 := pos.offset_next _
    have hclose : ((pos.next d.opener).after (textOf ps)).offset =
        pos.offset + 1 + (textOf ps).length := by
      rw [Position.offset_after, hopen]
    rw [Position.offset_next, hclose] at hqs
    rw [hopen] at hps
    -- the closing delimiter, in front of what comes after the group
    have hcloser : Cuts (depth + 1) (pos.offset + 1 + (textOf ps).length)
        (⟨.closing d, pos.offset + 1 + (textOf ps).length, [d.closer]⟩ :: qs) rest :=
      .cons (s := []) (lexeme_closer _ d _) hqs
    have hboth : Cuts (depth + 1) (pos.offset + 1) (ps ++
        ⟨.closing d, pos.offset + 1 + (textOf ps).length, [d.closer]⟩ :: qs) rest := by
      refine .append hps ?_
      rwa [hinside]
    refine ⟨⟨.opening d, pos.offset, [d.opener]⟩ :: _,
      .cons (s := []) (lexeme_opener _ d _) hboth, ?_, ?_, ?_⟩
    · simp
    · change depthAfter (depth + 1) (ps ++ _) = depth
      rw [depthAfter_append, hinside]
      exact hafter
    · have hstop : pos.offset + (List.length (textOf ps) + 2) - 1 =
          pos.offset + 1 + (textOf ps).length := by omega
      rw [List.filter_cons_of_pos rfl, List.filter_append, hsolid, List.filter_cons_of_pos rfl,
        hsolid', Token.portionsAll, Token.portions, Position.span]
      simp [hstop]

/-! ## Sources -/

section

variable {source : Text} {ts : List Token}

/-- Where a source has tokens, it is cut into its portions from end to end. -/
theorem cuts_portions (h : Token.lex source = .ok ts) :
    Cuts 0 0 source.portions [] ∧ textOf source.portions = source ∧
      source.portions.filter Portion.isSolid = Token.portionsAll ts := by
  have houtside : (0 != 0) = false := rfl
  obtain ⟨ps, hps, hsource, -, hsolid⟩ := (Token.lex_eq_ok_iff.1 h).cuts houtside
  have hportions : source.portions = ps := by
    have heq := hps.portionsFrom_eq
    rw [List.append_nil, hsource, portionsFrom, List.append_nil] at heq
    exact heq
  rw [hportions]
  exact ⟨hps, hsource, hsolid⟩

/-- The tokens of a source are its lexemes without the blanks and comments. -/
theorem solid_portions (h : Token.lex source = .ok ts) :
    source.portions.filter Portion.isSolid = Token.portionsAll ts := (cuts_portions h).2.2

/-- Nothing of a source is left out of its portions. -/
theorem textOf_portions (h : Token.lex source = .ok ts) : textOf source.portions = source :=
  (cuts_portions h).2.1

end

end XmlTemplate
