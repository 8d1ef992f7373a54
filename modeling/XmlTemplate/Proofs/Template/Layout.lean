import XmlTemplate.Proofs.Template.LockstepMarkup
import XmlTemplate.Proofs.Token.Group
import XmlTemplate.Proofs.Token.Places

/-!
# Layout between tokens

Blanks, line ends and comments between tokens have no meaning. Where two sources have tokens that
look the same one by one, each of these tokens is one and the same, which stands in two places
(`Token.alike_of_look`), so that the sources are read in lockstep: both are the same template, or
both fail for the same cause (`Template.parse_layout`).

A destination makes a difference. It is cut from the source with the layout that stands in it, and
so the sources are asked to go on with markup after their directives.
-/

set_option autoImplicit false

namespace XmlTemplate

/-! ## Tokens that look the same -/

/-- What a token looks like by itself: its kind or its delimiters, and its text. -/
inductive Look where
  | leaf (kind : Kind) (text : Text)
  | group (delimiter : Delimiter) (text : Text)
  deriving DecidableEq, Repr

namespace Token

/-- What the token looks like, wherever it stands. -/
def look : Token → Look
  | leaf kind text _ => .leaf kind text
  | group d text _ _ => .group d text

/-- A leaf of a source is the one at the head of a source, moved to where it stands. -/
theorem leaf_of_lex {source : Text} {ts : List Token} {kind : Kind} {text : Text} {p : Span}
    (h : lex source = .ok ts) (ht : .leaf kind text p ∈ ts) :
    ∃ base, leaf kind text p =
      (leaf kind text (Position.first.span text.length)).moved base := by
  refine ⟨⟨p.line, p.column, p.start⟩, ?_⟩
  have hspan : p = Position.span ⟨p.line, p.column, p.start⟩ text.length := by
    rw [Position.span, ← stop_of_lex h ht]
  rw [moved, ← Position.span_moved, Position.moved_first, ← hspan]

/-- So is a group, with the tokens that its text has by itself. -/
theorem group_of_lex {source : Text} {ts : List Token} {d : Delimiter} {text : Text} {p : Span}
    {children : List Token} (h : lex source = .ok ts) (ht : .group d text p children ∈ ts) :
    ∃ v base, lex (d.opener :: (text ++ [d.closer])) = .ok [v] ∧
      group d text p children = v.moved base := by
  obtain ⟨base, after, rfl, hinside⟩ := (lex_eq_ok_iff.1 h).group_of_occurs (.of_mem ht)
  obtain ⟨us, hus, rfl⟩ := hinside.group_alone
  refine ⟨.group d text (Position.first.span (text.length + 2)) us, base, ?_, ?_⟩
  · exact lex_eq_ok_iff.2 (.group d hus (.nil false [] _))
  · rw [moved, ← Position.span_moved, Position.moved_first]

/-- Tokens of two sources that look the same are one token in two places. -/
theorem alike_of_look {source source' : Text} {ts us : List Token} (h : lex source = .ok ts)
    (h' : lex source' = .ok us) {t u : Token} (ht : t ∈ ts) (hu : u ∈ us) (hlook : t.look = u.look) :
    t.Alike u := by
  cases t with
  | leaf kind text p =>
    cases u with
    | group => cases hlook
    | leaf kind' text' q =>
      cases hlook
      obtain ⟨base, hp⟩ := leaf_of_lex h ht
      obtain ⟨base', hq⟩ := leaf_of_lex h' hu
      exact ⟨_, base, base', hp, hq⟩
  | group d text p children =>
    cases u with
    | leaf => cases hlook
    | group d' text' q children' =>
      cases hlook
      obtain ⟨v, base, hv, hp⟩ := group_of_lex h ht
      obtain ⟨v', base', hv', hq⟩ := group_of_lex h' hu
      -- what the text has for tokens does not depend on the source around it
      rw [hv] at hv'
      cases hv'
      exact ⟨v, base, base', hp, hq⟩

theorem forall₂_alike {source source' : Text} {ts us : List Token} (h : lex source = .ok ts)
    (h' : lex source' = .ok us) (hlook : ts.map look = us.map look) : List.Forall₂ Alike ts us := by
  have hparts : ∀ vs ws : List Token, vs.map look = ws.map look → vs ⊆ ts → ws ⊆ us →
      List.Forall₂ Alike vs ws := by
    intro vs
    induction vs with
    | nil =>
      intro ws hlook _ _
      obtain rfl := List.map_eq_nil_iff.1 hlook.symm
      exact .nil
    | cons v vs ih =>
      intro ws hlook hvs hws
      obtain ⟨w, ws, rfl, hw, hmore⟩ := List.map_eq_cons_iff.1 hlook.symm
      obtain ⟨hv, hvs⟩ := List.cons_subset.1 hvs
      obtain ⟨hw', hws⟩ := List.cons_subset.1 hws
      exact .cons (alike_of_look h h' hv hw' hw.symm) (ih ws hmore.symm hvs hws)
  exact hparts ts us hlook (List.Subset.refl ts) (List.Subset.refl us)

end Token

/-! ## Heads without a destination -/

/-- Whether markup comes after any number of directives, if anything does. -/
def startsAsMarkup : List Token → Bool
  | [] => true
  | [t] => t.isPunctuation ['<']
  | t :: g :: ts =>
    t.isPunctuation ['<'] || (t.isPunctuation ['#'] && g.isGroup ['['] && startsAsMarkup ts)

namespace Parse

/-- Tokens that are alike, whatever is wrong with them and wherever. -/
theorem pairsGroups_alike : PairsGroups Token.Alike fun _ _ => True where
  alike h := h
  charged _ _ := trivial
  inside _ _ := trivial

/-- What is in a group is read without a token outside of it being taken. -/
theorem eq_of_within {α : Type} {group : Token} {p : Parse α} {a : α} {c c' : Cursor}
    (h : within group p c = .ok a c') : c' = c := by
  rw [within] at h
  split at h
  · cases h
    rfl
  · cases h

section Head

variable {room n m : Nat} {source source' : Text} {layout layout' : Option LayoutDirective}
  {o o' : Option Span}

/-- Markup ends both heads, with the tokens that are left. -/
theorem endsAlike_head_markup {t u : Token} {ts us : List Token} (htu : t.Alike u)
    (hts : List.Forall₂ Token.Alike ts us) (hn : (t :: ts).length ≤ n) (hm : (t :: ts).length ≤ m)
    (ht : t.isPunctuation ['<'] = true) (h : AlikeHeads (none, layout) (none, layout')) :
    EndsAlike Token.Alike (fun _ _ => True) m AlikeHeads o o'
      (head room source none layout n ⟨t :: ts, o⟩)
      (head room source' none layout' n ⟨u :: us, o'⟩) := by
  obtain ⟨n, rfl⟩ := Nat.exists_eq_succ_of_ne_zero (Nat.ne_zero_of_lt hn)
  have hu : u.isPunctuation ['<'] = true := by
    obtain ⟨v, base, base', rfl, rfl⟩ := htu
    rwa [Token.isPunctuation_moved] at ht ⊢
  rw [head_markup ht, head_markup hu]
  exact .ok h (.cons htu hts) hm

/-- Without a destination the heads of two sources are read in lockstep. -/
theorem endsAlike_head {ts us : List Token} (hts : List.Forall₂ Token.Alike ts us)
    (hn : ts.length ≤ n) (hm : ts.length ≤ m) (hstart : startsAsMarkup ts = true)
    (h : AlikeHeads (none, layout) (none, layout')) :
    EndsAlike Token.Alike (fun _ _ => True) m AlikeHeads o o'
      (head room source none layout n ⟨ts, o⟩) (head room source' none layout' n ⟨us, o'⟩) := by
  induction ts using startsAsMarkup.induct generalizing us n layout layout' with
  | case1 =>
    cases hts
    cases n <;> exact .ended (Nat.zero_le 1)
  | case2 t =>
    cases hts with
    | cons htu hts => exact endsAlike_head_markup htu hts hn hm hstart h
  | case3 t g ts ih =>
    rcases hts with _ | ⟨htu, _ | ⟨hgg', hts⟩⟩
    simp only [startsAsMarkup, Bool.or_eq_true, Bool.and_eq_true] at hstart
    obtain ht | ⟨⟨ht, hg⟩, hmore⟩ := hstart
    · exact endsAlike_head_markup htu (.cons hgg' hts) hn hm ht h
    · -- a directive is read in its group, and both heads go on after it
      obtain ⟨n, rfl⟩ := Nat.exists_eq_succ_of_ne_zero (Nat.ne_zero_of_lt hn)
      simp only [List.length_cons] at hn hm
      have ⟨v, base, base', hv, hv'⟩ := htu
      have ⟨w, place, place', hw, hw'⟩ := hgg'
      subst hv hv' hw hw'
      have hsome : layout.isSome = layout'.isSome := by
        simpa only [Option.isSome_map] using congrArg Option.isSome h.2
      rw [Token.isPunctuation_moved] at ht
      rw [Token.isGroup_moved] at hg
      rw [head_directive ((v.isPunctuation_moved base _).trans ht)
          ((w.isGroup_moved place _).trans hg),
        head_directive ((v.isPunctuation_moved base' _).trans ht)
          ((w.isGroup_moved place' _).trans hg)]
      have hparsed := agrees_directive (n := n) pairsGroups_alike room hg hgg' ts _ o o' hts (by omega)
      generalize hp : directive room (w.moved place) _ = r at hparsed
      generalize hq : directive room (w.moved place') _ = r' at hparsed
      cases hparsed with
      | ok answer _ _ =>
        obtain ⟨rfl, -⟩ := Cursor.mk.inj (eq_of_within hp)
        obtain ⟨rfl, -⟩ := Cursor.mk.inj (eq_of_within hq)
        rw [bind_of_ok hp, bind_of_ok hq, hsome]
        split
        · exact .blamed trivial
        · exact ih hts (by omega) (by omega) hmore (h.addLayout answer)
      | blamed charged =>
        rw [bind_of_error hp, bind_of_error hq]
        exact .blamed charged
      | ended short =>
        rw [bind_of_error hp, bind_of_error hq]
        exact .ended short

end Head

end Parse

namespace Template

open Parse

variable {permission : Permission} {room : Nat}

/-- Layout between the tokens of a source does not matter. Two sources with tokens that look the
same, one by one, and with markup after their directives are either both read, as templates that are
the same up to places, or both fail for the same cause. -/
theorem parse_layout {source source' : Text} {ts us : List Token}
    (hlex : Token.lex source = .ok ts) (hlex' : Token.lex source' = .ok us)
    (hlook : ts.map Token.look = us.map Token.look) (hstart : startsAsMarkup ts = true) :
    (∃ t u, parse permission room source = .ok t ∧ parse permission room source' = .ok u ∧
        t.unplaced = u.unplaced ∧ t.same u = true) ∨
      ∃ e f, parse permission room source = .error e ∧ parse permission room source' = .error f ∧
        e.cause = f.cause := by
  have hts := Token.forall₂_alike hlex hlex' hlook
  have hnone : AlikeHeads (none, none) (none, none) := ⟨rfl, rfl⟩
  have hends : EndsAlike Token.Alike (fun _ _ => True) ts.length
      (fun t u : Template => t.unplaced = u.unplaced) none none
      (whole permission room source ⟨ts, none⟩) (whole permission room source' ⟨us, none⟩) := by
    refine endsAlike_whole pairsGroups_alike permission room ?_
    rw [← hts.length_eq]
    exact endsAlike_head hts (Nat.le_refl _) (Nat.le_refl _) hstart hnone
  rw [parse_of_lex hlex, parse_of_lex hlex']
  generalize hp : whole permission room source _ = r at hends
  generalize hq : whole permission room source' _ = r' at hends
  cases hends with
  | ok hsame _ _ =>
    exact .inl ⟨_, _, ofTokens_eq_ok.2 ⟨_, hp⟩, ofTokens_eq_ok.2 ⟨_, hq⟩, hsame,
      same_of_unplaced hsame⟩
  | blamed _ => exact .inr ⟨_, _, ofTokens_eq_error.2 ⟨_, hp⟩, ofTokens_eq_error.2 ⟨_, hq⟩, rfl⟩
  | ended _ => exact .inr ⟨_, _, ofTokens_eq_error.2 ⟨_, hp⟩, ofTokens_eq_error.2 ⟨_, hq⟩, rfl⟩

/-- A directive, a declaration and an element, with no more between them than has to be. -/
def denseSource : Text := "#[format=f]<?xml version='1.0'?><a b=\x7bx\x7d>'t'</a>".toList

/-- The same tokens with blanks, line ends and comments between them. -/
def spacedSource : Text :=
  "#[format=f] # a comment\n< ?xml\tversion = '1.0'?>\n\n<a b =\x7bx\x7d > # <\n't' </ a >\n".toList

/-- Both sources are read, as templates that are the same. -/
theorem parse_layout_spaced :
    ∃ ts us, Token.lex denseSource = .ok ts ∧ Token.lex spacedSource = .ok us ∧
      ts.map Token.look = us.map Token.look ∧ startsAsMarkup ts = true ∧
      ∃ t u, parse .granted maxRoom denseSource = .ok t ∧
        parse .granted maxRoom spacedSource = .ok u ∧ t.same u = true := by
  have hlooks : (Token.lex denseSource).toOption.map (List.map Token.look) =
      (Token.lex spacedSource).toOption.map (List.map Token.look) := by decide +kernel
  have hstarts : (Token.lex denseSource).toOption.map startsAsMarkup = some true := by
    decide +kernel
  have hread : (parse .granted maxRoom denseSource).toOption.isSome = true := by decide +kernel
  cases hlex : Token.lex denseSource with
  | error e =>
    rw [hlex] at hstarts
    cases hstarts
  | ok ts =>
    rw [hlex] at hlooks hstarts
    have hstart : startsAsMarkup ts = true := Option.some.inj hstarts
    cases hlex' : Token.lex spacedSource with
    | error e =>
      rw [hlex'] at hlooks
      cases hlooks
    | ok us =>
      rw [hlex'] at hlooks
      have hlook : ts.map Token.look = us.map Token.look := Option.some.inj hlooks
      refine ⟨ts, us, rfl, rfl, hlook, hstart, ?_⟩
      obtain ⟨t, u, ht, hu, -, hsame⟩ | ⟨e, f, he, -, -⟩ :=
        @parse_layout .granted maxRoom _ _ _ _ hlex hlex' hlook hstart
      · exact ⟨t, u, ht, hu, hsame⟩
      · rw [he] at hread
        cases hread

end Template

end XmlTemplate
