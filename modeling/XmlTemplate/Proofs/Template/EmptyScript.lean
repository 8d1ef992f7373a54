import XmlTemplate.Proofs.Script.Silent
import XmlTemplate.Proofs.Template.Scripts
import XmlTemplate.Proofs.Token.Group

/-!
# Expressions without tokens

A group of comments stands for an expression although there is no token in it: what is read are the
brackets around it, which are the empty tuple. So a template that has been read has a token in each
of its scripts, or the script is made of comments (`Template.isFilled_of_parse`). This is so for the
groups that are expressions from end to end (`Parse.child_comments`,
`Parse.attributeValue_comments`); fills and layouts look for a token before they read an expression
(`Parse.fillExpression_comments`, `Parse.directive_comments`).
-/

set_option autoImplicit false

namespace XmlTemplate

/-! ## Groups without tokens -/

/-- A stretch without tokens is made of blanks and comments, and each comment ends in it, unless what
comes after the stretch could end one. -/
theorem Lexes.silent {grouped : Bool} {shown rest : Text} {pos : Position} {c : Char} {u : Text}
    (h : Lexes grouped shown rest pos []) (hrest : rest = c :: u) (hc : c ≠ '\n') :
    Silent isBlank shown := by
  generalize hts : ([] : List Token) = ts at h
  induction h with
  | nil => exact .nil
  | @skip _ c s t rest pos ts k hk here _ ih =>
    have hafter := ih hrest hts
    rcases hk with rfl | rfl
    · obtain ⟨hblank, hlength⟩ := lexeme_eq_blanks here
      obtain ⟨hs, -⟩ := takeWhile_cut (Nat.succ.inj hlength).symm
      exact .blank hblank (hafter.append hs)
    · obtain ⟨rfl, hlength⟩ := lexeme_eq_comment here
      obtain ⟨hs, hend⟩ := takeWhile_cut (Nat.succ.inj hlength).symm
      have hline : '\n' ∉ s := fun hmem => by simpa using hs '\n' hmem
      -- the comment ends with a line feed, which stands in the stretch
      cases hafter with
      | nil =>
        rw [hrest] at hend
        exact absurd (by simpa using hend _ rfl) hc
      | @blank d t hd hmore =>
        obtain rfl : d = '\n' := by simpa using hend d rfl
        exact .comment hline hmore
      | comment => exact absurd (hend '#' rfl) (by decide)
  | leaf => cases hts
  | group => cases hts

/-- A group without tokens in a source is made of blanks and comments. -/
theorem silent_of_lex {source text : Text} {ts : List Token} {d : Delimiter} {p : Span}
    (h : Token.lex source = .ok ts) (hg : .group d text p [] ∈ ts) : Silent isBlank text := by
  obtain ⟨base, after, -, hinside⟩ := (Token.lex_eq_ok_iff.1 h).group_of_occurs (.of_mem hg)
  exact hinside.silent rfl (by cases d <;> decide)

/-! ## Reading such a group -/

namespace Parse

open Grammar

variable {room : Nat} {text : Text} {p : Span}

/-- Between blanks of scripts and comments there is the empty tuple to be read. -/
theorem embed_comments (hsilent : Silent Script.isScriptBlank text)
    (hfilled : text.allBlank = false) (hreturn : '\r' ∉ text) (hnull : '\x00' ∉ text)
    (hroom : 4 < room) (c : Cursor) :
    embed room text p c = .ok ⟨text, .tuple [], some p⟩ c := by
  have hblanks : Silent isBlank text := hsilent.mono fun c => Script.isBlank_of_isScriptBlank
  have hcode : Script.expression? text = some (.tuple []) :=
    (Script.expression?_silent_iff hblanks hreturn).2 ⟨rfl, hsilent, hnull⟩
  have hstacked : ¬(Script.Expr.tuple []).stacked > Script.maxStacked := by decide
  have hdepth : ¬(Script.Expr.tuple []).depth > scriptDepth room := by
    have hone : (Script.Expr.tuple []).depth = 1 := rfl
    rw [hone, scriptDepth]
    omega
  rw [embed, if_neg (by rw [hfilled]; exact Bool.false_ne_true), hcode]
  dsimp only
  rw [if_neg hstacked, if_neg hdepth]
  rfl

/-- As a part of a content a group of comments is an expression, wherever the content stands. -/
theorem child_comments (permission : Permission) (hsilent : Silent Script.isScriptBlank text)
    (hfilled : text.allBlank = false) (hreturn : '\r' ∉ text) (hnull : '\x00' ∉ text)
    (hroom : 4 < room) (depth : Nat) (rest : List Token) (o : Option Span) :
    child permission room (depth + 1) ⟨.group .curly text p [] :: rest, o⟩ =
      .ok (.expression ⟨text, .tuple [], some p⟩) ⟨rest, o⟩ := by
  have hread := embed_comments (p := p) hsilent hfilled hreturn hnull hroom ⟨rest, o⟩
  exact bind_of_ok hread _

/-- So it is as the value of an attribute. -/
theorem attributeValue_comments (hsilent : Silent Script.isScriptBlank text)
    (hfilled : text.allBlank = false) (hreturn : '\r' ∉ text) (hnull : '\x00' ∉ text)
    (hroom : 4 < room) (rest : List Token) (o : Option Span) :
    attributeValue room ⟨.group .curly text p [] :: rest, o⟩ =
      .ok (.expression ⟨text, .tuple [], some p⟩) ⟨rest, o⟩ := by
  have hread := embed_comments (p := p) hsilent hfilled hreturn hnull hroom ⟨rest, o⟩
  exact bind_of_ok hread _

theorem within_of_error {α : Type} {q : Parse α} {g : Token} {e : ParseError} {c' : Cursor}
    (h : q (Cursor.ofGroup g) = .error e c') (c : Cursor) : within g q c = .error e c := by
  rw [within, h]

/-- With comments alone behind its full stops a fill has come to its end. -/
theorem fillExpression_comments {a b : Token} (ha : a.isPunctuation ['.'] = true)
    (hb : b.isPunctuation ['.'] = true) (room : Nat) (c : Cursor) :
    fillExpression room (.group .curly text p [a, b]) c = .error ⟨.endOfInput, some p⟩ c := by
  have hfirst : takePunctuation ['.'] ⟨[a, b], some p⟩ = .ok a ⟨[b], some p⟩ :=
    ((reads_takePunctuation ['.'] [a, b]) (some p) a _).2 ⟨[b], ⟨rfl, ha⟩, rfl⟩
  have hsecond : takePunctuation ['.'] ⟨[b], some p⟩ = .ok b ⟨[], some p⟩ :=
    ((reads_takePunctuation ['.'] [b]) (some p) b _).2 ⟨[], ⟨rfl, hb⟩, rfl⟩
  apply within_of_error
  rw [discard_bind, discard_bind]
  exact (bind_of_ok hfirst _).trans (bind_of_ok hsecond _)

/-- With comments alone behind its equals sign a layout has come to its end. -/
theorem directive_comments {key eq : Token} (hkey : key.isKind .identifier = true)
    (hword : key.text = "format".toList) (heq : eq.isPunctuation ['='] = true) (room : Nat)
    (c : Cursor) :
    directive room (.group .square text p [key, eq]) c = .error ⟨.endOfInput, some p⟩ c := by
  have hfirst : takeIdentifier ⟨[key, eq], some p⟩ = .ok key ⟨[eq], some p⟩ :=
    ((reads_takeIdentifier [key, eq]) (some p) key _).2 ⟨[eq], ⟨rfl, hkey⟩, rfl⟩
  have hsecond : takePunctuation ['='] ⟨[eq], some p⟩ = .ok eq ⟨[], some p⟩ :=
    ((reads_takePunctuation ['='] [eq]) (some p) eq _).2 ⟨[], ⟨rfl, heq⟩, rfl⟩
  have hunit : ¬key.text = "indentation".toList := by
    rw [hword]
    decide
  apply within_of_error
  refine (bind_of_ok hfirst _).trans ?_
  rw [if_neg hunit, if_pos hword, discard_bind]
  exact bind_of_ok hsecond _

end Parse

/-! ## Templates that have been read -/

/-- What there is in the group of a script: a token, or a comment, if the group is an expression from
end to end. That expression is the empty tuple, unless there is a carriage return, which ends a
comment of a script and not one of a template. -/
inductive IsFilled : Token → EmbeddedScript → Prop
  | token {g : Token} {s : EmbeddedScript} (h : g.children ≠ []) : IsFilled g s
  | comment {text : Text} {p : Span} {e : Embedded} (source : e.source = text)
      (sign : '#' ∈ text) (empty : '\r' ∉ text → e.code = .tuple []) :
      IsFilled (.group .curly text p []) (.whole e)

theorem Grammar.Embeds.isFilled {source : Text} {ts : List Token} {g : Token} {s : EmbeddedScript}
    (h : Embeds g s) (hlex : Token.lex source = .ok ts) (hg : g ∈ ts) : IsFilled g s := by
  cases h with
  | whole h =>
    cases h with
    | @intro text p inside _ h =>
      cases inside with
      | cons t inside => exact .token (List.cons_ne_nil t inside)
      | nil =>
        have hsilent := silent_of_lex hlex hg
        cases h with
        | intro filled valid =>
          refine .comment rfl (hsilent.mem_sign filled) fun hreturn => ?_
          exact ((Script.expression?_silent_iff hsilent hreturn).1 valid).1
  | fill h =>
    cases h with
    | intro heq => exact .token (by rw [heq]; exact List.cons_ne_nil _ _)
  | continuation h =>
    cases h with
    | intro heq => exact .token (by rw [heq]; exact List.cons_ne_nil _ _)

/-- Whether the script is an expression that was read as the empty tuple. -/
def EmbeddedScript.isEmptyTuple : EmbeddedScript → Bool
  | whole e =>
    match e.code with
    | .tuple [] => true
    | _ => false
  | _ => false

namespace Template

variable {permission : Permission} {room : Nat} {source : Text} {t : Template}

/-- Every script of a template that has been read has a token in its group, wherever it stands, but
for expressions of comments alone. -/
theorem isFilled_of_parse (h : parse permission room source = .ok t) :
    ∃ ts rest, Token.lex source = .ok ts ∧
      HeadCutFrom source ts t.destination t.layout rest ∧
      List.Forall₂ (fun g s => CutFrom source g s ∧ IsFilled g s) (braces rest)
        t.root.scripts := by
  obtain ⟨ts, rest, hlex, hhead, -, hembeds⟩ := embeds_of_parse h
  refine ⟨ts, rest, hlex, hhead, hembeds.imp ?_⟩
  rintro g s ⟨hg, hs⟩
  exact ⟨hs.cutFrom (lex_tiles hlex) hg, hs.isFilled hlex hg⟩

/-- An attribute and two parts of a content, the last of them with something to evaluate. -/
def commentedSource : Text :=
  "<?xml version='1.0'?><a b=\x7b# none\n\x7d>\x7b\n# none\n\x7d\x7b(1)\x7d</a>".toList

/-- The first two groups of the source have no token, and both are read as the empty tuple. -/
theorem isFilled_of_parse_commented :
    ∃ t ts, parse .granted maxRoom commentedSource = .ok t ∧
      Token.lex commentedSource = .ok ts ∧
      (braces ts).map (fun g => g.children.length) = [0, 0, 1] ∧
      t.root.scripts.map EmbeddedScript.isEmptyTuple = [true, true, false] ∧
      ∃ rest, HeadCutFrom commentedSource ts t.destination t.layout rest ∧
        List.Forall₂ (fun g s => CutFrom commentedSource g s ∧ IsFilled g s) (braces rest)
          t.root.scripts := by
  have hread : (parse .granted maxRoom commentedSource).toOption.map (fun t =>
      t.root.scripts.map EmbeddedScript.isEmptyTuple) = some [true, true, false] := by
    decide +kernel
  have hgroups : (Token.lex commentedSource).toOption.map (fun ts =>
      (braces ts).map fun g => g.children.length) = some [0, 0, 1] := by
    decide +kernel
  cases h : parse .granted maxRoom commentedSource with
  | error e =>
    rw [h] at hread
    cases hread
  | ok t =>
    obtain ⟨ts, rest, hlex, hhead, hall⟩ := isFilled_of_parse h
    rw [h] at hread
    rw [hlex] at hgroups
    exact ⟨t, ts, rfl, hlex, Option.some.inj hgroups, Option.some.inj hread, rest, hhead, hall⟩

end Template

end XmlTemplate
