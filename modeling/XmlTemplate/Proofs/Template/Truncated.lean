import XmlTemplate.Proofs.Template.Blame
import XmlTemplate.Proofs.Template.CutShort

/-!
# Truncated templates

The first tokens of a template are no template (`Template.ofTokens_truncated`). Reading them comes
to the end of the input, unless the cut goes through the name of an end tag: the half of the name
that is left is then taken for a wrong name.
-/

set_option autoImplicit false

namespace XmlTemplate

namespace Parse

open Grammar

variable {permission : Permission} {room : Nat} {source : Text} {xs ys us vs : List Token}
  {o : Option Span}

/-! ## After the head -/

/-- Reading comes to the end of the input, or to the half of a name in an end tag of the root
element, which begins at `vs` where nothing has been cut off. -/
def EndsShort (ys vs : List Token) (o : Option Span)
    (r : EStateM.Result ParseError Cursor Template) : Prop :=
  (∃ c, r = .error ⟨.endOfInput, o⟩ c) ∨
    ∃ before left x c, vs = before ++ left ++ ys ∧ CutName ys left x ∧ r = .error x c

section AfterHead

variable {into : Option Embedded} {layout : Option LayoutDirective} {declared : Option Prolog}
  {lt : Token} {root : Element}

theorem rootAfter_endsShort (hys : ys ≠ []) (hfilled : Filled (xs ++ ys))
    (hxs : lt :: vs = xs ++ ys) (htarget : into.isSome = true ∨ declared.isSome = true)
    (hlt : lt.isPunctuation ['<'] = true) (hroot : Tagged vs root [])
    (hfits : root.Fits permission room) :
    EndsShort ys vs o (rootAfter permission room into layout declared ⟨xs, o⟩) := by
  have hnone : ¬(into.isNone && declared.isNone) = true := by
    cases into <;> cases declared <;> simp at htarget ⊢
  cases xs with
  | nil =>
    refine .inl ⟨⟨[], o⟩, ?_⟩
    rw [rootAfter, if_neg hnone]
    rfl
  | cons t xs =>
    obtain ⟨rfl, rfl⟩ := List.cons.inj hxs
    rw [rootAfter_of_markup htarget hlt]
    have hcut : Cuts (CutName ys) ys (element permission room xs.length)
        (element permission room (xs ++ ys).length) := (cuts_markup permission _ room _).1
    have hq := ((reads_markup permission (xs ++ ys).length).1 room _ (Nat.le_refl _) o _ _).2
      ⟨[], ⟨hroot, hfits⟩, rfl⟩
    obtain ⟨left, -, hnil, -⟩ | ⟨c, hp⟩ | ⟨left, x, c, ⟨before, rfl⟩, h, hp⟩ :=
      hcut.of_ok (hfilled.of_suffix (List.suffix_cons _ _)) hq
    · exact absurd (List.append_eq_nil_iff.1 hnil.symm).2 hys
    · exact .inl ⟨c, bind_of_error hp _⟩
    · exact .inr ⟨before, left, x, c, rfl, h, bind_of_error hp _⟩

theorem afterHead_endsShort (hys : ys ≠ []) (hfilled : Filled (xs ++ ys))
    (hdeclared : OptionalDeclaration (xs ++ ys) declared (lt :: vs))
    (htarget : into.isSome = true ∨ declared.isSome = true) (hlt : lt.isPunctuation ['<'] = true)
    (hroot : Tagged vs root []) (hfits : root.Fits permission room) :
    EndsShort ys vs o (afterHead permission room into layout ⟨xs, o⟩) := by
  -- two tokens are looked at to tell whether there is a declaration
  rcases xs with _ | ⟨t, _ | ⟨u, xs⟩⟩
  · exact .inl ⟨_, rfl⟩
  · exact .inl ⟨_, rfl⟩
  generalize hts : t :: u :: xs ++ ys = ts at hdeclared
  cases hdeclared with
  | nil =>
    obtain ⟨name, ws, hname⟩ := exists_name_of_markup hroot
    obtain ⟨u', us, rfl, hmarks⟩ := exists_first_of_name hname
    obtain ⟨rfl, h⟩ := List.cons.inj hts
    obtain ⟨rfl, -⟩ := List.cons.inj h
    rw [afterHead_of_markup (hmarks _ (by simp))]
    exact rootAfter_endsShort hys hfilled hts.symm htarget hlt hroot hfits
  | some h =>
    have hmark : u.isPunctuation ['?'] = true := by
      cases h with
      | intro _ hmark =>
        obtain ⟨rfl, -⟩ := List.cons.inj (List.cons.inj hts).2
        exact hmark
    have hq := ((reads_prolog _).map some o _ _).2 ⟨_, ⟨_, h, rfl⟩, rfl⟩
    rw [← hts] at hq
    rw [afterHead_of_declaration hmark]
    obtain ⟨left, hleft, hrest, hp⟩ | ⟨c, hp⟩ | ⟨_, _, _, -, h, -⟩ :=
      ((cuts_prolog (E := fun _ _ => False)).map some).of_ok hfilled hq
    · rw [bind_of_ok hp]
      exact rootAfter_endsShort hys (hfilled.later hleft) hrest htarget hlt hroot hfits
    · exact .inl ⟨c, bind_of_error hp _⟩
    · exact h.elim

end AfterHead

theorem CutName.endsHere {left : List Token} {x : ParseError} (h : CutName ys left x) :
    EndsHere (left ++ ys) := by
  cases h with
  | intro hlt hslash => exact ⟨_, _, _, rfl, hlt, hslash⟩

/-- Tokens begin with one name at most. -/
theorem eq_of_name {ts rest rest' : List Token} {n n' : Text} (h : Name ts n rest)
    (h' : Name ts n' rest') : n = n' ∧ rest = rest' := by
  have hread := (reads_readName ts none n _).2 ⟨rest, h, rfl⟩
  rw [(reads_readName ts none n' _).2 ⟨rest', h', rfl⟩] at hread
  cases hread
  exact ⟨rfl, rfl⟩

/-- Reading the first tokens of a template. -/
theorem whole_endsShort {t : Template} (hys : ys ≠ []) (hfilled : Filled (xs ++ ys))
    (h : Derives source (xs ++ ys) t []) (hfits : t.Fits permission room) :
    (∃ c, whole permission room source ⟨xs, o⟩ = .error ⟨.endOfInput, o⟩ c) ∨
      ∃ f before left x c, xs = before ++ left ∧ CutName ys left x ∧
        (∃ after, DerivesEnd source f (left ++ ys) after (xs ++ ys) t []) ∧
          whole permission room source ⟨xs, o⟩ = .error x c := by
  cases h with
  | @intro us vs _ lt root into layout declared hhead hdeclared hlt hroot htarget =>
    have hq := wholeHead_of_derives (o := o) hhead hdeclared hlt hfits.destination hfits.layout
    have hcut : Cuts (fun _ _ => False) ys (head (room - readingRoom) source none none xs.length)
        (head (room - readingRoom) source none none (xs ++ ys).length) := cuts_head _ _ _ _ _ _
    obtain ⟨left, hleft, rfl, hp⟩ | ⟨c, hp⟩ | ⟨_, _, _, -, h, -⟩ := hcut.of_ok hfilled hq
    · have hshort : EndsShort ys vs o
          (afterHead permission (room - readingRoom) into layout ⟨left, o⟩) :=
        afterHead_endsShort hys (hfilled.later hleft) hdeclared htarget hlt hroot hfits.root
      obtain ⟨c, hrun⟩ | ⟨before, last, x, c, hvs, hname, hrun⟩ := hshort
      · exact .inl ⟨c, bind_of_error ((bind_of_ok hp _).trans hrun) _⟩
      · -- the half of the name stands in the root element, whose end tags are all known
        rw [List.append_assoc] at hvs
        obtain ⟨f, after, hend⟩ | ⟨_, hnil⟩ := taggedEnd_or_after hroot hvs hname.endsHere
        · have hend := DerivesEnd.intro hhead hdeclared hlt hend htarget
          obtain ⟨taken, htaken, -⟩ := whole_awaits hend hfits
          rw [← List.append_assoc] at htaken
          exact .inr ⟨f, taken, last, x, c, List.append_cancel_right htaken, hname, ⟨after, hend⟩,
            bind_of_error ((bind_of_ok hp _).trans hrun) _⟩
        · exact absurd (List.append_eq_nil_iff.1 (List.append_eq_nil_iff.1 hnil.symm).2).2 hys
    · exact .inl ⟨c, bind_of_error (bind_of_error hp _) _⟩
    · exact h.elim

end Parse

namespace Template

open Parse Grammar

variable {permission : Permission} {room : Nat} {source : Text} {t : Template}
  {xs ys : List Token}

/-- Between the tokens `xs` and `ys` of a template a cut goes through the name in the end tag of
`f`, which has several tokens: the tag begins with `lt`, and `half` of its name is left. -/
inductive CutsEndTag (source : Text) (t : Template) (xs ys : List Token) (f : Element) (lt : Token)
    (half : List Token) : Prop
  | intro {before more after : List Token} {slash gt : Token} (hhalf : half ≠ [])
      (hmore : more ≠ []) (hxs : xs = before ++ lt :: slash :: half) (hys : ys = more ++ gt :: after)
      (hend : DerivesEnd source f (lt :: slash :: (half ++ ys)) after (xs ++ ys) t []) :
      CutsEndTag source t xs ys f lt half

/-- The tokens at the cut tell it, where they are known to be an end tag. -/
theorem cutsEndTag_of_cutName {f : Element} {before left after : List Token} {x : ParseError}
    (hxs : xs = before ++ left) (hname : CutName ys left x)
    (hend : DerivesEnd source f (left ++ ys) after (xs ++ ys) t []) :
    ∃ lt half, CutsEndTag source t xs ys f lt half := by
  cases hname with
  | @intro lt slash gt half more after' name _ _ _ hhalf hmore hys hname =>
    obtain ⟨-, -, gt', hgt', hname' | hshort⟩ := hend.endTag.named_or_short
    · -- both names end before the same `>`
      obtain ⟨-, hafter⟩ := eq_of_name hname hname'
      obtain ⟨-, rfl⟩ := List.cons.inj hafter
      exact ⟨lt, half, .intro hhalf hmore hxs hys hend⟩
    · obtain ⟨u, us, hu, hmarks⟩ := exists_first_of_name hname
      obtain ⟨rfl, -⟩ := List.cons.inj (hu.symm.trans hshort)
      rw [hmarks _ (by simp)] at hgt'
      cases hgt'

/-- What is left of an end tag is read with half of its name. -/
theorem CutsEndTag.half_name {f : Element} {lt : Token} {half : List Token}
    (h : CutsEndTag source t xs ys f lt half) (hfilled : Filled (xs ++ ys)) :
    Name half (half.flatMap Token.text) [] ∧ half.flatMap Token.text ≠ f.name := by
  cases h with
  | @intro before more after slash gt hhalf hmore hxs hys hend =>
    have hlong : after.length + 1 < ys.length := by
      have := List.length_pos_iff.2 hmore
      rw [hys, List.length_append, List.length_cons]
      omega
    have hsuffix : half <:+ xs := ⟨before ++ [lt, slash], by rw [hxs]; simp⟩
    obtain ⟨-, -, gt', -, hname | hshort⟩ := hend.endTag.named_or_short
    · obtain ⟨left, -, hleft⟩ | ⟨_, -, -, -, hother, hname⟩ :=
        hname.cut (hfilled.later hsuffix) hhalf
      · have hlength := congrArg List.length hleft
        rw [List.length_append, List.length_cons] at hlength
        omega
      · exact ⟨hname, hother⟩
    · have hlength := congrArg List.length hshort
      have := List.length_pos_iff.2 hhalf
      rw [List.length_append, List.length_cons] at hlength
      omega

/-- Half of a name in an end tag is found to be wrong. -/
theorem ofTokens_of_cutsEndTag {f : Element} {lt : Token} {half : List Token}
    (h : CutsEndTag source t xs ys f lt half) (hfilled : Filled (xs ++ ys))
    (hfits : t.Fits permission room) :
    ofTokens permission room source xs =
      .error ⟨.endTagMismatch f.name (half.flatMap Token.text), some lt.span⟩ := by
  obtain ⟨hname, hother⟩ := h.half_name hfilled
  cases h with
  | @intro before more after slash gt _ _ hxs _ hend =>
    obtain ⟨hlt, hslash, -⟩ := hend.endTag.named_or_short
    subst hxs
    rw [List.append_assoc] at hend
    exact ofTokens_of_endTag hend hfits ⟨lt, slash, half, rfl, hlt, hslash⟩
      (endTag_mismatch hlt hslash hname hother)

/-- The first tokens of a template are no template. Where the cut goes through the name of an end
tag, what is left of the name is a wrong name, and everywhere else the input comes to an end. -/
theorem ofTokens_truncated (h : parse permission room source = .ok t)
    (hlex : Token.lex source = .ok (xs ++ ys)) (hys : ys ≠ []) :
    (∀ f lt half, CutsEndTag source t xs ys f lt half →
      ofTokens permission room source xs =
        .error ⟨.endTagMismatch f.name (half.flatMap Token.text), some lt.span⟩) ∧
    ((¬∃ f lt half, CutsEndTag source t xs ys f lt half) →
      ofTokens permission room source xs = .error ⟨.endOfInput, none⟩) ∧
    ∀ u, ofTokens permission room source xs ≠ .ok u := by
  rw [parse_of_lex hlex, ofTokens_eq_ok_iff (commasInPlace_of_lex hlex)] at h
  obtain ⟨h, hfits⟩ := h
  have hfilled := filled_of_lex hlex
  have hcut : ∀ f lt half, CutsEndTag source t xs ys f lt half → _ :=
    fun f lt half h => ofTokens_of_cutsEndTag h hfilled hfits
  have hshort : (¬∃ f lt half, CutsEndTag source t xs ys f lt half) →
      ofTokens permission room source xs = .error ⟨.endOfInput, none⟩ := by
    intro hno
    obtain ⟨c, hrun⟩ | ⟨f, before, left, x, c, hxs, hname, ⟨after, hend⟩, -⟩ :=
      whole_endsShort hys hfilled h hfits
    · exact ofTokens_eq_error.2 ⟨c, hrun⟩
    · obtain ⟨lt, half, hcuts⟩ := cutsEndTag_of_cutName hxs hname hend
      exact absurd ⟨f, lt, half, hcuts⟩ hno
  refine ⟨hcut, hshort, fun u hu => ?_⟩
  by_cases hexists : ∃ f lt half, CutsEndTag source t xs ys f lt half
  · obtain ⟨f, lt, half, hcuts⟩ := hexists
    rw [hcut f lt half hcuts] at hu
    cases hu
  · rw [hshort hexists] at hu
    cases hu

/-- An element with a colon in its name. -/
def colonSource : Text := "<?xml version='1.0'?><a:b>'t'</a:b>".toList

/-- No token at all, and all tokens up to the colon in the end tag. -/
theorem ofTokens_truncated_colon :
    ∃ t ts, parse .refused maxRoom colonSource = .ok t ∧ Token.lex colonSource = .ok ts ∧
      ofTokens .refused maxRoom colonSource [] = .error ⟨.endOfInput, none⟩ ∧
      ∃ f lt half, CutsEndTag colonSource t (ts.take 18) (ts.drop 18) f lt half ∧
        ofTokens .refused maxRoom colonSource (ts.take 18) =
          .error ⟨.endTagMismatch f.name (half.flatMap Token.text), some lt.span⟩ := by
  have hread : (parse .refused maxRoom colonSource).toOption.isSome = true := by decide +kernel
  have hcount : (Token.lex colonSource).toOption.map List.length = some 20 := by decide +kernel
  have hwrong : (Token.lex colonSource).toOption.bind (fun ts =>
      errorOf? (ofTokens .refused maxRoom colonSource (ts.take 18))) ≠ some ⟨.endOfInput, none⟩ := by
    decide +kernel
  cases hparse : parse .refused maxRoom colonSource with
  | error x =>
    rw [hparse] at hread
    cases hread
  | ok t =>
    obtain ⟨ts, hlex, -⟩ := derives_of_parse hparse
    rw [hlex] at hcount hwrong
    have hlength : ts.length = 20 := Option.some.inj hcount
    refine ⟨t, ts, rfl, hlex, ?_, ?_⟩
    · have hts : ts ≠ [] := List.length_pos_iff.1 (by omega)
      refine (@ofTokens_truncated _ _ _ _ [] ts hparse hlex hts).2.1 ?_
      rintro ⟨f, lt, half, -, -, hxs, -⟩
      simp at hxs
    · have hdrop : ts.drop 18 ≠ [] := List.length_pos_iff.1 (by rw [List.length_drop]; omega)
      have happend : Token.lex colonSource = .ok (ts.take 18 ++ ts.drop 18) := by
        rw [List.take_append_drop, hlex]
      obtain ⟨hcut, hshort, -⟩ := ofTokens_truncated hparse happend hdrop
      by_cases hexists : ∃ f lt half, CutsEndTag colonSource t (ts.take 18) (ts.drop 18) f lt half
      · obtain ⟨f, lt, half, h⟩ := hexists
        exact ⟨f, lt, half, h, hcut f lt half h⟩
      · refine absurd ?_ hwrong
        show errorOf? _ = _
        rw [hshort hexists]
        rfl

end Template

end XmlTemplate
