import XmlTemplate.Proofs.Render.Keeps.Iteration

/-!
# What calls can reach

A method of a document performs operations of its own kind on that document and nothing else
(`keeps_callDocument`), attributes being written by three methods. All other functions and methods
leave the documents alone, except for an expansion, of which it is assumed here that it reaches no
other documents than the script that asks for it (`Confines`).
-/

set_option autoImplicit false

namespace XmlTemplate

/-- Whether a method performs an operation. -/
def DocumentMethod.performs : DocumentMethod → Operation → Bool
  | .beginTag, .beginTag _ => true
  | .addAttribute, .addAttribute .. | .addAttributes, .addAttribute .. => true
  | .enterContent, .enterContent => true
  | .endEmptyTag, .endEmptyTag => true
  | .endElement, .endElement _ => true
  | .addText, .addText _ => true
  | _, _ => false

namespace Document

/-- Whether an element can be left does not depend on how messages show its name. -/
theorem closeTag_shown {d e : Document} {name : Option Text} {shown : Text}
    (h : d.closeTag name shown = .ok e) (shown' : Text) : d.closeTag name shown' = .ok e := by
  obtain ⟨hd, d', ho, rfl⟩ := closeTag_eq_ok h
  exact closeTag_of_outdent hd ho

variable {may : Operation → Prop} {name : Option Text} (hname : ∀ n ∈ name, isName n = true)

include hname

theorem reaches_openTag (hmay : ∀ n, may (.beginTag n)) (d : Document) :
    d.Reaches may (d.openTag name) := by
  cases name with
  | none =>
    refine .spoil .refl (hmay []) ?_
    rw [isText_openTag, Option.isSome_none, Bool.and_false]
  | some n => exact .single (hmay n) (if_pos (hname n rfl))

theorem reaches_attribute (hmay : ∀ n value, may (.addAttribute n value)) (d : Document)
    (value : Text) : d.Reaches may ((d.beginAttribute name).endAttribute value) := by
  cases name with
  | none =>
    refine .spoil .refl (hmay [] []) ?_
    rw [isText_endAttribute, isText_beginAttribute, Option.isSome_none, Bool.and_false]
  | some n => exact .single (hmay n value) (if_pos (hname n rfl))

theorem reaches_closeTag (hmay : ∀ n, may (.endElement n)) {d e : Document} {shown : Text}
    (h : d.closeTag name shown = .ok e) : d.Reaches may e := by
  cases name with
  | none =>
    refine .spoil .refl (hmay []) ?_
    rw [isText_closeTag h, Option.isSome_none, Bool.and_false]
  | some n =>
    refine .single (hmay n) ?_
    rw [perform, endElement, if_pos (hname n rfl)]
    exact closeTag_shown h n

end Document

namespace Render

variable {A : Nat → Prop} {may : Nat → Operation → Prop} {id : Nat}

/-! ## Arguments -/

theorem within_bindArguments {parameters : List (Text × Option Value)} {args : List Value}
    {named : List (Text × Value)} {vs : List Value}
    (hparameters : ∀ p ∈ parameters, ∀ v ∈ p.2, v.Within A) (hargs : ∀ v ∈ args, v.Within A)
    (hnamed : Scope.Within A named) (h : bindArguments parameters args named = some vs) :
    ∀ v ∈ vs, v.Within A := by
  induction parameters generalizing args named vs with
  | nil =>
    cases args with
    | nil =>
      cases named with
      | nil =>
        cases h
        exact List.forall_mem_nil _
      | cons entry rest => cases h
    | cons v rest => cases h
  | cons p ps ih =>
    obtain ⟨x, initial⟩ := p
    obtain ⟨hinitial, hps⟩ := List.forall_mem_cons.1 hparameters
    cases args with
    | cons v rest =>
      obtain ⟨hv, hrest⟩ := List.forall_mem_cons.1 hargs
      rw [bindArguments] at h
      split at h
      · cases h
      · obtain ⟨ws, hws, rfl⟩ := Option.map_eq_some_iff.1 h
        exact List.forall_mem_cons.2 ⟨hv, ih hps hrest hnamed hws⟩
    | nil =>
      -- no more arguments by place: one by name, else the initial value
      cases hlookup : named.lookup x with
      | some v =>
        simp only [bindArguments, hlookup] at h
        obtain ⟨ws, hws, rfl⟩ := Option.map_eq_some_iff.1 h
        have hrest : Scope.Within A (named.eraseP fun e => e.1 == x) :=
          fun entry he => hnamed entry (List.mem_of_mem_eraseP he)
        exact List.forall_mem_cons.2
          ⟨Scope.within_of_lookup hnamed hlookup, ih hps hargs hrest hws⟩
      | none =>
        cases initial with
        | some v =>
          simp only [bindArguments, hlookup] at h
          obtain ⟨ws, hws, rfl⟩ := Option.map_eq_some_iff.1 h
          exact List.forall_mem_cons.2 ⟨hinitial v rfl, ih hps hargs hnamed hws⟩
        | none =>
          simp only [bindArguments, hlookup] at h
          cases h

theorem keeps_argumentsOf {parameters : List (Text × Option Value)} {args : List Value}
    {named : List (Text × Value)} (hparameters : ∀ p ∈ parameters, ∀ v ∈ p.2, v.Within A)
    (hargs : ∀ v ∈ args, v.Within A) (hnamed : Scope.Within A named) :
    Keeps A may (argumentsOf parameters args named) fun vs => ∀ v ∈ vs, v.Within A := by
  rw [argumentsOf]
  split
  next vs hvs => exact .pure (within_bindArguments hparameters hargs hnamed hvs)
  next => exact .throw _

theorem within_noParameters : ∀ p ∈ ([] : List (Text × Option Value)), ∀ v ∈ p.2, v.Within A :=
  List.forall_mem_nil _

theorem within_default (x : Text) {v : Value} (hv : v.Within A) :
    ∀ p ∈ [(x, some v)], ∀ w ∈ p.2, w.Within A := by
  intro p hp w hw
  obtain rfl := List.mem_singleton.1 hp
  cases hw
  exact hv

theorem within_required (names : List String) :
    ∀ p ∈ required names, ∀ v ∈ p.2, v.Within A := by
  intro p hp v hv
  obtain ⟨x, -, rfl⟩ := List.mem_map.1 hp
  cases hv

theorem within_parameters (m : DocumentMethod) : ∀ p ∈ m.parameters, ∀ v ∈ p.2, v.Within A := by
  cases m
  case enterContent | endEmptyTag | asText | complete => exact within_noParameters
  all_goals exact within_required _

/-! ## Writing into a document -/

theorem unchanging_nameParts (vs : List Value) : Unchanging (nameParts vs) := by
  induction vs with
  | nil => exact .pure _
  | cons v rest ih =>
    rw [nameParts.eq_def]
    split
    · exact .pure _
    next heq =>
      cases heq
      split
      · exact ih
      · exact .pure _
    · exact .throw _

/-- What is written for a name is a name, if it is a text. -/
theorem keeps_nameOf (v : Value) :
    Keeps A may (nameOf v) fun name => ∀ n ∈ name, isName n = true := by
  have hfaulty : Keeps A may
      (do throw (.violation (.invalidName (← display v))) : Render (Option Text))
      fun name => ∀ n ∈ name, isName n = true :=
    (unchanging_display v).keeps.bind fun _ _ => .throw _
  rw [nameOf.eq_def]
  dsimp only
  -- the same fault stands in many branches; only that it is one matters in them
  generalize (do throw (.violation (.invalidName (← display v))) : Render (Option Text)) = faulty
    at hfaulty ⊢
  have hparts (c : Char) (rest : List Value) : Keeps A may
      (if isNameStart c.toNat = true then do
        if ← nameParts rest then return none else faulty
      else faulty) fun name => ∀ n ∈ name, isName n = true := by
    split
    · refine (unchanging_nameParts rest).keeps.bind fun b _ => ?_
      split
      · exact .pure fun _ hn => (nomatch hn)
      · exact hfaulty
    · exact hfaulty
  split
  next s =>
    split
    next hname =>
      refine .pure fun n hn => ?_
      cases hn
      exact hname
    next => exact hfaulty
  next =>
    split
    · exact hfaulty
    · split
      · exact hparts _ _
      · exact hparts _ _
      · split
        · exact .throw _
        · split
          · exact .throw _
          · exact hfaulty
        · exact .throw _
      · exact .throw _

/-- An attribute is written in one go, since showing its value changes nothing. -/
theorem writeAttribute_eq_ok {name : Option Text} {v : Value} {s s' : RenderState} {u : Unit}
    (h : writeAttribute id name v s = .ok u s') :
    ∃ d value, s.store.documents[id]? = some d ∧
      s' = s.put id ((d.beginAttribute name).endAttribute value) := by
  obtain ⟨u₁, s₁, hbegin, hrest⟩ := bind_eq_ok.1 h
  obtain ⟨value, s₂, hdisplay, hend⟩ := bind_eq_ok.1 hrest
  obtain rfl := unchanging_display v s₁ value s₂ hdisplay
  obtain ⟨d, d₁, hd, hd₁, rfl⟩ := changeDocument_eq_ok.1 hbegin
  obtain ⟨d₂, d₃, hd₂, hd₃, rfl⟩ := changeDocument_eq_ok.1 hend
  obtain ⟨hid, -⟩ := List.getElem?_eq_some_iff.1 hd
  rw [getElem?_put hid] at hd₂
  cases hd₁
  cases hd₂
  cases hd₃
  exact ⟨d, value, hd, put_put ..⟩

section Writing

variable (hattribute : ∀ n value, may id (.addAttribute n value))

include hattribute

theorem keeps_writeAttribute {name : Option Text} (hname : ∀ n ∈ name, isName n = true)
    (v : Value) : Keeps A may (writeAttribute id name v) fun _ => True := by
  intro s u s' hs hrun
  obtain ⟨d, value, hd, rfl⟩ := writeAttribute_eq_ok hrun
  exact ⟨trivial, RenderState.inside_put hs,
    RenderState.evolves_put hd (Document.reaches_attribute hname hattribute d value)⟩

/-- A pair is written before its name is checked, but the check decides whether that succeeds. -/
theorem keeps_writePair {pair : Value} (hpair : pair.Within A) :
    Keeps A may (writePair id pair) fun _ => True := by
  refine (keeps_unpackPair hpair).bind fun ⟨n, v⟩ _ => ?_
  refine (unchanging_display n).keeps.bind fun name _ => ?_
  intro s u s' hs hrun
  obtain ⟨u₁, s₁, hwrite, hcheck⟩ := bind_eq_ok.1 hrun
  cases hname : isName name with
  | true =>
    rw [hname] at hcheck
    cases hcheck
    -- had the name been none, the check would have failed
    have hnamed : ∀ n ∈ some name, isName n = true := by
      intro n hn
      cases hn
      exact hname
    exact keeps_writeAttribute hattribute hnamed v s u₁ s' hs hwrite
  | false =>
    rw [hname] at hcheck
    cases hcheck

theorem keeps_writeAttributes {v : Value} (hv : v.Within A) :
    Keeps A may (writeAttributes id v) fun _ => True := by
  have hbody : ∀ w, w.Within A → Keeps A may (writePair id w) fun _ => True :=
    fun _ hw => keeps_writePair hattribute hw
  rw [writeAttributes.eq_def]
  split
  · exact keeps_forItems hbody (within_pairs hv)
  · split
    next source hsource => exact keeps_forEach hbody (hv.iteration? hsource)
    next => exact .throw _

end Writing

theorem keeps_leaveElement {f : Document → Except Violation Document}
    (hf : ∀ d e, f d = .ok e → d.Reaches (may id) e) :
    Keeps A may (leaveElement id f) fun _ => True := by
  refine (unchanging_document id).keeps.bind fun d _ => ?_
  dsimp only
  split
  · exact .throw_bind _
  · exact keeps_changeDocument hf

/-- A method performs operations of its own kind on its document, and nothing else. -/
theorem keeps_callDocument {m : DocumentMethod} {args : List Value}
    (hmay : ∀ op, m.performs op = true → may id op) (hargs : ∀ v ∈ args, v.Within A) :
    Keeps A may (callDocument m id args) (Value.Within A) := by
  rw [callDocument.eq_def]
  split
  -- a tag is begun
  next n =>
    refine (keeps_nameOf n).bind fun name hname => ?_
    refine Keeps.bind (keeps_changeDocument fun d e he => ?_) fun _ _ => .pure trivial
    cases he
    exact Document.reaches_openTag hname (fun n => hmay _ rfl) d
  -- attributes are written, by themselves and from a sequence of pairs
  next n v =>
    refine (keeps_nameOf n).bind fun name hname => ?_
    exact (keeps_writeAttribute (fun _ _ => hmay _ rfl) hname v).bind fun _ _ => .pure trivial
  next v =>
    have hv : v.Within A := hargs v List.mem_cons_self
    exact (keeps_writeAttributes (fun _ _ => hmay _ rfl) hv).bind fun _ _ => .pure trivial
  -- a tag is finished, before a content and without one
  next =>
    refine Keeps.bind (keeps_changeDocument fun d e he => ?_) fun _ _ => .pure trivial
    cases he
    exact .single (hmay .enterContent rfl) rfl
  next =>
    refine Keeps.bind (keeps_changeDocument fun d e he => ?_) fun _ _ => .pure trivial
    cases he
    exact .single (hmay .endEmptyTag rfl) rfl
  -- an element is ended
  next n =>
    refine (keeps_nameOf n).bind fun name hname => ?_
    refine (unchanging_display n).keeps.bind fun shown _ => ?_
    refine Keeps.bind (keeps_leaveElement fun d e he => ?_) fun _ _ => .pure trivial
    exact Document.reaches_closeTag hname (fun n => hmay _ rfl) he
  -- a text is written
  next v =>
    refine (unchanging_display v).keeps.bind fun value _ => ?_
    refine Keeps.bind (keeps_changeDocument fun d e he => ?_) fun _ _ => .pure trivial
    cases he
    exact .single (hmay (.addText value) rfl) rfl
  -- the text is read
  next => exact (unchanging_readDocument id).keeps.bind fun _ _ => keeps_newText _
  next => exact (unchanging_readComplete id).keeps.bind fun _ _ => keeps_newText _
  next => exact .throw _

/-! ## Functions -/

theorem unchanging_layoutOf (v : Value) : Unchanging (layoutOf v) := by
  rw [layoutOf.eq_def]
  split
  · exact .pure _
  · exact .pure _
  · exact .throw _

theorem unchanging_wholeNumber (v : Value) : Unchanging (wholeNumber v) := by
  rw [wholeNumber]
  split
  · exact .pure _
  · exact .throw _

theorem keeps_length (v : Value) : Keeps A may (length v) (Value.Within A) := by
  rw [length.eq_def]
  split
  case h_6 first stop step =>
    dsimp only
    split
    · exact .pure trivial
    · exact .throw _
  case h_7 => exact .throw _
  all_goals exact .pure trivial

theorem keeps_makeRange (bounds : List Value) :
    Keeps A may (makeRange bounds) (Value.Within A) := by
  rw [makeRange.eq_def]
  split
  next stop => exact (unchanging_wholeNumber stop).keeps.bind fun _ _ => .pure trivial
  next first stop =>
    refine (unchanging_wholeNumber first).keeps.bind fun _ _ => ?_
    exact (unchanging_wholeNumber stop).keeps.bind fun _ _ => .pure trivial
  next first stop step =>
    refine (unchanging_wholeNumber first).keeps.bind fun _ _ => ?_
    refine (unchanging_wholeNumber stop).keeps.bind fun _ _ => ?_
    refine (unchanging_wholeNumber step).keeps.bind fun _ _ => ?_
    split
    · exact .throw _
    · exact .pure trivial
  next => exact .throw _

/-! ## Expansions -/

theorem keeps_bindingOf (place : Nat) {item : Value} (hitem : item.Within A) :
    Keeps A may (bindingOf place item) fun e => e.1.Within A ∧ e.2.Within A := by
  rw [bindingOf]
  split
  · exact .throw _
  next source hsource =>
    refine (keeps_allItems (hitem.iteration? hsource)).bind fun vs hvs => ?_
    split
    next k v =>
      split
      · exact .pure ⟨hvs k List.mem_cons_self, hvs v (List.mem_cons_of_mem k List.mem_cons_self)⟩
      · exact .throw _
    next => exact .throw _

theorem keeps_bindingsOf (place : Nat) {items : List Value} (hitems : ∀ v ∈ items, v.Within A) :
    Keeps A may (bindingsOf place items) (Value.EntriesWithin A) := by
  induction items generalizing place with
  | nil => exact .pure trivial
  | cons item rest ih =>
    obtain ⟨hitem, hrest⟩ := List.forall_mem_cons.1 hitems
    refine (keeps_bindingOf place hitem).bind fun e he => ?_
    exact (ih (place + 1) hrest).bind fun es hes => .pure ⟨he, hes⟩

theorem keeps_bindingsLeft (id place rounds : Nat) :
    Keeps A may (bindingsLeft id place rounds) (Value.EntriesWithin A) := by
  induction rounds generalizing place with
  | zero => exact .pure trivial
  | succ rounds ih =>
    refine (keeps_next? id).bind fun item? hitem => ?_
    cases item? with
    | none => exact .pure trivial
    | some item =>
      refine (keeps_bindingOf place (hitem item rfl)).bind fun e he => ?_
      exact (ih (place + 1)).bind fun es hes => .pure ⟨he, hes⟩

theorem within_scopeOf {bindings : List (Value × Value)} {scope : Scope}
    (hbindings : Value.EntriesWithin A bindings) (hscope : scope.Within A) :
    (bindings.foldl (fun scope binding =>
      match binding.1 with
      | .str _ x => scope.bind x binding.2
      | _ => scope) scope).Within A := by
  induction bindings generalizing scope with
  | nil => exact hscope
  | cons binding rest ih =>
    obtain ⟨⟨-, hv⟩, hrest⟩ := hbindings
    refine ih hrest ?_
    dsimp only
    split
    · exact Scope.within_bind hscope hv
    · exact hscope

theorem keeps_scopeOf {v : Value} (hv : v.Within A) :
    Keeps A may (scopeOf v) (Scope.Within A) := by
  have hnil : Scope.Within A [] := List.forall_mem_nil _
  rw [scopeOf.eq_def]
  dsimp only
  split
  · exact .pure hnil
  · exact .pure (within_scopeOf hv hnil)
  · split
    next vs hvs =>
      refine (keeps_bindingsOf 0 (hv.iteration? hvs)).bind fun es hes => ?_
      exact .pure (within_scopeOf hes hnil)
    next =>
      split
      · exact .pure hnil
      · exact .throw_bind _
    next id _ =>
      refine (unchanging_left id).keeps.bind fun n _ => ?_
      refine (keeps_bindingsLeft id 0 n).bind fun es hes => ?_
      exact .pure (within_scopeOf hes hnil)
    next => exact .throw_bind _

/-- Scripts are confined to some documents: every operation on these is allowed, and an expansion
reaches no others than the names that it is given. -/
structure Confines (A : Nat → Prop) (may : Nat → Operation → Prop) (expand : Expander) : Prop where
  allowed : ∀ i op, A i → may i op
  expands : ∀ source names settings, Keeps A may names (Scope.Within A) →
    Keeps A may (expand source names settings) (Value.Within A)

theorem unchanging_sourceOf (v : Value) : Unchanging (sourceOf v) := by
  rw [sourceOf.eq_def]
  split
  · exact .pure _
  · exact .pure _
  · dsimp only
    split
    · exact .pure _
    · split
      · exact .throw _
      · exact .throw _
  · exact .throw _

theorem keeps_callExpand {expand : Expander} (h : Confines A may expand)
    {args : List Value} {named : List (Text × Value)} (hargs : ∀ v ∈ args, v.Within A)
    (hnamed : Scope.Within A named) :
    Keeps A may (callExpand expand args named) (Value.Within A) := by
  have hvalues : Scope.Within A (named.filter fun e => e.1 ≠ "options".toList) :=
    fun entry he => hnamed entry ((List.mem_filter.1 he).1)
  have hrun (source names : Value) (hnames : names.Within A) (settings : Settings) :
      Keeps A may (if settings.isKey = true then do
        expand (← sourceOf source) (do
          return (← scopeOf names).bindAll (named.filter fun e => e.1 ≠ "options".toList)) settings
      else throw .unsuitable) (Value.Within A) := by
    split
    · refine (unchanging_sourceOf source).keeps.bind fun text _ => h.expands text _ settings ?_
      exact (keeps_scopeOf hnames).bind fun scope hscope =>
        .pure (Scope.within_bindAll hscope hvalues)
    · exact .throw _
  rw [callExpand.eq_def]
  dsimp only
  split
  next source => exact hrun source .none trivial _
  next source names =>
    exact hrun source names (hargs names (List.mem_cons_of_mem source List.mem_cons_self)) _
  next => exact .throw _

/-! ## Texts -/

theorem unchanging_checkReading (v : Value) : Unchanging (checkReading v) := by
  rw [checkReading.eq_def]
  split
  · split
    · exact .throw _
    · exact .pure _
  · exact .throw _

theorem keeps_textOf (v : Value) : Keeps A may (textOf v) (Value.Within A) := by
  rw [textOf.eq_def]
  split
  · exact .pure trivial
  · exact (unchanging_display _).keeps.bind fun _ _ => .pure trivial
  · exact (unchanging_display _).keeps.bind fun _ _ => keeps_newText _

theorem keeps_callText {args : List Value} {named : List (Text × Value)}
    (hargs : ∀ v ∈ args, v.Within A) (hnamed : Scope.Within A named) :
    Keeps A may (callText args named) (Value.Within A) := by
  have hparameters : ∀ p ∈ textParameters.map fun x => (x, some Value.none),
      ∀ v ∈ p.2, v.Within A := by
    intro p hp v hv
    obtain ⟨x, -, rfl⟩ := List.mem_map.1 hp
    cases hv
    trivial
  have htext (v : Value) (b c : Bool) : Keeps A may
      (if (!b) = true then return .str none []
        else if c = true then throw .unsuitable else textOf v) (Value.Within A) := by
    split
    · exact .pure trivial
    · split
      · exact .throw _
      · exact keeps_textOf v
  have herrors (v errors : Value) (b c d : Bool) : Keeps A may
      (if d = true then do
        checkReading errors
        if (!b) = true then return .str none []
          else if (c || d) = true then throw .unsuitable else textOf v
      else if (!b) = true then return .str none []
        else if (c || d) = true then throw .unsuitable else textOf v) (Value.Within A) := by
    split
    · exact (unchanging_checkReading errors).keeps.bind fun _ _ => htext v _ _
    · exact htext v _ _
  rw [callText]
  refine (keeps_argumentsOf hparameters hargs hnamed).bind fun bound _ => ?_
  dsimp only
  split
  · split
    · exact (unchanging_checkReading _).keeps.bind fun _ _ => herrors _ _ _ _ _
    · exact herrors _ _ _ _ _
  · exact .throw _

theorem keeps_callTextMethod (m : TextMethod) (mark : Mark) (t : Text) (args : List Value)
    (named : List (Text × Value)) :
    Keeps A may (callTextMethod m mark t args named) (Value.Within A) := by
  have hcut (u : Text) : Keeps A may (if u = t then return .str mark t else cutText u)
      (Value.Within A) := by
    split
    · exact .pure trivial
    · exact keeps_cutText u
  rw [callTextMethod.eq_def]
  dsimp only
  split
  · exact keeps_newText _
  · exact keeps_newText _
  · exact hcut _
  · exact hcut _
  · exact hcut _
  · exact .throw _

/-! ## Calls -/

/-- A call reaches what its function and its arguments refer to. -/
theorem keeps_call {expand : Expander} (h : Confines A may expand) {f : Value} {args : List Value}
    {named : List (Text × Value)} (hf : f.Within A) (hargs : ∀ v ∈ args, v.Within A)
    (hnamed : Scope.Within A named) :
    Keeps A may (call expand f args named) (Value.Within A) := by
  have hnone : Value.none.Within A := trivial
  have hblanks : (Value.str none [' ', ' ']).Within A := trivial
  rw [call.eq_def]
  split
  -- functions: length, text, range, expansion, methods of texts
  next =>
    split
    next v => exact keeps_length v
    next => exact .throw _
  next => exact keeps_callText hargs hnamed
  next =>
    split
    · exact keeps_makeRange args
    · exact .throw _
  next => exact keeps_callExpand h hargs hnamed
  next m =>
    split
    · exact keeps_callTextMethod _ _ _ _ _
    · exact .throw _
  -- layouts, which show their unit and so refer to what it refers to
  next =>
    refine (keeps_argumentsOf (within_default _ hnone) hargs hnamed).bind fun vs hvs => ?_
    split
    next unit => exact .pure (hvs unit List.mem_cons_self)
    next => exact .throw _
  next =>
    exact (keeps_argumentsOf within_noParameters hargs hnamed).discard.bind fun _ _ => .pure trivial
  next =>
    refine (keeps_argumentsOf (within_default _ hblanks) hargs hnamed).bind fun vs hvs => ?_
    split
    next unit => exact .pure (hvs unit List.mem_cons_self)
    next => exact .throw _
  -- methods of values
  next => exact keeps_callTextMethod _ _ _ _ _
  next =>
    exact (keeps_argumentsOf within_noParameters hargs hnamed).discard.bind fun _ _ => .pure hf
  next m id =>
    refine (keeps_argumentsOf (within_parameters m) hargs hnamed).bind fun vs hvs => ?_
    exact keeps_callDocument (fun op _ => h.allowed id op hf) hvs
  next => exact .throw _

end Render

end XmlTemplate
