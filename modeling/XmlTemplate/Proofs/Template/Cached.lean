import XmlTemplate.Proofs.Template.Limits
import XmlTemplate.Proofs.Template.Permission
import XmlTemplate.Proofs.Value.Same
import XmlTemplate.Template.Cache

/-!
# Keeping templates makes no difference

A template that is asked for is read, unless one is kept for the same source and the same settings.
Whatever has been asked for before, the answer is what reading gives, with one exception: a template
that has once been read is kept for those as well who ask for it with too little room left to read
it (`Cache.answer_eq_read_or`). As long as nothing has been crowded out, whoever asks for the same
gets the same object (`Cache.asked_again`).
-/

set_option autoImplicit false

namespace XmlTemplate

namespace Cache

/-- What a template is kept for. -/
structure Key where
  source : Text
  settings : Settings

/-- A request for a template, and the room there is for it. -/
structure Request where
  room : Nat
  key : Key

/-- The key of an entry. -/
def entryKey (e : CacheEntry) : Key := ⟨e.source, e.settings⟩

/-- Whether what is kept for one key is an answer for another. -/
def Key.same (j k : Key) : Bool := j.source == k.source && j.settings.same k.settings

/-- What reading the source gives. -/
def Request.read (r : Request) : Except Fault Template :=
  (Template.parse r.key.settings.permission (r.room - keepingRoom) r.key.source).mapError .parse

/-- The answer to a request, and the cache after it. -/
def ask (cache : Cache) (r : Request) : Except Fault Compiled × Cache :=
  cache.compile r.room r.key.source r.key.settings

/-- The cache after requests that began with no template. -/
def after (history : List Request) : Cache := history.foldl (fun c r => (c.ask r).2) empty

/-- The template that answers a request after others. -/
def answer (history : List Request) (r : Request) : Except Fault Template :=
  ((after history).ask r).1.map Compiled.template

/-- Keys up to sameness, the one before joined by another if that is new. -/
def note (keys : List Key) (k : Key) : List Key :=
  if keys.any fun j => j.same k then keys else k :: keys

/-- The distinct keys among those of requests that can be read. -/
def compiledKeys (history : List Request) : List Key :=
  (history.filter fun r => r.key.settings.isKey && r.read.isOk).foldl (fun ks r => note ks r.key) []

/-! ## One request -/

variable {contents : Nat → List Value} {c : Cache} {r q : Request} {history : List Request}

/-- What a request can come to: settings that are no key, a template that is kept, a source that is
no template, or a template that is read and kept from then on. -/
inductive Asked (c : Cache) (r : Request) : Except Fault Compiled → Cache → Prop
  | unsuitable (hkey : r.key.settings.isKey = false) : Asked c r (.error .unsuitable) c
  | kept {e : CacheEntry} (hkey : r.key.settings.isKey = true) (he : e ∈ c.entries)
      (hsame : (entryKey e).same r.key = true) {left : List CacheEntry}
      (hleft : (e :: left).Perm c.entries) : Asked c r (.ok e.compiled) ⟨e :: left, c.next⟩
  | failed {fault : Fault} (hkey : r.key.settings.isKey = true)
      (hnew : ∀ e ∈ c.entries, (entryKey e).same r.key = false)
      (hread : r.read = .error fault) : Asked c r (.error fault) c
  | read {t : Template} (hkey : r.key.settings.isKey = true)
      (hnew : ∀ e ∈ c.entries, (entryKey e).same r.key = false) (hread : r.read = .ok t) :
      Asked c r (.ok ⟨c.next, t⟩)
        ⟨(⟨r.key.source, r.key.settings, ⟨c.next, t⟩⟩ :: c.entries).take capacity, c.next + 1⟩

theorem asked_ask (c : Cache) (r : Request) : Asked c r (c.ask r).1 (c.ask r).2 := by
  rw [ask, compile]
  split
  · next hkey =>
    split
    · next e hfind =>
      obtain ⟨hsame, before, left, hentries, hbefore⟩ := List.find?_eq_some_iff_append.1 hfind
      have hleft : c.entries.eraseP (answers r.key.source r.key.settings) = before ++ left := by
        rw [hentries, List.eraseP_append_right _ (by simpa using hbefore),
          List.eraseP_cons_of_pos hsame]
      rw [hleft]
      refine .kept hkey (List.mem_of_find?_eq_some hfind) hsame ?_
      rw [hentries]
      exact List.perm_middle.symm
    · next hfind =>
      have hnew : ∀ e ∈ c.entries, (entryKey e).same r.key = false :=
        fun e he => Bool.eq_false_iff.2 (List.find?_eq_none.1 hfind e he)
      split
      · next err hparse =>
        refine .failed hkey hnew ?_
        rw [Request.read, hparse]
        rfl
      · next t hparse =>
        refine .read hkey hnew ?_
        rw [Request.read, hparse]
        rfl
  · next hkey => exact .unsuitable (by simpa using hkey)

/-- A request that fails leaves the cache as it is. -/
theorem ask_of_error {fault : Fault} (h : (c.ask r).1 = .error fault) : (c.ask r).2 = c := by
  have hasked := asked_ask c r
  rw [h] at hasked
  generalize (c.ask r).2 = c' at hasked ⊢
  cases hasked with
  | unsuitable => rfl
  | failed => rfl

/-! ## Keys of the same marks -/

/-- A key whose settings can be one, marked as those of the others are. -/
abbrev Key.IsKeyOf (contents : Nat → List Value) (k : Key) : Prop := k.settings.IsKeyOf contents

variable {j k l : Key}

theorem Key.same_symm (hj : j.IsKeyOf contents) (hk : k.IsKeyOf contents)
    (h : j.same k = true) : k.same j = true := by
  simp only [Key.same, Bool.and_eq_true, beq_iff_eq] at h ⊢
  exact ⟨h.1.symm, Settings.same_symm hj hk h.2⟩

theorem Key.same_trans (hj : j.IsKeyOf contents) (hk : k.IsKeyOf contents)
    (hl : l.IsKeyOf contents) (hjk : j.same k = true) (hkl : k.same l = true) :
    j.same l = true := by
  simp only [Key.same, Bool.and_eq_true, beq_iff_eq] at hjk hkl ⊢
  exact ⟨hjk.1.trans hkl.1, Settings.same_trans hj hk hl hjk.2 hkl.2⟩

/-- The same source read for the same settings, which say the same about continuations, gives the
same unless there is less room. -/
theorem Request.read_of_same (hq : q.key.IsKeyOf contents) (hr : r.key.IsKeyOf contents)
    (hsame : q.key.same r.key = true) {t : Template} (hread : q.read = .ok t) :
    r.read = .ok t ∨ r.room < q.room ∧ ∃ p, r.read = .error (.parse ⟨.tooDeep, p⟩) := by
  simp only [Key.same, Bool.and_eq_true, beq_iff_eq] at hsame
  obtain ⟨hsource, hsettings⟩ := hsame
  have hpermission := Settings.permission_eq_of_same hq hr hsettings
  simp only [Request.read, hsource, hpermission] at hread ⊢
  cases hparse : Template.parse r.key.settings.permission (q.room - keepingRoom) r.key.source with
  | error e =>
    rw [hparse] at hread
    cases hread
  | ok u =>
    rw [hparse] at hread
    cases hread
    by_cases hroom : r.room < q.room
    · have hless : r.room - keepingRoom ≤ q.room - keepingRoom := by omega
      obtain hok | ⟨p, herr⟩ := Template.parse_or_tooDeep hless hparse
      · rw [hok]
        exact .inl rfl
      · rw [herr]
        exact .inr ⟨hroom, p, rfl⟩
    · have hmore : q.room - keepingRoom ≤ r.room - keepingRoom := by omega
      rw [Template.parse_mono hmore hparse]
      exact .inl rfl

/-! ## What a cache holds -/

/-- Every kept template was read from its source for an earlier request, and no two are kept for the
same key. -/
structure Sound (history : List Request) (c : Cache) : Prop where
  read : ∀ e ∈ c.entries, ∃ q ∈ history, q.key = entryKey e ∧ q.key.settings.isKey = true ∧
    q.read = .ok e.compiled.template
  apart : ∀ e ∈ c.entries, ∀ f ∈ c.entries, (entryKey e).same (entryKey f) = true → e = f

/-- Marks stand for the same in all requests. -/
def AllMarkedAs (contents : Nat → List Value) (history : List Request) : Prop :=
  ∀ q ∈ history, q.key.settings.MarkedAs contents

theorem Sound.isKeyOf (h : Sound history c) (hmarked : AllMarkedAs contents history)
    {e : CacheEntry} (he : e ∈ c.entries) : (entryKey e).IsKeyOf contents := by
  obtain ⟨q, hq, hkey, hsuits, -⟩ := h.read e he
  rw [← hkey]
  exact (hmarked q hq).isKeyOf hsuits

theorem sound_empty : Sound [] empty :=
  ⟨List.forall_mem_nil _, List.forall_mem_nil _⟩

/-- One more request leaves a sound cache sound. -/
theorem Sound.ask (h : Sound history c) (hmarked : AllMarkedAs contents (history ++ [r])) :
    Sound (history ++ [r]) (c.ask r).2 := by
  have hread : ∀ e ∈ c.entries, ∃ q ∈ history ++ [r], q.key = entryKey e ∧
      q.key.settings.isKey = true ∧ q.read = .ok e.compiled.template := by
    intro e he
    obtain ⟨q, hq, hrest⟩ := h.read e he
    exact ⟨q, List.mem_append_left [r] hq, hrest⟩
  have hasked := asked_ask c r
  generalize (c.ask r).1 = a, (c.ask r).2 = c' at hasked
  cases hasked with
  | unsuitable | failed => exact ⟨hread, h.apart⟩
  | kept _ _ _ hleft =>
    refine ⟨fun e he => hread e (hleft.mem_iff.1 he), fun e he f hf => ?_⟩
    exact h.apart e (hleft.mem_iff.1 he) f (hleft.mem_iff.1 hf)
  | @read t hkey hnew hok =>
    have hlast : r ∈ history ++ [r] := List.mem_append_right history (.head [])
    have hr : r.key.IsKeyOf contents := (hmarked r hlast).isKeyOf hkey
    have hold : ∀ e ∈ c.entries, (entryKey e).IsKeyOf contents :=
      fun e he => h.isKeyOf (fun q hq => hmarked q (List.mem_append_left [r] hq)) he
    constructor
    · intro e he
      obtain rfl | he := List.mem_cons.1 (List.mem_of_mem_take he)
      · exact ⟨r, hlast, rfl, hkey, hok⟩
      · exact hread e he
    · intro e he f hf hsame
      obtain rfl | he := List.mem_cons.1 (List.mem_of_mem_take he)
      · obtain rfl | hf := List.mem_cons.1 (List.mem_of_mem_take hf)
        · rfl
        · -- an entry for the key would have answered the request
          have hfound := Key.same_symm hr (hold f hf) hsame
          exact absurd ((hnew f hf).symm.trans hfound) Bool.false_ne_true
      · obtain rfl | hf := List.mem_cons.1 (List.mem_of_mem_take hf)
        · exact absurd ((hnew e he).symm.trans hsame) Bool.false_ne_true
        · exact h.apart e he f hf hsame

/-! ## How many templates are kept -/

theorem compiledKeys_append (history : List Request) (r : Request) :
    compiledKeys (history ++ [r]) =
      if r.key.settings.isKey && r.read.isOk then note (compiledKeys history) r.key
      else compiledKeys history := by
  rw [compiledKeys, List.filter_append, List.foldl_append]
  cases h : r.key.settings.isKey && r.read.isOk with
  | true => simp only [List.filter_cons, h, if_true, List.filter_nil, List.foldl_cons,
      List.foldl_nil, compiledKeys]
  | false => simp only [List.filter_cons, h, Bool.false_eq_true, if_false, List.filter_nil,
      List.foldl_nil, compiledKeys]

theorem length_note (keys : List Key) (k : Key) : keys.length ≤ (note keys k).length := by
  rw [note]
  split
  · exact Nat.le_refl _
  · exact Nat.le_succ _

theorem length_compiledKeys_append (history : List Request) (r : Request) :
    (compiledKeys history).length ≤ (compiledKeys (history ++ [r])).length := by
  rw [compiledKeys_append]
  split
  · exact length_note _ _
  · exact Nat.le_refl _

/-- The kept templates are for the distinct keys of all templates that have been read. -/
def Complete (history : List Request) (c : Cache) : Prop :=
  (c.entries.map entryKey).Perm (compiledKeys history)

/-- Whether a key is new can be told from the kept templates. -/
theorem Complete.any_same (h : Complete history c) (k : Key) :
    ((compiledKeys history).any fun j => j.same k) = c.entries.any fun e => (entryKey e).same k := by
  rw [← h.any_eq, List.any_map]
  rfl

/-- As long as there are not too many keys, nothing is crowded out. -/
theorem Complete.ask (h : Complete history c)
    (hfew : (compiledKeys (history ++ [r])).length ≤ capacity) :
    Complete (history ++ [r]) (c.ask r).2 ∧ ∀ e ∈ c.entries, e ∈ (c.ask r).2.entries := by
  have hasked := asked_ask c r
  rw [Complete]
  rw [compiledKeys_append] at hfew ⊢
  generalize (c.ask r).1 = a, (c.ask r).2 = c' at hasked
  cases hasked with
  | unsuitable hkey =>
    simp only [hkey, Bool.false_and, Bool.false_eq_true, if_false]
    exact ⟨h, fun e he => he⟩
  | failed _ _ hread =>
    simp only [hread, Except.isOk, Except.toBool, Bool.and_false, Bool.false_eq_true, if_false]
    exact ⟨h, fun e he => he⟩
  | @kept e hkey he hsame left hleft =>
    have hold : note (compiledKeys history) r.key = compiledKeys history := by
      rw [note, h.any_same, if_pos (List.any_eq_true.2 ⟨e, he, hsame⟩)]
    rw [hold, ite_self]
    exact ⟨(hleft.map entryKey).trans h, fun f hf => hleft.mem_iff.2 hf⟩
  | @read t hkey hnew hread =>
    have hany : ((compiledKeys history).any fun j => j.same r.key) = false := by
      rw [h.any_same, List.any_eq_false]
      exact fun e he => Bool.eq_false_iff.1 (hnew e he)
    have hgrown : note (compiledKeys history) r.key = r.key :: compiledKeys history := by
      rw [note, hany]
      rfl
    simp only [hkey, hread, Except.isOk, Except.toBool, Bool.and_self, if_true, hgrown] at hfew ⊢
    have hlength := h.length_eq
    rw [List.length_map] at hlength
    rw [List.length_cons, ← hlength] at hfew
    rw [List.take_of_length_le (by rwa [List.length_cons])]
    exact ⟨h.cons r.key, fun e he => .tail _ he⟩

/-! ## Any number of requests -/

/-- What holds of the cache at first and is kept by each request holds after any requests. -/
theorem foldl_ask {P : List Request → Cache → Prop} {rest : List Request}
    (hstep : ∀ done c, ∀ r ∈ rest, P done c → P (done ++ [r]) (c.ask r).2)
    {done : List Request} (h : P done c) :
    P (done ++ rest) (rest.foldl (fun c r => (c.ask r).2) c) := by
  induction rest generalizing done c with
  | nil => rwa [List.append_nil]
  | cons r rest ih =>
    rw [List.append_cons]
    exact ih (fun done c q hq => hstep done c q (.tail r hq)) (hstep done c r (.head rest) h)

theorem after_append (history rest : List Request) :
    after (history ++ rest) = rest.foldl (fun c r => (c.ask r).2) (after history) := by
  rw [after, List.foldl_append, after]

/-- What holds of the empty cache and is kept by each request holds after any history. -/
theorem after_induction {P : List Request → Cache → Prop} (hempty : P [] empty)
    (hstep : ∀ done c r, P done c → P (done ++ [r]) (c.ask r).2) (history : List Request) :
    P history (after history) :=
  foldl_ask (fun done c r _ => hstep done c r) hempty

theorem sound_after (hmarked : AllMarkedAs contents history) : Sound history (after history) := by
  refine after_induction (P := fun done c => AllMarkedAs contents done → Sound done c)
    (fun _ => sound_empty) (fun done c r h hdone => ?_) history hmarked
  exact (h fun q hq => hdone q (List.mem_append_left [r] hq)).ask hdone

theorem complete_after (hfew : (compiledKeys history).length ≤ capacity) :
    Complete history (after history) := by
  refine after_induction (P := fun done c => (compiledKeys done).length ≤ capacity →
    Complete done c) (fun _ => .nil) (fun done c r h hdone => ?_) history hfew
  exact ((h (Nat.le_trans (length_compiledKeys_append done r) hdone)).ask hdone).1

/-- What is kept stays, as long as there are not too many keys. -/
theorem mem_after {rest : List Request} (hfew : (compiledKeys (history ++ rest)).length ≤ capacity)
    {e : CacheEntry} (he : e ∈ (after history).entries) : e ∈ (after (history ++ rest)).entries := by
  have hrun : (compiledKeys (history ++ rest)).length ≤ capacity →
      Complete (history ++ rest) (after (history ++ rest)) ∧
        e ∈ (after (history ++ rest)).entries := by
    rw [after_append]
    refine foldl_ask (P := fun done c => (compiledKeys done).length ≤ capacity →
      Complete done c ∧ e ∈ c.entries) (fun done c r _ h hdone => ?_)
      fun hdone => ⟨complete_after hdone, he⟩
    obtain ⟨hcomplete, hmem⟩ := h (Nat.le_trans (length_compiledKeys_append done r) hdone)
    obtain ⟨hcomplete', hkeeps⟩ := hcomplete.ask hdone
    exact ⟨hcomplete', hkeeps e hmem⟩
  exact (hrun hfew).2

/-- What answers a request is kept. -/
theorem exists_entry_of_ask {x : Compiled} (h : (c.ask q).1 = .ok x) :
    ∃ e ∈ (c.ask q).2.entries, e.compiled = x ∧ q.key.settings.isKey = true ∧
      ((entryKey e).same q.key = true ∨ entryKey e = q.key) := by
  have hasked := asked_ask c q
  rw [h] at hasked
  generalize (c.ask q).2 = c' at hasked ⊢
  cases hasked with
  | @kept e hkey _ hsame => exact ⟨e, .head _, rfl, hkey, .inl hsame⟩
  | read hkey => exact ⟨_, .head _, rfl, hkey, .inr rfl⟩

/-- Whoever asks for the same as someone before gets the same object, as long as there are not too
many keys. -/
theorem ask_again {before between : List Request} {x : Compiled}
    (hmarked : AllMarkedAs contents (r :: (before ++ q :: between)))
    (hkey : r.key.settings.isKey = true) (hsame : q.key.same r.key = true)
    (hfew : (compiledKeys (before ++ q :: between)).length ≤ capacity)
    (hq : ((after before).ask q).1 = .ok x) :
    ((after (before ++ q :: between)).ask r).1 = .ok x := by
  have hhistory : AllMarkedAs contents (before ++ q :: between) := fun p hp => hmarked p (.tail r hp)
  have hsound := sound_after hhistory
  have hr : r.key.IsKeyOf contents := (hmarked r (.head _)).isKeyOf hkey
  obtain ⟨e, he, rfl, hqkey, hequal⟩ := exists_entry_of_ask hq
  have hqmarked : q.key.IsKeyOf contents :=
    (hhistory q (List.mem_append_right before (.head between))).isKeyOf hqkey
  -- the entry that answered the first request is still there, and it answers the second one
  have hthen : e ∈ (after (before ++ [q])).entries := by
    rw [after_append]
    exact he
  rw [List.append_cons] at hfew hsound hhistory ⊢
  have hnow := mem_after hfew hthen
  have heq : (entryKey e).same r.key = true := by
    obtain hfound | hmade := hequal
    · exact Key.same_trans (hsound.isKeyOf hhistory hnow) hqmarked hr hfound hsame
    · rwa [hmade]
  have hasked := asked_ask (after ((before ++ [q]) ++ between)) r
  generalize ((after ((before ++ [q]) ++ between)).ask r).1 = a,
    ((after ((before ++ [q]) ++ between)).ask r).2 = c' at hasked ⊢
  cases hasked with
  | unsuitable hnone => exact absurd (hnone.symm.trans hkey) Bool.false_ne_true
  | failed _ hnew => exact absurd ((hnew e hnow).symm.trans heq) Bool.false_ne_true
  | read _ hnew => exact absurd ((hnew e hnow).symm.trans heq) Bool.false_ne_true
  | @kept f _ hf hfound =>
    have hekey := hsound.isKeyOf hhistory hnow
    have hfkey := hsound.isKeyOf hhistory hf
    rw [hsound.apart e hnow f hf
      (Key.same_trans hekey hr hfkey heq (Key.same_symm hfkey hr hfound))]

/-- The answer is what reading gives, or a template that has been read for the same key where there
was more room, and that there is no room to read any more. -/
theorem answer_eq_read_or (hmarked : AllMarkedAs contents history)
    (hr : r.key.IsKeyOf contents) (hkey : r.key.settings.isKey = true) :
    answer history r = r.read ∨ ∃ q ∈ history, q.key.same r.key = true ∧ r.room < q.room ∧
      ∃ t p, q.read = .ok t ∧ answer history r = .ok t ∧
        r.read = .error (.parse ⟨.tooDeep, p⟩) := by
  have hsound := sound_after hmarked
  have hasked := asked_ask (after history) r
  rw [answer]
  generalize ((after history).ask r).1 = a, ((after history).ask r).2 = c' at hasked
  cases hasked with
  | unsuitable hnone => exact absurd (hnone.symm.trans hkey) Bool.false_ne_true
  | failed _ _ hread => exact .inl hread.symm
  | read _ _ hread => exact .inl hread.symm
  | @kept e _ he hsame left _ =>
    obtain ⟨q, hq, hqkey, -, hread⟩ := hsound.read e he
    rw [← hqkey] at hsame
    have hqkeyof : q.key.IsKeyOf contents := by
      rw [hqkey]
      exact hsound.isKeyOf hmarked he
    obtain hok | ⟨hroom, p, herr⟩ := Request.read_of_same hqkeyof hr hsame hread
    · exact .inl hok.symm
    · exact .inr ⟨q, hq, hsame, hroom, _, p, hread, rfl, herr⟩

/-- Keeping templates makes no difference. Whatever has been asked for before, a request for settings
that can be a key is answered with what reading the source gives, be it a template or an error, or,
where there is too little room left to read it, with the template that has been read for the same
key where there was more. What fails is not kept. And where no more distinct keys have been asked
for than there are places, whoever asks for the same as someone before gets the same object. -/
theorem compile_transparent (contents : Nat → List Value) (history : List Request) (r : Request)
    (hmarked : AllMarkedAs contents (r :: history)) (hkey : r.key.settings.isKey = true) :
    (answer history r = r.read ∨ ∃ q ∈ history, q.key.same r.key = true ∧ r.room < q.room ∧
      ∃ t p, q.read = .ok t ∧ answer history r = .ok t ∧
        r.read = .error (.parse ⟨.tooDeep, p⟩)) ∧
    (∀ fault, ((after history).ask r).1 = .error fault → after (history ++ [r]) = after history) ∧
    ∀ before q between x, history = before ++ q :: between → q.key.same r.key = true →
      (compiledKeys history).length ≤ capacity → ((after before).ask q).1 = .ok x →
        ((after history).ask r).1 = .ok x := by
  refine ⟨?same, ?failed, ?again⟩
  case same =>
    have hhistory : AllMarkedAs contents history := fun q hq => hmarked q (.tail r hq)
    exact answer_eq_read_or hhistory ((hmarked r (.head history)).isKeyOf hkey) hkey
  case failed =>
    intro fault hfault
    rw [after_append]
    exact ask_of_error hfault
  case again =>
    rintro before q between x rfl hsame hfew hq
    exact ask_again hmarked hkey hsame hfew hq

/-! ## Two fixed histories -/

theorem length_compiledKeys (history : List Request) :
    (compiledKeys history).length ≤ history.length := by
  have hnote : ∀ (requests : List Request) (keys : List Key),
      (requests.foldl (fun ks r => note ks r.key) keys).length ≤ requests.length + keys.length := by
    intro requests
    induction requests with
    | nil => exact fun keys => Nat.le_of_eq (Nat.zero_add _).symm
    | cons r requests ih =>
      intro keys
      refine Nat.le_trans (ih (note keys r.key)) ?_
      have hone : (note keys r.key).length ≤ keys.length + 1 := by
        rw [note]
        split
        · exact Nat.le_succ _
        · exact Nat.le_refl _
      rw [List.length_cons]
      omega
  exact Nat.le_trans (hnote _ []) (List.length_filter_le _ history)

/-- The first request of all is answered with what reading gives. -/
theorem exists_of_read {t : Template} (hkey : r.key.settings.isKey = true)
    (hread : r.read = .ok t) : ∃ x : Compiled, ((after []).ask r).1 = .ok x ∧ x.template = t := by
  have hasked := asked_ask (after []) r
  generalize ((after []).ask r).1 = a, ((after []).ask r).2 = c' at hasked ⊢
  cases hasked with
  | unsuitable hnone => exact absurd (hnone.symm.trans hkey) Bool.false_ne_true
  | kept _ he => cases he
  | failed _ _ hfails => cases hfails.symm.trans hread
  | read _ _ hok =>
    cases hok.symm.trans hread
    exact ⟨_, rfl, rfl⟩

/-- A request for a template with a continuation, with a value that says whether that is allowed. -/
def hookedRequest (allowed : Value) : Request :=
  ⟨maxRoom, Template.hookedSource, .options ⟨none, allowed⟩⟩

/-- A request for a source that is no template. -/
def brokenRequest : Request := ⟨maxRoom, ['<'], .options .default⟩

/-- A template is asked for with a one and then, after a request that fails, with a true in the
place of the one. -/
theorem compile_transparent_hookedRequest :
    answer [hookedRequest (.int 1), brokenRequest] (hookedRequest (.bool true)) =
      (hookedRequest (.bool true)).read ∧
    ∃ x, ((after []).ask (hookedRequest (.int 1))).1 = .ok x ∧
      ((after [hookedRequest (.int 1), brokenRequest]).ask (hookedRequest (.bool true))).1 =
        .ok x := by
  have hmarked : AllMarkedAs (fun _ => [])
      [hookedRequest (.bool true), hookedRequest (.int 1), brokenRequest] := by
    simp only [AllMarkedAs, List.forall_mem_cons]
    exact ⟨trivial, trivial, trivial, List.forall_mem_nil _⟩
  obtain ⟨hsame, -, hagain⟩ := compile_transparent (fun _ => [])
    [hookedRequest (.int 1), brokenRequest] (hookedRequest (.bool true)) hmarked rfl
  have hequal : (Value.int 1).equalWithin Value.maxCompared (.bool true) = .ok true :=
    Value.equalWithin_of_equalsBy (n := 9999) (.number (a := .finite 1) rfl rfl)
  have hvalues : (Value.int 1).same (.bool true) = true :=
    Value.same_iff.2 (Value.sameWithin_eq_true_iff.2 (.inr hequal))
  have hkeys : (hookedRequest (.int 1)).key.same (hookedRequest (.bool true)).key = true := by
    simp [hookedRequest, Key.same, Settings.same, Options.same, hvalues]
  obtain ⟨t, hparse, -⟩ := Template.exists_parse_hookedSource
  have hread : (hookedRequest (.int 1)).read = .ok t := by
    rw [Request.read]
    exact congrArg (Except.mapError Fault.parse) hparse
  obtain ⟨x, hx, -⟩ := exists_of_read rfl hread
  refine ⟨?_, x, hx, ?_⟩
  · obtain hread | ⟨q, hq, -, hroom, -⟩ := hsame
    · exact hread
    · -- all of the requests have the same room
      simp only [List.mem_cons, List.not_mem_nil, or_false] at hq
      obtain rfl | rfl := hq <;> exact absurd hroom (Nat.lt_irrefl maxRoom)
  · refine hagain [] _ [brokenRequest] x rfl hkeys (Nat.le_trans (length_compiledKeys _) ?_) hx
    decide

/-- What the first request of all has read is the answer to the second one. -/
theorem answer_second {t : Template} (hmarked : AllMarkedAs contents [r, q])
    (hkey : r.key.settings.isKey = true) (hqkey : q.key.settings.isKey = true)
    (hsame : q.key.same r.key = true) (hread : q.read = .ok t) : answer [q] r = .ok t := by
  obtain ⟨x, hx, rfl⟩ := exists_of_read hqkey hread
  have hfew : (compiledKeys ([] ++ q :: [])).length ≤ capacity :=
    Nat.le_trans (length_compiledKeys [q]) (show 1 ≤ capacity by decide)
  have hagain : ((after [q]).ask r).1 = .ok x := ask_again hmarked hkey hsame hfew hx
  rw [answer, hagain]
  rfl

/-- The key of elements nested a hundred deep. -/
def deepKey : Key := ⟨(nestedTemplate 100).unparse, .options .default⟩

theorem read_deepKey {room : Nat} {t : Template} :
    Request.read ⟨room, deepKey⟩ = .ok t ↔
      Template.parse .granted (room - keepingRoom) (nestedTemplate 100).unparse = .ok t := by
  have hmap : Request.read ⟨room, deepKey⟩ = (Template.parse .granted (room - keepingRoom)
      (nestedTemplate 100).unparse).mapError .parse := rfl
  rw [hmap]
  cases Template.parse .granted (room - keepingRoom) (nestedTemplate 100).unparse with
  | ok u =>
    constructor <;> intro h <;> cases h <;> rfl
  | error e => exact iff_of_false nofun nofun

/-- They are kept for those as well who have no room to read them. -/
theorem kept_beyond_room :
    answer [⟨maxRoom, deepKey⟩] ⟨200, deepKey⟩ = .ok (nestedTemplate 100) ∧
      ∀ t, Request.read ⟨200, deepKey⟩ ≠ .ok t := by
  have hmarked : AllMarkedAs (fun _ => []) [⟨200, deepKey⟩, ⟨maxRoom, deepKey⟩] := by
    simp only [AllMarkedAs, List.forall_mem_cons]
    exact ⟨trivial, trivial, List.forall_mem_nil _⟩
  have htrue : (Value.bool true).same (.bool true) = true :=
    Value.same_iff.2 (Value.sameWithin_eq_true_iff.2 (.inl rfl))
  have hsame : deepKey.same deepKey = true := by
    simp [deepKey, Key.same, Settings.same, Options.same, Options.default, htrue]
  have hparse : Template.parse .granted (maxRoom - keepingRoom) (nestedTemplate 100).unparse =
      .ok (nestedTemplate 100) := Template.parse_nested_eq_ok_iff.2 (by decide)
  refine ⟨answer_second hmarked rfl rfl hsame (read_deepKey.2 hparse), fun t hread => ?_⟩
  -- with less room it would be the same template, and that does not fit
  have hless := read_deepKey.1 hread
  have hroom : 200 - keepingRoom ≤ maxRoom - keepingRoom := by decide
  cases hparse.symm.trans (Template.parse_mono hroom hless)
  exact absurd (Template.parse_nested_eq_ok_iff.1 hless) (by decide)

end Cache

end XmlTemplate
