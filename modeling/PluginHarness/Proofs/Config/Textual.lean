import PluginHarness.Proofs.Config.Precedence
import PluginHarness.Proofs.World

/-!
# Textual settings

A test run gives its settings as texts. Each text is read as its setting asks: seconds, a size, a
flag, or the text itself. What is read is a value of the right kind, so the checks of a
configuration that ask for kinds always pass. What is left are the bounds: there has to be an
address, no time limit is below zero, and the size is positive.

Reading stops at the first text that cannot be read, so the order of the entries decides which
failure is told. It does not decide whether there is one. As the texts are a mapping, each setting
is read from the one text under its name, and `ReadsAs` says this without the loop over the entries.

## Main definitions

* `Config.textFor?`: the text that is given for a setting.
* `Setting.Reading`: what the text of a setting can be read as.
* `Config.ReadsAs`: each value is read from the text for its setting, or built in.
* `Config.Refusal`: why textual settings are refused, and with what failure.
* `Config.hasSay`: the names that matter.

## Main results

* `Config.overridesOf_ok`, `overridesOf_error`: what reading all texts comes to.
* `Config.ofValues_error_of_kinds`: values of the right kinds are only refused for their bounds.
* `Config.ofUserdata_run`: without files, reading texts in one step.
* `Config.texts_are_of_the_right_kinds`: all of this together.
-/

namespace PluginHarness

open Attempt

/-! ### Reading one text -/

/-- The fault says that a value is of a wrong kind. -/
def ConfigFault.isKind : ConfigFault → Bool
  | .notText _ | .notSeconds _ | .sizeNotInteger | .notFlag | .parametersNotMapping
  | .parametersNotText => true
  | _ => false

/-- The failure ends a run before it starts, and does not say that a value is of a wrong kind. -/
structure Failure.IsReadingFailure (e : Failure) : Prop where
  isConfiguration : e.isConfiguration = true
  not_isKind : ∀ f, e = .fault (.config f) → f.isKind = false

namespace Setting

/-- The settings whose texts have to be read. -/
def converted : List Setting := timeouts ++ [.volumeSize, .attachLimit]

/-- What the text of a setting can be read as. -/
inductive Reading (text : String) : Setting → Except Failure Document → Prop
  | itself {s : Setting} (hs : s ∈ texts ∨ s = .parameters) : Reading text s (.ok (.text text))
  | seconds {s : Setting} {x : Binary64} (hs : s ∈ timeouts) : Reading text s (.ok (.float x))
  | size {i : Int} : Reading text .volumeSize (.ok (.int i))
  | flag {b : Bool} : Reading text .attachLimit (.ok (.bool b))
  | refused {s : Setting} {e : Failure} (hs : s ∈ converted) (he : e.IsReadingFailure) :
      Reading text s (.error e)

theorem ofText_reading (s : Setting) (text : String) : Reading text s (s.ofText text) := by
  cases s with
  | timeout a p =>
    have hs := timeout_mem_timeouts a p
    simp only [ofText, secondsOfText]
    split
    · exact .seconds hs
    · exact .refused (List.mem_append_left _ hs) ⟨rfl, nofun⟩
  | volumeSize =>
    simp only [ofText, integerOfText]
    split
    · exact .size
    · exact .refused (by decide) ⟨rfl, nofun⟩
    · exact .refused (by decide) ⟨rfl, nofun⟩
  | attachLimit =>
    simp only [ofText, flagOfText]
    split
    · exact .flag
    · split
      · exact .flag
      · exact .refused (by decide) ⟨rfl, by rintro f ⟨⟩; rfl⟩
  | path p => exact .itself (.inl (path_mem_texts p))
  | command a p => exact .itself (.inl (command_mem_texts a p))
  | parameters => exact .itself (.inr rfl)
  | _ => exact .itself (.inl (by decide))

theorem ofText_ne_null {s : Setting} {text : String} {d : Document} (h : s.ofText text = .ok d) :
    d ≠ .null := by
  have hread := ofText_reading s text
  rw [h] at hread
  cases hread <;> exact nofun

end Setting

namespace Config

variable {m m' : TextMap} {values values' : Values} {c : Config}

/-! ### Reading all texts -/

/-- Texts as values. -/
def ofTexts (m : TextMap) : List (String × Document) := m.map fun e => (e.1, .text e.2)

/-- The text that is given for a setting. Parameters cannot be given as a text. -/
def textFor? (s : Setting) (m : TextMap) : Option String :=
  if s = .parameters then none else Entries.get? s.key m

theorem textFor?_eq {s : Setting} (hs : s ≠ .parameters) (m : TextMap) :
    textFor? s m = Entries.get? s.key m := if_neg hs

theorem textFor?_cons_of_ne {s : Setting} {name : String} (hne : s ≠ .parameters → name ≠ s.key)
    (text : String) (m : TextMap) : textFor? s ((name, text) :: m) = textFor? s m := by
  by_cases hs : s = .parameters
  · rw [textFor?, textFor?, if_pos hs, if_pos hs]
  · rw [textFor?_eq hs, textFor?_eq hs, Entries.get?, if_neg (by simpa using hne hs)]

theorem textFor?_cons_self {s : Setting} (hs : s ≠ .parameters) (text : String) (m : TextMap) :
    textFor? s ((s.key, text) :: m) = some text := by
  rw [textFor?_eq hs, Entries.get?, if_pos (beq_self_eq_true _)]

/-- An entry whose name is no setting's, or that of the parameters, is passed over. -/
theorem overridesOf_of_unread {name : String}
    (h : Setting.ofKey? name = none ∨ Setting.ofKey? name = some .parameters) (d : Document)
    (rest : List (String × Document)) : overridesOf ((name, d) :: rest) = overridesOf rest := by
  rcases h with h | h <;> rw [overridesOf, h]

theorem overridesOf_of_read {s : Setting} (hs : s ≠ .parameters) (text : String)
    (rest : List (String × Document)) :
    overridesOf ((s.key, .text text) :: rest) = do
      return (.text s.key, ← s.ofText text) :: (← overridesOf rest) := by
  rw [overridesOf, Setting.ofKey?_eq_some_iff.mpr rfl]
  cases s with
  | parameters => exact absurd rfl hs
  | _ => rfl

/-- An entry is passed over, or is read for a setting. -/
theorem unread_or_read (name : String) :
    (Setting.ofKey? name = none ∨ Setting.ofKey? name = some .parameters) ∨
      ∃ s : Setting, s ≠ .parameters ∧ s.key = name := by
  cases hkey : Setting.ofKey? name with
  | none => exact .inl (.inl rfl)
  | some s =>
    by_cases hs : s = .parameters
    · exact .inl (.inr (congrArg some hs))
    · exact .inr ⟨s, hs, Setting.ofKey?_eq_some_iff.mp hkey⟩

/-- The name of an entry that is passed over is none that a setting is read from. -/
theorem ne_key_of_unread {name : String}
    (h : Setting.ofKey? name = none ∨ Setting.ofKey? name = some .parameters) {s : Setting}
    (hs : s ≠ .parameters) : name ≠ s.key := by
  rintro rfl
  rw [Setting.ofKey?_eq_some_iff.mpr rfl] at h
  rcases h with h | h
  · cases h
  · exact hs (Option.some.inj h)

/-- **All texts are read:** each setting has what the text for it is read as. -/
theorem overridesOf_ok {overrides : List (Document × Document)}
    (h : overridesOf (ofTexts m) = .ok overrides) (s : Setting) :
    (Entries.get? (.text s.key) overrides).map Except.ok = (textFor? s m).map s.ofText := by
  induction m generalizing overrides with
  | nil =>
    cases h
    by_cases hs : s = .parameters <;> simp [textFor?, hs, Entries.get?]
  | cons e rest ih =>
    obtain ⟨name, text⟩ := e
    rw [ofTexts, List.map_cons, ← ofTexts] at h
    rcases unread_or_read name with hunread | ⟨t, ht, rfl⟩
    · rw [overridesOf_of_unread hunread] at h
      rw [textFor?_cons_of_ne (ne_key_of_unread hunread), ih h]
    · rw [overridesOf_of_read ht, bind_eq_ok_iff] at h
      obtain ⟨d, hd, h⟩ := h
      obtain ⟨os, hos, h⟩ := bind_eq_ok_iff.mp h
      cases h
      rw [Entries.get?]
      by_cases hst : s = t
      · subst hst
        rw [if_pos (Values.beq_text_iff.mpr rfl), textFor?_cons_self ht]
        exact congrArg some hd.symm
      · have hkey : t.key ≠ s.key := fun hkey => hst (Setting.key_injective hkey).symm
        rw [if_neg fun hbeq => hkey (Document.text.inj (Values.beq_text_iff.mp hbeq)),
          textFor?_cons_of_ne fun _ => hkey, ih hos]

/-- The names of the overrides are names of the texts, in their order. -/
theorem keys_overridesOf {overrides : List (Document × Document)}
    (h : overridesOf (ofTexts m) = .ok overrides) :
    (overrides.map Prod.fst).Sublist ((Entries.keys m).map Document.text) := by
  induction m generalizing overrides with
  | nil =>
    cases h
    exact .slnil
  | cons e rest ih =>
    obtain ⟨name, text⟩ := e
    rw [ofTexts, List.map_cons, ← ofTexts] at h
    rcases unread_or_read name with hunread | ⟨t, ht, rfl⟩
    · rw [overridesOf_of_unread hunread] at h
      exact (ih h).cons _
    · rw [overridesOf_of_read ht, bind_eq_ok_iff] at h
      obtain ⟨d, -, h⟩ := h
      obtain ⟨os, hos, h⟩ := bind_eq_ok_iff.mp h
      cases h
      exact (ih hos).cons_cons _

theorem isMapping_overridesOf (hm : (Entries.keys m).Nodup)
    {overrides : List (Document × Document)} (h : overridesOf (ofTexts m) = .ok overrides) :
    Values.IsMapping overrides := by
  have hnames : ((Entries.keys m).map Document.text).Pairwise fun k k' => (k == k') = false := by
    rw [List.pairwise_map]
    refine hm.imp fun {k k'} hne => ?_
    simpa [Document.beq_eq_sameKey, Document.sameKey] using hne
  exact List.pairwise_map.mp (hnames.sublist (keys_overridesOf h))

/-- **Not all texts are read:** one that is given for a setting cannot be. -/
theorem overridesOf_error (hm : (Entries.keys m).Nodup) {e : Failure}
    (h : overridesOf (ofTexts m) = .error e) :
    ∃ s text, textFor? s m = some text ∧ s.ofText text = .error e := by
  induction m with
  | nil => cases h
  | cons entry rest ih =>
    obtain ⟨name, text⟩ := entry
    obtain ⟨hname, hrest⟩ := List.nodup_cons.mp hm
    -- what is given in the rest is given in the whole, as the first name is another one
    have later (hlater : overridesOf (ofTexts rest) = .error e) :
        ∃ s text', textFor? s ((name, text) :: rest) = some text' ∧ s.ofText text' = .error e := by
      obtain ⟨s, text', hgiven, herror⟩ := ih hrest hlater
      refine ⟨s, text', ?_, herror⟩
      rw [textFor?_cons_of_ne ?_, hgiven]
      rintro hs rfl
      rw [textFor?_eq hs, Entries.get?_eq_none_of_not_mem hname] at hgiven
      cases hgiven
    rw [ofTexts, List.map_cons, ← ofTexts] at h
    rcases unread_or_read name with hunread | ⟨t, ht, rfl⟩
    · rw [overridesOf_of_unread hunread] at h
      exact later h
    · rw [overridesOf_of_read ht] at h
      cases hd : t.ofText text with
      | error e' =>
        rw [hd] at h
        cases h
        exact ⟨t, text, textFor?_cons_self ht text rest, hd⟩
      | ok d =>
        cases hos : overridesOf (ofTexts rest) with
        | error e' =>
          rw [hd, hos] at h
          cases h
          exact later hos
        | ok os =>
          rw [hd, hos] at h
          cases h

/-- Each value is read from the text that is given for its setting, or built in. -/
def ReadsAs (m : TextMap) (values : Values) : Prop :=
  ∀ s, match textFor? s m with
    | some text => s.ofText text = .ok (values s)
    | none => values s = Config.default.get s

theorem ReadsAs.of_some (h : ReadsAs m values) {s : Setting} {text : String}
    (ht : textFor? s m = some text) : s.ofText text = .ok (values s) := by
  have hs := h s
  rwa [ht] at hs

theorem ReadsAs.of_none (h : ReadsAs m values) {s : Setting} (ht : textFor? s m = none) :
    values s = Config.default.get s := by
  have hs := h s
  rwa [ht] at hs

/-- The values are settled by the texts for the settings. -/
theorem ReadsAs.unique (h : ReadsAs m values) (h' : ReadsAs m' values')
    (hsame : ∀ s, textFor? s m' = textFor? s m) : values' = values := by
  funext s
  cases ht : textFor? s m with
  | none => rw [h.of_none ht, h'.of_none ((hsame s).trans ht)]
  | some text =>
    exact Except.ok.inj ((h'.of_some ((hsame s).trans ht)).symm.trans (h.of_some ht))

/-- Without a file, the merged values are what the texts are read as. -/
theorem readsAs_merge (hm : (Entries.keys m).Nodup) {overrides : List (Document × Document)}
    (h : overridesOf (ofTexts m) = .ok overrides) : ReadsAs m (Values.merge [] overrides) := by
  intro s
  have hread := overridesOf_ok h s
  have hvalue := Values.merge_apply (show Values.IsMapping [] from .nil)
    (isMapping_overridesOf hm h) s
  rw [Values.present?] at hvalue
  cases ht : textFor? s m with
  | none =>
    rw [ht, Option.map_none, Option.map_eq_none_iff] at hread
    rw [hread] at hvalue
    exact hvalue
  | some text =>
    rw [ht, Option.map_some, Option.map_eq_some_iff] at hread
    obtain ⟨d, hd, hok⟩ := hread
    rw [hd, Option.bind_some, Values.nonNull?_of_ne (Setting.ofText_ne_null hok.symm)] at hvalue
    show s.ofText text = .ok (Values.merge [] overrides s)
    rw [hvalue]
    exact hok.symm

/-! ### Kinds and bounds -/

/-- Values of the right kinds. -/
structure OfKinds (values : Values) : Prop where
  texts : ∀ s ∈ Setting.texts, ∃ text, values s = .text text
  deadlines : ∀ s ∈ Setting.timeouts, ∃ n, values s = numberDocument n
  size : ∃ i, values .volumeSize = .int i
  flag : ∃ b, values .attachLimit = .bool b
  parameters : ∃ m : TextMap, values .parameters = .map (m.map fun e => (.text e.1, .text e.2))

/-- A value is built in, or its text was read as it. -/
theorem ReadsAs.reading (h : ReadsAs m values) (s : Setting) :
    values s = Config.default.get s ∨ ∃ text, Setting.Reading text s (.ok (values s)) := by
  cases ht : textFor? s m with
  | none => exact .inl (h.of_none ht)
  | some text => exact .inr ⟨text, h.of_some ht ▸ s.ofText_reading text⟩

/-- **What is read from texts is of the right kind.** -/
theorem ReadsAs.ofKinds (h : ReadsAs m values) : OfKinds values where
  texts s hs := by
    obtain hbuilt | ⟨text, hread⟩ := h.reading s
    · rw [hbuilt]
      simp only [Setting.texts, List.mem_cons, List.not_mem_nil, or_false] at hs
      obtain rfl | rfl | rfl | rfl | rfl | rfl | rfl | rfl | rfl | rfl | rfl := hs <;>
        exact ⟨_, rfl⟩
    · have hother : ∀ s ∈ Setting.texts, s ∉ Setting.timeouts := by decide
      generalize values s = d at hread ⊢
      cases hread with
      | itself => exact ⟨text, rfl⟩
      | seconds hs' => exact absurd hs' (hother s hs)
      | size => exact absurd hs (by decide)
      | flag => exact absurd hs (by decide)
  deadlines s hs := by
    obtain hbuilt | ⟨text, hread⟩ := h.reading s
    · rw [hbuilt]
      simp only [Setting.timeouts, List.mem_cons, List.not_mem_nil, or_false] at hs
      obtain rfl | rfl | rfl | rfl := hs <;> exact ⟨.int 10, rfl⟩
    · have hother : ∀ s ∈ Setting.timeouts, ¬ (s ∈ Setting.texts ∨ s = .parameters) := by decide
      generalize values s = d at hread ⊢
      cases hread with
      | itself hs' => exact absurd hs' (hother s hs)
      | @seconds _ x => exact ⟨.float x, rfl⟩
      | size => exact absurd hs (by decide)
      | flag => exact absurd hs (by decide)
  size := by
    obtain hbuilt | ⟨text, hread⟩ := h.reading .volumeSize
    · exact ⟨_, hbuilt⟩
    · generalize values .volumeSize = d at hread ⊢
      cases hread with
      | itself hs => exact absurd hs (by decide)
      | seconds hs => exact absurd hs (by decide)
      | @size i => exact ⟨i, rfl⟩
  flag := by
    obtain hbuilt | ⟨text, hread⟩ := h.reading .attachLimit
    · exact ⟨_, hbuilt⟩
    · generalize values .attachLimit = d at hread ⊢
      cases hread with
      | itself hs => exact absurd hs (by decide)
      | seconds hs => exact absurd hs (by decide)
      | @flag b => exact ⟨b, rfl⟩
  parameters := ⟨[], h.of_none (if_pos rfl)⟩

/-- A value is out of its bounds, with the fault that says so. -/
inductive OutOfBounds (values : Values) : ConfigFault → Prop
  | addressMissing (h : values .address = .text "") : OutOfBounds values .addressMissing
  | negative {s : Setting} {n : Number} (hs : s ∈ Setting.timeouts)
      (h : values s = numberDocument n) (hn : n.lt (.int 0) = true) :
      OutOfBounds values (.negative s)
  | sizeNotPositive {i : Int} (h : values .volumeSize = .int i) (hi : i ≤ 0) :
      OutOfBounds values .sizeNotPositive

/-- Every error of a sequence of checks is of one sort. -/
def Refuses {ε α : Type} (P : ε → Prop) (x : Except ε α) : Prop := ∀ e, x = .error e → P e

theorem Refuses.bind {ε α β : Type} {P : ε → Prop} {x : Except ε α} {f : α → Except ε β}
    (hx : Refuses P x) (hf : ∀ a, x = .ok a → Refuses P (f a)) : Refuses P (x >>= f) := by
  intro e h
  cases hxa : x with
  | error e' =>
    rw [hxa] at h
    cases h
    exact hx e hxa
  | ok a =>
    rw [hxa] at h
    exact hf a hxa e h

theorem OfKinds.checkText_refuses (h : OfKinds values) {s : Setting} (hs : s ∈ Setting.texts) :
    Refuses (OutOfBounds values) (checkText (fun s => some (values s)) s) := by
  obtain ⟨text, ht⟩ := h.texts s hs
  intro f hf
  simp [checkText, ht] at hf

theorem OfKinds.checkDeadline_refuses (h : OfKinds values) {s : Setting}
    (hs : s ∈ Setting.timeouts) :
    Refuses (OutOfBounds values) (checkDeadline (fun s => some (values s)) s) := by
  obtain ⟨n, hn⟩ := h.deadlines s hs
  have hcheck : checkDeadline (fun s => some (values s)) s =
      if n.lt (.int 0) then .error (.negative s) else .ok n := by
    cases n <;> simp only [checkDeadline, hn, numberDocument]
  intro f hf
  rw [hcheck] at hf
  split at hf
  · next hlt =>
    cases hf
    exact .negative hs hn hlt
  · cases hf

theorem OfKinds.checkSize_refuses (h : OfKinds values) :
    Refuses (OutOfBounds values) (checkSize fun s => some (values s)) := by
  obtain ⟨i, hi⟩ := h.size
  intro f hf
  simp only [checkSize, hi] at hf
  split at hf
  · next hle =>
    cases hf
    exact .sizeNotPositive hi hle
  · cases hf

theorem OfKinds.checkFlag_refuses (h : OfKinds values) :
    Refuses (OutOfBounds values) (checkFlag fun s => some (values s)) := by
  obtain ⟨b, hb⟩ := h.flag
  intro f hf
  simp [checkFlag, hb] at hf

theorem OfKinds.checkParameters_refuses (h : OfKinds values) :
    Refuses (OutOfBounds values) (checkParameters fun s => some (values s)) := by
  obtain ⟨m, hm⟩ := h.parameters
  intro f hf
  rw [checkParameters_eq_ok_iff.mpr hm] at hf
  cases hf

/-- **Values of the right kinds are only refused for their bounds.** -/
theorem ofValues_error_of_kinds (h : OfKinds values) :
    Refuses (OutOfBounds values) (ofValues fun s => some (values s)) := by
  have text {s : Setting} (hs : s ∈ Setting.texts) := h.checkText_refuses hs
  have deadline {s : Setting} (hs : s ∈ Setting.timeouts) := h.checkDeadline_refuses hs
  refine (text (by decide)).bind fun address haddress => ?_
  iterate 10 refine (text (by decide)).bind fun _ _ => ?_
  split
  · next hempty =>
    rintro f ⟨⟩
    rw [checkText_eq_ok_iff, hempty] at haddress
    exact .addressMissing haddress
  · iterate 4 refine (deadline (by decide)).bind fun _ _ => ?_
    refine h.checkSize_refuses.bind fun _ _ => ?_
    refine h.checkFlag_refuses.bind fun _ _ => ?_
    exact h.checkParameters_refuses.bind fun _ _ => nofun

/-! ### Texts without files -/

/-- Why textual settings are refused, and with what failure. -/
inductive Refusal (m : TextMap) : Failure → Prop
  /-- A text of a time limit, of the size or of the flag cannot be read. -/
  | unreadable {s : Setting} {text : String} {e : Failure} (hs : s ∈ Setting.converted)
      (ht : textFor? s m = some text) (he : s.ofText text = .error e) : Refusal m e
  /-- There is no address, or an empty one. -/
  | addressMissing (h : (textFor? .address m).getD "" = "") :
      Refusal m (.fault (.config .addressMissing))
  /-- A time limit is read as a number below zero. -/
  | negative {s : Setting} {text : String} {x : Binary64} (hs : s ∈ Setting.timeouts)
      (ht : textFor? s m = some text) (hx : s.ofText text = .ok (.float x))
      (hlt : (Number.float x).lt (.int 0) = true) : Refusal m (.fault (.config (.negative s)))
  /-- The size is read as an integer that is not positive. -/
  | sizeNotPositive {text : String} {i : Int} (ht : textFor? .volumeSize m = some text)
      (hi : Setting.volumeSize.ofText text = .ok (.int i)) (hle : i ≤ 0) :
      Refusal m (.fault (.config .sizeNotPositive))

theorem Refusal.isReadingFailure {e : Failure} (h : Refusal m e) : e.IsReadingFailure := by
  cases h with
  | @unreadable s text _ hs ht he =>
    have hread := s.ofText_reading text
    rw [he] at hread
    cases hread with
    | refused _ he => exact he
  | _ => exact ⟨rfl, by rintro f ⟨⟩; rfl⟩

theorem Refusal.congr {e : Failure} (h : Refusal m e)
    (hsame : ∀ s, textFor? s m' = textFor? s m) : Refusal m' e := by
  cases h with
  | unreadable hs ht he => exact .unreadable hs ((hsame _).trans ht) he
  | addressMissing h => exact .addressMissing (by rwa [hsame])
  | negative hs ht hx hlt => exact .negative hs ((hsame _).trans ht) hx hlt
  | sizeNotPositive ht hi hle => exact .sizeNotPositive ((hsame _).trans ht) hi hle

/-- What is built in is within its bounds, but for the address. -/
theorem refusal_of_outOfBounds (h : ReadsAs m values) {f : ConfigFault}
    (hf : OutOfBounds values f) : Refusal m (.fault (.config f)) := by
  cases hf with
  | addressMissing haddress =>
    cases ht : textFor? .address m with
    | none => exact .addressMissing (by rw [ht]; rfl)
    | some text =>
      have htext : Except.ok (Document.text text) = .ok (values .address) := h.of_some ht
      rw [haddress] at htext
      cases htext
      exact .addressMissing (by rw [ht]; rfl)
  | @negative s n hs hn hlt =>
    cases ht : textFor? s m with
    | none =>
      have hten : values s = .int 10 := by
        rw [h.of_none ht]
        simp only [Setting.timeouts, List.mem_cons, List.not_mem_nil, or_false] at hs
        obtain rfl | rfl | rfl | rfl := hs <;> rfl
      cases n with
      | int i =>
        cases hn.symm.trans hten
        exact absurd hlt (by decide +kernel)
      | float x => cases hn.symm.trans hten
    | some text =>
      have hread := s.ofText_reading text
      have hok := h.of_some ht
      rw [hok, hn] at hread
      cases n with
      | int i =>
        cases hread with
        | size => exact absurd hs (by decide)
      | float x => exact .negative hs ht (hok.trans (congrArg Except.ok hn)) hlt
  | @sizeNotPositive i hi hle =>
    cases ht : textFor? .volumeSize m with
    | none =>
      have hsize := h.of_none ht
      rw [hi] at hsize
      cases hsize
      exact absurd hle (by decide)
    | some text => exact .sizeNotPositive ht ((h.of_some ht).trans (congrArg Except.ok hi)) hle

/-- The configuration that texts make when there are no files. -/
def readTexts (m : TextMap) : Except Failure Config := do
  let overrides ← overridesOf (ofTexts m)
  (ofValues fun s => some (Values.merge [] overrides s)).mapError fun f => .fault (.config f)

theorem readTexts_ok (hm : (Entries.keys m).Nodup) (h : readTexts m = .ok c) :
    ReadsAs m c.get ∧ c.WithinBounds ∧ c.NoCallbacks := by
  obtain ⟨overrides, hread, hmade⟩ := bind_eq_ok_iff.mp h
  obtain ⟨hget, hb, hn⟩ := ofValues_eq_ok_iff.mp (mapError_eq_ok_iff.mp hmade)
  exact ⟨hget ▸ readsAs_merge hm hread, hb, hn⟩

theorem readTexts_error (hm : (Entries.keys m).Nodup) {e : Failure}
    (h : readTexts m = .error e) : Refusal m e := by
  rcases hread : overridesOf (ofTexts m) with e' | overrides <;> rw [readTexts, hread] at h
  · cases h
    obtain ⟨s, text, ht, he⟩ := overridesOf_error hm hread
    have hreading := s.ofText_reading text
    rw [he] at hreading
    cases hreading with
    | refused hs => exact .unreadable hs ht he
  · have hreads := readsAs_merge hm hread
    change Except.mapError _ (ofValues fun s => some (Values.merge [] overrides s)) = _ at h
    rcases hmade : ofValues fun s => some (Values.merge [] overrides s) with f | made <;>
      rw [hmade] at h <;> cases h
    exact refusal_of_outOfBounds hreads (ofValues_error_of_kinds hreads.ofKinds f hmade)

/-- Texts that make a configuration have nothing that they are refused for. -/
theorem not_refusal_of_ok (hm : (Entries.keys m).Nodup) (h : readTexts m = .ok c) (e : Failure) :
    ¬ Refusal m e := by
  obtain ⟨hreads, hb, -⟩ := readTexts_ok hm h
  have haccepted := hb.accepted
  intro hrefusal
  cases hrefusal with
  | unreadable _ ht he => cases he.symm.trans (hreads.of_some ht)
  | addressMissing haddress =>
    refine haccepted.address ?_
    cases ht : textFor? .address m with
    | none => exact hreads.of_none ht
    | some text =>
      rw [ht, Option.getD_some] at haddress
      have htext : Except.ok (Document.text text) = .ok (c.get .address) := hreads.of_some ht
      rw [haddress] at htext
      exact (Except.ok.inj htext).symm
  | @negative s text x hs ht hx hlt =>
    obtain ⟨n, hn, hnot⟩ := haccepted.deadlines s hs
    have hvalue := hx.symm.trans (hreads.of_some ht)
    rw [hn] at hvalue
    cases n with
    | int i => cases hvalue
    | float x' =>
      cases hvalue
      rw [hlt] at hnot
      cases hnot
  | sizeNotPositive ht hi hle =>
    obtain ⟨i, hsize, hpos⟩ := haccepted.size
    have hvalue := hi.symm.trans (hreads.of_some ht)
    rw [hsize] at hvalue
    cases hvalue
    omega

/-- A configuration without callbacks is settled by its values. -/
theorem eq_of_get {c' : Config} (hb : c.WithinBounds) (hn : c.NoCallbacks)
    (hb' : c'.WithinBounds) (hn' : c'.NoCallbacks) (h : c'.get = c.get) : c' = c := by
  have hmade := ofValues_eq_ok_iff.mpr ⟨rfl, hb, hn⟩
  have hmade' := ofValues_eq_ok_iff.mpr ⟨h, hb', hn'⟩
  exact Except.ok.inj (hmade'.symm.trans hmade)

/-- What texts make, if anything, is settled by the texts for the settings. -/
theorem toOption_readTexts (hm : (Entries.keys m).Nodup) (hm' : (Entries.keys m').Nodup)
    (hsame : ∀ s, textFor? s m' = textFor? s m) :
    (readTexts m').toOption = (readTexts m).toOption := by
  cases h : readTexts m with
  | error e =>
    cases h' : readTexts m' with
    | error e' => rfl
    | ok c' => exact absurd ((readTexts_error hm h).congr hsame) (not_refusal_of_ok hm' h' e)
  | ok c =>
    cases h' : readTexts m' with
    | error e' =>
      have hrefusal := (readTexts_error hm' h').congr fun s => (hsame s).symm
      exact absurd hrefusal (not_refusal_of_ok hm h e')
    | ok c' =>
      obtain ⟨hreads, hb, hn⟩ := readTexts_ok hm h
      obtain ⟨hreads', hb', hn'⟩ := readTexts_ok hm' h'
      rw [eq_of_get hb hn hb' hn' (hreads.unique hreads' hsame)]

/-- The name of the configuration file that is looked for. -/
def fileNamed (m : TextMap) (w : World) : String :=
  (Entries.get? "config" m).getD ((w.environment.lookup? fileVariable).getD defaultFile)

/-- The search of a path ended with nothing there. -/
def foundNothing {α : Type} : Except Fault α → Bool
  | .ok _ => false
  | .error f => meansAbsent f

/-- There is nothing at the path. -/
def isMissing (file : String) (w : World) : Bool := foundNothing (w.files.find (Path.clean file))

theorem loadFile_of_missing {named : Option Document} {file : String} {w : World}
    (hname : fileName named w = (.ok file, w)) (h : isMissing file w = true) :
    ∃ w', loadFile named w = (.ok [], w') := by
  rw [loadFile, bind_of_ok hname, bind_of_ok (state_apply w)]
  cases hfind : w.files.find (Path.clean file) <;> rw [isMissing, hfind, foundNothing] at h
  · simp only [h, if_true]
    exact ⟨_, rfl⟩
  · cases h

/-- Without a parameters file, the accepted values are what is built. -/
theorem built_of_no_parameters {file overrides : List (Document × Document)} (t : FileTree)
    (h : Values.merge file overrides .parametersFile = .text "") : built file overrides [] t =
      (ofValues fun s => some (Values.merge file overrides s)).mapError fun f =>
        .fault (.config f) := by
  rcases hmade : ofValues fun s => some (Values.merge file overrides s) with f | made
  · rw [built, hmade]
    rfl
  · have hnone : made.parametersFile = "" := by
      have hget := congrFun (ofValues_eq_ok_iff.mp hmade).1 .parametersFile
      rw [h] at hget
      exact Document.text.inj hget
    refine built_eq_ok_iff.mpr ⟨made, hmade, made, rfl, [], if_pos hnone, rfl⟩

/-- **Reading texts in one step,** where nothing is at the path of the configuration file and no
parameters file is named. -/
theorem ofUserdata_run {w : World} (hm : (Entries.keys m).Nodup)
    (hmissing : isMissing (fileNamed m w) w = true)
    (hfile : (textFor? .parametersFile m).getD "" = "") :
    ∃ w', ofUserdata (ofTexts m) w = (readTexts m, w') := by
  rcases hread : overridesOf (ofTexts m) with e | overrides
  · refine ⟨w, ?_⟩
    rw [readTexts, hread]
    exact bind_of_error (by rw [hread]; rfl)
  · obtain ⟨named, hname, hstart⟩ : ∃ named, fileName named w = (.ok (fileNamed m w), w) ∧
        ofUserdata (ofTexts m) w = build named overrides [] w := by
      refine ⟨_, ?_, bind_of_ok (by rw [hread]; rfl)⟩
      simp only [ofTexts, Entries.get?_map, fileNamed]
      cases Entries.get? "config" m <;> rfl
    obtain ⟨w₁, hload⟩ := loadFile_of_missing hname hmissing
    obtain ⟨w', -, hrun⟩ := build_run overrides [] hload
    refine ⟨w', ?_⟩
    have hreads := readsAs_merge hm hread
    have hnone : Values.merge [] overrides .parametersFile = .text "" := by
      cases ht : textFor? .parametersFile m with
      | none => exact hreads.of_none ht
      | some text =>
        rw [ht, Option.getD_some] at hfile
        have htext : Except.ok (Document.text text) = .ok _ := hreads.of_some ht
        rw [hfile] at htext
        exact (Except.ok.inj htext).symm
    rw [hstart, hrun, built_of_no_parameters w.files hnone, readTexts, hread]
    rfl

/-- The names that matter: `config` names the file, and each setting but the parameters may be given
as a text. -/
def hasSay (name : String) : Bool :=
  name == "config" || (Setting.ofKey? name).any (· != .parameters)

theorem hasSay_key {s : Setting} (hs : s ≠ .parameters) : hasSay s.key = true := by
  rw [hasSay, Setting.ofKey?_eq_some_iff.mpr rfl]
  simp [hs]

/-- The entries that matter settle what is under a name that matters. -/
theorem get?_of_hasSay (hm : (Entries.keys m).Nodup)
    (h : (m'.filter fun e => hasSay e.1).Perm (m.filter fun e => hasSay e.1)) {name : String}
    (hname : hasSay name = true) : Entries.get? name m' = Entries.get? name m := by
  have hnodup : (Entries.keys (m.filter fun e => hasSay e.1)).Nodup :=
    hm.sublist (List.filter_sublist.map Prod.fst)
  have hsame := Entries.get?_of_perm hnodup h name
  rwa [Entries.get?_filter hasSay, Entries.get?_filter hasSay, if_pos hname, if_pos hname] at hsame

/-- **Textual settings are of the right kinds.** Let the settings of a test run be a mapping of
texts to texts, with nothing at the path of the configuration file and no parameters file named.

* Making a configuration fails if and only if a text of a time limit, of the size or of the flag
  cannot be read, or there is no address, or a time limit is below zero, or the size is not
  positive.
* Every failure is one of these, ends a run before it starts, and never says that a value is of a
  wrong kind.
* Otherwise each setting that is given has the value that its text is read as, each other one is
  built in, and so are the parameters.
* Whether there is a configuration, and which, does not depend on the order of the texts, on the
  text under the name of the parameters, or on texts under unknown names but `config`. -/
theorem texts_are_of_the_right_kinds {w : World} (hm : (Entries.keys m).Nodup)
    (hmissing : isMissing (fileNamed m w) w = true)
    (hfile : (textFor? .parametersFile m).getD "" = "") :
    ((∃ e w', ofUserdata (ofTexts m) w = (.error e, w')) ↔ ∃ e, Refusal m e) ∧
    (∀ e w', ofUserdata (ofTexts m) w = (.error e, w') → Refusal m e ∧ e.IsReadingFailure) ∧
    (∀ c w', ofUserdata (ofTexts m) w = (.ok c, w') → ReadsAs m c.get ∧ c.NoCallbacks) ∧
    ∀ m', (Entries.keys m').Nodup →
      (m'.filter fun e => hasSay e.1).Perm (m.filter fun e => hasSay e.1) →
      (ofUserdata (ofTexts m') w).1.toOption = (ofUserdata (ofTexts m) w).1.toOption := by
  obtain ⟨w₁, hrun⟩ := ofUserdata_run hm hmissing hfile
  have herror {e : Failure} {w' : World} (h : ofUserdata (ofTexts m) w = (.error e, w')) :
      Refusal m e := readTexts_error hm (congrArg Prod.fst (hrun.symm.trans h))
  refine ⟨⟨fun ⟨e, w', h⟩ => ⟨e, herror h⟩, fun ⟨e, hrefusal⟩ => ?_⟩,
    fun e w' h => ⟨herror h, (herror h).isReadingFailure⟩, fun c w' h => ?_, fun m' hm' hsay => ?_⟩
  · cases hread : readTexts m with
    | error e' => exact ⟨e', w₁, by rw [hrun, hread]⟩
    | ok c => exact absurd hrefusal (not_refusal_of_ok hm hread e)
  · obtain ⟨hreads, -, hn⟩ := readTexts_ok hm (congrArg Prod.fst (hrun.symm.trans h))
    exact ⟨hreads, hn⟩
  · have hget {name : String} (hname : hasSay name = true) := get?_of_hasSay hm hsay hname
    have hsame (s : Setting) : textFor? s m' = textFor? s m := by
      by_cases hs : s = .parameters
      · rw [textFor?, textFor?, if_pos hs, if_pos hs]
      · rw [textFor?_eq hs, textFor?_eq hs, hget (hasSay_key hs)]
    have hname : fileNamed m' w = fileNamed m w := by rw [fileNamed, fileNamed, hget rfl]
    obtain ⟨w₂, hrun'⟩ := ofUserdata_run hm' (hname ▸ hmissing) (by rwa [hsame])
    rw [hrun, hrun']
    exact toOption_readTexts hm hm' hsame

/-- The size, a time limit and the flag are read, whatever the order, the text under the name of the
parameters and the names that are no setting's; one more time limit below zero is refused. -/
theorem texts_are_of_the_right_kinds_mixed :
    let m : TextMap :=
      [("address", "node"), ("test_volume_size", " 1_2 "),
        ("create_target_path_cmd_timeout", "1_0.5"), ("test_node_volume_attach_limit", " YES "),
        ("test_volume_parameters", "x"), ("colour", "blue")]
    let m' : TextMap :=
      [("shape", "round"), ("test_node_volume_attach_limit", " YES "),
        ("create_target_path_cmd_timeout", "1_0.5"), ("test_volume_size", " 1_2 "),
        ("address", "node")]
    let negative : TextMap := ("remove_target_path_cmd_timeout", "-1") :: m
    let w := World.initial .stubborn ⟨[], []⟩
    (Entries.keys m).Nodup ∧ isMissing (fileNamed m w) w = true ∧
      (textFor? .parametersFile m).getD "" = "" ∧
      (∃ c w', ofUserdata (ofTexts m) w = (.ok c, w') ∧
        c.get .volumeSize = .int 12 ∧ c.get .attachLimit = .bool true ∧
        c.get .parameters = .map [] ∧ (ofUserdata (ofTexts m') w).1.toOption = some c) ∧
      ∃ e w', ofUserdata (ofTexts negative) w = (.error e, w') := by
  intro m m' negative w
  have hm : (Entries.keys m).Nodup := by decide
  have hmissing : isMissing (fileNamed m w) w = true := by decide +kernel
  obtain ⟨-, -, hok, hsame⟩ := texts_are_of_the_right_kinds hm hmissing rfl
  have hmade : ((ofUserdata (ofTexts m) w).1.toOption.map fun _ => ()) = some () := by
    decide +kernel
  refine ⟨hm, hmissing, rfl, ?_, ?_⟩
  · obtain ⟨c, w', hrun, -⟩ := ok_of_toOption hmade
    obtain ⟨hreads, -⟩ := hok c w' hrun
    have hsize : Setting.volumeSize.ofText " 1_2 " = .ok (.int 12) := rfl
    have hflag : Setting.attachLimit.ofText " YES " = .ok (.bool true) := rfl
    have hsize' := hsize.symm.trans (hreads.of_some rfl)
    have hflag' := hflag.symm.trans (hreads.of_some rfl)
    have hsame' := (hsame m' (by decide) (by decide)).trans (congrArg (fun r => r.1.toOption) hrun)
    exact ⟨c, w', hrun, (Except.ok.inj hsize').symm, (Except.ok.inj hflag').symm,
      hreads.of_none rfl, hsame'⟩
  · have hn : (Entries.keys negative).Nodup := by decide
    have hmissing' : isMissing (fileNamed negative w) w = true := by decide +kernel
    obtain ⟨hiff, -⟩ := texts_are_of_the_right_kinds hn hmissing' rfl
    have htext : textFor? (.timeout .removal .target) negative = some "-1" := rfl
    have hrefusal : Refusal negative (.fault (.config (.negative (.timeout .removal .target)))) :=
      .negative (by decide) htext rfl (by decide +kernel)
    exact hiff.mpr ⟨_, hrefusal⟩

end Config

end PluginHarness
