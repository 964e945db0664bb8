import PluginHarness.Proofs.Loading

/-!
# Accepted values

A configuration is made from values of any kind, and only from accepted ones: texts where texts are
asked for, an address that is not empty, time limits that are not below zero, a positive size, a
flag, and parameters that are texts under texts. `Accepted` says so of the values alone. The checks
agree with it (`exists_ofValues_iff`), and what they make holds the values that it is made from.

Callbacks and the parameters file come later. A callback is no setting. The parameters file changes
one setting, and whatever its keys and values are, their texts are written. So the values of a
configuration that is built are accepted again.

A flag is not taken for an integer or for a number of seconds, though it counts as one when keys are
compared. Not-a-number is not below zero, and is accepted as a time limit.

## Main definitions

* `Values.given?`: what a source gives for a setting.
* `Config.Accepted`: values that are of the right kinds and within their bounds.
* `Config.WithinBounds`: the same of a configuration, where the kinds are settled.
* `Config.fileParameters`: what the parameters file of a configuration comes to.
* `Config.built`: what is built once the configuration file is loaded.

## Main results

* `Values.overlay_apply`: a source written over values.
* `Config.ofValues_eq_ok_iff`: the configuration that values make.
* `Config.withParametersFile_apply`: the parameters file in one step.
* `Config.build_run`: building in one step.
* `Config.builds_accepted_only`: a configuration is built from accepted values, and has such values.
-/

namespace PluginHarness

open Attempt

namespace Setting

theorem path_mem_texts (p : Place) : .path p ∈ texts := by cases p <;> decide

theorem command_mem_texts (a : Action) (p : Place) : .command a p ∈ texts := by
  cases a <;> cases p <;> decide

theorem timeout_mem_timeouts (a : Action) (p : Place) : .timeout a p ∈ timeouts := by
  cases a <;> cases p <;> decide

end Setting

/-! ### Sources -/

namespace Values

/-- What an entry gives for a setting: its value, where the key is the name of the setting and the
value is no null. -/
def offered? (s : Setting) (e : Document × Document) : Option Document :=
  match e.2 with
  | .null => none
  | value => if setting? e.1 = some s then some value else none

theorem offered?_of_ne {e : Document × Document} (h : e.2 ≠ .null) (s : Setting) :
    offered? s e = if setting? e.1 = some s then some e.2 else none := by
  obtain ⟨key, value⟩ := e
  cases value with
  | null => exact absurd rfl h
  | _ => rfl

/-- What a source gives for a setting: what the last entry gives that gives something. -/
def given? (s : Setting) (source : List (Document × Document)) : Option Document :=
  (source.filterMap (offered? s)).getLast?

theorem overlay_cons (values : Values) (e : Document × Document)
    (rest : List (Document × Document)) :
    overlay values (e :: rest) = overlay (fun s => (offered? s e).getD (values s)) rest := by
  obtain ⟨key, value⟩ := e
  rcases hkey : setting? key with _ | t
  · rw [overlay.eq_2 values key rest value hkey]
    congr 1
    funext s
    cases value <;> simp [offered?, hkey]
  by_cases hvalue : value = .null
  · subst hvalue
    rw [overlay.eq_3 values key rest t hkey]
    rfl
  · rw [overlay.eq_4 values key rest value t hkey hvalue]
    congr 1
    funext s
    rw [offered?_of_ne hvalue, hkey]
    by_cases hs : s = t
    · rw [if_pos hs, if_pos (congrArg some hs.symm), Option.getD_some]
    · rw [if_neg hs, if_neg fun h => hs (Option.some.inj h).symm, Option.getD_none]

/-- **A source written over values** has what it gives, and the values for the rest. -/
theorem overlay_apply (values : Values) (source : List (Document × Document)) (s : Setting) :
    overlay values source s = (given? s source).getD (values s) := by
  induction source generalizing values with
  | nil => rfl
  | cons e rest ih =>
    rw [overlay_cons, ih, given?, given?, List.filterMap_cons]
    cases offered? s e with
    | none => rfl
    | some value => simp [List.getLast?_cons]

end Values

namespace Config

/-! ### Sequences of checks -/

section Checks

variable {ε α β : Type}

/-- A sequence gives a value when its first part gives one and its second part gives it. -/
theorem bind_eq_ok_iff {x : Except ε α} {f : α → Except ε β} {b : β} :
    (x >>= f) = .ok b ↔ ∃ a, x = .ok a ∧ f a = .ok b := by
  cases x with
  | error e => exact ⟨nofun, fun ⟨_, h, _⟩ => nomatch h⟩
  | ok a => exact ⟨fun h => ⟨a, rfl, h⟩, fun ⟨_, h, hf⟩ => by cases h; exact hf⟩

/-- What is refused under a condition gives a value when the condition fails. -/
theorem ite_throw_eq_ok_iff {p : Prop} [Decidable p] {e : ε} {f : α → Except ε β}
    {y : Except ε β} {b : β} : (if p then throw e >>= f else y) = .ok b ↔ ¬ p ∧ y = .ok b := by
  by_cases hp : p
  · rw [if_pos hp]
    exact ⟨nofun, fun h => absurd hp h.1⟩
  · rw [if_neg hp]
    exact ⟨fun h => ⟨hp, h⟩, And.right⟩

theorem mapError_eq_ok_iff {ε' : Type} {x : Except ε α} {f : ε → ε'} {a : α} :
    x.mapError f = .ok a ↔ x = .ok a := by
  cases x <;> simp [Except.mapError]

end Checks

variable {values : Values} {s : Setting} {c : Config}

theorem checkText_eq_ok_iff {text : String} :
    checkText (fun s => some (values s)) s = .ok text ↔ values s = .text text := by
  cases h : values s <;> simp [checkText, h]

theorem checkDeadline_eq_ok_iff {n : Number} :
    checkDeadline (fun s => some (values s)) s = .ok n ↔
      values s = numberDocument n ∧ n.lt (.int 0) = false := by
  have notNegative (m : Number) :
      ((if m.lt (.int 0) then .error (.negative s) else .ok m : Except ConfigFault Number) =
        .ok n) ↔ m = n ∧ n.lt (.int 0) = false := by
    cases hlt : m.lt (.int 0) with
    | true => exact ⟨nofun, fun ⟨hm, hn⟩ => by rw [hm, hn] at hlt; cases hlt⟩
    | false => exact ⟨fun h => by cases h; exact ⟨rfl, hlt⟩, fun ⟨hm, _⟩ => by rw [hm]; rfl⟩
  cases h : values s with
  | int i =>
    simp only [checkDeadline, h, notNegative]
    cases n <;> simp [numberDocument]
  | float x =>
    simp only [checkDeadline, h, notNegative]
    cases n <;> simp [numberDocument]
  | _ => cases n <;> simp [checkDeadline, h, numberDocument]

theorem checkSize_eq_ok_iff {i : Int} :
    checkSize (fun s => some (values s)) = .ok i ↔ values .volumeSize = .int i ∧ 0 < i := by
  cases h : values .volumeSize with
  | int j =>
    by_cases hj : j ≤ 0
    · simp only [checkSize, h, if_pos hj]
      exact ⟨nofun, fun ⟨hi, hpos⟩ => by cases hi; omega⟩
    · simp only [checkSize, h, if_neg hj, Except.ok.injEq, Document.int.injEq]
      exact ⟨fun hi => ⟨hi, by omega⟩, And.left⟩
  | _ => simp [checkSize, h]

theorem checkFlag_eq_ok_iff {b : Bool} :
    checkFlag (fun s => some (values s)) = .ok b ↔ values .attachLimit = .bool b := by
  cases h : values .attachLimit <;> simp [checkFlag, h]

theorem checkEntries_eq_ok_iff {entries : List (Document × Document)} {m : TextMap} :
    checkEntries entries = .ok m ↔ entries = m.map fun e => (.text e.1, .text e.2) := by
  induction entries generalizing m with
  | nil => cases m <;> simp [checkEntries]
  | cons e rest ih =>
    obtain ⟨k, v⟩ := e
    cases k <;> cases v <;> cases m <;>
      simp [checkEntries, bind_eq_ok_iff, ih, pure, Except.pure, Prod.ext_iff, and_comm, and_assoc]

theorem checkParameters_eq_ok_iff {m : TextMap} :
    checkParameters (fun s => some (values s)) = .ok m ↔
      values .parameters = .map (m.map fun e => (.text e.1, .text e.2)) := by
  cases h : values .parameters <;> simp [checkParameters, h, checkEntries_eq_ok_iff]

/-! ### All values together -/

/-- Values of the right kinds and within their bounds. -/
structure Accepted (values : Values) : Prop where
  texts : ∀ s ∈ Setting.texts, ∃ text, values s = .text text
  address : values .address ≠ .text ""
  deadlines : ∀ s ∈ Setting.timeouts, ∃ n, values s = numberDocument n ∧ n.lt (.int 0) = false
  size : ∃ i, values .volumeSize = .int i ∧ 0 < i
  flag : ∃ b, values .attachLimit = .bool b
  parameters : ∃ entries, values .parameters = .map entries ∧
    ∀ e ∈ entries, ∃ key value, e = (.text key, .text value)

/-- A configuration whose values are within their bounds; the kinds are settled, but a time limit
may be missing. -/
structure WithinBounds (c : Config) : Prop where
  address : c.address ≠ ""
  deadlines : ∀ a p, ∃ n, ((c.place p).step a).deadline = some n ∧ n.lt (.int 0) = false
  size : 0 < c.volumeSize

theorem WithinBounds.accepted (h : c.WithinBounds) : Accepted c.get where
  texts s hs := by
    simp only [Setting.texts, List.mem_cons, List.not_mem_nil, or_false] at hs
    obtain rfl | rfl | rfl | rfl | rfl | rfl | rfl | rfl | rfl | rfl | rfl := hs <;> exact ⟨_, rfl⟩
  address hc := h.address (by simpa [get] using hc)
  deadlines s hs := by
    have timeout (a : Action) (p : Place) :
        ∃ n, c.get (.timeout a p) = numberDocument n ∧ n.lt (.int 0) = false := by
      obtain ⟨n, hn, hlt⟩ := h.deadlines a p
      exact ⟨n, by simp [get, hn], hlt⟩
    simp only [Setting.timeouts, List.mem_cons, List.not_mem_nil, or_false] at hs
    obtain rfl | rfl | rfl | rfl := hs <;> exact timeout _ _
  size := ⟨c.volumeSize, rfl, h.size⟩
  flag := ⟨c.attachLimit, rfl⟩
  parameters := by
    refine ⟨_, rfl, fun e he => ?_⟩
    obtain ⟨⟨k, v⟩, -, rfl⟩ := List.mem_map.mp he
    exact ⟨k, v, rfl⟩

/-- No action on a place has a callback. -/
def NoCallbacks (c : Config) : Prop := ∀ a p, ((c.place p).step a).callback = none

/-- **The configuration that values make** has these values, and no callbacks. -/
theorem ofValues_eq_ok_iff :
    ofValues (fun s => some (values s)) = .ok c ↔
      c.get = values ∧ c.WithinBounds ∧ c.NoCallbacks := by
  simp only [ofValues, bind_eq_ok_iff, checkText_eq_ok_iff, ite_throw_eq_ok_iff,
    checkDeadline_eq_ok_iff, checkSize_eq_ok_iff, checkFlag_eq_ok_iff, checkParameters_eq_ok_iff]
  constructor
  · rintro ⟨address, ha, controller, hc, target, ht, staging, hs, secretsFile, hsf, file, hf, junit,
      hj, line₁, hl₁, line₂, hl₂, line₃, hl₃, line₄, hl₄, haddress, n₁, ⟨hn₁, h₁⟩, n₂, ⟨hn₂, h₂⟩,
      n₃, ⟨hn₃, h₃⟩, n₄, ⟨hn₄, h₄⟩, size, ⟨hsize, hpos⟩, flag, hflag, parameters, hparameters,
      hmade⟩
    cases hmade
    refine ⟨funext fun s => ?_, ⟨haddress, fun a p => ?_, hpos⟩, fun a p => ?_⟩
    · symm
      cases s with
      | path p => cases p <;> assumption
      | command a p => cases a <;> cases p <;> assumption
      | timeout a p => cases a <;> cases p <;> assumption
      | _ => assumption
    · cases a <;> cases p <;> exact ⟨_, rfl, by assumption⟩
    · cases a <;> cases p <;> rfl
  · rintro ⟨rfl, hb, hn⟩
    -- with the deadlines and callbacks written out, the configuration is what is made of its values
    obtain ⟨n₁, h₁, hlt₁⟩ := hb.deadlines .creation .target
    obtain ⟨n₂, h₂, hlt₂⟩ := hb.deadlines .creation .staging
    obtain ⟨n₃, h₃, hlt₃⟩ := hb.deadlines .removal .target
    obtain ⟨n₄, h₄, hlt₄⟩ := hb.deadlines .removal .staging
    obtain ⟨address, controller, secretsFile, file, junit, size, parameters, flag,
      ⟨target, ⟨line₁, deadline₁, callback₁⟩, ⟨line₃, deadline₃, callback₃⟩⟩,
      ⟨staging, ⟨line₂, deadline₂, callback₂⟩, ⟨line₄, deadline₄, callback₄⟩⟩⟩ := c
    cases h₁; cases h₂; cases h₃; cases h₄
    cases hn .creation .target; cases hn .creation .staging
    cases hn .removal .target; cases hn .removal .staging
    exact ⟨_, rfl, _, rfl, _, rfl, _, rfl, _, rfl, _, rfl, _, rfl, _, rfl, _, rfl, _, rfl, _, rfl,
      hb.address, _, ⟨rfl, hlt₁⟩, _, ⟨rfl, hlt₂⟩, _, ⟨rfl, hlt₃⟩, _, ⟨rfl, hlt₄⟩, _, ⟨rfl, hb.size⟩,
      _, rfl, _, rfl, rfl⟩

/-- The step with these values. -/
def stepHolding (values : Values) (a : Action) (p : Place) : StepSettings :=
  ⟨textOf (values (.command a p)), (values (.timeout a p)).number?, none⟩

/-- The place with these values. -/
def placeHolding (values : Values) (p : Place) : PlaceSettings :=
  ⟨textOf (values (.path p)), stepHolding values .creation p, stepHolding values .removal p⟩

/-- The configuration with these values, where they are of the right kinds. -/
def holding (values : Values) : Config where
  address := textOf (values .address)
  controllerAddress := textOf (values .controllerAddress)
  secretsFile := textOf (values .secretsFile)
  parametersFile := textOf (values .parametersFile)
  junitDirectory := textOf (values .junitDirectory)
  volumeSize := integerOf (values .volumeSize)
  parameters := textMapOf (values .parameters)
  attachLimit := (values .attachLimit).truthy
  target := placeHolding values .target
  staging := placeHolding values .staging

theorem place_holding (values : Values) (p : Place) :
    (holding values).place p = placeHolding values p := by cases p <;> rfl

theorem step_holding (values : Values) (a : Action) (p : Place) :
    ((holding values).place p).step a = stepHolding values a p := by
  cases a <;> rw [place_holding] <;> rfl

theorem number?_numberDocument (n : Number) : (numberDocument n).number? = some n := by
  cases n <;> rfl

/-- The texts of a mapping of texts. -/
theorem textMapOf_texts {entries : List (Document × Document)}
    (h : ∀ e ∈ entries, ∃ key value, e = (.text key, .text value)) :
    (textMapOf (.map entries)).map (fun e => (.text e.1, .text e.2)) = entries := by
  induction entries with
  | nil => rfl
  | cons e rest ih =>
    obtain ⟨key, value, rfl⟩ := h e (.head _)
    exact congrArg ((.text key, .text value) :: ·) (ih fun e he => h e (.tail _ he))

/-- The configuration has the values that it is to hold. -/
theorem get_holding (h : Accepted values) : (holding values).get = values := by
  have text {s : Setting} (hs : s ∈ Setting.texts) : .text (textOf (values s)) = values s := by
    obtain ⟨t, ht⟩ := h.texts s hs
    rw [ht]
    rfl
  funext s
  cases s with
  | path p => rw [get, place_holding]; exact text (Setting.path_mem_texts p)
  | command a p => rw [get, step_holding]; exact text (Setting.command_mem_texts a p)
  | timeout a p =>
    obtain ⟨n, hn, -⟩ := h.deadlines _ (Setting.timeout_mem_timeouts a p)
    rw [get, step_holding, stepHolding, hn, number?_numberDocument]
    rfl
  | volumeSize =>
    obtain ⟨i, hi, -⟩ := h.size
    rw [get, holding, hi]
    rfl
  | parameters =>
    obtain ⟨entries, he, htexts⟩ := h.parameters
    rw [get, holding, he, textMapOf_texts htexts]
  | attachLimit =>
    obtain ⟨b, hb⟩ := h.flag
    rw [get, holding, hb]
    rfl
  | _ => exact text (by decide)

/-- **The checks accept what is accepted**, and nothing else. -/
theorem exists_ofValues_iff : (∃ c, ofValues (fun s => some (values s)) = .ok c) ↔
    Accepted values := by
  constructor
  · rintro ⟨c, hc⟩
    obtain ⟨rfl, hb, -⟩ := ofValues_eq_ok_iff.mp hc
    exact hb.accepted
  · intro h
    have hget := get_holding h
    refine ⟨holding values, ofValues_eq_ok_iff.mpr ⟨hget, ⟨fun ha => h.address ?_, fun a p => ?_, ?_⟩,
      fun a p => by rw [step_holding]; rfl⟩⟩
    · rw [← hget, get, ha]
    · obtain ⟨n, hn, hlt⟩ := h.deadlines _ (Setting.timeout_mem_timeouts a p)
      exact ⟨n, by rw [step_holding, stepHolding, hn, number?_numberDocument], hlt⟩
    · obtain ⟨i, hi, hpos⟩ := h.size
      simpa [holding, integerOf, hi, Document.number?] using hpos

/-! ### Callbacks -/

theorem deadline_setCallback (a a' : Action) (p p' : Place) (callback : Option Callback)
    (c : Config) : (((c.setCallback a p callback).place p').step a').deadline =
      ((c.place p').step a').deadline := by
  cases a <;> cases a' <;> cases p <;> cases p' <;> rfl

/-- A callback is no setting. -/
theorem get_setCallback (a : Action) (p : Place) (callback : Option Callback) (c : Config) :
    (c.setCallback a p callback).get = c.get := by
  funext s
  cases s with
  | timeout a' p' => rw [get, get, deadline_setCallback]
  | path p' => cases a <;> cases p <;> cases p' <;> rfl
  | command a' p' => cases a <;> cases a' <;> cases p <;> cases p' <;> rfl
  | _ => cases p <;> rfl

theorem WithinBounds.setCallback (h : c.WithinBounds) (a : Action) (p : Place)
    (callback : Option Callback) : (c.setCallback a p callback).WithinBounds where
  address := by cases p <;> exact h.address
  deadlines a' p' := by
    rw [deadline_setCallback]
    exact h.deadlines a' p'
  size := by cases p <;> exact h.size

/-- A name that is no setting's is a callback's, or no field's at all. -/
theorem field?_of_not_setting {name : String} (h : Setting.ofKey? name = none) :
    field? name = none ∨ ∃ a p, field? name = some (.callback a p) := by
  rw [field?, h]
  cases hfind : callbacks.find? fun c => callbackName c.1 c.2 == name with
  | none => exact .inl rfl
  | some action => exact .inr ⟨action.1, action.2, rfl⟩

/-- What no callback changes is not changed by the fields that are given beside the settings. -/
theorem withHooks_keeps {P : Config → Prop}
    (hP : ∀ c a p callback, P c → P (c.setCallback a p callback))
    {hooks : List (String × FieldValue)} {c c' : Config} (h : c.withHooks hooks = .ok c')
    (hc : P c) : P c' := by
  unfold withHooks assign at h
  split at h
  · cases h
  next hsettings =>
  split at h
  · cases h
  cases h
  refine List.foldlRecOn hooks _ hc fun c hc hook hhook => ?_
  have hnone : Setting.ofKey? hook.1 = none := by
    simpa using List.find?_eq_none.mp hsettings hook hhook
  rcases field?_of_not_setting hnone with hfield | ⟨a, p, hfield⟩ <;> rw [hfield]
  · exact hc
  · cases hook.2 <;> exact hP c a p _ hc

/-! ### The parameters file -/

/-- What the parameters file of a configuration comes to; without one there are no entries. -/
def fileParameters (c : Config) (t : FileTree) : Except Failure TextMap :=
  if c.parametersFile = "" then .ok []
  else loaded (.parametersUnreadable c.parametersFile) (.parametersMalformed c.parametersFile)
    (parametersOf c.parametersFile) (readParameters t c.parametersFile)

/-- The configuration with entries over its parameters. -/
def withParameters (c : Config) (new : TextMap) : Config :=
  { c with parameters := Entries.insertAll c.parameters new }

/-- **The parameters file in one step.** Nothing but the files is looked at, and nothing is
changed. -/
theorem withParametersFile_apply (c : Config) (w : World) :
    c.withParametersFile w = ((c.fileParameters w.files).map c.withParameters, w) := by
  by_cases h : c.parametersFile = ""
  · rw [withParametersFile, if_pos h, fileParameters, if_pos h]
    rfl
  · rw [withParametersFile, if_neg h, fileParameters, if_neg h, bind_apply, loadParameters_apply]
    cases loaded _ _ (parametersOf c.parametersFile) (readParameters w.files c.parametersFile) <;>
      rfl

theorem get_withParameters {s : Setting} (hs : s ≠ .parameters) (c : Config) (new : TextMap) :
    (c.withParameters new).get s = c.get s := by
  cases s with
  | parameters => exact absurd rfl hs
  | path p => cases p <;> rfl
  | command a p => cases a <;> cases p <;> rfl
  | timeout a p => cases a <;> cases p <;> rfl
  | _ => rfl

theorem WithinBounds.withParameters (h : c.WithinBounds) (new : TextMap) :
    (c.withParameters new).WithinBounds :=
  ⟨h.address, fun a p => h.deadlines a p, h.size⟩

/-! ### Building -/

/-- Merging gives the merged values; what it does besides is reporting. -/
theorem merge_run (file overrides : List (Document × Document)) (w : World) :
    ∃ w', merge file overrides w = (.ok (Values.merge file overrides), w') := by
  obtain ⟨w₁, h₁⟩ := World.reportKeys_run "config" .warning "Ignoring unknown configuration key "
    (Values.unknownKeys file) w
  obtain ⟨w₂, h₂⟩ := World.reportKeys_run "config" .warning "Ignoring unknown configuration key "
    (Values.unknownKeys overrides) w₁
  exact ⟨w₂, (bind_of_ok h₁).trans (bind_of_ok h₂)⟩

/-- What is built of the entries of a configuration file, by the files that are there. -/
def built (file overrides : List (Document × Document)) (hooks : List (String × FieldValue))
    (t : FileTree) : Except Failure Config := do
  let made ← (ofValues fun s => some (Values.merge file overrides s)).mapError fun f =>
    .fault (.config f)
  let draft ← made.withHooks hooks
  let new ← draft.fileParameters t
  return draft.withParameters new

variable {named : Option Document} {file overrides : List (Document × Document)}
  {hooks : List (String × FieldValue)} {w w' : World}

/-- **Building in one step**, once the configuration file is loaded. -/
theorem build_run (overrides : List (Document × Document)) (hooks : List (String × FieldValue))
    {w₁ : World} (hload : loadFile named w = (.ok file, w₁)) : ∃ w', w'.files = w.files ∧
      build named overrides hooks w = (built file overrides hooks w.files, w') := by
  obtain ⟨w₂, hmerge⟩ := merge_run file overrides w₁
  have hfiles₁ : w₁.files = w.files := by
    have hconf := loadFile_respects (T := []) named w
    rw [hload] at hconf
    exact hconf.files_eq List.not_mem_nil
  have hfiles₂ : w₂.files = w.files := by
    have hconf := merge_respects (T := []) file overrides w₁
    rw [hmerge] at hconf
    exact (hconf.files_eq List.not_mem_nil).trans hfiles₁
  refine ⟨w₂, hfiles₂, ?_⟩
  rw [build, bind_of_ok hload, bind_of_ok hmerge, built]
  rcases ofValues fun s => some (Values.merge file overrides s) with f | made
  · rfl
  rcases hmade : made.withHooks hooks with e | draft
  · have hhooks : Attempt.ofExcept (made.withHooks hooks) w₂ = (.error e, w₂) := by rw [hmade]; rfl
    refine (bind_of_error hhooks).trans ?_
    simp only [Except.mapError, bind, Except.bind, hmade]
  · have hhooks : Attempt.ofExcept (made.withHooks hooks) w₂ = (.ok draft, w₂) := by
      rw [hmade]; rfl
    refine (bind_of_ok hhooks).trans ?_
    rw [withParametersFile_apply, hfiles₂]
    rcases hnew : draft.fileParameters w.files with e | new <;>
      simp only [Except.mapError, bind, Except.bind, hmade, hnew, Except.map, pure, Except.pure]

theorem built_eq_ok_iff {t : FileTree} : built file overrides hooks t = .ok c ↔
    ∃ made, ofValues (fun s => some (Values.merge file overrides s)) = .ok made ∧
      ∃ draft, made.withHooks hooks = .ok draft ∧
        ∃ new, draft.fileParameters t = .ok new ∧ draft.withParameters new = c := by
  simp only [built, bind_eq_ok_iff, mapError_eq_ok_iff, pure, Except.pure, Except.ok.injEq]

/-- A configuration that is built comes from a configuration file that is loaded. -/
theorem built_of_build (h : build named overrides hooks w = (.ok c, w')) :
    ∃ file w₁, loadFile named w = (.ok file, w₁) ∧ built file overrides hooks w.files = .ok c ∧
      w'.files = w.files := by
  obtain ⟨file, w₁, hload, -⟩ := ok_of_bind h
  obtain ⟨w₂, hfiles, hrun⟩ := build_run overrides hooks hload
  obtain ⟨hbuilt, rfl⟩ := Prod.mk.inj (h.symm.trans hrun)
  exact ⟨file, w₁, hload, hbuilt.symm, hfiles⟩

/-- **Configurations are built of accepted values, and have accepted values.** The checks accept the
merged values of any entries exactly when these are of the right kinds and within their bounds.
Where they are not, nothing is built. What is built, with any callbacks and any parameters file, has
the merged values but for the parameters: these are the merged ones with the texts of the file
written over them. Its own values are accepted again. -/
theorem builds_accepted_only :
    (∀ (file overrides : List (Document × Document)) (w : World), ∃ w',
      merge file overrides w = (.ok (Values.merge file overrides), w') ∧
        ((∃ c, ofValues (fun s => some (Values.merge file overrides s)) = .ok c) ↔
          Accepted (Values.merge file overrides))) ∧
    (∀ (named : Option Document) (file overrides : List (Document × Document))
      (hooks : List (String × FieldValue)) (w w₁ : World),
      loadFile named w = (.ok file, w₁) → ¬ Accepted (Values.merge file overrides) →
      ∃ f w', build named overrides hooks w = (.error (.fault (.config f)), w')) ∧
    ∀ (named : Option Document) (overrides : List (Document × Document))
      (hooks : List (String × FieldValue)) (w w' : World) (c : Config),
      build named overrides hooks w = (.ok c, w') →
      Accepted c.get ∧ ∃ file w₁ own new, loadFile named w = (.ok file, w₁) ∧
        Accepted (Values.merge file overrides) ∧
        (∀ s, s ≠ .parameters → c.get s = Values.merge file overrides s) ∧
        Values.merge file overrides .parameters =
          .map (own.map fun e => (.text e.1, .text e.2)) ∧
        c.fileParameters w.files = .ok new ∧ c.parameters = Entries.insertAll own new := by
  refine ⟨fun file overrides w => ?_, fun named file overrides hooks w w₁ hload hvalues => ?_,
    fun named overrides hooks w w' c h => ?_⟩
  · obtain ⟨w', hmerge⟩ := merge_run file overrides w
    exact ⟨w', hmerge, exists_ofValues_iff⟩
  · obtain ⟨w', -, hrun⟩ := build_run overrides hooks hload
    rcases hmade : ofValues fun s => some (Values.merge file overrides s) with f | made
    · refine ⟨f, w', hrun.trans ?_⟩
      rw [built, hmade]
      rfl
    · exact absurd (exists_ofValues_iff.mp ⟨made, hmade⟩) hvalues
  · obtain ⟨file, w₁, hload, hbuilt, -⟩ := built_of_build h
    obtain ⟨made, hmade, draft, hhooks, new, hnew, rfl⟩ := built_eq_ok_iff.mp hbuilt
    obtain ⟨hget, hb, -⟩ := ofValues_eq_ok_iff.mp hmade
    obtain ⟨hget', hb'⟩ : draft.get = Values.merge file overrides ∧ draft.WithinBounds :=
      withHooks_keeps (P := fun c => c.get = Values.merge file overrides ∧ c.WithinBounds)
        (fun c a p callback hc => ⟨(get_setCallback a p callback c).trans hc.1,
          hc.2.setCallback a p callback⟩) hhooks ⟨hget, hb⟩
    exact ⟨(hb'.withParameters new).accepted, file, w₁, draft.parameters, new, hload,
      hget ▸ hb.accepted, fun s hs => by rw [get_withParameters hs, hget'],
      by rw [← hget']; rfl, hnew, rfl⟩

/-- A parameters file with the entry `1: true` goes over a parameter that is there, beside a callback
and time limits that are zero and not-a-number. A flag is no size. -/
theorem builds_accepted_only_coerced :
    let w := World.initial .stubborn (.single [49, 58, 32, 116, 114, 117, 101])
    let overrides : List (Document × Document) :=
      [(.text "address", .text "node"), (.text "test_volume_parameters_file", .text "s"),
        (.text "test_volume_parameters", .map [(.text "1", .text "one"), (.text "k", .text "v")]),
        (.text "create_target_path_cmd_timeout", .int 0),
        (.text "remove_target_path_cmd_timeout", .float .nan)]
    let hooks : List (String × FieldValue) := [("create_target_dir", .callback ⟨0, none, "f"⟩)]
    let wrong : List (Document × Document) := [(.text "test_volume_size", .bool true)]
    (∃ c w', build none overrides hooks w = (.ok c, w') ∧ Accepted c.get ∧
      c.parameters = [("1", "true"), ("k", "v")]) ∧
    ∃ f w', build none wrong hooks w = (.error (.fault (.config f)), w') := by
  intro w overrides hooks wrong
  have hlength : (loadFile none w).1.toOption.map List.length = some 0 := by decide +kernel
  have hparameters : (build none overrides hooks w).1.toOption.map Config.parameters =
      some [("1", "true"), ("k", "v")] := by decide +kernel
  refine ⟨?_, ?_⟩
  · rcases hbuild : build none overrides hooks w with ⟨e | c, w'⟩ <;> rw [hbuild] at hparameters
    · cases hparameters
    · exact ⟨c, w', rfl, (builds_accepted_only.2.2 none overrides hooks w w' c hbuild).1,
        Option.some.inj hparameters⟩
  · rcases hload : loadFile none w with ⟨e | file, w₁⟩ <;> rw [hload] at hlength
    · cases hlength
    obtain rfl : file = [] := List.eq_nil_of_length_eq_zero (Option.some.inj hlength)
    refine builds_accepted_only.2.1 none [] wrong hooks w w₁ hload fun h => ?_
    obtain ⟨i, hi, -⟩ := h.size
    cases hi

end Config

end PluginHarness
