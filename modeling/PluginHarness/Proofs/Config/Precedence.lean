import PluginHarness.Proofs.Config

/-!
# Which source goes first

The value of a setting comes from the overrides if they give one, else from the configuration file,
else it is built in. Only a null gives way to the next source. A text that is empty, a zero and a
flag that is not set are values like any other.

The sources are gone through entry by entry, and each entry writes over what was there. A mapping
has no key twice, so of its entries at most one counts for a setting, and nothing is written twice.
`present?` says what a mapping has under a name without going through the entries. It does not see
the entries of unknown keys, and it does not see the order.

## Main definitions

* `Values.IsMapping`: entries of which no two have one key.
* `Values.present?`: what a mapping has under the name of a setting.
* `Values.known`: the entries under the names of settings.
* `Values.entries`: the values of all settings, by name.

## Main results

* `Values.given?_of_isMapping`: what a mapping gives for a setting is what it has under its name.
* `Values.merge_apply`: the merged value of a setting.
* `Values.given?_of_known`: order and unknown keys do not matter.
* `Values.overrides_before_file_before_default`: all of this of the merged values.
-/

namespace PluginHarness

namespace Values

variable {source source' file overrides : List (Document × Document)}

/-! ### Mappings -/

/-- No two entries have one key. -/
def IsMapping (source : List (Document × Document)) : Prop :=
  source.Pairwise fun e e' => (e.1 == e'.1) = false

theorem beq_text_iff {key : Document} {t : String} : (key == .text t) = true ↔ key = .text t := by
  cases key <;> simp [Document.beq_eq_sameKey, Document.sameKey, Document.number?]

/-- A key names a setting when it is the text of its name. -/
theorem setting?_eq_some_iff {key : Document} {s : Setting} :
    setting? key = some s ↔ key = .text s.key := by
  cases key with
  | text name =>
    simp only [setting?, Document.asText?, Option.bind_some, Setting.ofKey?_eq_some_iff,
      Document.text.injEq]
    exact eq_comm
  | _ => simp [setting?, Document.asText?]

/-- A value, where a null counts as none. -/
def nonNull? : Document → Option Document
  | .null => none
  | value => some value

theorem nonNull?_of_ne {value : Document} (h : value ≠ .null) : nonNull? value = some value := by
  cases value with
  | null => exact absurd rfl h
  | _ => rfl

/-- What a mapping has under the name of a setting. -/
def present? (s : Setting) (source : List (Document × Document)) : Option Document :=
  (Entries.get? (.text s.key) source).bind nonNull?

/-- An entry gives its value for a setting, where its key is the name. -/
theorem offered?_eq (s : Setting) (e : Document × Document) :
    offered? s e = if e.1 == .text s.key then nonNull? e.2 else none := by
  by_cases hvalue : e.2 = .null
  · simp [offered?, nonNull?, hvalue]
  · rw [offered?_of_ne hvalue, nonNull?_of_ne hvalue]
    exact if_congr (setting?_eq_some_iff.trans beq_text_iff.symm) rfl rfl

/-- Of the entries of a mapping at most one gives something for a setting. -/
theorem filterMap_offered? (h : IsMapping source) (s : Setting) :
    source.filterMap (offered? s) = (present? s source).toList := by
  induction source with
  | nil => rfl
  | cons e rest ih =>
    obtain ⟨hhead, hrest⟩ := List.pairwise_cons.mp h
    rw [List.filterMap_cons, offered?_eq, present?, Entries.get?]
    by_cases hkey : (e.1 == .text s.key) = true
    · -- the other entries have other keys
      have hnone : rest.filterMap (offered? s) = [] := by
        rw [List.filterMap_eq_nil_iff]
        intro e' he'
        have hne : (e'.1 == .text s.key) = false := by
          have hdiffers := hhead e' he'
          rw [beq_text_iff.mp hkey] at hdiffers
          cases htext : e'.1 == .text s.key with
          | false => rfl
          | true =>
            rw [beq_text_iff.mp htext, beq_text_iff.mpr rfl] at hdiffers
            cases hdiffers
        rw [offered?_eq, hne]
        rfl
      rw [if_pos hkey, if_pos hkey, hnone, Option.bind_some]
      cases nonNull? e.2 <;> rfl
    · rw [if_neg hkey, if_neg hkey]
      exact ih hrest

/-- **What a mapping gives for a setting** is what it has under the name. -/
theorem given?_of_isMapping (h : IsMapping source) (s : Setting) :
    given? s source = present? s source := by
  rw [given?, filterMap_offered? h]
  cases present? s source <;> rfl

/-- The merged value of a setting: from the overrides, else from the file, else built in. -/
theorem merge_apply (hfile : IsMapping file) (hoverrides : IsMapping overrides) (s : Setting) :
    merge file overrides s =
      ((present? s overrides).or (present? s file)).getD (Config.default.get s) := by
  rw [merge, overlay_apply, overlay_apply, given?_of_isMapping hoverrides,
    given?_of_isMapping hfile]
  cases present? s overrides <;> rfl

/-! ### What does not matter -/

/-- The entries under the names of settings. -/
def known (source : List (Document × Document)) : List (Document × Document) :=
  source.filter fun e => (setting? e.1).isSome

theorem known_known (source : List (Document × Document)) :
    known (known source) = known source := by
  simp [known]

/-- An entry under an unknown key gives nothing. -/
theorem filterMap_known (s : Setting) (source : List (Document × Document)) :
    (known source).filterMap (offered? s) = source.filterMap (offered? s) := by
  rw [known, List.filterMap_filter]
  congr 1
  funext e
  rcases hkey : setting? e.1 with _ | t
  · by_cases hvalue : e.2 = .null
    · simp [offered?, hvalue]
    · simp [offered?_of_ne hvalue, hkey]
  · simp

/-- **Order and unknown keys do not matter:** a source gives what a mapping with the same known
entries gives, in whatever order they come. -/
theorem given?_of_known (h : IsMapping source) (hknown : (known source').Perm (known source))
    (s : Setting) : given? s source' = given? s source := by
  have hperm := hknown.filterMap (offered? s)
  rw [filterMap_known, filterMap_known, filterMap_offered? h] at hperm
  have hsame : source'.filterMap (offered? s) = (present? s source).toList := by
    cases hpresent : present? s source with
    | none =>
      rw [hpresent] at hperm
      exact List.perm_nil.mp hperm
    | some value =>
      rw [hpresent] at hperm
      exact List.perm_singleton.mp hperm
  rw [given?, given?, hsame, filterMap_offered? h]

/-! ### The main result -/

/-- The values of all settings, by name. -/
def entries (values : Values) : List (String × Document) :=
  Setting.all.map fun s => (s.key, values s)

theorem keys_entries (values : Values) :
    Entries.keys values.entries = Setting.all.map Setting.key := by
  simp [Entries.keys, entries]

theorem nodup_keys_entries (values : Values) : (Entries.keys values.entries).Nodup := by
  rw [keys_entries]
  decide

theorem get?_entries (values : Values) (s : Setting) :
    Entries.get? s.key values.entries = some (values s) := by
  have hmem : (s.key, values s) ∈ values.entries :=
    List.mem_map_of_mem (f := fun s => (s.key, values s)) (Setting.mem_all s)
  exact Entries.get?_of_mem (nodup_keys_entries values) hmem

/-- **Overrides go before the file, and the file before the defaults.** For any two mappings, with
keys and values of any kind, merging ends well. Its values are those of eighteen names, the names of
the settings. The value of each is the override if there is one that is no null, else what the file
has if it is no null, else the built-in value. Sources with the same known entries, in any order and
with any unknown keys among them, give the same values. -/
theorem overrides_before_file_before_default (hfile : IsMapping file)
    (hoverrides : IsMapping overrides) :
    (∀ w, ∃ w', Config.merge file overrides w = (.ok (merge file overrides), w')) ∧
    (Entries.keys (merge file overrides).entries).Nodup ∧
    (merge file overrides).entries.length = 18 ∧
    (∀ s : Setting, Entries.get? s.key (merge file overrides).entries =
      some (((present? s overrides).or (present? s file)).getD (Config.default.get s))) ∧
    ∀ file' overrides', (known file').Perm (known file) →
      (known overrides').Perm (known overrides) →
      merge file' overrides' = merge file overrides := by
  refine ⟨Config.merge_run file overrides, nodup_keys_entries _, rfl, fun s => ?_,
    fun file' overrides' hfile' hoverrides' => ?_⟩
  · rw [get?_entries, merge_apply hfile hoverrides]
  · funext s
    rw [merge, merge, overlay_apply, overlay_apply, overlay_apply, overlay_apply,
      given?_of_known hfile hfile', given?_of_known hoverrides hoverrides']

/-- A null gives way to the file and an empty text does not; keys that are no names are passed
over, and so is the order. -/
theorem overrides_before_file_before_default_falsy :
    let file : List (Document × Document) :=
      [(.text "target_path", .text "from file"), (.int 1, .text "one"), (.text "address", .null),
        (.text "test_volume_size", .int 7)]
    let overrides : List (Document × Document) :=
      [(.text "target_path", .null), (.text "colour", .text "blue"),
        (.text "test_volume_size", .int 0), (.text "staging_path", .text "")]
    let values := merge file overrides
    IsMapping file ∧ IsMapping overrides ∧
      Entries.get? "target_path" values.entries = some (.text "from file") ∧
      Entries.get? "test_volume_size" values.entries = some (.int 0) ∧
      Entries.get? "staging_path" values.entries = some (.text "") ∧
      Entries.get? "address" values.entries = some (.text "") ∧
      merge file.reverse (known overrides) = values := by
  intro file overrides values
  have hfile : IsMapping file := by unfold IsMapping; decide
  have hoverrides : IsMapping overrides := by unfold IsMapping; decide
  obtain ⟨-, -, -, hvalue, hsame⟩ := overrides_before_file_before_default hfile hoverrides
  have hmerged := hsame file.reverse (known overrides) ((List.reverse_perm file).filter _)
    (by rw [known_known])
  exact ⟨hfile, hoverrides, hvalue (.path .target), hvalue .volumeSize, hvalue (.path .staging),
    hvalue .address, hmerged⟩

end Values

end PluginHarness
