import PluginHarness.Proofs.Config
import PluginHarness.Suite.Lifecycle

/-!
# Building a configuration again

The parameters file is read twice when a run starts: once when the configuration is built, and once
more when it is prepared. A configuration may also be built again from the values of one that is
there. Neither changes it, as long as the parameters file stays what it is.

What the file comes to is settled by the name of the file and what it holds, not by the parameters
that are there. Its entries go before these, so they are there with their values when they are
written once more (`Entries.insertAll_insertAll`). The values of a configuration are given back as a
source that gives something for each setting, and so nothing is left to a configuration file.

## Main definitions

* `Config.settings`: the values of a configuration as a source.

## Main results

* `Config.withParameters_withParameters`: entries are merged once and for all.
* `Config.WithinBounds.given?_settings`: what the values of a configuration give.
* `Config.rebuilds_itself`: a configuration that was built is built again.
-/

namespace PluginHarness

open Attempt

/-- A number has the same value as itself, unless it is not-a-number. -/
theorem Number.eqv_self {n : Number} (h : n.isNaN = false) : n.eqv n = true := by
  cases hrank : n.rank? with
  | none => exact absurd ((Number.rank?_eq_none_iff n).mp hrank) (by simp [h])
  | some p => simp [Number.eqv, hrank]

namespace Config

variable {c : Config} {t t' : FileTree} {new : TextMap}

/-! ### The parameters file once more -/

/-- No two entries of a parameters file have one key. -/
theorem nodup_of_fileParameters (h : c.fileParameters t = .ok new) : (Entries.keys new).Nodup := by
  have hnil : (Entries.keys ([] : TextMap)).Nodup := List.nodup_nil
  have nodup_of_parametersOf {d : Document} {new : TextMap}
      (h : parametersOf c.parametersFile d = .ok new) : (Entries.keys new).Nodup := by
    cases d with
    | null => cases h; exact hnil
    | map entries =>
      rw [parametersOf, parameterEntries_eq] at h
      obtain ⟨-, rfl⟩ := textEntries_eq_ok_iff.mp h
      exact Entries.nodup_keys_insertAll hnil _
    | _ => cases h
  unfold fileParameters at h
  split at h
  · cases h; exact hnil
  · rcases hread : readParameters t c.parametersFile with f | d <;> rw [hread] at h
    · cases f <;> cases h
    · exact nodup_of_parametersOf h

/-- The parameters file comes to the same where it holds the same. -/
theorem fileParameters_congr
    (h : c.parametersFile ≠ "" → t'.read c.parametersFile = t.read c.parametersFile) :
    c.fileParameters t' = c.fileParameters t := by
  unfold fileParameters
  split
  · rfl
  · next hfile => rw [readParameters_eq, readWith, readWith, h hfile]

/-- Entries are merged once and for all. -/
theorem withParameters_withParameters (hnew : (Entries.keys new).Nodup) (c : Config) :
    (c.withParameters new).withParameters new = c.withParameters new := by
  simp only [withParameters, Entries.insertAll_insertAll hnew]

/-! ### The values given back -/

theorem setting?_key (s : Setting) : Values.setting? (.text s.key) = some s :=
  Setting.ofKey?_eq_some_iff.mpr rfl

/-- The values of a configuration as a source: each under the name of its setting. -/
def settings (c : Config) : List (Document × Document) :=
  Setting.all.map fun s => (.text s.key, c.get s)

/-- Of all settings one is this one. -/
theorem filterMap_all {α : Type} (s : Setting) (a : α) :
    Setting.all.filterMap (fun t => if t = s then some a else none) = [a] := by
  cases s with
  | path p => cases p <;> rfl
  | command a p => cases a <;> cases p <;> rfl
  | timeout a p => cases a <;> cases p <;> rfl
  | _ => rfl

theorem WithinBounds.get_ne_null (h : c.WithinBounds) (s : Setting) : c.get s ≠ .null := by
  cases s with
  | timeout a p =>
    obtain ⟨n, hn, -⟩ := h.deadlines a p
    cases n <;> simp [get, hn, numberDocument]
  | _ => simp [get]

/-- The values of a configuration give each setting its value, in whatever order they come. -/
theorem WithinBounds.given?_settings (h : c.WithinBounds) {fields : List (Document × Document)}
    (hfields : fields.Perm c.settings) (s : Setting) :
    Values.given? s fields = some (c.get s) := by
  have hown (t : Setting) : Values.offered? s (.text t.key, c.get t) =
      if t = s then some (c.get s) else none := by
    rw [Values.offered?_of_ne (h.get_ne_null t), setting?_key]
    by_cases ht : t = s <;> simp [ht]
  have hone : c.settings.filterMap (Values.offered? s) = [c.get s] := by
    rw [settings, List.filterMap_map, show Values.offered? s ∘ _ = _ from funext hown]
    exact filterMap_all s (c.get s)
  have hfields' : fields.filterMap (Values.offered? s) = [c.get s] :=
    List.perm_singleton.mp (hone ▸ hfields.filterMap _)
  rw [Values.given?, hfields', List.getLast?_singleton]

theorem WithinBounds.merge_settings (h : c.WithinBounds) (file : List (Document × Document))
    {fields : List (Document × Document)} (hfields : fields.Perm c.settings) :
    Values.merge file fields = c.get := by
  funext s
  rw [Values.merge, Values.overlay_apply, h.given?_settings hfields, Option.getD_some]

/-! ### Comparison with itself -/

theorem get?_texts (m : TextMap) (k : String) :
    Entries.get? (Document.text k) (m.map fun e => (Document.text e.1, Document.text e.2)) =
      (Entries.get? k m).map Document.text := by
  induction m with
  | nil => rfl
  | cons e rest ih =>
    by_cases he : e.1 = k <;>
      simp [Entries.get?, Document.beq_eq_sameKey, Document.sameKey, he, ih]

/-- Texts under different keys are the same mapping as themselves. -/
theorem sameValue_texts {m : TextMap} (h : (Entries.keys m).Nodup) :
    sameValue (.map (m.map fun e => (.text e.1, .text e.2)))
      (.map (m.map fun e => (.text e.1, .text e.2))) = true := by
  refine Bool.and_eq_true_iff.mpr ⟨beq_self_eq_true _, List.all_eq_true.mpr fun entry hentry => ?_⟩
  obtain ⟨e, he, rfl⟩ := List.mem_map.mp hentry
  rw [get?_texts, Entries.get?_of_mem h he]
  simp [Document.beq_eq_sameKey, Document.sameKey]

/-- A configuration is equal to itself if no time limit is not-a-number. -/
theorem WithinBounds.same_self (h : c.WithinBounds)
    (hnumbers : ∀ a p n, ((c.place p).step a).deadline = some n → n.isNaN = false)
    (hnodup : (Entries.keys c.parameters).Nodup) : c.same c = true := by
  refine List.all_eq_true.mpr fun s _ => ?_
  cases s with
  | timeout a p =>
    obtain ⟨n, hn, -⟩ := h.deadlines a p
    have hsame := Number.eqv_self (hnumbers a p n hn)
    simp only [get, hn, Option.map_some, Option.getD_some]
    cases n <;> simpa only [numberDocument, sameValue, Document.sameKey, Document.number?]
  | volumeSize | attachLimit =>
    simp only [get, sameValue, Document.sameKey, Document.number?]
    exact Number.eqv_self rfl
  | parameters => exact sameValue_texts hnodup
  | _ => simp only [get, sameValue, Document.sameKey, beq_self_eq_true]

/-! ### The main result -/

/-- A configuration with its parameters file read is built of its own values. -/
theorem WithinBounds.built_settings (h : c.WithinBounds) (hn : c.NoCallbacks)
    (hnew : c.fileParameters t = .ok new) (hmerged : c.withParameters new = c)
    (file : List (Document × Document)) {fields : List (Document × Document)}
    (hfields : fields.Perm c.settings) : built file fields [] t = .ok c := by
  have hmade : ofValues (fun s => some (Values.merge file fields s)) = .ok c := by
    rw [h.merge_settings file hfields]
    exact ofValues_eq_ok_iff.mpr ⟨rfl, h, hn⟩
  exact built_eq_ok_iff.mpr ⟨c, hmade, c, rfl, new, hnew, hmerged⟩

/-- What is prepared for a run is the configuration with its parameters file read. -/
theorem prepareConfig_ok {c' : Config} {w w' w₁ : World}
    (hparameters : c.withParametersFile w = (.ok c, w₁))
    (h : Suite.prepareConfig c w = (.ok c', w')) : c' = c := by
  rw [Suite.prepareConfig, bind_of_ok hparameters] at h
  by_cases hsecrets : c.secretsFile ≠ ""
  · rw [if_pos hsecrets] at h
    obtain ⟨_, w₂, -, hend⟩ := ok_of_bind h
    cases hend
    rfl
  · rw [if_neg hsecrets] at h
    cases h
    rfl

/-- **A configuration that was built is built again.** Let a configuration be built without
callbacks, and let its parameters file stay what it is.

* Its values as overrides, in any order and over any configuration file, make the configuration
  itself.
* Reading its parameters file once more changes nothing, and so preparing it for a run gives the
  configuration itself, if it gives one.
* As a mapping has no key twice, it is equal to itself, unless a time limit is not-a-number.
* Its values are the merged ones but for the parameters. Of these, an entry of the parameters file
  goes before a merged one, and every other merged one is kept. -/
theorem rebuilds_itself {named : Option Document} {overrides : List (Document × Document)}
    {w w₁ : World} (h : build named overrides [] w = (.ok c, w₁)) {w₂ : World}
    (hfile : c.parametersFile ≠ "" →
      w₂.files.read c.parametersFile = w₁.files.read c.parametersFile) :
    (∀ (named' : Option Document) (file fields : List (Document × Document)) (w₃ : World),
      loadFile named' w₂ = (.ok file, w₃) → fields.Perm c.settings →
      ∃ w₄, build named' fields [] w₂ = (.ok c, w₄)) ∧
    c.withParametersFile w₂ = (.ok c, w₂) ∧
    (∀ c' w₃, Suite.prepareConfig c w₂ = (.ok c', w₃) → c' = c) ∧
    ((∀ a p n, ((c.place p).step a).deadline = some n → n.isNaN = false) →
      (Entries.keys c.parameters).Nodup → c.same c = true) ∧
    ∃ file w₀ own new, loadFile named w = (.ok file, w₀) ∧
      (∀ s, s ≠ .parameters → c.get s = Values.merge file overrides s) ∧
      Values.merge file overrides .parameters = .map (own.map fun e => (.text e.1, .text e.2)) ∧
      c.fileParameters w₂.files = .ok new ∧
      ∀ k, Entries.get? k c.parameters = (Entries.get? k new).or (Entries.get? k own) := by
  obtain ⟨file, w₀, hload, hbuilt, hfiles⟩ := built_of_build h
  obtain ⟨draft, hmade, draft', hhooks, new, hnew, rfl⟩ := built_eq_ok_iff.mp hbuilt
  obtain rfl : draft = draft' := Except.ok.inj hhooks
  obtain ⟨hget, hb, hn⟩ := ofValues_eq_ok_iff.mp hmade
  have hnodup := nodup_of_fileParameters hnew
  have hmerged := withParameters_withParameters hnodup draft
  have hagain : (draft.withParameters new).fileParameters w₂.files = .ok new := by
    rw [fileParameters_congr hfile, hfiles]
    exact hnew
  have hreads : (draft.withParameters new).withParametersFile w₂ =
      (.ok (draft.withParameters new), w₂) := by
    rw [withParametersFile_apply, hagain, Except.map, hmerged]
  refine ⟨fun named' file' fields w₃ hload' hfields => ?_, hreads,
    fun c' w₃ hprepare => prepareConfig_ok hreads hprepare, (hb.withParameters new).same_self,
    file, w₀, draft.parameters, new, hload, fun s hs => by rw [get_withParameters hs, hget],
    by rw [← hget]; rfl, hagain, Entries.get?_insertAll hnodup draft.parameters⟩
  obtain ⟨w₄, -, hrun⟩ := build_run fields [] hload'
  have hbuilt' := (hb.withParameters new).built_settings (fun a p => hn a p) hagain hmerged file'
    hfields
  exact ⟨w₄, hrun.trans (by rw [hbuilt'])⟩

/-- A parameters file with the entry `1: true` goes over a parameter that is there. The values in
reverse order make the configuration again, and it is prepared as it is. -/
theorem rebuilds_itself_merged :
    let w := World.initial .stubborn (.single [49, 58, 32, 116, 114, 117, 101])
    let overrides : List (Document × Document) :=
      [(.text "address", .text "node"), (.text "test_volume_parameters_file", .text "s"),
        (.text "test_volume_parameters", .map [(.text "1", .text "one"), (.text "k", .text "v")])]
    let c : Config := { default with
      address := "node", parametersFile := "s", parameters := [("1", "true"), ("k", "v")] }
    ∃ w₁, build none overrides [] w = (.ok c, w₁) ∧
      (∃ w₂, build none c.settings.reverse [] w₁ = (.ok c, w₂)) ∧
      c.withParametersFile w₁ = (.ok c, w₁) ∧ c.same c = true ∧
      ∃ w₂, Suite.prepareConfig c w₁ = (.ok c, w₂) := by
  intro w overrides c
  have hmade : (build none overrides [] w).1.toOption = some c := by decide +kernel
  have hlength : (loadFile none (build none overrides [] w).2).1.toOption.map List.length =
      some 0 := by decide +kernel
  rcases hbuild : build none overrides [] w with ⟨e | c', w₁⟩ <;> rw [hbuild] at hmade hlength
  · cases hmade
  obtain rfl : c' = c := Option.some.inj hmade
  rcases hload : loadFile none w₁ with ⟨e | file, w₃⟩ <;> rw [hload] at hlength
  · cases hlength
  obtain ⟨hagain, hreads, -, hsame, -⟩ := rebuilds_itself hbuild fun _ => rfl
  refine ⟨w₁, rfl, hagain none file _ w₃ hload (List.reverse_perm _), hreads, hsame ?_ ?_, w₁, ?_⟩
  · intro a p n hn
    cases a <;> cases p <;> cases hn <;> rfl
  · decide
  · rw [Suite.prepareConfig, bind_of_ok hreads]
    rfl

end Config

end PluginHarness
