import Mathlib.Algebra.Group.Int.Defs
import PluginHarness.Proofs.Secrets

/-!
# Which credentials an operation gets

A document gives each operation what it says under the operation's key, and nothing else. To say
this without the reader, `Secrets.under` picks the value under a key and `Secrets.Gives` says which
texts a value stands for; both look at the document alone. The reader goes through the entries once
and keeps a bundle for each operation, so the two are related by the invariant of that loop: each
bundle is what the reader makes of the value seen last under the key (`ofEntries_under`).

What is refused is said in the same way. A document is malformed for a reason that stands in it,
and keys that name no operation are no such reason, whatever is under them.

## Texts that cannot be written

An integer with more digits than are ever written has no text. Where the document needs one, it is
not `Writable`, and the reader ends in a failure that is no refusal of credentials. This happens
even to a value that is malformed, because the refusal would name its key and the key has no text.
All other documents are writable, and for these the main result is exact.

## Main definitions

* `Secrets.Refused`, `Secrets.Malformed`: the values under an operation's key and the documents
  that are refused.
* `Secrets.Writable`: every text that the document asks for can be written.
* `Secrets.under`, `Secrets.Gives`: the value under a key, and the texts that it stands for.

## Main results

* `Secrets.routes_credentials`: which documents are refused, and which credentials the others give.
* `Secrets.writable_of_parse`: only a writable document gives credentials.
* `Secrets.parse_long_integer`: documents that are not writable, and how reading them ends.
-/

namespace PluginHarness.Secrets

open Attempt World

/-! ### Values under a key -/

/-- The value is no credentials: it is neither null nor a mapping, or it is a mapping with a value
that is null, a list or a mapping. -/
def Refused : Document → Prop
  | .null => False
  | .map entries => ∃ e ∈ entries, e.2.isPlain = false
  | _ => True

/-- The keys of the value have texts, and so have its values, unless they are refused. -/
def WritableValue : Document → Prop
  | .map entries => ∀ e ∈ entries, e.1.text?.isSome ∧ (e.2.isPlain = true → e.2.plainText?.isSome)
  | _ => True

/-- The texts that a value stands for. A mapping stands for one text under each text that a key is
written as: that of the last value with such a key. Anything else stands for none. -/
def Gives (value : Document) (m : TextMap) : Prop :=
  match value with
  | .map entries => (Entries.keys m).Nodup ∧ ∀ k v, m.get? k = some v ↔
      ∃ before key value after, entries = before ++ (key, value) :: after ∧
        key.text? = some k ∧ value.plainText? = some v ∧ ∀ e ∈ after, e.1.text? ≠ some k
  | _ => m = []

/-- Where the texts can be written, only a value that is refused is in the way. -/
theorem refused_of_textEntries {refuse : Document → Failure}
    {entries : List (Document × Document)} {done : TextMap} {x : Failure}
    (hw : WritableValue (.map entries)) (h : textEntries refuse done entries = .error x) :
    ∃ e ∈ entries, e.2.isPlain = false ∧ e.1.text?.isSome ∧ x = refuse e.1 := by
  rcases textEntries_error_cases h with ⟨e, he, hplain, hx⟩ | ⟨e, he, hplain, hnone, -⟩
  · exact ⟨e, he, hplain, (hw e he).1, hx⟩
  · obtain ⟨k, hk⟩ := Option.isSome_iff_exists.mp (hw e he).1
    obtain ⟨v, hv⟩ := Option.isSome_iff_exists.mp ((hw e he).2 hplain)
    exact nomatch hnone.symm.trans (written?_eq_some_iff.mpr ⟨hk, hv⟩)

/-- A value whose texts can be written is refused or gives credentials. -/
theorem ofValue_cases (o : Operation) {value : Document} (hw : WritableValue value) :
    (Refused value ∧ ∃ f, ofValue o value = .error (.fault (.secrets f))) ∨
      ¬ Refused value ∧ ∃ m, ofValue o value = .ok m := by
  cases value with
  | null => exact .inr ⟨id, [], rfl⟩
  | map entries =>
    rcases h : textEntries (refusal o) [] entries with x | m
    · obtain ⟨e, he, hplain, htext, rfl⟩ := refused_of_textEntries hw h
      obtain ⟨name, hname⟩ := Option.isSome_iff_exists.mp htext
      refine .inl ⟨⟨e, he, hplain⟩, .valueNotText o name, ?_⟩
      rw [ofValue, h, refusal, hname]
    · refine .inr ⟨?_, m, h⟩
      rintro ⟨e, he, hplain⟩
      exact nomatch hplain.symm.trans ((textEntries_eq_ok_iff.mp h).1 e he).1
  | _ => exact .inl ⟨trivial, _, rfl⟩

theorem writableValue_of_ofValue {o : Operation} {value : Document} {m : TextMap}
    (h : ofValue o value = .ok m) : WritableValue value := by
  cases value with
  | map entries =>
    intro e he
    obtain ⟨⟨k, v⟩, hkv⟩ :=
      Option.isSome_iff_exists.mp ((textEntries_eq_ok_iff.mp h).1 e he).2
    obtain ⟨hk, hv⟩ := written?_eq_some_iff.mp hkv
    exact ⟨Option.isSome_of_eq_some hk, fun _ => Option.isSome_of_eq_some hv⟩
  | _ => trivial

/-- What is read from a value is what the value gives. -/
theorem gives_of_ofValue {o : Operation} {value : Document} {m : TextMap}
    (h : ofValue o value = .ok m) : Gives value m := by
  cases value with
  | null => exact (Except.ok.inj h).symm
  | map entries =>
    refine ⟨?_, (collapses_of_textEntries h).get?_iff⟩
    obtain ⟨-, rfl⟩ := textEntries_eq_ok_iff.mp h
    exact Entries.nodup_keys_insertAll (by exact List.nodup_nil) _
  | _ => cases h

/-! ### Documents -/

/-- The document is neither null nor a mapping, or it is a mapping with a refused value under the
key of an operation. -/
def Malformed : Document → Prop
  | .null => False
  | .map entries => ∃ e ∈ entries, (∃ o : Operation, e.1.asText? = some o.key) ∧ Refused e.2
  | _ => True

/-- What the document says under the keys of operations can be written. -/
def Writable : Document → Prop
  | .map entries => ∀ e ∈ entries, (∃ o : Operation, e.1.asText? = some o.key) → WritableValue e.2
  | _ => True

/-- What a document says under the key of an operation: the last value there, and null if there is
none. -/
def under (o : Operation) : Document → Document
  | .map entries =>
    entries.foldl (fun value e => if e.1.asText? = some o.key then e.2 else value) .null
  | _ => .null

theorem operationOf?_eq_some_iff {key : Document} {o : Operation} :
    operationOf? key = some o ↔ key.asText? = some o.key := by
  rw [operationOf?, Option.bind_eq_some_iff]
  constructor
  · rintro ⟨name, hname, ho⟩
    rw [hname, Operation.ofKey?_eq_some_iff.mp ho]
  · exact fun h => ⟨o.key, h, Operation.ofKey?_eq_some_iff.mpr rfl⟩

theorem operationOf?_eq_none_iff {key : Document} :
    operationOf? key = none ↔ ¬ ∃ o : Operation, key.asText? = some o.key := by
  simp only [← operationOf?_eq_some_iff, Option.eq_none_iff_forall_ne_some, not_exists, ne_eq]

variable {entries : List (Document × Document)} {done s : Secrets}

/-- Entries whose texts can be written are refused or give credentials. -/
theorem ofEntries_cases (done : Secrets) (hw : Writable (.map entries)) :
    (Malformed (.map entries) ∧ ∃ f, ofEntries done entries = .error (.fault (.secrets f))) ∨
      ¬ Malformed (.map entries) ∧ ∃ s, ofEntries done entries = .ok s := by
  induction entries generalizing done with
  | nil => exact .inr ⟨fun ⟨_, he, _⟩ => absurd he List.not_mem_nil, done, rfl⟩
  | cons e rest ih =>
    obtain ⟨key, value⟩ := e
    -- an entry that is not refused leaves the question to the others
    have skip (hk : ¬ ((∃ o : Operation, key.asText? = some o.key) ∧ Refused value)) :
        Malformed (.map ((key, value) :: rest)) ↔ Malformed (.map rest) := by
      simp only [Malformed, List.exists_mem_cons_iff, hk, false_or]
    have hrest : Writable (.map rest) := fun e he => hw e (.tail _ he)
    rw [ofEntries]
    rcases ho : operationOf? key with _ | o
    · rw [skip fun h => operationOf?_eq_none_iff.mp ho h.1]
      exact ih done hrest
    · have hkey := operationOf?_eq_some_iff.mp ho
      rcases ofValue_cases o (hw (key, value) (.head _) ⟨o, hkey⟩) with
        ⟨hrefused, f, hf⟩ | ⟨hgood, m, hm⟩
      · exact .inl ⟨⟨(key, value), .head _, ⟨o, hkey⟩, hrefused⟩, f, by simp only [hf]⟩
      · simp only [skip fun h => hgood h.2, hm]
        exact ih (done.set o m) hrest

theorem writable_of_ofEntries (h : ofEntries done entries = .ok s) : Writable (.map entries) := by
  induction entries generalizing done with
  | nil => exact fun _ he => nomatch he
  | cons e rest ih =>
    obtain ⟨key, value⟩ := e
    rw [ofEntries] at h
    refine List.forall_mem_cons.mpr ⟨fun hkey => ?_, ?_⟩
    · obtain ⟨o, ho⟩ := hkey
      simp only [operationOf?_eq_some_iff.mpr ho] at h
      split at h
      · next hm => exact writableValue_of_ofValue hm
      · cases h
    · split at h
      · exact ih h
      · split at h
        · exact ih h
        · cases h

/-- Each bundle is what the reader makes of the value seen last under the key. -/
theorem ofEntries_under (h : ofEntries done entries = .ok s) {o : Operation} {value : Document}
    (hdone : ofValue o value = .ok (done.get o)) :
    ofValue o (entries.foldl (fun value e => if e.1.asText? = some o.key then e.2 else value) value)
      = .ok (s.get o) := by
  induction entries generalizing done value with
  | nil =>
    cases h
    exact hdone
  | cons e rest ih =>
    obtain ⟨key, value'⟩ := e
    rw [ofEntries] at h
    rw [List.foldl_cons]
    split at h
    · next hnone =>
      rw [if_neg fun hkey => operationOf?_eq_none_iff.mp hnone ⟨o, hkey⟩]
      exact ih h hdone
    · next o' ho' =>
      split at h
      · next m hm =>
        refine ih h ?_
        by_cases heq : o = o'
        · subst heq
          simp only [if_pos (operationOf?_eq_some_iff.mp ho'), hm, set, if_true]
        · have hne : key.asText? ≠ some o.key := fun hkey =>
            heq (Option.some.inj ((operationOf?_eq_some_iff.mpr hkey).symm.trans ho'))
          simp only [if_neg hne, hdone, set, if_neg heq]
      · cases h

theorem ofDocument_under {d : Document} (h : ofDocument d = .ok s) (o : Operation) :
    ofValue o (under o d) = .ok (s.get o) := by
  cases d with
  | null =>
    cases h
    rfl
  | map entries => exact ofEntries_under h rfl
  | _ => cases h

theorem ofDocument_cases {d : Document} (hw : Writable d) :
    (Malformed d ∧ ∃ f, ofDocument d = .error (.fault (.secrets f))) ∨
      ¬ Malformed d ∧ ∃ s, ofDocument d = .ok s := by
  cases d with
  | null => exact .inr ⟨id, empty, rfl⟩
  | map entries => exact ofEntries_cases empty hw
  | _ => exact .inl ⟨trivial, _, rfl⟩

theorem isEmpty_iff (s : Secrets) : s.isEmpty = true ↔ ∀ o, s.get o = [] := by
  simp [isEmpty, Operation.mem_all]

/-! ### The main results -/

/-- Only a writable document gives credentials. -/
theorem writable_of_parse {d : Document} {w w' : World} (h : parse d w = (.ok s, w')) :
    Writable d := by
  obtain ⟨w'', hrun⟩ := parse_run d w
  have hd : ofDocument d = .ok s := congrArg Prod.fst (hrun.symm.trans h)
  cases d with
  | map entries => exact writable_of_ofEntries hd
  | _ => trivial

/-- **Each operation gets its own credentials, and a document is refused for what is in it.** A
writable document is refused exactly when it is malformed. Any other one gives credentials, in
which each operation

* is found under its name and under its key, and under nothing else;
* has the texts of the value under its key, whatever stands under other keys;

and there are none at all exactly when every operation has none. -/
theorem routes_credentials {d : Document} (hd : Writable d) (w : World) :
    ((∃ e w', parse d w = (.error e, w') ∧ e.isSecrets = true) ↔ Malformed d) ∧
    (¬ Malformed d → ∃ s w', parse d w = (.ok s, w') ∧
      (∀ o : Operation, s.forIdentifier o.name = .ok (s.get o) ∧
        s.forIdentifier o.key = .ok (s.get o) ∧ Gives (under o d) (s.get o) ∧
        ∀ d' w₁ s' w₁', parse d' w₁ = (.ok s', w₁') → under o d' = under o d →
          s'.get o = s.get o) ∧
      (s.isEmpty = true ↔ ∀ o, s.get o = []) ∧
      ∀ identifier, (∀ o : Operation, identifier ≠ o.name ∧ identifier ≠ o.key) →
        s.forIdentifier identifier = .error (.fault (.unknownOperation identifier))) := by
  obtain ⟨w', hrun⟩ := parse_run d w
  rcases ofDocument_cases hd with ⟨hbad, f, hf⟩ | ⟨hgood, s, hs⟩
  · rw [hf] at hrun
    exact ⟨⟨fun _ => hbad, fun _ => ⟨_, w', hrun, rfl⟩⟩, fun h => absurd hbad h⟩
  · rw [hs] at hrun
    refine ⟨⟨fun ⟨e, w'', h, _⟩ => ?_, fun h => absurd h hgood⟩, fun _ =>
      ⟨s, w', hrun, fun o => ⟨?_, ?_, gives_of_ofValue (ofDocument_under hs o), ?_⟩, isEmpty_iff s,
        fun identifier h => ?_⟩⟩
    · cases hrun.symm.trans h
    · rw [forIdentifier, Operation.ofIdentifier?_name]
    · rw [forIdentifier, Operation.ofIdentifier?_key]
    · intro d' w₁ s' w₁' h' hunder
      obtain ⟨w₂, hrun'⟩ := parse_run d' w₁
      have hs' : ofDocument d' = .ok s' := congrArg Prod.fst (hrun'.symm.trans h')
      have hvalue := ofDocument_under hs' o
      rw [hunder, ofDocument_under hs o] at hvalue
      exact (Except.ok.inj hvalue).symm
    · rw [forIdentifier, Operation.ofIdentifier?_eq_none h]

/-- Two keys with one text, an operation without credentials, and a key that names no operation. -/
theorem routes_credentials_collision :
    let d : Document := .map [
      (.text "CreateVolumeSecret", .map [(.int 1, .text "first"), (.text "1", .bool true)]),
      (.text "DeleteVolumeSecret", .null), (.text "Other", .list [])]
    Writable d ∧ ¬ Malformed d ∧ ∃ s w', parse d (initial .stubborn ⟨[], []⟩) = (.ok s, w') ∧
      s.forIdentifier "CREATE_VOLUME" = .ok (s.get .createVolume) ∧
      (s.get .createVolume).get? "1" = some "true" ∧ s.get .deleteVolume = [] := by
  intro d
  have hw : Writable d := by
    rintro e he -
    simp only [List.mem_cons, List.not_mem_nil, or_false] at he
    rcases he with rfl | rfl | rfl
    · refine List.forall_mem_cons.mpr ⟨?_, List.forall_mem_singleton.mpr ?_⟩ <;>
        exact ⟨rfl, fun _ => rfl⟩
    · trivial
    · trivial
  have hgood : ¬ Malformed d := by
    rintro ⟨e, he, ⟨o, ho⟩, hrefused⟩
    simp only [List.mem_cons, List.not_mem_nil, or_false] at he
    rcases he with rfl | rfl | rfl
    · simp [Refused, Document.isPlain] at hrefused
    · exact hrefused
    · cases o <;> simp [Document.asText?, Operation.key] at ho
  obtain ⟨s, w', hrun, hget, -⟩ :=
    (routes_credentials hw (initial .stubborn ⟨[], []⟩)).2 hgood
  obtain ⟨hname, -, hgives, -⟩ := hget .createVolume
  refine ⟨hw, hgood, s, w', hrun, hname, (hgives.2 "1" "true").mpr ?_, (hget .deleteVolume).2.2.1⟩
  exact ⟨[(.int 1, .text "first")], .text "1", .bool true, [], rfl, rfl, rfl, by simp⟩

/-- What cannot be written under the key of an operation ends the reading. -/
theorem ofDocument_of_unwritable {o : Operation} {key value : Document}
    (h : ofValue o (.map [(key, value)]) = .error (.fault .unwritable)) :
    ofDocument (.map [(.text o.key, .map [(key, value)])]) = .error (.fault .unwritable) := by
  have ho : operationOf? (.text o.key) = some o := operationOf?_eq_some_iff.mpr rfl
  simp only [ofDocument, ofEntries, ho, h]

/-- An integer that is too long to be written is no malformed credential, and it gives none. As a
key, it keeps a malformed value from being refused. -/
theorem parse_long_integer :
    let long : Document := .int (16 ^ 3600)
    let value : Document := .map [(.text "CreateVolumeSecret", .map [(.text "a", long)])]
    let key : Document := .map [(.text "CreateVolumeSecret", .map [(long, .null)])]
    let w := initial .stubborn ⟨[], []⟩
    Failure.isSecrets (.fault .unwritable) = false ∧
    (¬ Malformed value ∧ ∃ w', parse value w = (.error (.fault .unwritable), w')) ∧
    Malformed key ∧ ∃ w', parse key w = (.error (.fault .unwritable), w') := by
  have hlong : Document.text? (.int (16 ^ 3600)) = none := by
    simp only [Document.text?, Document.quoted?]
    decide +kernel
  -- the integer is never computed, as nothing but the absence of its text matters
  generalize (16 : Int) ^ 3600 = i at hlong ⊢
  intro long value key w
  have hkey : ofDocument key = .error (.fault .unwritable) :=
    ofDocument_of_unwritable (o := .createVolume) (by
      show Except.error (refusal _ long) = _
      rw [refusal, hlong])
  have hvalue : ofDocument value = .error (.fault .unwritable) :=
    ofDocument_of_unwritable (o := .createVolume) (by
      have hnone : written? (.text "a", long) = none := by
        rw [Option.eq_none_iff_forall_ne_some]
        rintro ⟨k, v⟩ h
        exact nomatch hlong.symm.trans (written?_eq_some_iff.mp h).2
      rw [ofValue, textEntries_cons, hnone]
      rfl)
  refine ⟨rfl, ⟨?_, ?_⟩, ?_, ?_⟩
  · rintro ⟨e, he, -, hrefused⟩
    obtain rfl := List.mem_singleton.mp he
    obtain ⟨e', he', hplain⟩ := hrefused
    obtain rfl := List.mem_singleton.mp he'
    cases hplain
  · exact hvalue ▸ parse_run value w
  · exact ⟨_, .head _, ⟨.createVolume, rfl⟩, (long, .null), .head _, rfl⟩
  · exact hkey ▸ parse_run key w

end PluginHarness.Secrets
