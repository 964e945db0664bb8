import Mathlib.Data.List.Basic
import PluginHarness.Proofs.World
import PluginHarness.Session

/-!
# Names that tell where they come from

Names are made by putting a hyphen and the suffix of a session behind a front part that may be
anything. The front part may contain hyphens, and it may itself be such a name, so a name cannot be
taken apart from its front. But every suffix has the same length, and so the end of a name decides:
what stands behind the last but seventeen characters is the suffix, whatever stands before it.

A suffix shows each byte by two digits, and the digits of a byte have its value. So the bytes are
read back from the suffix as well, and a name is as good as the pair of its front part and the
bytes. That different pairs have different names is then a consequence, and needs no look at the
characters of two names side by side.

## Main definitions

* `Naming.IsSuffix`: two groups of eight upper-case hexadecimal digits with a hyphen between them.
* `Naming.origin`: the front part of a name and the bytes that its suffix shows.

## Main results

* `Naming.bytesOf_flatMap_byteText`: digits give back the bytes that they show.
* `Naming.origin_unique`: a name gives back what it was made of.
* `Naming.names_never_collide`: names of sessions are the same only for the same bytes and the same
  front part.
-/

namespace PluginHarness.Naming

/-! ### Digits -/

/-- An upper-case hexadecimal digit. -/
def IsUpperDigit (c : Char) : Prop := '0' ≤ c ∧ c ≤ '9' ∨ 'A' ≤ c ∧ c ≤ 'F'

instance (c : Char) : Decidable (IsUpperDigit c) := inferInstanceAs (Decidable (_ ∨ _))

/-- The upper-case hexadecimal digit with a value below 16. -/
def upperDigit (n : Nat) : Char := n.digitChar.toUpper

theorem isUpperDigit_upperDigit {n : Nat} (h : n < 16) : IsUpperDigit (upperDigit n) := by
  have hall : ∀ d : Fin 16, IsUpperDigit (upperDigit d) := by decide
  exact hall ⟨n, h⟩

theorem hexValue?_upperDigit {n : Nat} (h : n < 16) : Text.hexValue? (upperDigit n) = some n := by
  have hall : ∀ d : Fin 16, Text.hexValue? (upperDigit d) = some d.val := by decide
  exact hall ⟨n, h⟩

/-- A byte is written with a leading zero where it has one digit only. -/
theorem byteText_eq (b : UInt8) :
    byteText b = [upperDigit (b.toNat / 16), upperDigit (b.toNat % 16)] := by
  have hlt : b.toNat < 256 := b.toNat_lt
  by_cases h : b.toNat < 16
  · rw [byteText, Text.hexText, Nat.toDigits_of_lt_base h, Nat.div_eq_of_lt h, Nat.mod_eq_of_lt h]
    rfl
  · rw [byteText, Text.hexText, Nat.toDigits_of_base_le (by omega) (by omega),
      Nat.toDigits_of_lt_base (by omega)]
    rfl

theorem length_flatMap_byteText (bytes : List UInt8) :
    (bytes.flatMap byteText).length = 2 * bytes.length := by
  induction bytes with
  | nil => rfl
  | cons b rest ih =>
    rw [List.flatMap_cons, List.length_append, ih, byteText_eq, List.length_cons]
    simp only [List.length_cons, List.length_nil]
    omega

theorem isUpperDigit_of_mem {bytes : List UInt8} {c : Char} (h : c ∈ bytes.flatMap byteText) :
    IsUpperDigit c := by
  obtain ⟨b, -, hc⟩ := List.mem_flatMap.mp h
  have hlt : b.toNat < 256 := b.toNat_lt
  simp only [byteText_eq, List.mem_cons, List.not_mem_nil, or_false] at hc
  rcases hc with rfl | rfl
  · exact isUpperDigit_upperDigit (by omega)
  · exact isUpperDigit_upperDigit (by omega)

/-- The bytes that digits show, two digits for each byte. -/
def bytesOf : List Char → List UInt8
  | high :: low :: rest =>
    UInt8.ofNat (16 * (Text.hexValue? high).getD 0 + (Text.hexValue? low).getD 0) :: bytesOf rest
  | _ => []

/-- **Digits give back the bytes that they show.** -/
theorem bytesOf_flatMap_byteText (bytes : List UInt8) :
    bytesOf (bytes.flatMap byteText) = bytes := by
  induction bytes with
  | nil => rfl
  | cons b rest ih =>
    have hlt : b.toNat < 256 := b.toNat_lt
    have hhigh : Text.hexValue? (upperDigit (b.toNat / 16)) = some (b.toNat / 16) :=
      hexValue?_upperDigit (by omega)
    have hlow : Text.hexValue? (upperDigit (b.toNat % 16)) = some (b.toNat % 16) :=
      hexValue?_upperDigit (by omega)
    have hbyte : 16 * (b.toNat / 16) + b.toNat % 16 = b.toNat := by omega
    rw [List.flatMap_cons, byteText_eq, List.cons_append, List.cons_append, List.nil_append,
      bytesOf, hhigh, hlow, Option.getD_some, Option.getD_some, hbyte, ih, UInt8.ofNat_toNat]

/-! ### Suffixes -/

/-- Two groups of eight upper-case hexadecimal digits with a hyphen between them. -/
def IsSuffix (s : String) : Prop :=
  ∃ first second : List Char, s.toList = first ++ '-' :: second ∧
    first.length = 8 ∧ second.length = 8 ∧ ∀ c ∈ first ++ second, IsUpperDigit c

/-- The two groups of a suffix. -/
theorem toList_suffixOf (bytes : List UInt8) :
    (suffixOf bytes).toList = (bytes.take groupSize).flatMap byteText ++
      '-' :: (bytes.drop groupSize).flatMap byteText := String.toList_ofList

variable {bytes bytes' : List UInt8}

/-- Eight bytes fill both groups. -/
theorem length_groups (h : bytes.length = 8) :
    ((bytes.take groupSize).flatMap byteText).length = 8 ∧
      ((bytes.drop groupSize).flatMap byteText).length = 8 := by
  rw [length_flatMap_byteText, length_flatMap_byteText, List.length_take, List.length_drop, h]
  exact ⟨rfl, rfl⟩

theorem isSuffix_suffixOf (h : bytes.length = 8) : IsSuffix (suffixOf bytes) := by
  obtain ⟨hfirst, hsecond⟩ := length_groups h
  refine ⟨_, _, toList_suffixOf bytes, hfirst, hsecond, fun c hc => ?_⟩
  rcases List.mem_append.mp hc with hc | hc
  · exact isUpperDigit_of_mem hc
  · exact isUpperDigit_of_mem hc

theorem IsSuffix.ne_empty {s : String} (h : IsSuffix s) : s ≠ "" := by
  rintro rfl
  obtain ⟨first, second, heq, -⟩ := h
  exact List.append_ne_nil_of_right_ne_nil first (List.cons_ne_nil _ _) heq.symm

/-! ### Names -/

/-- The front part of a name and the bytes that its suffix shows, both counted from the end. -/
def origin (name : String) : String × List UInt8 :=
  let cs := name.toList
  let suffix := cs.drop (cs.length - 17)
  (String.ofList (cs.take (cs.length - 18)), bytesOf (suffix.take 8 ++ suffix.drop 9))

/-- Taking a name apart from its end, whatever its front part is. -/
theorem origin_of_toList {name : String} {front first second : List Char}
    (h : name.toList = front ++ '-' :: (first ++ '-' :: second)) (hfirst : first.length = 8)
    (hsecond : second.length = 8) :
    origin name = (String.ofList front, bytesOf (first ++ second)) := by
  have hlen : name.toList.length = front.length + 18 := by
    rw [h, List.length_append, List.length_cons, List.length_append, List.length_cons, hfirst,
      hsecond]
  have htake : name.toList.take (name.toList.length - 18) = front := by
    rw [hlen, Nat.add_sub_cancel, h, List.take_left]
  have hdrop : name.toList.drop (name.toList.length - 17) = first ++ '-' :: second := by
    rw [hlen, h, List.append_cons]
    exact List.drop_left' (by simp)
  have hrest : (first ++ '-' :: second).drop 9 = second := by
    rw [List.append_cons]
    exact List.drop_left' (by simp [hfirst])
  rw [origin, htake, hdrop, List.take_left' hfirst, hrest]

/-- **A name gives back what it was made of.** -/
theorem origin_unique (h : bytes.length = 8) (front : String) :
    origin (unique (suffixOf bytes) front) = (front, bytes) := by
  obtain ⟨hfirst, hsecond⟩ := length_groups h
  have hname : (unique (suffixOf bytes) front).toList = front.toList ++ '-' ::
      ((bytes.take groupSize).flatMap byteText ++
        '-' :: (bytes.drop groupSize).flatMap byteText) := by
    rw [unique, if_neg (isSuffix_suffixOf h).ne_empty, String.toList_append, String.toList_append,
      toList_suffixOf, List.append_assoc]
    rfl
  rw [origin_of_toList hname hfirst hsecond, ← List.flatMap_append, List.take_append_drop,
    bytesOf_flatMap_byteText, String.ofList_toList]

theorem unique_eq_unique_iff (h : bytes.length = 8) (h' : bytes'.length = 8)
    (front front' : String) :
    unique (suffixOf bytes) front = unique (suffixOf bytes') front' ↔
      bytes = bytes' ∧ front = front' := by
  constructor
  · intro heq
    have horigin := congrArg origin heq
    rw [origin_unique h, origin_unique h', Prod.mk.injEq] at horigin
    exact horigin.symm
  · rintro ⟨rfl, rfl⟩
    rfl

/-! ### Sessions -/

variable {w w' : World}

theorem newSuffix_of_entropy (h : w.environment.entropy = .ok bytes) :
    newSuffix w = (.ok (suffixOf bytes), w) := by
  simp only [newSuffix, Attempt.bind_apply, Attempt.state_apply, h, Attempt.pure_apply]

/-- A session that is given no suffix makes one from the random bytes. -/
theorem start_of_entropy (h : w.environment.entropy = .ok bytes) (config : Config)
    (dialer : Dialer) : Session.start config dialer none w =
      (.ok (Session.fresh config dialer (suffixOf bytes)), w) :=
  Attempt.bind_of_ok (newSuffix_of_entropy h)

/-- **Names never collide across sessions.** Two sessions that make their suffixes from eight
random bytes each have the same name only when the bytes are the same and the front parts are the
same. Front part and bytes are read back from the name, and the suffix is two groups of eight
upper-case hexadecimal digits with a hyphen between them. -/
theorem names_never_collide (h : w.environment.entropy = .ok bytes) (hlen : bytes.length = 8)
    (h' : w'.environment.entropy = .ok bytes') (hlen' : bytes'.length = 8)
    (config config' : Config) (dialer dialer' : Dialer) :
    ∃ s s', Session.start config dialer none w = (.ok s, w) ∧
      Session.start config' dialer' none w' = (.ok s', w') ∧
      newSuffix w = (.ok s.suffix, w) ∧ IsSuffix s.suffix ∧
      (∀ front front', s.uniqueName front = s'.uniqueName front' ↔
        bytes = bytes' ∧ front = front') ∧
      ∀ front, origin (s.uniqueName front) = (front, bytes) :=
  ⟨_, _, start_of_entropy h config dialer, start_of_entropy h' config' dialer',
    newSuffix_of_entropy h, isSuffix_suffixOf hlen, unique_eq_unique_iff hlen hlen',
    origin_unique hlen⟩

/-- A front part that looks like a name of the other session. -/
theorem names_never_collide_crafted :
    let bytes : List UInt8 := [0, 17, 34, 51, 68, 170, 187, 204]
    let bytes' : List UInt8 := [0, 17, 34, 51, 68, 170, 187, 205]
    let w := World.initial { Environment.stubborn with entropy := .ok bytes } ⟨[], []⟩
    let w' := World.initial { Environment.stubborn with entropy := .ok bytes' } ⟨[], []⟩
    bytes.length = 8 ∧ bytes'.length = 8 ∧
    ∃ s s', Session.start .default .plain none w = (.ok s, w) ∧
      Session.start .default .channel none w' = (.ok s', w') ∧ s.suffix = "00112233-44AABBCC" ∧
      s.uniqueName "vol" ≠ s'.uniqueName "vol" ∧
      s.uniqueName "vol-00112233-44AABBCD" ≠ s'.uniqueName "vol" ∧
      origin (s.uniqueName "vol-00112233-44AABBCD") = ("vol-00112233-44AABBCD", bytes) := by
  intro bytes bytes' w w'
  have hbytes : w.environment.entropy = .ok bytes := rfl
  have hbytes' : w'.environment.entropy = .ok bytes' := rfl
  have hlen : bytes.length = 8 := rfl
  have hlen' : bytes'.length = 8 := rfl
  have hne : bytes ≠ bytes' := by decide
  obtain ⟨s, s', hs, hs', hsuffix, -, hiff, horigin⟩ :=
    names_never_collide hbytes hlen hbytes' hlen' .default .default .plain .channel
  have hshown : s.suffix = suffixOf bytes :=
    (Except.ok.inj (congrArg Prod.fst (hsuffix.symm.trans (newSuffix_of_entropy rfl))))
  exact ⟨hlen, hlen', s, s', hs, hs', hshown.trans (by decide +kernel),
    fun heq => hne ((hiff _ _).mp heq).1, fun heq => hne ((hiff _ _).mp heq).1, horigin _⟩

end PluginHarness.Naming
