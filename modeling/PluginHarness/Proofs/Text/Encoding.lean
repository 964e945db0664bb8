import Mathlib.Data.List.Basic
import Mathlib.Tactic.Common
import PluginHarness.Text.Encoding

/-!
# Decoding reads exactly UTF-8

What bytes a text has is known apart from any reader: each character has its own bytes, and those
of a text are the bytes of its characters in a row. Reading is right when it gives a text for its
bytes and nothing for bytes that no text has. The second part is where readers go wrong, because
longer forms, surrogates and numbers that are too large all look like characters.

A reader takes one character off the front and goes on. It does so exactly when the bytes of that
character stand there (`decodeStep_eq_character_iff`), so it never has a choice, and everything else
follows by going through the characters in order.

A file is read in pieces, and a piece may end inside a character. The bytes that are left over are
put in front of the next piece. The reader must not refuse what the next piece may complete, and it
must refuse in the end what nothing completes. What it refuses is the beginning of no text, whatever
may follow (`decodeFrom_error`), and so pieces read the same texts as the whole.

## Main definitions

* `encoded`: the bytes of a text.
* `Begins`: the ways in which bytes begin with a character.

## Main results

* `decodeStep_eq_character_iff`: when a character is taken off the front.
* `decode_eq_ok_iff`, `decodePieces_eq_ok_iff`: a text is read from its bytes and from no others.
-/

namespace PluginHarness.Text

open String (utf8EncodeChar)

/-- The bytes of a text. -/
def encoded (text : List Char) : List UInt8 := text.flatMap utf8EncodeChar

@[simp] theorem encoded_nil : encoded [] = [] := rfl

@[simp] theorem encoded_cons (c : Char) (text : List Char) :
    encoded (c :: text) = utf8EncodeChar c ++ encoded text := List.flatMap_cons

theorem encoded_append (text text' : List Char) :
    encoded (text ++ text') = encoded text ++ encoded text' := List.flatMap_append

/-! ### One character -/

theorem isContinuation_iff (b : UInt8) :
    isContinuation b = true ↔ 128 ≤ b.toNat ∧ b.toNat < 192 := by
  simp [isContinuation, UInt8.le_iff_toNat_le, UInt8.lt_iff_toNat_lt]

theorem secondOfThree_iff (a b : UInt8) : secondOfThree a b = true ↔
    isContinuation b = true ∧ ¬ (a.toNat = 224 ∧ b.toNat < 160) ∧
      ¬ (a.toNat = 237 ∧ 160 ≤ b.toNat) := by
  simp [secondOfThree, UInt8.le_iff_toNat_le, UInt8.lt_iff_toNat_lt, ← UInt8.toNat_inj, and_assoc,
    imp_iff_not_or]

theorem secondOfFour_iff (a b : UInt8) : secondOfFour a b = true ↔
    isContinuation b = true ∧ ¬ (a.toNat = 240 ∧ b.toNat < 144) ∧
      ¬ (a.toNat = 244 ∧ 144 ≤ b.toNat) := by
  simp [secondOfFour, UInt8.le_iff_toNat_le, UInt8.lt_iff_toNat_lt, ← UInt8.toNat_inj, and_assoc,
    imp_iff_not_or]

/-- The ways in which bytes begin with a character of so many bytes. -/
inductive Begins : List UInt8 → Char → Nat → Prop
  | one {a : UInt8} {rest : List UInt8} {c : Char} (ha : a.toNat < 128) (hc : c.toNat = a.toNat) :
      Begins (a :: rest) c 1
  | two {a b : UInt8} {rest : List UInt8} {c : Char} (ha : 194 ≤ a.toNat) (ha' : a.toNat < 224)
      (hb : isContinuation b = true) (hc : c.toNat = a.toNat % 32 * 64 + payload b) :
      Begins (a :: b :: rest) c 2
  | three {a b b' : UInt8} {rest : List UInt8} {c : Char} (ha : 224 ≤ a.toNat)
      (ha' : a.toNat < 240) (hb : secondOfThree a b = true) (hb' : isContinuation b' = true)
      (hc : c.toNat = (a.toNat % 16 * 64 + payload b) * 64 + payload b') :
      Begins (a :: b :: b' :: rest) c 3
  | four {a b b' b'' : UInt8} {rest : List UInt8} {c : Char} (ha : 240 ≤ a.toNat)
      (ha' : a.toNat < 245) (hb : secondOfFour a b = true) (hb' : isContinuation b' = true)
      (hb'' : isContinuation b'' = true)
      (hc : c.toNat = ((a.toNat % 8 * 64 + payload b) * 64 + payload b') * 64 + payload b'') :
      Begins (a :: b :: b' :: b'' :: rest) c 4

theorem toNat_ofNat {n : Nat} (h : n < 0xD800 ∨ 0xDFFF < n ∧ n < 0x110000) :
    (Char.ofNat n).toNat = n := by
  rw [Char.ofNat, dif_pos h]
  rfl

variable {bytes : List UInt8} {c : Char} {n : Nat}

theorem begins_of_decodeStep (h : decodeStep bytes = .character c n) : Begins bytes c n := by
  rcases bytes with _ | ⟨a, rest⟩
  · cases h
  simp only [decodeStep, UInt8.lt_iff_toNat_lt, UInt8.reduceToNat] at h
  -- the ranges of the first byte: one byte, no beginning, two, three and four bytes, no beginning
  split at h
  · cases h
    exact .one ‹_› (toNat_ofNat (by omega))
  split at h
  · cases h
  split at h
  · rcases rest with _ | ⟨b, rest⟩
    · cases h
    dsimp only at h
    split at h <;> cases h
    have hlt : payload b < 64 := Nat.mod_lt _ (by decide)
    exact .two (by omega) ‹_› ‹_› (toNat_ofNat (by omega))
  split at h
  · rcases rest with _ | ⟨b, _ | ⟨b', rest⟩⟩
    · cases h
    · dsimp only at h
      split at h <;> cases h
    dsimp only at h
    split at h
    · cases h
    next hb =>
    split at h <;> cases h
    have hb : secondOfThree a b = true := by simpa using hb
    have hlt : payload b' < 64 := Nat.mod_lt _ (by decide)
    refine .three (by omega) ‹_› hb ‹_› (toNat_ofNat ?_)
    -- the second byte keeps the character out of the surrogates
    rw [secondOfThree_iff, isContinuation_iff] at hb
    rw [payload]
    omega
  split at h
  · rcases rest with _ | ⟨b, _ | ⟨b', _ | ⟨b'', rest⟩⟩⟩
    · cases h
    · dsimp only at h
      split at h <;> cases h
    · dsimp only at h
      split at h
      · cases h
      split at h <;> cases h
    dsimp only at h
    split at h
    · cases h
    next hb =>
    split at h
    · cases h
    next hb' =>
    split at h <;> cases h
    have hb : secondOfFour a b = true := by simpa using hb
    have hlt : payload b' < 64 := Nat.mod_lt _ (by decide)
    have hlt' : payload b'' < 64 := Nat.mod_lt _ (by decide)
    refine .four (by omega) ‹_› hb (by simpa using hb') ‹_› (toNat_ofNat ?_)
    -- the second byte keeps the character below the end of the code space
    rw [secondOfFour_iff, isContinuation_iff] at hb
    rw [payload]
    omega
  · cases h

theorem Begins.decodeStep (h : Begins bytes c n) : decodeStep bytes = .character c n := by
  have hc (m : Nat) (hm : c.toNat = m) : Char.ofNat m = c := hm ▸ Char.ofNat_toNat c
  cases h with
  | one ha hv =>
    simp only [Text.decodeStep, UInt8.lt_iff_toNat_lt, UInt8.reduceToNat]
    rw [if_pos ha, hc _ hv]
  | two ha ha' hb hv =>
    simp only [Text.decodeStep, UInt8.lt_iff_toNat_lt, UInt8.reduceToNat]
    rw [if_neg (by omega), if_neg (by omega), if_pos ha', if_pos hb, hc _ hv]
  | three ha ha' hb hb' hv =>
    simp only [Text.decodeStep, UInt8.lt_iff_toNat_lt, UInt8.reduceToNat, hb]
    rw [if_neg (by omega), if_neg (by omega), if_neg (by omega), if_pos ha', hc _ hv]
    exact if_pos hb'
  | four ha ha' hb hb' hb'' hv =>
    simp only [Text.decodeStep, UInt8.lt_iff_toNat_lt, UInt8.reduceToNat, hb, hb']
    rw [if_neg (by omega), if_neg (by omega), if_neg (by omega), if_neg (by omega), if_pos ha',
      hc _ hv]
    exact if_pos hb''

theorem begins_encode (c : Char) (rest : List UInt8) :
    Begins (utf8EncodeChar c ++ rest) c (utf8EncodeChar c).length := by
  have hv : c.toNat < 0xD800 ∨ 0xDFFF < c.toNat ∧ c.toNat < 0x110000 := c.valid
  have htail (n : Nat) : isContinuation (UInt8.ofNat (n % 64 + 128)) = true := by
    rw [isContinuation_iff, UInt8.toNat_ofNat']
    omega
  have hpayload (n : Nat) : payload (UInt8.ofNat (n % 64 + 128)) = n % 64 := by
    rw [payload, UInt8.toNat_ofNat']
    omega
  unfold utf8EncodeChar
  rw [show c.val.toNat = c.toNat from rfl]
  dsimp only
  split
  · refine .one ?_ ?_ <;> rw [UInt8.toNat_ofNat'] <;> omega
  split
  · refine .two ?_ ?_ (htail _) ?_ <;> simp only [hpayload, UInt8.toNat_ofNat'] <;> omega
  split
  · refine .three ?_ ?_ ((secondOfThree_iff _ _).mpr ⟨htail _, ?_, ?_⟩) (htail _) ?_ <;>
      simp only [hpayload, UInt8.toNat_ofNat'] <;> omega
  · refine .four ?_ ?_ ((secondOfFour_iff _ _).mpr ⟨htail _, ?_, ?_⟩) (htail _) (htail _) ?_ <;>
      simp only [hpayload, UInt8.toNat_ofNat'] <;> omega

theorem Begins.encode (h : Begins bytes c n) :
    bytes = utf8EncodeChar c ++ bytes.drop n ∧ n = (utf8EncodeChar c).length := by
  have hbyte {m : Nat} {b : UInt8} (hm : b.toNat = m) : b = UInt8.ofNat m :=
    hm ▸ (UInt8.ofNat_toNat).symm
  unfold utf8EncodeChar
  rw [show c.val.toNat = c.toNat from rfl]
  dsimp only
  cases h with
  | one ha hc =>
    rw [if_pos (by omega)]
    exact ⟨congrArg (· :: _) (hbyte hc.symm), rfl⟩
  | two ha ha' hb hc =>
    rw [isContinuation_iff] at hb
    rw [payload] at hc
    rw [if_neg (by omega), if_pos (by omega)]
    simp only [List.cons_append, List.nil_append, List.cons.injEq]
    exact ⟨⟨hbyte (by omega), hbyte (by omega), rfl⟩, rfl⟩
  | three ha ha' hb hb' hc =>
    rw [secondOfThree_iff, isContinuation_iff] at hb
    rw [isContinuation_iff] at hb'
    rw [payload, payload] at hc
    rw [if_neg (by omega), if_neg (by omega), if_pos (by omega)]
    simp only [List.cons_append, List.nil_append, List.cons.injEq]
    exact ⟨⟨hbyte (by omega), hbyte (by omega), hbyte (by omega), rfl⟩, rfl⟩
  | four ha ha' hb hb' hb'' hc =>
    rw [secondOfFour_iff, isContinuation_iff] at hb
    rw [isContinuation_iff] at hb' hb''
    rw [payload, payload, payload] at hc
    rw [if_neg (by omega), if_neg (by omega), if_neg (by omega)]
    simp only [List.cons_append, List.nil_append, List.cons.injEq]
    exact ⟨⟨hbyte (by omega), hbyte (by omega), hbyte (by omega), hbyte (by omega), rfl⟩, rfl⟩

/-- **A character is taken off the front exactly when its bytes stand there.** -/
theorem decodeStep_eq_character_iff : decodeStep bytes = .character c n ↔
    ∃ rest, bytes = utf8EncodeChar c ++ rest ∧ n = (utf8EncodeChar c).length := by
  constructor
  · exact fun h => ⟨_, (begins_of_decodeStep h).encode⟩
  · rintro ⟨rest, rfl, rfl⟩
    exact (begins_encode c rest).decodeStep

theorem decodeStep_encode (c : Char) (rest : List UInt8) :
    decodeStep (utf8EncodeChar c ++ rest) = .character c (utf8EncodeChar c).length :=
  decodeStep_eq_character_iff.mpr ⟨rest, rfl, rfl⟩

/-- Bytes that are refused are refused with any bytes behind them. -/
theorem decodeStep_append {r : DecodeReason} (h : decodeStep bytes = .invalid r n)
    (more : List UInt8) : decodeStep (bytes ++ more) = .invalid r n := by
  rcases bytes with _ | ⟨a, _ | ⟨b, _ | ⟨c, _ | ⟨d, rest⟩⟩⟩⟩
  · cases h
  all_goals
    simp only [decodeStep, List.cons_append, List.nil_append] at h ⊢
    grind

/-! ### Texts -/

/-- Texts with the same bytes in front have the same characters there. -/
theorem append_eq_encoded_iff {found text : List Char} {rest : List UInt8} :
    encoded found ++ rest = encoded text ↔
      ∃ others, text = found ++ others ∧ rest = encoded others := by
  induction found generalizing text with
  | nil => simp
  | cons c found ih =>
    constructor
    · intro h
      rw [encoded_cons, List.append_assoc] at h
      have hstep := decodeStep_encode c (encoded found ++ rest)
      rw [h] at hstep
      cases text with
      | nil => cases hstep
      | cons c' text =>
        rw [encoded_cons, decodeStep_encode, DecodeStep.character.injEq] at hstep
        obtain ⟨rfl, -⟩ := hstep
        obtain ⟨others, rfl, hrest⟩ := ih.mp (List.append_cancel_left h)
        exact ⟨others, rfl, hrest⟩
    · rintro ⟨others, rfl, rfl⟩
      rw [← encoded_append]

/-- The bytes of a text begin with a character, unless there are none. -/
theorem not_encoded_of_decodeStep {a : UInt8} {rest : List UInt8}
    (h : ∀ c n, decodeStep (a :: rest) ≠ .character c n) (text : List Char) :
    a :: rest ≠ encoded text := by
  intro htext
  cases text with
  | nil => cases htext
  | cons c text =>
    rw [encoded_cons] at htext
    exact h c _ (htext ▸ decodeStep_encode c (encoded text))

theorem encoded_eq_nil_iff {text : List Char} : encoded text = [] ↔ text = [] := by
  refine ⟨fun h => ?_, fun h => h ▸ rfl⟩
  cases text with
  | nil => rfl
  | cons c text =>
    have hstep := decodeStep_encode c (encoded text)
    rw [← encoded_cons, h] at hstep
    cases hstep

theorem encoded_injective : Function.Injective encoded := by
  intro text text' h
  obtain ⟨others, rfl, hrest⟩ := append_eq_encoded_iff.mp ((List.append_nil _).trans h)
  rw [encoded_eq_nil_iff.mp hrest.symm, List.append_nil]

/-! ### Reading -/

/-- Taking a character off the front leaves fewer bytes. -/
theorem drop_of_decodeStep (h : decodeStep bytes = .character c n) :
    bytes = utf8EncodeChar c ++ bytes.drop n ∧ (bytes.drop n).length < bytes.length := by
  obtain ⟨rest, rfl, rfl⟩ := decodeStep_eq_character_iff.mp h
  have hpos := c.utf8Size_pos
  rw [List.drop_left, List.length_append, String.length_utf8EncodeChar]
  exact ⟨rfl, by omega⟩

variable {more : Bool} {count position : Nat} {found text : List Char} {rest : List UInt8}

/-- What is read has the bytes that were read, and nothing is left at the end of the file. -/
theorem decodeFrom_ok (hcount : bytes.length ≤ count)
    (h : decodeFrom more count position found bytes = .ok (text, rest)) :
    ∃ new, text = found.reverse ++ new ∧ bytes = encoded new ++ rest ∧
      (more = false → rest = []) := by
  induction count generalizing position found bytes with
  | zero =>
    obtain rfl := List.length_eq_zero_iff.mp (Nat.le_zero.mp hcount)
    cases h
    exact ⟨[], by simp, rfl, fun _ => rfl⟩
  | succ count ih =>
    rcases bytes with _ | ⟨a, bytes⟩
    · cases h
      exact ⟨[], by simp, rfl, fun _ => rfl⟩
    rw [decodeFrom] at h
    split at h
    · next c n hstep =>
      obtain ⟨hbytes, hlen⟩ := drop_of_decodeStep hstep
      obtain ⟨new, rfl, hnew, hend⟩ := ih (by omega) h
      refine ⟨c :: new, by simp, ?_, hend⟩
      rw [encoded_cons, List.append_assoc, ← hnew]
      exact hbytes
    · split at h <;> cases h
      next hmore => exact ⟨[], by simp, rfl, fun hm => absurd hmore (by simp [hm])⟩
    · split at h <;> cases h
      next hcut => exact ⟨[], by simp, rfl, fun hm => absurd hcut (by simp [hm])⟩

/-- What is refused is the beginning of no text, whatever may follow. -/
theorem decodeFrom_error {f : DecodeFault} (hcount : bytes.length ≤ count)
    (h : decodeFrom more count position found bytes = .error f) (hrest : more = false → rest = [])
    (text : List Char) : bytes ++ rest ≠ encoded text := by
  induction count generalizing position found bytes text with
  | zero => cases h
  | succ count ih =>
    rcases bytes with _ | ⟨a, bytes⟩
    · cases h
    rw [decodeFrom] at h
    split at h
    · next c n hstep =>
      obtain ⟨hbytes, hlen⟩ := drop_of_decodeStep hstep
      intro htext
      have hfront : encoded [c] ++ ((a :: bytes).drop n ++ rest) = encoded text := by
        rw [encoded_cons, encoded_nil, List.append_nil, ← List.append_assoc, ← hbytes, htext]
      obtain ⟨others, -, hothers⟩ := append_eq_encoded_iff.mp hfront
      exact ih (by omega) h others hothers
    · next hstep =>
      split at h <;> cases h
      next hmore =>
      rw [hrest (by simpa using hmore), List.append_nil]
      exact not_encoded_of_decodeStep (fun _ _ hc => nomatch hstep.symm.trans hc) text
    · next hstep =>
      exact not_encoded_of_decodeStep
        (fun _ _ hc => nomatch (decodeStep_append hstep rest).symm.trans hc) text

/-- **A text is read from its bytes and from no others.** -/
theorem decode_eq_ok_iff : decode bytes = .ok text ↔ bytes = encoded text := by
  unfold decode
  rcases h : decodeFrom false bytes.length 0 [] bytes with f | ⟨text', rest⟩
  · have hno := decodeFrom_error (Nat.le_refl _) h (fun _ => rfl) text
    rw [List.append_nil] at hno
    exact ⟨fun ht => (nomatch ht), fun ht => absurd ht hno⟩
  · obtain ⟨new, rfl, hbytes, hend⟩ := decodeFrom_ok (Nat.le_refl _) h
    rw [hend rfl, List.append_nil] at hbytes
    rw [hbytes, encoded_injective.eq_iff]
    exact ⟨fun ht => Except.ok.inj ht, fun ht => congrArg Except.ok ht⟩

/-- At the end of the file, what is pending is all there is. -/
theorem decodePiecesFrom_nil (count : Nat) (pending : List UInt8) :
    decodePiecesFrom (count + 1) pending [] = decode pending := by
  simp only [decodePiecesFrom, List.take_nil, List.append_nil, List.isEmpty_nil, Bool.not_true,
    if_true]
  rfl

/-- Before that, a piece is read together with what is pending. -/
theorem decodePiecesFrom_of_ne (count : Nat) (pending : List UInt8) (h : bytes ≠ []) :
    decodePiecesFrom (count + 1) pending bytes =
      match decodeFrom true (pending ++ bytes.take pieceSize).length 0 []
          (pending ++ bytes.take pieceSize) with
      | .ok (found, left) => (found ++ ·) <$> decodePiecesFrom count left (bytes.drop pieceSize)
      | .error f => .error f := by
  have hpiece : (bytes.take pieceSize).isEmpty = false := by
    simpa [pieceSize] using h
  simp only [decodePiecesFrom, hpiece, Bool.not_false, Bool.false_eq_true, if_false]
  rcases decodeFrom true _ 0 [] _ with f | ⟨found, left⟩ <;> rfl

theorem decodePiecesFrom_eq_ok_iff {pending : List UInt8}
    (hcount : bytes.length + pieceSize ≤ count * pieceSize) :
    decodePiecesFrom count pending bytes = .ok text ↔ pending ++ bytes = encoded text := by
  induction count generalizing pending bytes text with
  | zero => exact absurd hcount (by simp [pieceSize])
  | succ count ih =>
    by_cases hempty : bytes = []
    · rw [hempty, decodePiecesFrom_nil, decode_eq_ok_iff, List.append_nil]
    have hsplit : pending ++ bytes = pending ++ bytes.take pieceSize ++ bytes.drop pieceSize := by
      rw [List.append_assoc, List.take_append_drop]
    rw [decodePiecesFrom_of_ne count pending hempty, hsplit]
    rcases h : decodeFrom true (pending ++ bytes.take pieceSize).length 0 []
      (pending ++ bytes.take pieceSize) with f | ⟨found, left⟩
    · have hno : pending ++ bytes.take pieceSize ++ bytes.drop pieceSize ≠ encoded text :=
        decodeFrom_error (Nat.le_refl _) h nofun text
      exact ⟨fun ht => (nomatch ht), fun ht => absurd ht hno⟩
    · obtain ⟨new, rfl, hnew, -⟩ := decodeFrom_ok (Nat.le_refl _) h
      have hrest : (bytes.drop pieceSize).length + pieceSize ≤ count * pieceSize := by
        have hpos := List.length_pos_iff.mpr hempty
        rw [List.length_drop]
        simp only [pieceSize] at hcount ⊢
        omega
      rw [hnew, List.append_assoc, append_eq_encoded_iff]
      dsimp only
      constructor
      · intro htext
        rcases hothers : decodePiecesFrom count left (bytes.drop pieceSize) with f | others <;>
          rw [hothers] at htext <;> cases htext
        exact ⟨others, rfl, (ih hrest).mp hothers⟩
      · rintro ⟨others, rfl, hothers⟩
        rw [(ih hrest).mpr hothers]
        rfl

/-- **Reading in pieces reads the same.** -/
theorem decodePieces_eq_ok_iff : decodePieces bytes = .ok text ↔ bytes = encoded text := by
  rw [decodePieces, decodePiecesFrom_eq_ok_iff, List.nil_append]
  have h := Nat.div_add_mod bytes.length pieceSize
  have hlt := Nat.mod_lt bytes.length (show 0 < pieceSize by decide)
  rw [pieceSize] at h hlt ⊢
  omega

end PluginHarness.Text
