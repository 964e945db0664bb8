import PluginHarness.Text.Digit

/-!
# Text in bytes

Reading UTF-8: shortest forms only, no surrogates, nothing above `U+10FFFF`. What cannot be read
is located by the position of its first byte and by the number of bytes that were looked at.

A file can be read at once, or in pieces of `pieceSize` bytes; in the second case positions
count from the start of a piece, with the bytes of a character that a piece leaves unfinished
carried into the next.

## Main definitions

* `DecodeFault`: what cannot be read, where and why.
* `decode`: bytes to text, at once.
* `decodePieces`: bytes to text, piece by piece.
* `unifyNewlines`: every line end as a newline.
-/

namespace PluginHarness.Text

/-- Why bytes are not UTF-8. -/
inductive DecodeReason where
  | startByte
  | continuationByte
  | endOfData
  deriving DecidableEq, Repr

/-- Bytes that are not UTF-8: the first of them, its position, how many were looked at. -/
structure DecodeFault where
  byte : UInt8
  position : Nat
  length : Nat
  reason : DecodeReason
  deriving DecidableEq, Repr

/-- What the next bytes are. -/
inductive DecodeStep where
  /-- A character in `length` bytes. -/
  | character (c : Char) (length : Nat)
  /-- The beginning of a character that more bytes may finish. -/
  | unfinished
  /-- Not UTF-8, seen after `length` bytes. -/
  | invalid (reason : DecodeReason) (length : Nat)

/-- Whether a byte can continue a character. -/
def isContinuation (b : UInt8) : Bool := 0x80 ≤ b && b < 0xC0

/-- The payload of a continuation byte. -/
def payload (b : UInt8) : Nat := b.toNat % 64

/-- Whether `second` may follow `first` in a character of three bytes. -/
def secondOfThree (first second : UInt8) : Bool :=
  isContinuation second && !(first == 0xE0 && second < 0xA0) && !(first == 0xED && second ≥ 0xA0)

/-- Whether `second` may follow `first` in a character of four bytes. -/
def secondOfFour (first second : UInt8) : Bool :=
  isContinuation second && !(first == 0xF0 && second < 0x90) && !(first == 0xF4 && second ≥ 0x90)

/-- Reads one character off the front. -/
def decodeStep : List UInt8 → DecodeStep
  | [] => .unfinished
  | a :: rest =>
    if a < 0x80 then .character (Char.ofNat a.toNat) 1
    else if a < 0xC2 then .invalid .startByte 1
    else if a < 0xE0 then
      match rest with
      | [] => .unfinished
      | b :: _ =>
        if isContinuation b then .character (Char.ofNat (a.toNat % 32 * 64 + payload b)) 2
        else .invalid .continuationByte 1
    else if a < 0xF0 then
      match rest with
      | [] => .unfinished
      | b :: rest =>
        if !secondOfThree a b then .invalid .continuationByte 1
        else match rest with
          | [] => .unfinished
          | c :: _ =>
            if isContinuation c then
              .character (Char.ofNat ((a.toNat % 16 * 64 + payload b) * 64 + payload c)) 3
            else .invalid .continuationByte 2
    else if a < 0xF5 then
      match rest with
      | [] => .unfinished
      | b :: rest =>
        if !secondOfFour a b then .invalid .continuationByte 1
        else match rest with
          | [] => .unfinished
          | c :: rest =>
            if !isContinuation c then .invalid .continuationByte 2
            else match rest with
              | [] => .unfinished
              | d :: _ =>
                if isContinuation d then
                  .character (Char.ofNat
                    (((a.toNat % 8 * 64 + payload b) * 64 + payload c) * 64 + payload d)) 4
                else .invalid .continuationByte 3
    else .invalid .startByte 1

/-- Reads characters up to the end or up to an unfinished one. `count` bounds the number of
characters, `position` is that of the first byte, and `found` holds the characters read so far,
the last one first. A piece that ends in the first two bytes of a surrogate counts as
unfinished when `more` bytes may follow. -/
def decodeFrom (more : Bool) : (count position : Nat) → List Char → List UInt8 →
    Except DecodeFault (List Char × List UInt8)
  | 0, _, found, bytes => .ok (found.reverse, bytes)
  | _ + 1, _, found, [] => .ok (found.reverse, [])
  | count + 1, position, found, a :: rest =>
    match decodeStep (a :: rest) with
    | .character c n => decodeFrom more count (position + n) (c :: found) ((a :: rest).drop n)
    | .unfinished =>
      if more then .ok (found.reverse, a :: rest)
      else .error ⟨a, position, rest.length + 1, .endOfData⟩
    | .invalid reason n =>
      if more && a == 0xED && rest.length == 1 && rest.all isContinuation then
        .ok (found.reverse, a :: rest)
      else .error ⟨a, position, n, reason⟩

/-- The text that the bytes hold. -/
def decode (bytes : List UInt8) : Except DecodeFault (List Char) :=
  Prod.fst <$> decodeFrom false bytes.length 0 [] bytes

/-- How many bytes one piece has. -/
def pieceSize : Nat := 8192

/-- Reads piece by piece; `pending` holds the unfinished bytes of the piece before. `count`
bounds the number of pieces. -/
def decodePiecesFrom : (count : Nat) → (pending bytes : List UInt8) →
    Except DecodeFault (List Char)
  | 0, _, _ => .ok []
  | count + 1, pending, bytes => do
    let piece := bytes.take pieceSize
    let part := pending ++ piece
    let (found, left) ← decodeFrom (!piece.isEmpty) part.length 0 [] part
    if piece.isEmpty then return found
    return found ++ (← decodePiecesFrom count left (bytes.drop pieceSize))

/-- The text that the bytes hold, read in pieces. -/
def decodePieces (bytes : List UInt8) : Except DecodeFault (List Char) :=
  decodePiecesFrom (bytes.length / pieceSize + 2) [] bytes

/-- A carriage return, with or without a newline after it, becomes a newline. -/
def unifyNewlines : List Char → List Char
  | [] => []
  | '\r' :: '\n' :: rest => '\n' :: unifyNewlines rest
  | '\r' :: rest => '\n' :: unifyNewlines rest
  | c :: rest => c :: unifyNewlines rest

namespace DecodeReason

/-- The reason in words. -/
def message : DecodeReason → String
  | .startByte => "invalid start byte"
  | .continuationByte => "invalid continuation byte"
  | .endOfData => "unexpected end of data"

end DecodeReason

namespace DecodeFault

/-- The fault in words: one byte by its value, several by their positions. -/
def message (f : DecodeFault) : String :=
  let head := "'utf-8' codec can't decode "
  if f.length = 1 then
    head ++ "byte 0x" ++ String.ofList (hexText 2 f.byte.toNat) ++ " in position " ++
      toString f.position ++ ": " ++ f.reason.message
  else
    head ++ "bytes in position " ++ toString f.position ++ "-" ++
      toString (f.position + f.length - 1) ++ ": " ++ f.reason.message

end DecodeFault

end PluginHarness.Text
