import PagePress.Text.Quoted

/-!
# Texts as bytes

`Utf8.encode` is the UTF-8 form of a text and `Utf8.decode` reads it back.  Bytes that are no text
are refused with an account of where they stand and why: a byte that starts no character, a
character that breaks off before a byte that cannot continue it, or one that breaks off at the end.

`Utf8.newlines` turns the two other line ends, a carriage return with and without a line feed, into
line feeds, as text files are read.
-/

set_option autoImplicit false

namespace PagePress.Utf8

/-- Bytes in order. -/
abbrev Bytes := List UInt8

/-- The bytes of a text. -/
def encode (t : Text) : Bytes := t.flatMap String.utf8EncodeChar

/-- Why bytes are no text. -/
inductive Reason where
  /-- A byte that starts no character. -/
  | start
  /-- A character that is broken off by a byte that cannot continue it. -/
  | continuation
  /-- A character that is broken off by the end. -/
  | ended
  deriving DecidableEq, Repr

/-- The account of bytes that are no text: the bytes at fault and the place of the first. -/
structure Error where
  bytes : Bytes
  position : Nat
  reason : Reason
  deriving DecidableEq, Repr

/-- The number of bytes that follow the first byte of a character, and the bounds of the second;
none if the byte starts no character. -/
def shape (b : UInt8) : Option (Nat × UInt8 × UInt8) :=
  if b < 0x80 then some (0, 0x80, 0xBF)
  else if 0xC2 ≤ b && b ≤ 0xDF then some (1, 0x80, 0xBF)
  else if b == 0xE0 then some (2, 0xA0, 0xBF)
  else if b == 0xED then some (2, 0x80, 0x9F)
  else if 0xE1 ≤ b && b ≤ 0xEF then some (2, 0x80, 0xBF)
  else if b == 0xF0 then some (3, 0x90, 0xBF)
  else if 0xF1 ≤ b && b ≤ 0xF3 then some (3, 0x80, 0xBF)
  else if b == 0xF4 then some (3, 0x80, 0x8F)
  else none

/-- The value that the first byte of a character contributes. -/
def firstBits (b : UInt8) : Nat :=
  let n := b.toNat
  if n < 0x80 then n else if n < 0xE0 then n - 0xC0 else if n < 0xF0 then n - 0xE0 else n - 0xF0

/-- A character of which some bytes are read. -/
structure Begun where
  /-- The bytes read, the last first. -/
  bytes : Bytes
  /-- The value of the bits read. -/
  bits : Nat
  /-- The number of bytes to come, less one. -/
  owed : Nat
  /-- The bounds of the next byte. -/
  low : UInt8
  high : UInt8

/-- Reads bytes as text from the given place on, after a part of a character if there is one. -/
def decodeFrom : Nat → Option Begun → Bytes → Except Error Text
  | _, none, [] => .ok []
  | position, some p, [] =>
    .error ⟨p.bytes.reverse, position - p.bytes.length, .ended⟩
  | position, none, b :: bs =>
    match shape b with
    | none => .error ⟨[b], position, .start⟩
    | some (0, _, _) => (decodeFrom (position + 1) none bs).map (Char.ofNat b.toNat :: ·)
    | some (n + 1, low, high) =>
      decodeFrom (position + 1) (some ⟨[b], firstBits b, n, low, high⟩) bs
  | position, some p, b :: bs =>
    if p.low ≤ b && b ≤ p.high then
      let bits := p.bits * 64 + (b.toNat - 0x80)
      match p.owed with
      | 0 => (decodeFrom (position + 1) none bs).map (Char.ofNat bits :: ·)
      | n + 1 => decodeFrom (position + 1) (some ⟨b :: p.bytes, bits, n, 0x80, 0xBF⟩) bs
    else .error ⟨p.bytes.reverse, position - p.bytes.length, .continuation⟩

/-- The text of bytes. -/
def decode (bs : Bytes) : Except Error Text := decodeFrom 0 none bs

/-- The text with every line end a line feed; `afterReturn` says whether the character before was a
carriage return, whose line feed is already written. -/
def newlinesAfter : Bool → Text → Text
  | _, [] => []
  | afterReturn, c :: cs =>
    if c == '\r' then '\n' :: newlinesAfter true cs
    else if c == '\n' && afterReturn then newlinesAfter false cs
    else c :: newlinesAfter false cs

/-- The text with every line end a line feed. -/
def newlines (t : Text) : Text := newlinesAfter false t

/-- Why the bytes are no text, in words. -/
def Reason.message : Reason → Text
  | .start => "invalid start byte"
  | .continuation => "invalid continuation byte"
  | .ended => "unexpected end of data"

/-- The account of bytes that are no text, in words. -/
def Error.message (e : Error) : Text :=
  let place : Text :=
    match e.bytes with
    | [b] => "byte 0x" ++ Text.hexDigits 2 b.toNat ++ " in position " ++ Nat.toDigits 10 e.position
    | bs =>
      "bytes in position " ++ Nat.toDigits 10 e.position ++ "-" ++
        Nat.toDigits 10 (e.position + bs.length - 1)
  "'utf-8' codec can't decode " ++ place ++ ": " ++ e.reason.message

end PagePress.Utf8
