import Reckoner.Text.Spelling

/-!
# UTF-8

Decoding goes through the bytes once. Between characters it expects a byte that starts one; inside a
character it owes a number of continuation bytes, of which the first may have narrower limits than
the others. The limits rule out the three kinds of code that denote no character: overlong ones,
halves of surrogate pairs, and those beyond the last code point.

A fault names the bytes that belong together up to it: a byte that starts nothing by itself, a
character that was begun and not continued up to the byte that failed to continue it, and a
character that the end of the data cuts short up to that end.
-/

namespace Reckoner.Text.Utf8

/-- Why bytes are no text. -/
inductive Reason where
  | badStart
  | badContinuation
  | cutShort
  deriving DecidableEq, Repr

/-- The wording of a reason. -/
def Reason.text : Reason → String
  | badStart => "invalid start byte"
  | badContinuation => "invalid continuation byte"
  | cutShort => "unexpected end of data"

/-- Bytes that are no text: the reason, where the bytes concerned start, how many they are, and the
first of them. -/
structure Fault where
  reason : Reason
  start : Nat
  count : Nat
  byte : UInt8
  deriving DecidableEq, Repr

/-- The wording of a fault. -/
def Fault.message (e : Fault) : String :=
  let which :=
    if e.count = 1 then
      "byte 0x" ++ String.ofList (hex 2 e.byte.toNat) ++ " in position " ++ decimal e.start
    else "bytes in position " ++ decimal e.start ++ "-" ++ decimal (e.start + e.count - 1 : Nat)
  "'utf-8' codec can't decode " ++ which ++ ": " ++ e.reason.text

/-- A character that has been begun. -/
structure Begun where
  /-- Its first byte. -/
  byte : UInt8
  /-- How many of its bytes have been read. -/
  count : Nat
  /-- How many of its bytes are still to come. -/
  owed : Nat
  /-- The bits read so far. -/
  code : Nat
  /-- The limits of the next byte. -/
  least : Nat
  greatest : Nat
  deriving DecidableEq, Repr

/-- The character that a byte begins, if it begins one of several bytes. -/
def begin? (byte : UInt8) : Option Begun :=
  let b := byte.toNat
  if b < 0xC2 then none
  else if b < 0xE0 then some ⟨byte, 1, 1, b - 0xC0, 0x80, 0xBF⟩
  else if b = 0xE0 then some ⟨byte, 1, 2, b - 0xE0, 0xA0, 0xBF⟩
  else if b = 0xED then some ⟨byte, 1, 2, b - 0xE0, 0x80, 0x9F⟩
  else if b < 0xF0 then some ⟨byte, 1, 2, b - 0xE0, 0x80, 0xBF⟩
  else if b = 0xF0 then some ⟨byte, 1, 3, b - 0xF0, 0x90, 0xBF⟩
  else if b < 0xF4 then some ⟨byte, 1, 3, b - 0xF0, 0x80, 0xBF⟩
  else if b = 0xF4 then some ⟨byte, 1, 3, b - 0xF0, 0x80, 0x8F⟩
  else none

/-- A begun character after one more continuation byte. -/
def Begun.continue (c : Begun) (byte : UInt8) : Begun :=
  { c with
    count := c.count + 1, owed := c.owed - 1, code := c.code * 64 + (byte.toNat - 0x80),
    least := 0x80, greatest := 0xBF }

/-- Decodes the bytes from number `index` on. What has been decoded is kept newest first. -/
def decodeFrom (index : Nat) (begun : Option Begun) (done : List Char) :
    List UInt8 → Except Fault (List Char)
  | [] =>
    match begun with
    | none => .ok done.reverse
    | some c => .error ⟨.cutShort, index - c.count, c.count, c.byte⟩
  | byte :: rest =>
    match begun with
    | none =>
      if byte < 0x80 then decodeFrom (index + 1) none (Char.ofNat byte.toNat :: done) rest
      else
        match begin? byte with
        | some c => decodeFrom (index + 1) (some c) done rest
        | none => .error ⟨.badStart, index, 1, byte⟩
    | some c =>
      if c.least ≤ byte.toNat ∧ byte.toNat ≤ c.greatest then
        let c' := c.continue byte
        if c'.owed = 0 then decodeFrom (index + 1) none (Char.ofNat c'.code :: done) rest
        else decodeFrom (index + 1) (some c') done rest
      else .error ⟨.badContinuation, index - c.count, c.count, c.byte⟩

/-- The text that bytes encode. -/
def decode (bytes : List UInt8) : Except Fault (List Char) := decodeFrom 0 none [] bytes

end Reckoner.Text.Utf8
