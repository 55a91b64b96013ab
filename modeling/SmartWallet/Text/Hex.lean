import SmartWallet.Bytes
import SmartWallet.Text.Number

/-!
# Hexadecimal text

Two digits per byte, the high one first. Digits are written in lower case.
-/

namespace SmartWallet.Hex

def encodeByte (b : UInt8) : List Char :=
  [Nat.digitChar (b.toNat / 16), Nat.digitChar (b.toNat % 16)]

def encode (bs : List UInt8) : String := String.ofList (bs.flatMap encodeByte)

/-- Reads pairs of digits, behind the bytes already read, the latest first. -/
def decodeFrom? (read : List UInt8) : List Char → Option (List UInt8)
  | [] => some read.reverse
  | [_] => none
  | high :: low :: rest => do
    let n ← Text.natIn? 16 [high, low]
    decodeFrom? (UInt8.ofNat n :: read) rest

/-- Reads a text back, unless a character is no digit or a digit has no partner. -/
def decode? (s : String) : Option (List UInt8) := decodeFrom? [] s.toList

end SmartWallet.Hex
