import SmartWallet.Bytes

/-!
# Base58

Keys and signatures are shown to people in base 58: the bytes are read as one number, highest
first, and every leading zero byte is written as the digit `1`.
-/

namespace SmartWallet.Base58

/-- The digits in order of value; the look-alikes `0`, `O`, `I` and `l` are left out. -/
def alphabet : List Char := "123456789ABCDEFGHJKLMNPQRSTUVWXYZabcdefghijkmnopqrstuvwxyz".toList

def digitChar (d : Nat) : Char := alphabet.getD d '1'

def digitValue? (c : Char) : Option Nat := alphabet.findIdx? (· == c)

/-- The digits of a number in a base of at least two, highest first; zero has none. -/
def digits (base : Nat) (h : 2 ≤ base) (n : Nat) : List Nat :=
  if n = 0 then [] else digits base h (n / base) ++ [n % base]
termination_by n
decreasing_by exact Nat.div_lt_self (Nat.pos_of_ne_zero ‹_›) h

/-- The number with the given digits, highest first. -/
def ofDigits (base : Nat) (ds : List Nat) : Nat := ds.foldl (fun n d => n * base + d) 0

def encodeChars (bs : List UInt8) : List Char :=
  (bs.takeWhile (· == 0)).map (fun _ => '1') ++
    (digits 58 (by decide) (ofDigits 256 (bs.map UInt8.toNat))).map digitChar

/-- The text of a byte string. -/
def encode (bs : List UInt8) : String := String.ofList (encodeChars bs)

/-- Reads a text back, unless a character is no digit. -/
def decode? (s : String) : Option (List UInt8) := do
  let ds ← s.toList.mapM digitValue?
  pure ((ds.takeWhile (· == 0)).map (fun _ => 0) ++
    (digits 256 (by decide) (ofDigits 58 ds)).map UInt8.ofNat)

end SmartWallet.Base58

namespace SmartWallet

/-- Why a text is no key. -/
inductive KeyTextError
  | wrongSize
  | invalidDigit
deriving DecidableEq

namespace KeyTextError

def message : KeyTextError → String
  | wrongSize => "String is the wrong size"
  | invalidDigit => "Invalid Base58 string"

end KeyTextError

namespace Key

/-- The longest text of 32 bytes. -/
def maxTextLength : Nat := 44

/-- Reads a key. A text of more than 44 bytes is refused before its digits are looked at. -/
def ofText (s : String) : Except KeyTextError Key :=
  if s.utf8ByteSize > maxTextLength then .error .wrongSize
  else
    match Base58.decode? s with
    | none => .error .invalidDigit
    | some bs =>
      match Bytes.ofList? 32 bs with
      | none => .error .wrongSize
      | some k => .ok k

end Key

/-- The base 58 text. -/
def Bytes.toText {n : Nat} (b : Bytes n) : String := Base58.encode b.toList

end SmartWallet
