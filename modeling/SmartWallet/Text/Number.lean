import SmartWallet.Text.Blank

/-!
# Natural numbers in text

Digits in any base up to 36, and the numbers that settings give as text: blanks around them are
dropped, one plus sign may lead, and the rest is decimal digits of ASCII.
-/

namespace SmartWallet.Text

/-- The value of an ASCII digit below the base; letters of either case go on after `9`. -/
def digitIn? (base : Nat) (c : Char) : Option Nat :=
  let value? :=
    if '0' ≤ c && c ≤ '9' then some (c.toNat - '0'.toNat)
    else if 'a' ≤ c && c ≤ 'z' then some (c.toNat - 'a'.toNat + 10)
    else if 'A' ≤ c && c ≤ 'Z' then some (c.toNat - 'A'.toNat + 10)
    else none
  value?.filter (· < base)

/-- The number that a list of digits writes, highest first. -/
def natIn? (base : Nat) (cs : List Char) : Option Nat :=
  if cs.isEmpty then none
  else (cs.mapM (digitIn? base)).map fun ds => ds.foldl (fun n d => base * n + d) 0

/-- Reads a number below a limit. -/
def natBelow? (limit : Nat) (s : String) : Option Nat :=
  let cs := trim s.toList
  let n? :=
    match cs with
    | '+' :: rest => natIn? 10 rest
    | _ => natIn? 10 cs
  n?.filter (· < limit)

end SmartWallet.Text
