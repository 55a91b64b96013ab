import SmartWallet.Text.Number
import SmartWallet.Text.Scan
import SmartWallet.Toml.Item

/-!
# Literals of a settings document

Strings in their four forms, integers, floats and dates.
-/

namespace SmartWallet.Toml

open SmartWallet.Text (Scan digitIn? natIn?)
open SmartWallet.Text.Scan

/-- Blanks within a line. -/
def isInlineBlank (c : Char) : Bool := c == ' ' || c == '\t'

/-- Characters that may stand as they are: all but control characters, tabs excepted. -/
def isPlain (c : Char) : Bool := c == '\t' || (0x20 ≤ c.toNat && c.toNat ≠ 0x7f)

def blanks : Scan Unit := do
  let _ ← Scan.takeWhile isInlineBlank
  pure ()

def newline : Scan Unit := char '\n' <|> exactly ['\r', '\n']

/-! ## Strings -/

/-- The character with the code that a number of hexadecimal digits gives. -/
def codePoint (count : Nat) : Scan Char := do
  let digits ← (List.replicate count ()).mapM fun _ => one fun c => (digitIn? 16 c).isSome
  let code ← answer (natIn? 16 digits)
  if h : code.isValidChar then pure (Char.ofNatAux code h) else failure

def escaped : Scan Char := do
  char '\\'
  let c ← one fun _ => true
  match c with
  | 'b' => pure '\x08'
  | 't' => pure '\t'
  | 'n' => pure '\n'
  | 'f' => pure '\x0c'
  | 'r' => pure '\r'
  | '"' => pure '"'
  | '\\' => pure '\\'
  | 'u' => codePoint 4
  | 'U' => codePoint 8
  | _ => failure

/-- A character of a basic string. -/
def basicChar : Scan Char := one (fun c => isPlain c && c ≠ '"' && c ≠ '\\') <|> escaped

/-- A character of a literal string. -/
def literalChar : Scan Char := one fun c => isPlain c && c ≠ '\''

/-- A string on one line between two quotes. -/
def singleLine (quote : Char) (content : Scan Char) : Scan String := do
  char quote
  let cs ← many content
  char quote
  pure (String.ofList cs)

/-- A backslash at the end of a line; all blanks and line ends after it are dropped. -/
def lineContinuation : Scan Unit := do
  char '\\'
  blanks
  newline
  let _ ← many ((do let _ ← one isInlineBlank; pure ()) <|> newline)
  pure ()

/-- One or two quotes that do not end a string of several lines. -/
def shortQuotes (quote : Char) : Scan (List Char) := do
  let quotes ← Scan.takeWhile (· == quote)
  guard (quotes.length = 1 ∨ quotes.length = 2)
  pure quotes

/-- The three quotes at the end, with up to two more of the content before them. -/
def closingQuotes (quote : Char) : Scan (List Char) := do
  exactly [quote, quote, quote]
  let first ← maybe (char quote)
  let second ← maybe (char quote)
  pure (first.toList.map (fun _ => quote) ++ second.toList.map fun _ => quote)

/-- A string of several lines between triple quotes. A line end right after the opening is dropped,
and every line end counts as a line feed. -/
def multiLine (quote : Char) (content : Scan (List Char)) : Scan String := do
  exactly [quote, quote, quote]
  let _ ← maybe newline
  let parts ← many (content <|> shortQuotes quote)
  let last ← closingQuotes quote
  pure (String.ofList (parts.flatten ++ last))

def lineFeed : Scan (List Char) := do
  newline
  pure ['\n']

def joined (c : Scan Char) : Scan (List Char) := do
  let c ← c
  pure [c]

def basicString : Scan String := singleLine '"' basicChar

def literalString : Scan String := singleLine '\'' literalChar

def string : Scan String :=
  multiLine '"' ((do lineContinuation; pure []) <|> joined basicChar <|> lineFeed) <|>
    basicString <|>
    multiLine '\'' (joined literalChar <|> lineFeed) <|>
    literalString

/-! ## Numbers -/

/-- Digits of a base, with single underscores between them. -/
def digits (base : Nat) : Scan (List Char) := do
  let digit := one fun c => (digitIn? base c).isSome
  let first ← digit
  let rest ← many (digit <|> do char '_'; digit)
  pure (first :: rest)

/-- Decimal digits without a leading zero. -/
def wholeDigits : Scan (List Char) := (do char '0'; pure ['0']) <|> digits 10

/-- Whether a minus sign leads. -/
def sign : Scan Bool := (do char '-'; pure true) <|> (do char '+'; pure false) <|> pure false

/-- The range of a signed number of 64 bits. -/
def fitsInteger (n : Int) : Bool := Int64.minValue.toInt ≤ n && n ≤ Int64.maxValue.toInt

def basedInteger (letter : Char) (base : Nat) : Scan Int := do
  exactly ['0', letter]
  let n ← answer ((← digits base) |> natIn? base)
  pure n

def decimalInteger : Scan Int := do
  let negative ← sign
  let n ← answer ((← wholeDigits) |> natIn? 10)
  pure (if negative then -n else n)

def integer : Scan Item := do
  let n ← basedInteger 'x' 16 <|> basedInteger 'o' 8 <|> basedInteger 'b' 2 <|> decimalInteger
  guard (fitsInteger n)
  pure (.integer n)

/-- The least number that rounds to infinity as a double: halfway from the greatest double to the
next power of two. -/
def overflowBound : Nat := Nat.pow 2 1024 - Nat.pow 2 970

/-- Whether the digits, scaled by a power of ten, reach the bound. Only numbers with 309 digits
before the point need to be compared with it. -/
def overflows (ds : List Char) (exponent : Int) : Bool :=
  let significant := ds.dropWhile (· == '0')
  let magnitude := significant.length + exponent
  match natIn? 10 significant with
  | none => false
  | some n =>
    if magnitude < 309 then false
    else if 309 < magnitude then true
    else overflowBound * Nat.pow 10 (-exponent).toNat ≤ n * Nat.pow 10 exponent.toNat

/-- Digits after a point. -/
def fraction : Scan (List Char) := do
  char '.'
  digits 10

/-- A power of ten. -/
def exponent : Scan Int := do
  let _ ← one fun c => c == 'e' || c == 'E'
  let negative ← sign
  let n ← answer ((← digits 10) |> natIn? 10)
  pure (if negative then -n else n)

/-- A float has a fraction or an exponent. A positive one must not overflow. -/
def decimalFloat : Scan Item := do
  let negative ← sign
  let whole ← wholeDigits
  let frac ← maybe fraction
  let exp ← maybe exponent
  guard (frac.isSome || exp.isSome)
  let after := frac.getD []
  guard (negative || !overflows (whole ++ after) (exp.getD 0 - after.length))
  pure .float

def specialFloat : Scan Item := do
  let _ ← sign
  exactly "inf".toList <|> exactly "nan".toList
  pure .float

/-! ## Dates -/

/-- A number of exactly the given count of digits, within bounds. -/
def field (count least greatest : Nat) : Scan Nat := do
  let ds ← (List.replicate count ()).mapM fun _ => one fun c => (digitIn? 10 c).isSome
  let n ← answer (natIn? 10 ds)
  guard (least ≤ n ∧ n ≤ greatest)
  pure n

def isLeapYear (year : Nat) : Bool := year % 4 == 0 && (year % 100 ≠ 0 || year % 400 == 0)

def daysInMonth (year month : Nat) : Nat :=
  if month = 2 then if isLeapYear year then 29 else 28
  else if month = 4 ∨ month = 6 ∨ month = 9 ∨ month = 11 then 30
  else 31

def date : Scan Unit := do
  let year ← field 4 0 9999
  char '-'
  let month ← field 2 1 12
  char '-'
  let _ ← field 2 1 (daysInMonth year month)
  pure ()

/-- A time of day; a minute may have a leap second. -/
def time : Scan Unit := do
  let _ ← field 2 0 23
  char ':'
  let _ ← field 2 0 59
  char ':'
  let _ ← field 2 0 60
  let _ ← maybe do
    char '.'
    many1Digits
  pure ()
where
  many1Digits : Scan Unit := do
    let digit := one fun c => (digitIn? 10 c).isSome
    let _ ← digit
    let _ ← many digit
    pure ()

/-- The distance of a time from universal time. -/
def offset : Scan Unit :=
  (do let _ ← one fun c => c == 'Z' || c == 'z'; pure ()) <|> do
    let _ ← one fun c => c == '+' || c == '-'
    let _ ← field 2 0 23
    char ':'
    let _ ← field 2 0 59
    pure ()

/-- A date, a time, or a date with a time, which alone may have an offset. -/
def datetime : Scan Item := do
  let dated := do
    date
    let _ ← maybe do
      let _ ← one fun c => c == 'T' || c == 't' || c == ' '
      time
      maybe offset
    pure ()
  dated <|> time
  pure .datetime

def number : Scan Item := datetime <|> decimalFloat <|> specialFloat <|> integer

def boolean : Scan Item :=
  (do exactly "true".toList; pure (.boolean true)) <|>
    (do exactly "false".toList; pure (.boolean false))

/-- A value without parts. -/
def scalar : Scan Item := (do let s ← string; pure (.string s)) <|> boolean <|> number

end SmartWallet.Toml
