import SmartWallet.Toml.Literal

/-!
# Settings documents

Values with parts, keys, lines and tables of a TOML document. `Toml.parse?` gives the entries of the
root table; a document with any fault has none.
-/

namespace SmartWallet.Toml

open SmartWallet.Text (Scan)
open SmartWallet.Text.Scan

/-- The rest of a line from a number sign on. -/
def comment : Scan Unit := do
  char '#'
  let _ ← Scan.takeWhile isPlain
  pure ()

/-- What may end a line after a header or an entry. -/
def lineEnd : Scan Unit := do
  blanks
  let _ ← maybe comment
  newline <|> atEnd

/-! ## Keys -/

def isBareKeyChar (c : Char) : Bool := c.isAlphanum || c == '_' || c == '-'

/-- A key of its own: bare or quoted. -/
def simpleKey : Scan String :=
  basicString <|> literalString <|> do
    let cs ← Scan.takeWhile isBareKeyChar
    guard (cs ≠ [])
    pure (String.ofList cs)

/-- The most parts of a dotted key, and the first depth of nesting that is refused. -/
def nestingLimit : Nat := 80

/-- A key, or several with points between them; blanks around each are dropped. -/
def dottedKey : Scan Entries.DottedKey := do
  let parts ← separatedBy (char '.') do
    blanks
    let key ← simpleKey
    blanks
    pure key
  guard (parts.length < nestingLimit)
  match parts.getLast? with
  | some key => pure ⟨parts.dropLast, key⟩
  | none => failure

/-! ## Values with parts -/

/-- Blanks, line ends and comments between the items of an array. -/
def loose : Scan Unit := do
  blanks
  let _ ← many do
    let _ ← maybe comment
    newline
    blanks
  pure ()

/-- An array; a comma after the last item is allowed. -/
def array (item : Scan Item) : Scan Item := do
  char '['
  let items ← maybe do
    let items ← separatedBy (char ',') do
      loose
      let value ← item
      loose
      pure value
    let _ ← maybe (char ',')
    pure items
  loose
  char ']'
  pure (.array (items.getD []))

/-- A key with its value, as it stands in a table. -/
def keyValue (item : Scan Item) : Scan (Entries.DottedKey × Item) := do
  let key ← dottedKey
  char '='
  blanks
  let value ← item
  pure (key, value)

/-- A table on one line, without a comma after the last entry. -/
def inlineTable (item : Scan Item) : Scan Item := do
  char '\x7b'
  let entries ← maybe <| separatedBy (char ',') do
    let entry ← keyValue item
    blanks
    pure entry
  blanks
  char '\x7d'
  let table ← answer (Entries.insertAll .inline [] (entries.getD []))
  pure (.table .inline table)

/-- A value with at most the given depth of nesting. -/
def value : Nat → Scan Item
  | 0 => scalar
  | depth + 1 => scalar <|> array (value depth) <|> inlineTable (value depth)

/-! ## Lines -/

/-- The entries up to the next header. -/
def body : Scan (List (Entries.DottedKey × Item)) := do
  blanks
  let entry := do
    let entry ← keyValue (value (nestingLimit - 1))
    lineEnd
    pure (some entry)
  let empty := do
    newline <|> do comment; newline <|> atEnd
    pure none
  let lines ← many do
    let line ← entry <|> empty
    blanks
    pure line
  pure (lines.filterMap id)

/-- A header with the entries under it. -/
structure Section where
  header : Entries.DottedKey
  repeated : Bool
  body : List (Entries.DottedKey × Item)

def tableSection : Scan Section := do
  let repeatedHeader := do
    exactly ['[', '[']
    let key ← dottedKey
    exactly [']', ']']
    pure (key, true)
  let plainHeader := do
    char '['
    let key ← dottedKey
    char ']'
    pure (key, false)
  let (header, repeated) ← repeatedHeader <|> plainHeader
  lineEnd
  let entries ← body
  pure ⟨header, repeated, entries⟩

/-- Adds the tables of sections in order. -/
def addSections (root : Entries) : List Section → Option Entries
  | [] => some root
  | s :: rest => do
    let root ←
      if s.repeated then root.addToTables s.header s.body else root.addTable s.header s.body
    addSections root rest

/-- A whole document; a byte order mark may lead it. -/
def document : Scan Entries := do
  let _ ← maybe (char '\ufeff')
  let entries ← body
  let sections ← many tableSection
  let root ← answer (Entries.insertAll .header [] entries)
  answer (addSections root sections)

/-- The root table of a document. -/
def parse? (text : String) : Option Entries := document.run? text

end SmartWallet.Toml
