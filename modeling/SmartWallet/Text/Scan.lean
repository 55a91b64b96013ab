/-!
# Scanning text

A scan reads a front part of a text and leaves the rest, or fails. A failing alternative leaves the
text as it was.
-/

namespace SmartWallet.Text

abbrev Scan (α : Type) := StateT (List Char) Option α

namespace Scan

/-- One character that meets a condition. -/
def one (p : Char → Bool) : Scan Char
  | c :: rest => if p c then some (c, rest) else none
  | [] => none

def char (c : Char) : Scan Unit := do
  let _ ← one (· == c)
  pure ()

/-- The given characters in order. -/
def exactly : List Char → Scan Unit
  | [] => pure ()
  | c :: rest => do
    char c
    exactly rest

/-- All characters up to the first that misses a condition. -/
def takeWhile (p : Char → Bool) : Scan (List Char) := fun cs =>
  some (cs.takeWhile p, cs.dropWhile p)

/-- A value that may be missing. -/
def maybe {α : Type} (scan : Scan α) : Scan (Option α) := fun cs =>
  match scan cs with
  | some (a, rest) => some (some a, rest)
  | none => some (none, cs)

/-- Succeeds at the end of the text only. -/
def atEnd : Scan Unit
  | [] => some ((), [])
  | _ => none

/-- The values of a scan, as long as it succeeds and reads something. -/
def manyFrom {α : Type} (scan : Scan α) (cs : List Char) : List α × List Char :=
  match scan cs with
  | none => ([], cs)
  | some (a, rest) =>
    if rest.length < cs.length then
      let (more, rest) := manyFrom scan rest
      (a :: more, rest)
    else ([], cs)
termination_by cs.length

def many {α : Type} (scan : Scan α) : Scan (List α) := fun cs => some (manyFrom scan cs)

/-- One or more values with a separator between them. -/
def separatedBy {α : Type} (separator : Scan Unit) (item : Scan α) : Scan (List α) := do
  let first ← item
  let rest ← many (do separator; item)
  pure (first :: rest)

/-- What was read, if there is an answer to it. -/
def answer {α : Type} (a : Option α) : Scan α := fun cs => a.map fun v => (v, cs)

/-- Reads the whole text. -/
def run? {α : Type} (scan : Scan α) (s : String) : Option α :=
  match scan s.toList with
  | some (a, []) => some a
  | _ => none

end Scan

end SmartWallet.Text
