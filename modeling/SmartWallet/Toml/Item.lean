/-!
# Items of a settings document

A TOML document is a tree of tables. How a table came about decides what may still be added to it,
so every table remembers its origin.
-/

namespace SmartWallet.Toml

/-- How a table came about. -/
inductive Origin
  /-- By a header of its own; the root counts as such a table. -/
  | header
  /-- By the header of a table inside it. -/
  | implied
  /-- By a dotted key. -/
  | dotted
  /-- Written out as a value. -/
  | inline
deriving DecidableEq

/-- A value or a table. Of a float and of a date only the presence is kept: no setting uses one. -/
inductive Item
  | string (text : String)
  | integer (value : Int)
  | float
  | boolean (value : Bool)
  | datetime
  | array (items : List Item)
  | table (origin : Origin) (entries : List (String × Item))
  /-- Tables under one repeated header, in order. -/
  | tables (items : List (List (String × Item)))

/-- The entries of a table, without repeated keys. -/
abbrev Entries := List (String × Item)

namespace Entries

/-- Replaces the item of a key, or appends one. -/
def set (key : String) (item : Item) : Entries → Entries
  | [] => [(key, item)]
  | e :: rest => if e.1 == key then (key, item) :: rest else e :: set key item rest

/-- Changes the table at the end of a path that starts in a table of the given origin. Missing
tables are made on the way. A dotted path does not enter tables that have a header of their own; no
path enters a value. The last table of a repeated header stands for all of them. -/
def update (dotted : Bool) (change : Origin → Entries → Option Entries) :
    Origin → List String → Entries → Option Entries
  | origin, [], entries => change origin entries
  | _, key :: path, entries =>
    match entries.lookup key with
    | none => do
      let origin := if dotted then Origin.dotted else .implied
      let inner ← update dotted change origin path []
      pure (entries.set key (.table origin inner))
    | some (.table origin inner) => do
      guard (origin ≠ .inline ∧ ¬ (dotted ∧ origin = .header))
      let inner ← update dotted change origin path inner
      pure (entries.set key (.table origin inner))
    | some (.tables items) => do
      let last ← items.getLast?
      let last ← update dotted change .header path last
      pure (entries.set key (.tables (items.dropLast ++ [last])))
    | some _ => none

/-- A key with the dotted path in front of it. -/
structure DottedKey where
  path : List String
  key : String

/-- Adds an item under a dotted key. The table that it goes to must have come about by dotted keys
just if the key is dotted, and must not have the key yet. -/
def insert (origin : Origin) (entries : Entries) (k : DottedKey) (item : Item) : Option Entries :=
  update true (fun origin entries => do
    guard (origin ≠ .dotted ↔ k.path = [])
    guard (entries.lookup k.key).isNone
    pure (entries.set k.key item)) origin k.path entries

/-- Adds items one after the other. -/
def insertAll (origin : Origin) (entries : Entries) :
    List (DottedKey × Item) → Option Entries
  | [] => some entries
  | (k, item) :: rest => do
    let entries ← entries.insert origin k item
    insertAll origin entries rest

/-- Adds the table of a header. A table that an inner header implied is taken over; any other item
under the name is a fault. -/
def addTable (root : Entries) (header : DottedKey) (body : List (DottedKey × Item)) :
    Option Entries :=
  update false (fun _ entries => do
    let start ←
      match entries.lookup header.key with
      | none => some []
      | some (.table .implied inner) => some inner
      | some _ => none
    let filled ← insertAll .header start body
    pure (entries.set header.key (.table .header filled))) .header header.path root

/-- Adds one more table of a repeated header. -/
def addToTables (root : Entries) (header : DottedKey) (body : List (DottedKey × Item)) :
    Option Entries :=
  update false (fun _ entries => do
    let items ←
      match entries.lookup header.key with
      | none => some []
      | some (.tables items) => some items
      | some _ => none
    let filled ← insertAll .header [] body
    pure (entries.set header.key (.tables (items ++ [filled])))) .header header.path root

end Entries

end SmartWallet.Toml
