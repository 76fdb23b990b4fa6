/-!
# Values of TOML documents

A document is a table. Tables remember how they came about, since that decides whether a later part
of the document may add to them.
-/

set_option autoImplicit false

namespace FileSearch.Toml

/-- How a table came about. -/
inductive Origin where
  /-- A header names it. -/
  | header
  /-- A header names a table inside it. -/
  | implied
  /-- A dotted key names a value inside it. -/
  | dotted
  /-- It is written in braces. -/
  | braces
  deriving DecidableEq, Repr

/-- The values in a document. Of numbers and points in time only the kind is kept. -/
inductive Value where
  | text (chars : List Char)
  | boolean (value : Bool)
  | number
  | moment
  | list (elements : List Value)
  | table (origin : Origin) (entries : List (List Char × Value))
  /-- The tables that headers in double brackets name. -/
  | tables (elements : List Value)
  deriving Repr

abbrev Entries := List (List Char × Value)

/-- A value with another one in its table, in place of its last table if it has several, unless
it cannot be added to. -/
def Value.extend (dotted : Bool) (change : Entries → Option Entries) : Value → Option Value
  | .table origin entries =>
    if origin = .braces || (dotted && origin = .header) then none
    else (change entries).map (.table origin)
  | .tables elements =>
    match elements.getLast? with
    | some (.table origin entries) =>
      if dotted then none
      else
        (change entries).map fun entries => .tables (elements.dropLast ++ [.table origin entries])
    | _ => none
  | _ => none

namespace Entries

def replace (entries : Entries) (key : List Char) (value : Value) : Entries :=
  entries.map fun entry => if entry.1 == key then (key, value) else entry

/-- Changes the entries that a path leads to. Tables that are missing on the way are made. -/
def descend (dotted : Bool) (change : Entries → Option Entries) :
    List (List Char) → Entries → Option Entries
  | [], entries => change entries
  | key :: path, entries =>
    match entries.lookup key with
    | none =>
      (descend dotted change path []).map fun inner =>
        entries ++ [(key, .table (if dotted then .dotted else .implied) inner)]
    | some value =>
      (value.extend dotted (descend dotted change path)).map (entries.replace key)

def add (key : List Char) (value : Value) (entries : Entries) : Option Entries :=
  if (entries.lookup key).isSome then none else some (entries ++ [(key, value)])

def assign (path : List (List Char)) (key : List Char) (value : Value) (entries : Entries) :
    Option Entries :=
  descend true (add key value) path entries

/-- Entries with a table for a key that a header names. -/
def openTable (key : List Char) (entries : Entries) : Option Entries :=
  match entries.lookup key with
  | none => some (entries ++ [(key, .table .header [])])
  | some (.table .implied inner) => some (entries.replace key (.table .header inner))
  | some _ => none

/-- Entries with a further table for a key that a header in double brackets names. -/
def openElement (key : List Char) (entries : Entries) : Option Entries :=
  match entries.lookup key with
  | none => some (entries ++ [(key, .tables [.table .header []])])
  | some (.tables elements) =>
    some (entries.replace key (.tables (elements ++ [.table .header []])))
  | some _ => none

end Entries

end FileSearch.Toml
