import ModelCodegen.Entries
import ModelCodegen.Toml.Moment

/-!
# Settings tables

A settings document is a table of values, which may be tables again.  How a table came about
decides who may add to it.  A table that is only
implied by the name of another one may be opened once by a header of its own; a table made of dotted
keys grows by dotted keys only; a table in braces is closed.
-/

namespace ModelCodegen.Toml

/-- How a table came about. -/
inductive Origin where
  /-- By a header of its own, or as the whole document. -/
  | headed
  /-- By a header that names a table inside it. -/
  | implied
  /-- By a dotted key. -/
  | dotted
  /-- In braces. -/
  | braced
  deriving DecidableEq, Repr

/-- A value of a settings document. -/
inductive Value where
  | text (text : String)
  | bool (value : Bool)
  /-- A number as it is written. -/
  | number (text : String)
  | moment (moment : Moment)
  | array (items : List Value)
  | table (origin : Origin) (entries : List (String × Value))
  deriving Repr

/-- The entries of a table. -/
abbrev Table := List (String × Value)

namespace Table

/-- Add a value under a dotted key.  The tables on the way must be implied or dotted, and the last
of them dotted. -/
def add (value : Value) : List String → Table → Option Table
  | [], _ => none
  | [key], table =>
    match Entries.get? key table with
    | none => some (Entries.insert key value table)
    | some _ => none
  | key :: next :: rest, table =>
    match Entries.get? key table with
    | none => (add value (next :: rest) []).map fun inner =>
      Entries.insert key (.table .dotted inner) table
    | some (.table origin entries) =>
      if origin = .dotted ∨ (origin = .implied ∧ rest ≠ []) then
        (add value (next :: rest) entries).map fun inner =>
          Entries.insert key (.table origin inner) table
      else none
    | some _ => none

/-- Open the table of a header. -/
def openHeader : List String → Table → Option Table
  | [], _ => none
  | [key], table =>
    match Entries.get? key table with
    | none => some (Entries.insert key (.table .headed []) table)
    | some (.table .implied entries) => some (Entries.insert key (.table .headed entries) table)
    | some _ => none
  | key :: next :: rest, table =>
    match Entries.get? key table with
    | none => (openHeader (next :: rest) []).map fun inner =>
      Entries.insert key (.table .implied inner) table
    | some (.table origin entries) =>
      if origin = .braced then none
      else
        (openHeader (next :: rest) entries).map fun inner =>
          Entries.insert key (.table origin inner) table
    | some _ => none

/-- Change the table that a header has opened. -/
def within (change : Table → Option Table) : List String → Table → Option Table
  | [], table => change table
  | key :: rest, table =>
    match Entries.get? key table with
    | some (.table origin entries) =>
      (within change rest entries).map fun inner =>
        Entries.insert key (.table origin inner) table
    | _ => none

end Table

end ModelCodegen.Toml
