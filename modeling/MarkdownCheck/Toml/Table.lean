import MarkdownCheck.Toml.Basic
import MarkdownCheck.Value

/-!
# Tables of TOML

- `Key`: the names that lead from a table to one inside it.
- `insertAt?`: adds an entry to the table at a key.
- `Namespaces`: what may no longer be said about which keys.

Tables on the way to a key are made when they are missing. A list of tables stands for the last one
of them.
-/

namespace MarkdownCheck.Toml

/-- The names that lead from a table to one inside it. -/
abbrev Key := List Text

/-- The entries of a table, in the order in which they are written. -/
abbrev Entries := List (Text × Value)

/-- Entries with the value under a name replaced. -/
def replaceEntry (name : Text) (value : Value) (entries : Entries) : Entries :=
  entries.map fun entry => if entry.1 = name then (name, value) else entry

/-- Changes the table at a key. Lists of tables are entered if `throughLists`. -/
def changeAt? (throughLists : Bool) (change : Entries → Option Entries) :
    Key → Entries → Option Entries
  | [], entries => change entries
  | name :: key, entries =>
    match entries.lookup name with
    | none =>
      (changeAt? throughLists change key []).map fun inner => entries ++ [(name, .table inner)]
    | some (.table inner) =>
      (changeAt? throughLists change key inner).map fun inner =>
        replaceEntry name (.table inner) entries
    | some (.list items) =>
      match items.getLast? with
      | some (.table inner) =>
        if throughLists then
          (changeAt? throughLists change key inner).map fun inner =>
            replaceEntry name (.list (items.dropLast ++ [.table inner])) entries
        else none
      | _ => none
    | some _ => none

/-- Adds an entry with a new name to the table at a key. -/
def insertAt? (throughLists : Bool) (key : Key) (name : Text) (value : Value) (entries : Entries) :
    Option Entries :=
  changeAt? throughLists (fun inner =>
    if (inner.lookup name).isSome then none else some (inner ++ [(name, value)])) key entries

/-- Makes the table at a key, if it is not there yet. -/
def openAt? (key : Key) (entries : Entries) : Option Entries :=
  changeAt? true some key entries

/-- Adds an empty table to the list at a name in the table at a key. -/
def appendAt? (key : Key) (name : Text) (entries : Entries) : Option Entries :=
  changeAt? true (fun inner =>
    match inner.lookup name with
    | none => some (inner ++ [(name, .list [.table []])])
    | some (.list items) => some (replaceEntry name (.list (items ++ [.table []])) inner)
    | some _ => none) key entries

/-! ## What is closed -/

/-- Which keys may no longer be opened or changed. -/
structure Namespaces where
  /-- Tables that a header has opened, or that dotted keys have made under an earlier header. -/
  opened : List Key := []
  /-- Values that are complete, with everything inside them. -/
  frozen : List Key := []
  /-- Tables that dotted keys have made under the present header. -/
  pending : List Key := []

namespace Namespaces

/-- Whether a header may no longer open a table. -/
def isOpened (spaces : Namespaces) (key : Key) : Bool :=
  spaces.opened.contains key

/-- Whether a key lies in a value that is complete. -/
def isFrozen (spaces : Namespaces) (key : Key) : Bool :=
  spaces.frozen.any fun known => known.isPrefixOf key

/-- Notes that a header has opened a table. -/
def openTable (spaces : Namespaces) (key : Key) : Namespaces :=
  { spaces with opened := key :: spaces.opened }

/-- Notes that a value is complete. -/
def freeze (spaces : Namespaces) (key : Key) : Namespaces :=
  { spaces with frozen := key :: spaces.frozen }

/-- Forgets everything about a key and what is inside it. -/
def forget (spaces : Namespaces) (key : Key) : Namespaces :=
  { spaces with
    opened := spaces.opened.filter fun known => !key.isPrefixOf known
    frozen := spaces.frozen.filter fun known => !key.isPrefixOf known }

/-- Closes the tables of the section that ends. -/
def endSection (spaces : Namespaces) : Namespaces :=
  { spaces with opened := spaces.pending ++ spaces.opened, pending := [] }

end Namespaces

end MarkdownCheck.Toml
