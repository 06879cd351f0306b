/-!
# Packed tables

Properties that map a character to a few characters are kept as numbers, 24 bits for a character,
the character looked up in the lowest ones.

- `unpack`: the characters of a packed number.
- `PackedTable.find?`: what a table holds for a character.
-/

namespace MarkdownCheck.Unicode

/-- The characters packed into a number, 24 bits each, lowest first. The first argument bounds
their count. -/
def unpack : Nat → Nat → List Char
  | 0, _ => []
  | bound + 1, packed =>
    if packed = 0 then []
    else Char.ofNat (packed % 0x1000000) :: unpack bound (packed / 0x1000000)

/-- Rows of packed entries, sorted by their lowest character. Each row comes after the highest
character that it has an entry for. -/
abbrev PackedTable := List (Nat × List Nat)

/-- No entry maps to more characters than this. -/
def longestEntry : Nat := 18

/-- What the entries for a character map it to, in the table's order. -/
def PackedTable.findAll (table : PackedTable) (c : Char) : List (List Char) :=
  match table.find? fun (highest, _) => c.toNat ≤ highest with
  | none => []
  | some (_, row) =>
    (row.filter (· % 0x1000000 = c.toNat)).map fun entry => unpack longestEntry (entry / 0x1000000)

/-- What the first entry for a character maps it to. -/
def PackedTable.find? (table : PackedTable) (c : Char) : Option (List Char) :=
  match List.find? (fun (highest, _) => c.toNat ≤ highest) table with
  | none => none
  | some (_, row) =>
    (row.find? (· % 0x1000000 = c.toNat)).map fun entry => unpack longestEntry (entry / 0x1000000)

end MarkdownCheck.Unicode
