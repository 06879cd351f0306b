import MarkdownCheck.Decimal.Binary64

/-!
# Values of settings

What a configuration file, a caller or the command line may give for a setting. Values of the wrong
kind stay as they are until they are checked.

- `Value`: a value of any kind.
- `Value.agrees`: equality of values; flags, integers and other numbers compare as numbers.
- `Value.items?`, `Value.holds?`: a value as a collection.
-/

namespace MarkdownCheck

/-- A value of any kind. -/
inductive Value where
  | null
  | flag (value : Bool)
  | number (value : Int)
  | real (value : Binary64)
  | text (value : Text)
  /-- A date or a time, as it is written. -/
  | date (shown : Text)
  | list (items : List Value)
  | table (entries : List (Text × Value))
deriving Repr, Inhabited

namespace Value

/-- Whether a value is the absence of one. -/
def isNull : Value → Bool
  | .null => true
  | _ => false

/-- A flag or an integer as an integer. -/
def asInt? : Value → Option Int
  | .flag value => some (if value then 1 else 0)
  | .number value => some value
  | _ => none

/-- Whether two values without parts agree. -/
def atomsAgree (a b : Value) : Bool :=
  match a, b with
  | .null, .null => true
  | .text a, .text b => a = b
  | .date a, .date b => a = b
  | .real a, .real b => a.agrees b
  | .real a, b => b.asInt?.any a.equalsInt
  | a, .real b => a.asInt?.any b.equalsInt
  | a, b => a.asInt?.isSome && a.asInt? = b.asInt?

mutual

/-- Whether two values agree. The order of the entries of a table makes no difference. -/
def agrees : Value → Value → Bool
  | .list a, .list b => listsAgree a b
  | .table a, .table b => a.length = b.length && entriesIn a b
  | a, b => atomsAgree a b

/-- Whether two lists agree item by item. -/
def listsAgree : List Value → List Value → Bool
  | [], [] => true
  | a :: as, b :: bs => agrees a b && listsAgree as bs
  | _, _ => false

/-- Whether a table has all of these entries. -/
def entriesIn : List (Text × Value) → List (Text × Value) → Bool
  | [], _ => true
  | (key, a) :: rest, other =>
    other.any (fun entry => entry.1 = key && agrees a entry.2) && entriesIn rest other

end

/-- The items of a collection: those of a list, the characters of a text, the keys of a table. -/
def items? : Value → Option (List Value)
  | .list items => some items
  | .text value => some (value.map fun c => .text [c])
  | .table entries => some (entries.map fun entry => .text entry.1)
  | _ => none

/-- Whether a collection holds an item; `none` when the question makes no sense. A text holds its
pieces, and a table its keys, which lists and tables cannot be. -/
def holds? (collection item : Value) : Option Bool :=
  match collection, item with
  | .list items, item => some (items.any fun known => known.agrees item)
  | .text whole, .text piece => some (Text.includes piece whole)
  | .table entries, .text key => some (entries.any (·.1 = key))
  | .table _, .list _ => none
  | .table _, .table _ => none
  | .table _, _ => some false
  | _, _ => none

/-- The text that a value is. -/
def text? : Value → Option Text
  | .text value => some value
  | _ => none

end Value

end MarkdownCheck
