import MarkdownCheck.Toml.Date
import MarkdownCheck.Toml.Number
import MarkdownCheck.Toml.Table

/-!
# Keys and values of TOML

- `takeKey`: a key of one or more names with dots between them.
- `takeValue`: a value, with the values inside it.
- `takePair`: a key and its value.

A value inside another one starts further right, so the length of the text bounds how deep values
are nested.
-/

namespace MarkdownCheck.Toml

/-! ## Keys -/

/-- A character of a name that needs no quotes. -/
def isBare (c : Char) : Bool :=
  c.isAlphanum || c = '-' || c = '_'

/-- One name of a key. -/
def takeName : Reader Text
  | '\'' :: rest => takeLiteral rest
  | '"' :: rest => takeBasic rest
  | text =>
    let name := text.takeWhile isBare
    if name.isEmpty then .error .invalid else .ok (name, text.dropWhile isBare)

/-- A key of at most `bound` names, with the blanks behind it. -/
def takeKeyWithin : (bound : Nat) → Reader Key
  | 0, _ => .error .invalid
  | bound + 1, text => do
    let (name, rest) ← takeName text
    match skipSpaces rest with
    | '.' :: after => do
      let (more, rest) ← takeKeyWithin bound (skipSpaces after)
      .ok (name :: more, rest)
    | after => .ok ([name], after)

/-- A key, with the blanks behind it. -/
def takeKey (text : Text) : Except Failure (Key × Text) :=
  takeKeyWithin (text.length + 1) text

/-! ## Values -/

/-- A key and its value, given a reader of values. -/
def takePairWith (value : Reader Value) : Reader (Key × Value) := fun text => do
  let (key, rest) ← takeKey text
  match rest with
  | '=' :: after => do
    let (value, rest) ← value (skipSpaces after)
    .ok ((key, value), rest)
  | _ => .error .invalid

/-- The items of a list up to its bracket, at most `bound` of them. -/
def takeItems (value : Reader Value) : (bound : Nat) → Reader (List Value)
  | 0, _ => .error .invalid
  | bound + 1, text => do
    match ← skipGaps text with
    | ']' :: rest => .ok ([], rest)
    | rest => do
      let (item, rest) ← value rest
      match ← skipGaps rest with
      | ']' :: rest => .ok ([item], rest)
      | ',' :: rest => do
        let (more, rest) ← takeItems value bound rest
        .ok (item :: more, rest)
      | _ => .error .invalid

/-- Whether a value has parts. -/
def hasParts : Value → Bool
  | .list _ | .table _ => true
  | _ => false

/-- The entries of a table up to its brace, at most `bound` of them, added to the ones before.
`frozen` are the keys of earlier values that are complete. -/
def takeEntries (value : Reader Value) (frozen : List Key) (entries : Entries) :
    (bound : Nat) → Reader Entries
  | 0, _ => .error .invalid
  | bound + 1, text => do
    let ((key, item), rest) ← takePairWith value text
    if frozen.any (·.isPrefixOf key) then .error .invalid
    match insertAt? false key.dropLast (key.getLast?.getD []) item entries with
    | none => .error .invalid
    | some entries =>
      match skipSpaces rest with
      | '\x7d' :: rest => .ok (entries, rest)
      | ',' :: rest =>
        takeEntries value (if hasParts item then key :: frozen else frozen) entries bound
          (skipSpaces rest)
      | _ => .error .invalid

/-- A table on one line, read from behind its brace. -/
def takeTable (value : Reader Value) (text : Text) : Except Failure (Value × Text) :=
  match skipSpaces text with
  | '\x7d' :: rest => .ok (.table [], rest)
  | rest => (takeEntries value [] [] (rest.length + 1) rest).map fun (entries, after) =>
      (.table entries, after)

/-- A value that stands for itself: a date, a time, a number. -/
def takeAtom (text : Text) : Except Failure (Value × Text) :=
  match takeDate? text with
  | some date => date
  | none =>
    match takeTime? text with
    | some (time, rest) => .ok (.date time, rest)
    | none =>
      match takeNumber? text with
      | some number => number
      | none =>
        match takeWordNumber? text with
        | some number => .ok number
        | none => .error .invalid

/-- A value with at most `depth` levels of values inside it. -/
def takeValueWithin : (depth : Nat) → Reader Value
  | 0, _ => .error .invalid
  | _ + 1, '"' :: '"' :: '"' :: rest =>
    (takeLongBasic rest).map fun (text, rest) => (.text text, rest)
  | _ + 1, '"' :: rest => (takeBasic rest).map fun (text, rest) => (.text text, rest)
  | _ + 1, '\'' :: '\'' :: '\'' :: rest =>
    (takeLongLiteral rest).map fun (text, rest) => (.text text, rest)
  | _ + 1, '\'' :: rest => (takeLiteral rest).map fun (text, rest) => (.text text, rest)
  | _ + 1, 't' :: 'r' :: 'u' :: 'e' :: rest => .ok (.flag true, rest)
  | _ + 1, 'f' :: 'a' :: 'l' :: 's' :: 'e' :: rest => .ok (.flag false, rest)
  | depth + 1, '[' :: rest =>
    (takeItems (takeValueWithin depth) (rest.length + 1) rest).map fun (items, rest) =>
      (.list items, rest)
  | depth + 1, '\x7b' :: rest => takeTable (takeValueWithin depth) rest
  | _ + 1, text => takeAtom text

/-- A value. -/
def takeValue (text : Text) : Except Failure (Value × Text) :=
  takeValueWithin (text.length + 1) text

/-- A key and its value. -/
def takePair (text : Text) : Except Failure ((Key × Value) × Text) :=
  takePairWith takeValue text

end MarkdownCheck.Toml
