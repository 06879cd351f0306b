import MarkdownCheck.Text.Integer
import MarkdownCheck.Toml.Quoted
import MarkdownCheck.Value

/-!
# Numbers of TOML

- `takeNumber?`: an integer or a floating-point number at the start of a text.

A number ends where its form does: of `012` only the zero is taken.
-/

namespace MarkdownCheck.Toml

/-- Digits of a base, single underscores between them left out, as many as fit. -/
def takeDigits (digit? : Char → Option Nat) : Text → List Nat × Text
  | [] => ([], [])
  | c :: '_' :: d :: rest =>
    match digit? c with
    | none => ([], c :: '_' :: d :: rest)
    | some digit =>
      if (digit? d).isSome then
        let (more, after) := takeDigits digit? (d :: rest)
        (digit :: more, after)
      else ([digit], '_' :: d :: rest)
  | c :: rest =>
    match digit? c with
    | none => ([], c :: rest)
    | some digit =>
      let (more, after) := takeDigits digit? rest
      (digit :: more, after)

/-- A digit below a base. -/
def digitBelow? (base : Nat) (c : Char) : Option Nat :=
  (hexDigit? c).filter (· < base)

/-- The number that digits of a base stand for. -/
def ofBase (base : Nat) (digits : List Nat) : Nat :=
  digits.foldl (fun value digit => base * value + digit) 0

/-- The base that a letter behind a zero announces. -/
def base? (c : Char) : Option Nat :=
  [('x', 16), ('b', 2), ('o', 8)].lookup c

/-- An integer with a base of its own. -/
def takeBased? : Text → Option (Nat × Text)
  | '0' :: letter :: rest => do
    let base ← base? letter
    let (digits, after) := takeDigits (digitBelow? base) rest
    if digits.isEmpty then none else some (ofBase base digits, after)
  | _ => none

/-- A sign, which is missing from most numbers. -/
def takeSign : Text → Bool × Text
  | '-' :: rest => (true, rest)
  | '+' :: rest => (false, rest)
  | text => (false, text)

/-- The digits before the point: a zero, or digits that do not start with one. -/
def takeWhole? : Text → Option (List Nat × Text)
  | '0' :: rest => some ([0], rest)
  | text =>
    let (digits, rest) := takeDigits (digitBelow? 10) text
    if digits.isEmpty then none else some (digits, rest)

/-- A point and the digits behind it. -/
def takeFraction? : Text → Option (List Nat × Text)
  | '.' :: rest =>
    let (digits, after) := takeDigits (digitBelow? 10) rest
    if digits.isEmpty then none else some (digits, after)
  | _ => none

/-- An exponent. -/
def takeExponent? : Text → Option (Int × Text)
  | c :: rest =>
    if c = 'e' || c = 'E' then
      let (isNegative, unsigned) := takeSign rest
      let (digits, after) := takeDigits (digitBelow? 10) unsigned
      let size : Int := ofBase 10 digits
      if digits.isEmpty then none else some (if isNegative then -size else size, after)
    else none
  | [] => none

/-- An integer with this sign and these digits. -/
def integer (isNegative : Bool) (digits : List Nat) : Except Failure Value :=
  if Text.mostDigits < digits.length then .error (.hugeInteger digits.length)
  else
    let size : Int := ofBase 10 digits
    .ok (.number (if isNegative then -size else size))

/-- A number; `none` when no number stands here. -/
def takeNumber? (text : Text) : Option (Except Failure (Value × Text)) :=
  match takeBased? text with
  | some (n, rest) => some (.ok (.number n, rest))
  | none => do
    let (isNegative, unsigned) := takeSign text
    let (whole, rest) ← takeWhole? unsigned
    let fraction := takeFraction? rest
    let rest := (fraction.map (·.2)).getD rest
    let exponent := takeExponent? rest
    let rest := (exponent.map (·.2)).getD rest
    if fraction.isNone && exponent.isNone then
      some ((integer isNegative whole).map fun value => (value, rest))
    else
      let digits := (fraction.map (·.1)).getD []
      let power := (exponent.map (·.1)).getD 0 - digits.length
      some (.ok (.real (.ofDecimal isNegative (ofBase 10 (whole ++ digits)) power), rest))

/-- A number that is written as a word. -/
def takeWordNumber? (text : Text) : Option (Value × Text) :=
  let (isNegative, unsigned) := takeSign text
  let infinity := (Text.dropPrefix? "inf".toList unsigned).map fun rest =>
    (Value.real (.infinite isNegative), rest)
  infinity.or ((Text.dropPrefix? "nan".toList unsigned).map fun rest => (Value.real .nan, rest))

end MarkdownCheck.Toml
