import MarkdownCheck.Toml.Basic
import MarkdownCheck.Value

/-!
# Dates and times of TOML

- `takeDate?`: a date, with a time of day and an offset if they follow.
- `takeTime?`: a time of day.

Both are kept as text: a `T` between date and time, six digits of a second if it has a fraction, and
the offset with its sign.
-/

namespace MarkdownCheck.Toml

/-- A number of exactly `width` decimal digits between two bounds. -/
def takePart? (width low high : Nat) (text : Text) : Option (Nat × Text) :=
  let digits := text.take width
  let n := digits.foldl (fun value digit => 10 * value + (digit.toNat - '0'.toNat)) 0
  if digits.length = width && digits.all Char.isDigit && low ≤ n && n ≤ high then
    some (n, text.drop width)
  else none

/-- What follows a character. -/
def takeChar? (wanted : Char) : Text → Option Text
  | c :: rest => if c = wanted then some rest else none
  | [] => none

/-- The number of days of a month. -/
def daysIn (year month : Nat) : Nat :=
  let isLeap := year % 4 = 0 && (year % 100 ≠ 0 || year % 400 = 0)
  if month = 2 then (if isLeap then 29 else 28) else if [4, 6, 9, 11].contains month then 30 else 31

/-- A number with zeros before it. -/
def padded (width n : Nat) : Text :=
  let digits := Text.ofNat n
  List.replicate (width - digits.length) '0' ++ digits

/-- The digits of a fraction of a second, cut to six and filled up to six. -/
def takeMicros (text : Text) : Text × Text :=
  match text with
  | '.' :: rest =>
    let digits := rest.takeWhile Char.isDigit
    if digits.isEmpty then ([], text)
    else
      let kept := digits.take 6
      (kept ++ List.replicate (6 - kept.length) '0', rest.drop digits.length)
  | _ => ([], text)

/-- A time of day. -/
def takeTime? (text : Text) : Option (Text × Text) := do
  let (hour, rest) ← takePart? 2 0 23 text
  let (minute, rest) ← takePart? 2 0 59 (← takeChar? ':' rest)
  let (second, rest) ← takePart? 2 0 59 (← takeChar? ':' rest)
  let (micros, rest) := takeMicros rest
  let fraction := if micros.all (· = '0') then [] else '.' :: micros
  some (padded 2 hour ++ ':' :: padded 2 minute ++ ':' :: padded 2 second ++ fraction, rest)

/-- The offset of a time of day, empty if there is none. -/
def takeOffset (text : Text) : Text × Text :=
  let utc := "+00:00".toList
  match text with
  | 'Z' :: rest | 'z' :: rest => (utc, rest)
  | sign :: rest =>
    let offset := do
      if sign ≠ '+' && sign ≠ '-' then none
      let (hour, rest) ← takePart? 2 0 23 rest
      let (minute, rest) ← takePart? 2 0 59 (← takeChar? ':' rest)
      let shown := sign :: padded 2 hour ++ ':' :: padded 2 minute
      some (if hour = 0 && minute = 0 then utc else shown, rest)
    offset.getD ([], text)
  | [] => ([], [])

/-- A time of day behind a date, with its offset; empty if none follows. -/
def takeTimeOfDate (text : Text) : Text × Text :=
  match text with
  | separator :: rest =>
    let separates := separator = 'T' || separator = 't' || separator = ' '
    match (if separates then takeTime? rest else none) with
    | some (time, after) =>
      let (offset, after) := takeOffset after
      ('T' :: time ++ offset, after)
    | none => ([], text)
  | [] => ([], [])

/-- A date, with a time of day if one follows. There is no year 0 and no 30th of February; `none`
when no date stands here. -/
def takeDate? (text : Text) : Option (Except Failure (Value × Text)) := do
  let (year, rest) ← takePart? 4 0 9999 text
  let (month, rest) ← takePart? 2 1 12 (← takeChar? '-' rest)
  let (day, rest) ← takePart? 2 1 31 (← takeChar? '-' rest)
  let (time, rest) := takeTimeOfDate rest
  let date := padded 4 year ++ '-' :: padded 2 month ++ '-' :: padded 2 day
  if year = 0 || daysIn year month < day then some (.error .invalid)
  else some (.ok (.date (date ++ time), rest))

end MarkdownCheck.Toml
