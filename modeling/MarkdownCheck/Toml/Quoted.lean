import MarkdownCheck.Toml.Basic

/-!
# Quoted texts of TOML

- `takeBasic`: a text between double quotes, with escapes.
- `takeLiteral`: a text between single quotes, as it stands.
- `takeLongBasic`, `takeLongLiteral`: the same between three quotes on each side, over several
  lines.
-/

namespace MarkdownCheck.Toml

/-! ## Escapes -/

/-- The character that a backslash and a letter stand for. -/
def shortEscape? (c : Char) : Option Char :=
  [('b', '\x08'), ('t', '\t'), ('n', '\n'), ('f', '\x0c'), ('r', '\r'), ('"', '"'),
    ('\\', '\\')].lookup c

/-- The value of a hexadecimal digit. -/
def hexDigit? (c : Char) : Option Nat :=
  if '0' ≤ c && c ≤ '9' then some (c.toNat - '0'.toNat)
  else if 'a' ≤ c && c ≤ 'f' then some (c.toNat - 'a'.toNat + 10)
  else if 'A' ≤ c && c ≤ 'F' then some (c.toNat - 'A'.toNat + 10)
  else none

/-- Whether a number is that of a character. Surrogates are none. -/
def isScalar (n : Nat) : Bool :=
  n < 0xD800 || (0xE000 ≤ n && n ≤ 0x10FFFF)

/-- The character whose number is written with exactly `width` hexadecimal digits. -/
def takeCode (width : Nat) (text : Text) : Except Failure (Char × Text) :=
  match (text.take width).mapM hexDigit? with
  | some digits =>
    let n := digits.foldl (fun value digit => 16 * value + digit) 0
    if digits.length = width && isScalar n then .ok (Char.ofNat n, text.drop width)
    else .error .invalid
  | none => .error .invalid

/-- The character that an escape stands for, read from behind its backslash. -/
def takeEscape : Reader Char
  | 'u' :: rest => takeCode 4 rest
  | 'U' :: rest => takeCode 8 rest
  | c :: rest =>
    match shortEscape? c with
    | some escaped => .ok (escaped, rest)
    | none => .error .invalid
  | [] => .error .invalid

/-- What follows a backslash at the end of a line, read from behind the backslash: all blanks and
line feeds are passed over; `none` when something else stands on the line. -/
def skipLineEnd? (text : Text) : Option Text :=
  match skipSpaces text with
  | '\n' :: rest => some (rest.dropWhile fun c => isSpace c || c = '\n')
  | [] => some []
  | _ => none

/-! ## Between single marks -/

/-- A text up to a double quote, at most `bound` characters and escapes. -/
def takeBasicWithin : (bound : Nat) → Reader Text
  | 0, _ => .error .invalid
  | _ + 1, [] => .error .invalid
  | bound + 1, c :: rest =>
    if c = '"' then .ok ([], rest)
    else if c = '\\' then do
      let (escaped, after) ← takeEscape rest
      let (more, after) ← takeBasicWithin bound after
      .ok (escaped :: more, after)
    else if isControl c then .error .invalid
    else do
      let (more, after) ← takeBasicWithin bound rest
      .ok (c :: more, after)

/-- A text between double quotes, read from behind the first. -/
def takeBasic (text : Text) : Except Failure (Text × Text) :=
  takeBasicWithin (text.length + 1) text

/-- A text between single quotes, read from behind the first. -/
def takeLiteral : Reader Text
  | [] => .error .invalid
  | c :: rest =>
    if c = '\'' then .ok ([], rest)
    else if isControl c then .error .invalid
    else do
      let (more, after) ← takeLiteral rest
      .ok (c :: more, after)

/-! ## Between three marks -/

/-- Up to two quotes at the end of a text belong to it, if more than three stand there. -/
def takeExtra (quote : Char) (inside : Text) (text : Text) : Text × Text :=
  let extra := (text.takeWhile (· = quote)).take 2
  (inside ++ extra, text.drop extra.length)

/-- A text up to three double quotes, at most `bound` characters and escapes. -/
def takeLongBasicWithin : (bound : Nat) → Reader Text
  | 0, _ => .error .invalid
  | _ + 1, [] => .error .invalid
  | _ + 1, '"' :: '"' :: '"' :: rest => .ok ([], rest)
  | bound + 1, c :: rest =>
    if c = '\\' then
      match rest with
      | d :: _ =>
        if isSpace d || d = '\n' then
          match skipLineEnd? rest with
          | some after => takeLongBasicWithin bound after
          | none => .error .invalid
        else do
          let (escaped, after) ← takeEscape rest
          let (more, after) ← takeLongBasicWithin bound after
          .ok (escaped :: more, after)
      | [] => .error .invalid
    else if isControl c && c ≠ '\n' then .error .invalid
    else do
      let (more, after) ← takeLongBasicWithin bound rest
      .ok (c :: more, after)

/-- A text without a line feed at its start. -/
def dropLineFeed : Text → Text
  | '\n' :: rest => rest
  | text => text

/-- A text between three double quotes on each side, read from behind the first ones. -/
def takeLongBasic (text : Text) : Except Failure (Text × Text) := do
  let (inside, rest) ← takeLongBasicWithin (text.length + 1) (dropLineFeed text)
  .ok (takeExtra '"' inside rest)

/-- A text between three single quotes on each side, read from behind the first ones. -/
def takeLongLiteral (text : Text) : Except Failure (Text × Text) :=
  match Text.cut ['\'', '\'', '\''] (dropLineFeed text) with
  | some (inside, rest) =>
    if inside.any fun c => isControl c && c ≠ '\n' then .error .invalid
    else .ok (takeExtra '\'' inside rest)
  | none => .error .invalid

end MarkdownCheck.Toml
