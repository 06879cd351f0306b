import MarkdownCheck.Text.CaseBlind
import MarkdownCheck.Markdown.Link.Escaped

/-!
# Addresses

- `Address.parse`, `Address.render`: the parts of an address and the address of its parts. The parts
  are read leniently: any text has them.
- `Address.isSafe`: whether a link may point to an address.
- `Address.display`: an address as the text of a link shows it.
-/

namespace MarkdownCheck.Markdown

/-- The parts of an address. Path, query and fragment stay together. -/
structure Address where
  /-- The scheme with its colon. -/
  scheme : Text := []
  /-- Whether two slashes stand before the host. -/
  hasSlashes : Bool := false
  user : Text := []
  host : Text := []
  port : Text := []
  path : Text := []
deriving Repr

namespace Address

/-! ## Hosts -/

/-- A character that ends the host. -/
def endsHost (c : Char) : Bool :=
  "%/?;#'\x7b\x7d|\\^\x60<>\" \r\n\t".toList.contains c

/-- A character of a part of a host name. -/
def isHostChar (c : Char) : Bool :=
  c.isAlphanum || c = '+' || c = '_' || c = '-'

/-- Splits a host at the colon before its port. -/
def splitPort (host : Text) : Text × Text :=
  let port := host.reverse.takeWhile Char.isDigit
  match host.reverse.dropWhile Char.isDigit with
  | ':' :: name => (name.reverse, port.reverse)
  | _ => (host, [])

/-- The valid start of a list of host parts, and what the host loses from there on; `none` when all
parts are valid. -/
def invalidFrom? : List Text → Option (List Text × List Text)
  | [] => none
  | part :: rest =>
    let shown := part.map fun c => if c.toNat > 127 then 'x' else c
    if shown.length ≤ 63 && shown.all isHostChar then
      (invalidFrom? rest).map fun (valid, lost) => (part :: valid, lost)
    else
      let start := (part.takeWhile isHostChar).take 63
      some ([start], part.drop start.length :: rest)

/-- A host name cut down to its valid start, and what moves to the path. -/
def validHost (name : Text) : Text × Text :=
  match invalidFrom? (Text.splitAt '.' name) with
  | some (valid, lost) => (Text.join ['.'] valid, Text.join ['.'] lost)
  | none => (name, [])

/-- Whether a host is a bracketed network number. -/
def isBracketed (host : Text) : Bool :=
  host.head? = some '[' && host.getLast? = some ']'

/-- Adds the host that a text starts with to an address, and what follows it as its path. -/
def readHost (address : Address) (text : Text) : Address :=
  let authority := text.takeWhile fun c => c ≠ '/' && c ≠ '?' && c ≠ '#'
  let (user, text) :=
    if authority.contains '@' then
      let behind := (authority.reverse.takeWhile (· ≠ '@')).reverse
      let count := authority.length - behind.length
      (text.take (count - 1), text.drop count)
    else ([], text)
  let whole := text.takeWhile (!endsHost ·)
  let named := if whole.getLast? = some ':' then whole.dropLast else whole
  let rest := text.drop named.length
  let (name, port) := splitPort named
  let (host, lost) := if isBracketed name then (name, []) else validHost name
  let host := if host.length > 255 then [] else host
  let host := if isBracketed name then host.tail.dropLast else host
  { address with user := user, host := host, port := port, path := lost ++ rest }

/-! ## Parts -/

/-- A character of a scheme. -/
def isSchemeChar (c : Char) : Bool :=
  Text.isLetterLike c || c.isDigit || c = '.' || c = '+' || c = '-'

/-- The scheme at the start of a text, its colon included, and the rest. -/
def splitScheme (text : Text) : Text × Text :=
  let name := text.takeWhile isSchemeChar
  match text.drop name.length with
  | ':' :: rest => if name.isEmpty then ([], text) else (name ++ [':'], rest)
  | _ => ([], text)

/-- Schemes whose addresses name a host only behind two slashes. -/
def slashedSchemes : List Text :=
  ["http:", "https:", "ftp:", "gopher:", "file:"].map String.toList

/-- The parts of an address. -/
def parse (text : Text) : Address :=
  let (scheme, rest) := splitScheme (Text.trim text)
  if scheme = "javascript:".toList then { scheme := scheme, path := rest }
  else
    match Text.dropPrefix? ['/', '/'] rest with
    | some rest => readHost { scheme := scheme, hasSlashes := true } rest
    | none =>
      if scheme.isEmpty || slashedSchemes.contains scheme then { scheme := scheme, path := rest }
      else readHost { scheme := scheme } rest

/-- The address of its parts. -/
def render (address : Address) : Text :=
  address.scheme
    ++ (if address.hasSlashes then ['/', '/'] else [])
    ++ (if address.user.isEmpty then [] else address.user ++ ['@'])
    ++ (if address.host.contains ':' then '[' :: address.host ++ [']'] else address.host)
    ++ (if address.port.isEmpty then [] else ':' :: address.port)
    ++ address.path

/-! ## Safety -/

/-- Schemes that links may not use. -/
def unsafeSchemes : List Text :=
  ["vbscript:", "javascript:", "file:", "data:"].map String.toList

/-- Addresses of pictures that carry their data, which links may use. -/
def pictureStarts : List Text :=
  ["data:image/gif;", "data:image/png;", "data:image/jpeg;", "data:image/webp;"].map String.toList

/-- Whether a link may point to an address. -/
def isSafe (text : Text) : Bool :=
  let shown := (Text.trim (parse text).render).map Char.toLower
  let starts (word : Text) : Bool := (Text.dropPrefix? word shown).isSome
  !unsafeSchemes.any starts || pictureStarts.any starts

/-! ## International host names -/

/-- The threshold of the digit at a place of a delta, for a bias. -/
def threshold (place bias : Nat) : Nat :=
  min 26 (max 1 (36 * (place + 1) - bias))

/-- Divides a delta down and counts the divisions, 36 for each. -/
def divisions (delta : Nat) : Nat × Nat :=
  if delta ≤ 455 then (0, delta)
  else
    let (count, rest) := divisions (delta / 35)
    (count + 36, rest)
termination_by delta

/-- The bias for the next delta. -/
def adapt (delta : Nat) (isFirst : Bool) (count : Nat) : Nat :=
  let halved := if isFirst then delta / 700 else delta / 2
  let (steps, rest) := divisions (halved + halved / count)
  steps + 36 * rest / (rest + 38)

/-- The value of a digit: letters first, then figures. -/
def deltaDigit? (c : Char) : Option Nat :=
  if c.isDigit then some (c.toNat - '0'.toNat + 26)
  else if c.isAlpha then some (c.toLower.toNat - 'a'.toNat)
  else none

/-- Reads a delta: its value and the rest of the text. -/
def readDelta (bias : Nat) : (place weight sum : Nat) → Text → Option (Nat × Text)
  | _, _, _, [] => none
  | place, weight, sum, c :: rest => do
    let digit ← deltaDigit? c
    let limit := threshold place bias
    let total := sum + digit * weight
    if digit < limit then some (total, rest)
    else readDelta bias (place + 1) (weight * (36 - limit)) total rest

/-- Inserts the characters that a text of deltas describes. `next` is the least character for the
next one, `place` the place from which on it may stand. The first argument bounds their number. -/
def insertAll : Nat → (next place bias : Nat) → (isFirst : Bool) → (base deltas : Text) →
    Option Text
  | 0, _, _, _, _, base, _ => some base
  | _ + 1, _, _, _, _, base, [] => some base
  | bound + 1, next, place, bias, isFirst, base, deltas => do
    let (delta, rest) ← readDelta bias 0 1 0 deltas
    let count := base.length + 1
    let next := next + (place + delta) / count
    let place := (place + delta) % count
    if next > 0x10FFFF then none
    else
      let base := base.take place ++ Char.ofNat next :: base.drop place
      insertAll bound next (place + 1) (adapt delta isFirst base.length) false base rest

/-- The small letter of an ASCII letter. The kelvin sign counts as a capital of k. -/
def smallLetter (c : Char) : Char :=
  if c = '\u212a' then 'k' else c.toLower

/-- A label of a host name in its own script. -/
def nativeLabel? (label : Text) : Option Text :=
  match Text.dropPrefix? "xn--".toList label with
  | none => some label
  | some encoded =>
    let small := encoded.map smallLetter
    if small.any (·.toNat > 127) then none
    else
      let deltas := (small.reverse.takeWhile (· ≠ '-')).reverse
      let base := small.take (small.length - deltas.length - 1)
      insertAll deltas.length 0x80 0 72 true base deltas

/-- Cuts a host name at its dots, the wide ones included. -/
def labels (host : Text) : List Text :=
  Text.splitAt '.' (host.map fun c => if "\u3002\uff0e\uff61".toList.contains c then '.' else c)

/-- A host name in its own script; one that cannot be read stays as it is. What stands before an
at sign is not part of the name. -/
def nativeHost (host : Text) : Text :=
  let (before, name) :=
    match Text.splitAt '@' host with
    | local_ :: name :: _ => (local_ ++ ['@'], name)
    | _ => ([], host)
  match (labels name).mapM nativeLabel? with
  | some parts => before ++ Text.join ['.'] parts
  | none => host

/-! ## Display -/

/-- Characters whose escaped form is kept, since the plain one would mean something else. -/
def isKeptEscaped (c : Char) : Bool :=
  ";/?:@&=+$,#%".toList.contains c

/-- A byte in escaped form. -/
def escapedByte (byte : Nat) : Text :=
  let digit (n : Nat) : Char := "0123456789ABCDEF".toList.getD n '0'
  ['%', digit (byte / 16), digit (byte % 16)]

/-- A byte that continues a character. -/
def isContinuation (byte : Nat) : Bool :=
  byte / 64 = 2

/-- The character of an encoded sequence, or replacement characters for its bytes when the sequence
encodes none or is longer than it need be. -/
def sequenceText (size least value : Nat) : Text :=
  if least ≤ value && value ≤ 0x10FFFF && !(0xD800 ≤ value && value ≤ 0xDFFF) then
    [Char.ofNat value]
  else List.replicate size '\ufffd'

/-- The text of the sequence that a byte starts, and how many of the bytes behind it belong to it. A
byte that starts no sequence gives a replacement character. -/
def readSequence (a : Nat) (rest : List Nat) : Text × Nat :=
  let alone : Text × Nat := (['\ufffd'], 0)
  if a < 0x80 then
    let c := Char.ofNat a
    (if isKeptEscaped c then escapedByte a else [c], 0)
  else
    let size := if a / 32 = 6 then 2 else if a / 16 = 14 then 3 else if a / 8 = 30 then 4 else 1
    let tail := rest.take (size - 1)
    if size = 1 || tail.length < size - 1 || !tail.all isContinuation then alone
    else
      let start := if size = 2 then a % 32 else if size = 3 then a % 16 else a % 8
      let least := if size = 2 then 0x80 else if size = 3 then 0x800 else 0x10000
      (sequenceText size least (tail.foldl (fun value b => value * 64 + b % 64) start), size - 1)

/-- The characters of a run of escaped bytes. -/
def decodeBytes : List Nat → Text
  | [] => []
  | a :: rest =>
    let (text, count) := readSequence a rest
    text ++ decodeBytes (rest.drop count)
termination_by bytes => bytes.length

/-- An address with its escaped bytes decoded. `pending` are the bytes (reversed) of the run that
is being read. -/
def decodeFrom (pending : List Nat) : Text → Text
  | '%' :: high :: low :: rest =>
    match Entity.hexDigit? high, Entity.hexDigit? low with
    | some h, some l => decodeFrom ((h * 16 + l) :: pending) rest
    | _, _ => decodeBytes pending.reverse ++ '%' :: decodeFrom [] (high :: low :: rest)
  | c :: rest => decodeBytes pending.reverse ++ c :: decodeFrom [] rest
  | [] => decodeBytes pending.reverse
termination_by text => text.length

/-- An address as the text of a link shows it: host names of web and mail addresses in their own
script, escaped bytes decoded. -/
def display (text : Text) : Text :=
  let address := parse text
  let recoded := ["", "http:", "https:", "mailto:"].map String.toList
  let shown :=
    if !address.host.isEmpty && recoded.contains address.scheme then
      { address with host := nativeHost address.host }
    else address
  decodeFrom [] shown.render

end Address

end MarkdownCheck.Markdown
