import MarkdownCheck.Text.Escape

/-!
# Bytes as text

- `Utf8.decode`: the text that bytes encode, or the first place where they do not.
- `Utf8.Fault.message`: such a place in words.
-/

namespace MarkdownCheck.Utf8

/-- Why bytes do not encode a character. -/
inductive Reason where
  /-- No character starts with this byte. -/
  | start
  /-- A byte that does not continue the character. -/
  | continuation
  /-- The bytes end inside the character. -/
  | unfinished
deriving DecidableEq, Repr

/-- Bytes that do not encode a character: the first one, and where they stand. -/
structure Fault where
  first : Nat
  start : Nat
  stop : Nat
  reason : Reason
deriving DecidableEq, Repr

/-- A reason in words. -/
def Reason.message : Reason → String
  | .start => "invalid start byte"
  | .continuation => "invalid continuation byte"
  | .unfinished => "unexpected end of data"

/-- A fault in words. -/
def Fault.message (fault : Fault) : Text :=
  let place :=
    if fault.stop = fault.start + 1 then
      "byte 0x".toList ++ Text.hex 2 fault.first ++ " in position ".toList ++ Text.ofNat fault.start
    else
      "bytes in position ".toList ++ Text.ofNat fault.start ++ '-' :: Text.ofNat (fault.stop - 1)
  "'utf-8' codec can't decode ".toList ++ place ++ ':' :: ' ' :: fault.reason.message.toList

/-- What the first byte of a character tells about it. -/
structure Lead where
  /-- The highest bits of the character. -/
  value : Nat
  /-- The number of bytes that follow. -/
  more : Nat
  /-- The range of the second byte. -/
  low : Nat := 0x80
  high : Nat := 0xBF

/-- The first byte of a character. Ranges of the second byte leave out characters that have a
shorter form, surrogates, and what lies beyond the last character. -/
def lead? (byte : Nat) : Option Lead :=
  if byte < 0x80 then some { value := byte, more := 0 }
  else if byte < 0xC2 then none
  else if byte < 0xE0 then some { value := byte - 0xC0, more := 1 }
  else if byte < 0xF0 then
    some {
      value := byte - 0xE0, more := 2
      low := if byte = 0xE0 then 0xA0 else 0x80, high := if byte = 0xED then 0x9F else 0xBF }
  else if byte < 0xF5 then
    some {
      value := byte - 0xF0, more := 3
      low := if byte = 0xF0 then 0x90 else 0x80, high := if byte = 0xF4 then 0x8F else 0xBF }
  else none

/-- Reads the bytes that continue a character, the next one between `low` and `high`: the
character's number, or the reason and the number of bytes that were right. -/
def takeMore (value low high : Nat) : (more : Nat) → List UInt8 → Except (Reason × Nat) Nat
  | 0, _ => .ok value
  | _ + 1, [] => .error (.unfinished, 0)
  | more + 1, byte :: rest =>
    if low ≤ byte.toNat && byte.toNat ≤ high then
      match takeMore (value * 0x40 + (byte.toNat - 0x80)) 0x80 0xBF more rest with
      | .ok number => .ok number
      | .error (reason, right) => .error (reason, right + 1)
    else .error (.continuation, 0)

/-- Decodes bytes, the first of which stands at `position`. The bytes of the last character that are
still to be passed over are counted by `passed`. -/
def decodeFrom (position passed : Nat) : List UInt8 → Except Fault Text
  | [] => .ok []
  | byte :: rest =>
    match passed with
    | passed + 1 => decodeFrom (position + 1) passed rest
    | 0 =>
      match lead? byte.toNat with
      | none => .error ⟨byte.toNat, position, position + 1, .start⟩
      | some lead =>
        match takeMore lead.value lead.low lead.high lead.more rest with
        | .error (reason, right) => .error ⟨byte.toNat, position, position + 1 + right, reason⟩
        | .ok number => (decodeFrom (position + 1) lead.more rest).map (Char.ofNat number :: ·)

/-- The text that bytes encode. -/
def decode (bytes : List UInt8) : Except Fault Text :=
  decodeFrom 0 0 bytes

/-- The bytes of a text. -/
def encode (text : Text) : List UInt8 :=
  (String.ofList text).toUTF8.toList

/-- The number of bytes of a text. -/
def size (text : Text) : Nat :=
  text.foldl (fun total c => total + c.utf8Size) 0

end MarkdownCheck.Utf8
