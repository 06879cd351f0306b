/-!
# Text

A text is a list of characters, so lengths, columns and positions all count characters.

- `Text.isBlank`: whitespace, of every script and the control characters that separate fields.
- `Text.trimLeft`, `Text.trimRight`, `Text.trim`: drop blanks at the ends.
- `Text.dropPrefix?`, `Text.cut`, `Text.includes`: look for one text in another.
- `Text.findFrom?`, `Text.between`: the same by positions.
-/

namespace MarkdownCheck

/-- The characters of a text, in order. -/
abbrev Text := List Char

namespace Text

/-! ## Blanks -/

/-- A whitespace character. The separators U+001C to U+001F and the next-line control count. -/
def isBlank (c : Char) : Bool :=
  let n := c.toNat
  (0x9 ≤ n && n ≤ 0xD) || (0x1C ≤ n && n ≤ 0x20) || n = 0x85 || n = 0xA0 || n = 0x1680
    || (0x2000 ≤ n && n ≤ 0x200A) || n = 0x2028 || n = 0x2029 || n = 0x202F || n = 0x205F
    || n = 0x3000

/-- Drops the leading blanks. -/
def trimLeft (text : Text) : Text :=
  text.dropWhile isBlank

/-- Drops the trailing blanks. -/
def trimRight (text : Text) : Text :=
  (text.reverse.dropWhile isBlank).reverse

/-- Drops the blanks at both ends. -/
def trim (text : Text) : Text :=
  trimRight (trimLeft text)

/-- A line feed or a carriage return. -/
def isLineEnd (c : Char) : Bool :=
  c = '\n' || c = '\r'

/-! ## Looking for a text in another -/

/-- What follows `word` in a text that starts with it. -/
def dropPrefix? : (word : Text) → Text → Option Text
  | [], text => some text
  | _ :: _, [] => none
  | w :: word, c :: text => if w = c then dropPrefix? word text else none

/-- A text is a prefix and what follows it. -/
theorem eq_append_of_dropPrefix? {word text rest : Text} (h : dropPrefix? word text = some rest) :
    text = word ++ rest := by
  induction word generalizing text with
  | nil => simpa [dropPrefix?] using h
  | cons w word ih =>
    cases text with
    | nil => simp [dropPrefix?] at h
    | cons c text =>
      by_cases hc : w = c
      · simp only [dropPrefix?, hc, if_true] at h
        rw [hc, List.cons_append, ← ih h]
      · simp [dropPrefix?, hc] at h

/-- Cuts a text around the first place where `word` stands: what comes before and what comes
after. -/
def cut (word : Text) : Text → Option (Text × Text)
  | [] => (dropPrefix? word []).map fun rest => ([], rest)
  | c :: text =>
    match dropPrefix? word (c :: text) with
    | some rest => some ([], rest)
    | none => (cut word text).map fun (before, rest) => (c :: before, rest)

/-- A cut loses nothing but the word itself. -/
theorem eq_append_of_cut {word text before rest : Text} (h : cut word text = some (before, rest)) :
    text = before ++ (word ++ rest) := by
  induction text generalizing before with
  | nil =>
    simp only [cut, Option.map_eq_some_iff, Prod.mk.injEq] at h
    obtain ⟨r, hr, rfl, rfl⟩ := h
    simpa using eq_append_of_dropPrefix? hr
  | cons c text ih =>
    rw [cut] at h
    split at h
    · next r hr =>
      obtain ⟨rfl, rfl⟩ := Prod.mk.inj (Option.some.inj h)
      simpa using eq_append_of_dropPrefix? hr
    · simp only [Option.map_eq_some_iff, Prod.mk.injEq] at h
      obtain ⟨⟨b, r⟩, hb, rfl, rfl⟩ := h
      rw [ih hb, List.cons_append]

/-- The first place from `start` on where `word` stands in a text. -/
def findFrom? (word : Text) (start : Nat) (text : Text) : Option Nat :=
  (cut word (text.drop start)).map (start + ·.1.length)

/-- What is found stands behind the start of the search and inside the text. -/
theorem le_of_findFrom? {word text : Text} {start place : Nat}
    (h : findFrom? word start text = some place) (hw : word ≠ []) :
    start ≤ place ∧ place + word.length ≤ text.length := by
  simp only [findFrom?, Option.map_eq_some_iff] at h
  obtain ⟨⟨before, rest⟩, hcut, rfl⟩ := h
  have hlen := congrArg List.length (eq_append_of_cut hcut)
  have hpos := List.length_pos_iff.mpr hw
  simp only [List.length_drop, List.length_append] at hlen
  show start ≤ start + before.length ∧ start + before.length + word.length ≤ text.length
  constructor <;> omega

/-- The stretch of a text from `start` up to but not including `stop`. -/
def between (start stop : Nat) (text : Text) : Text :=
  (text.take stop).drop start

/-- Whether `word` stands somewhere in a text. -/
def includes (word text : Text) : Bool :=
  (cut word text).isSome

/-- Joins texts, putting `separator` between neighbours. -/
def join (separator : Text) (texts : List Text) : Text :=
  (texts.intersperse separator).flatten

/-- Cuts a text at every occurrence of a character. There is one piece more than occurrences. -/
def splitAt (separator : Char) : Text → List Text
  | [] => [[]]
  | c :: text =>
    match splitAt separator text with
    | [] => [[c]]
    | piece :: pieces => if c = separator then [] :: piece :: pieces else (c :: piece) :: pieces

/-- The order of texts, character by character and by code point. -/
def le : Text → Text → Bool
  | [], _ => true
  | _ :: _, [] => false
  | a :: left, b :: right => a < b || (a = b && le left right)

/-- The decimal numeral of an integer. -/
def ofInt (n : Int) : Text :=
  (toString n).toList

/-- The decimal numeral of a natural number. -/
def ofNat (n : Nat) : Text :=
  (toString n).toList

end Text

end MarkdownCheck
