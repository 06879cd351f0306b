import Mathlib.Data.Nat.Init
import MarkdownCheck.Files.Utf8

/-!
# Bytes that are a text

Decoding accepts exactly what encoding produces, so a text has one form in bytes, and bytes that are
refused are the bytes of no text.

- `Utf8.Spells`: the grammar of one character: its first byte, the bytes that continue it, and its
  number.
- `Utf8.encodeChar_of_spells`, `Utf8.exists_spells`: the grammar spells every character in one way.
- `Utf8.decode_eq_ok_iff`: bytes decode to a text if and only if they are its encoding.
-/

namespace MarkdownCheck.Utf8

/-! ## The grammar of one character -/

/-- A byte that continues a character. -/
def IsTail (byte : UInt8) : Prop :=
  0x80 ≤ byte.toNat ∧ byte.toNat ≤ 0xBF

/-- A first byte with the bytes that continue it spells the character of a number. -/
inductive Spells : (first : UInt8) → (tail : List UInt8) → (number : Nat) → Prop where
  | one {a : UInt8} (ha : a.toNat < 0x80) : Spells a [] a.toNat
  | two {a b : UInt8} (hlow : 0xC2 ≤ a.toNat) (hhigh : a.toNat < 0xE0) (hb : IsTail b) :
      Spells a [b] ((a.toNat - 0xC0) * 0x40 + (b.toNat - 0x80))
  | three {a b c : UInt8} (hlow : 0xE0 ≤ a.toNat) (hhigh : a.toNat < 0xF0) (hb : IsTail b)
      (hshort : a.toNat = 0xE0 → 0xA0 ≤ b.toNat) (hsurrogate : a.toNat = 0xED → b.toNat ≤ 0x9F)
      (hc : IsTail c) :
      Spells a [b, c]
        (((a.toNat - 0xE0) * 0x40 + (b.toNat - 0x80)) * 0x40 + (c.toNat - 0x80))
  | four {a b c d : UInt8} (hlow : 0xF0 ≤ a.toNat) (hhigh : a.toNat < 0xF5) (hb : IsTail b)
      (hshort : a.toNat = 0xF0 → 0x90 ≤ b.toNat) (hlast : a.toNat = 0xF4 → b.toNat ≤ 0x8F)
      (hc : IsTail c) (hd : IsTail d) :
      Spells a [b, c, d]
        ((((a.toNat - 0xF0) * 0x40 + (b.toNat - 0x80)) * 0x40 + (c.toNat - 0x80)) * 0x40
          + (d.toNat - 0x80))

theorem toNat_ofNat {n : Nat} (h : n < 0xD800 ∨ 0xDFFF < n ∧ n < 0x110000) :
    (Char.ofNat n).toNat = n := by
  have hvalid : n.isValidChar := h
  rw [Char.ofNat, dif_pos hvalid]
  rfl

/-- The number that is spelled is that of a character. -/
theorem toNat_of_spells {first : UInt8} {tail : List UInt8} {number : Nat}
    (h : Spells first tail number) : (Char.ofNat number).toNat = number := by
  refine toNat_ofNat ?_
  cases h with
  | one ha => omega
  | two hlow hhigh hb =>
    have := hb.2
    omega
  | three hlow hhigh hb hshort hsurrogate hc =>
    have := hb.2
    have := hc.2
    omega
  | four hlow hhigh hb hshort hlast hc hd =>
    have := hb
    have := hc.2
    have := hd.2
    simp only [IsTail] at *
    omega

theorem eq_of_toNat (byte : UInt8) {n : Nat} (h : n = byte.toNat) : UInt8.ofNat n = byte := by
  rw [h, UInt8.ofNat_toNat]

/-- What spells a character is its encoding. -/
theorem encodeChar_of_spells {first : UInt8} {tail : List UInt8} {number : Nat}
    (h : Spells first tail number) :
    String.utf8EncodeChar (Char.ofNat number) = first :: tail := by
  have hnumber : (Char.ofNat number).val.toNat = number := toNat_of_spells h
  rw [String.utf8EncodeChar, hnumber]
  cases h with
  | one ha => rw [if_pos (by omega), UInt8.ofNat_toNat]
  | @two b hlow hhigh hb =>
    obtain ⟨hb, hb'⟩ := hb
    rw [if_neg (by omega), if_pos (by omega), eq_of_toNat first (by omega),
      eq_of_toNat b (by omega)]
  | @three b c hlow hhigh hb hshort hsurrogate hc =>
    obtain ⟨hb, hb'⟩ := hb
    obtain ⟨hc, hc'⟩ := hc
    rw [if_neg (by omega), if_neg (by omega), if_pos (by omega),
      eq_of_toNat first (by omega), eq_of_toNat b (by omega),
      eq_of_toNat c (by omega)]
  | @four b c d hlow hhigh hb hshort hlast hc hd =>
    obtain ⟨hb, hb'⟩ := hb
    obtain ⟨hc, hc'⟩ := hc
    obtain ⟨hd, hd'⟩ := hd
    rw [if_neg (by omega), if_neg (by omega), if_neg (by omega),
      eq_of_toNat first (by omega), eq_of_toNat b (by omega),
      eq_of_toNat c (by omega), eq_of_toNat d (by omega)]

theorem exists_byte {n : Nat} (h : n < 0x100) : ∃ byte : UInt8, byte.toNat = n := by
  refine ⟨.ofNat n, ?_⟩
  rw [UInt8.toNat_ofNat']
  exact Nat.mod_eq_of_lt h

/-- Every character is spelled. -/
theorem exists_spells (c : Char) : ∃ first tail, Spells first tail c.toNat := by
  have hvalid : c.toNat < 0xD800 ∨ 0xDFFF < c.toNat ∧ c.toNat < 0x110000 := c.valid
  generalize c.toNat = n at hvalid
  by_cases hone : n < 0x80
  · obtain ⟨a, rfl⟩ := exists_byte (n := n) (by omega)
    exact ⟨a, [], .one hone⟩
  obtain ⟨d, hd⟩ := exists_byte (n := n % 0x40 + 0x80) (by omega)
  by_cases htwo : n < 0x800
  · obtain ⟨a, ha⟩ := exists_byte (n := n / 0x40 + 0xC0) (by omega)
    have h : Spells a [d] _ := .two (by omega) (by omega) ⟨by omega, by omega⟩
    refine ⟨a, [d], Eq.subst ?_ h⟩
    omega
  obtain ⟨c, hc⟩ := exists_byte (n := n / 0x40 % 0x40 + 0x80) (by omega)
  by_cases hthree : n < 0x10000
  · obtain ⟨a, ha⟩ := exists_byte (n := n / 0x1000 + 0xE0) (by omega)
    have h : Spells a [c, d] _ := .three (by omega) (by omega) ⟨by omega, by omega⟩ (by omega)
      (by omega) ⟨by omega, by omega⟩
    refine ⟨a, [c, d], Eq.subst ?_ h⟩
    omega
  obtain ⟨b, hb⟩ := exists_byte (n := n / 0x1000 % 0x40 + 0x80) (by omega)
  obtain ⟨a, ha⟩ := exists_byte (n := n / 0x40000 + 0xF0) (by omega)
  have h : Spells a [b, c, d] _ := .four (by omega) (by omega) ⟨by omega, by omega⟩ (by omega)
    (by omega) ⟨by omega, by omega⟩ ⟨by omega, by omega⟩
  refine ⟨a, [b, c, d], Eq.subst ?_ h⟩
  omega

/-! ## Reading one character -/

/-- The next byte is in its range, and the bytes behind it are read on. -/
theorem takeMore_succ_eq_ok_iff {value low high more number : Nat} {bytes : List UInt8} :
    takeMore value low high (more + 1) bytes = .ok number ↔
      ∃ byte rest, bytes = byte :: rest ∧ low ≤ byte.toNat ∧ byte.toNat ≤ high ∧
        takeMore (value * 0x40 + (byte.toNat - 0x80)) 0x80 0xBF more rest = .ok number := by
  cases bytes with
  | nil => simp [takeMore]
  | cons byte rest =>
    by_cases h : low ≤ byte.toNat ∧ byte.toNat ≤ high
    · have hstep : takeMore value low high (more + 1) (byte :: rest) = .ok number ↔
          takeMore (value * 0x40 + (byte.toNat - 0x80)) 0x80 0xBF more rest = .ok number := by
        rw [takeMore, if_pos (by simpa using h)]
        cases takeMore (value * 0x40 + (byte.toNat - 0x80)) 0x80 0xBF more rest <;> simp
      rw [hstep]
      constructor
      · intro htake
        exact ⟨byte, rest, rfl, h.1, h.2, htake⟩
      · rintro ⟨_, _, ⟨⟩, -, -, htake⟩
        exact htake
    · constructor
      · intro htake
        rw [takeMore, if_neg (by simpa using h)] at htake
        cases htake
      · rintro ⟨_, _, ⟨⟩, hlow, hhigh, -⟩
        exact absurd ⟨hlow, hhigh⟩ h

theorem takeMore_zero_eq_ok_iff {value low high number : Nat} {bytes : List UInt8} :
    takeMore value low high 0 bytes = .ok number ↔ number = value := by
  rw [takeMore, Except.ok.injEq, eq_comm]

/-- A character that starts with this byte is as long as the byte tells. -/
theorem length_of_spells {first : UInt8} {tail : List UInt8} {number : Nat} {lead : Lead}
    (hlead : lead? first.toNat = some lead) (h : Spells first tail number) :
    tail.length = lead.more := by
  cases h with
  | one ha =>
    rw [lead?, if_pos ha] at hlead
    obtain rfl := Option.some.inj hlead
    rfl
  | two hlow hhigh hb =>
    rw [lead?, if_neg (by omega), if_neg (by omega), if_pos hhigh] at hlead
    obtain rfl := Option.some.inj hlead
    rfl
  | three hlow hhigh hb hshort hsurrogate hc =>
    rw [lead?, if_neg (by omega), if_neg (by omega), if_neg (by omega), if_pos hhigh] at hlead
    obtain rfl := Option.some.inj hlead
    rfl
  | four hlow hhigh hb hshort hlast hc hd =>
    rw [lead?, if_neg (by omega), if_neg (by omega), if_neg (by omega), if_neg (by omega),
      if_pos hhigh] at hlead
    obtain rfl := Option.some.inj hlead
    rfl

/-- What is read at the start of bytes is what the grammar spells there. -/
theorem exists_lead_iff {first : UInt8} {bytes : List UInt8} {number : Nat} :
    (∃ lead, lead? first.toNat = some lead ∧
      takeMore lead.value lead.low lead.high lead.more bytes = .ok number) ↔
      ∃ tail rest, bytes = tail ++ rest ∧ Spells first tail number := by
  constructor
  · rintro ⟨lead, hlead, htake⟩
    rw [lead?] at hlead
    split at hlead
    · next ha =>
      obtain rfl := Option.some.inj hlead
      obtain rfl := takeMore_zero_eq_ok_iff.mp htake
      exact ⟨[], bytes, rfl, .one ha⟩
    split at hlead
    · cases hlead
    split at hlead
    · obtain rfl := Option.some.inj hlead
      simp only [takeMore_succ_eq_ok_iff, takeMore_zero_eq_ok_iff] at htake
      obtain ⟨b, rest, rfl, hb, hb', hnumber⟩ := htake
      rw [hnumber]
      exact ⟨[b], rest, rfl, .two (by omega) (by omega) ⟨hb, hb'⟩⟩
    split at hlead
    · obtain rfl := Option.some.inj hlead
      simp only [takeMore_succ_eq_ok_iff, takeMore_zero_eq_ok_iff] at htake
      obtain ⟨b, _, rfl, hb, hb', c, rest, rfl, hc, hc', hnumber⟩ := htake
      rw [hnumber]
      split at hb <;> split at hb'
      all_goals exact ⟨[b, c], rest, rfl, .three (by omega) (by omega) ⟨by omega, by omega⟩
        (by omega) (by omega) ⟨hc, hc'⟩⟩
    split at hlead
    · obtain rfl := Option.some.inj hlead
      simp only [takeMore_succ_eq_ok_iff, takeMore_zero_eq_ok_iff] at htake
      obtain ⟨b, _, rfl, hb, hb', c, _, rfl, hc, hc', d, rest, rfl, hd, hd', hnumber⟩ := htake
      rw [hnumber]
      split at hb <;> split at hb'
      all_goals exact ⟨[b, c, d], rest, rfl, .four (by omega) (by omega) ⟨by omega, by omega⟩
        (by omega) (by omega) ⟨hc, hc'⟩ ⟨hd, hd'⟩⟩
    · cases hlead
  · rintro ⟨tail, rest, rfl, hspells⟩
    cases hspells with
    | one ha => exact ⟨_, by rw [lead?, if_pos ha], rfl⟩
    | two hlow hhigh hb =>
      refine ⟨_, by rw [lead?, if_neg (by omega), if_neg (by omega), if_pos hhigh], ?_⟩
      simp only [takeMore_succ_eq_ok_iff, takeMore_zero_eq_ok_iff]
      exact ⟨_, _, rfl, hb.1, hb.2, rfl⟩
    | three hlow hhigh hb hshort hsurrogate hc =>
      refine ⟨_, by rw [lead?, if_neg (by omega), if_neg (by omega), if_neg (by omega),
        if_pos hhigh], ?_⟩
      simp only [takeMore_succ_eq_ok_iff, takeMore_zero_eq_ok_iff]
      refine ⟨_, _, rfl, ?_, ?_, _, _, rfl, hc.1, hc.2, rfl⟩
      · split
        · next ha => exact hshort ha
        · exact hb.1
      · split
        · next ha => exact hsurrogate ha
        · exact hb.2
    | four hlow hhigh hb hshort hlast hc hd =>
      refine ⟨_, by rw [lead?, if_neg (by omega), if_neg (by omega), if_neg (by omega),
        if_neg (by omega), if_pos hhigh], ?_⟩
      simp only [takeMore_succ_eq_ok_iff, takeMore_zero_eq_ok_iff]
      refine ⟨_, _, rfl, ?_, ?_, _, _, rfl, hc.1, hc.2, _, _, rfl, hd.1, hd.2, rfl⟩
      · split
        · next ha => exact hshort ha
        · exact hb.1
      · split
        · next ha => exact hlast ha
        · exact hb.2

/-! ## Reading bytes -/

/-- What is decoded does not depend on where the bytes stand, and bytes that are passed over do not
count. -/
theorem toOption_decodeFrom (position other passed : Nat) (bytes : List UInt8) :
    (decodeFrom position passed bytes).toOption =
      (decodeFrom other 0 (bytes.drop passed)).toOption := by
  have hmap (f : Text → Text) (result : Except Fault Text) :
      (result.map f).toOption = result.toOption.map f := by
    cases result <;> rfl
  induction bytes generalizing position other passed with
  | nil =>
    rw [List.drop_nil]
    rfl
  | cons byte rest ih =>
    cases passed with
    | succ passed =>
      rw [decodeFrom]
      exact ih (position + 1) other passed
    | zero =>
      rw [List.drop_zero, decodeFrom, decodeFrom]
      cases lead? byte.toNat with
      | none => rfl
      | some lead =>
        dsimp only
        cases takeMore lead.value lead.low lead.high lead.more rest with
        | error _ => rfl
        | ok number =>
          dsimp only
          rw [hmap, hmap, ih (position + 1) 0, ih (other + 1) 0]

theorem decodeFrom_eq_ok_iff {position passed : Nat} {bytes : List UInt8} {text : Text} :
    decodeFrom position passed bytes = .ok text ↔ decode (bytes.drop passed) = .ok text := by
  have hok (result : Except Fault Text) : result = .ok text ↔ result.toOption = some text := by
    cases result <;> simp [Except.toOption]
  rw [hok, toOption_decodeFrom position 0, ← hok]
  rfl

/-- Bytes are decoded character by character. -/
theorem decode_cons_eq_ok_iff {first : UInt8} {rest : List UInt8} {text : Text} :
    decode (first :: rest) = .ok text ↔
      ∃ tail behind number others, rest = tail ++ behind ∧ Spells first tail number ∧
        text = Char.ofNat number :: others ∧ decode behind = .ok others := by
  constructor
  · intro h
    rw [decode, decodeFrom] at h
    cases hlead : lead? first.toNat with
    | none =>
      rw [hlead] at h
      cases h
    | some lead =>
      rw [hlead] at h
      dsimp only at h
      cases htake : takeMore lead.value lead.low lead.high lead.more rest with
      | error _ =>
        rw [htake] at h
        cases h
      | ok number =>
        rw [htake] at h
        dsimp only at h
        obtain ⟨tail, behind, rfl, hspells⟩ := exists_lead_iff.mp ⟨lead, hlead, htake⟩
        cases hrest : decodeFrom (0 + 1) lead.more (tail ++ behind) with
        | error _ =>
          rw [hrest] at h
          cases h
        | ok others =>
          rw [hrest] at h
          rw [decodeFrom_eq_ok_iff, ← length_of_spells hlead hspells, List.drop_left] at hrest
          exact ⟨tail, behind, number, others, rfl, hspells, (Except.ok.inj h).symm, hrest⟩
  · rintro ⟨tail, behind, number, others, rfl, hspells, rfl, hbehind⟩
    obtain ⟨lead, hlead, htake⟩ :=
      exists_lead_iff.mpr ⟨tail, behind, rfl, hspells⟩
    have hrest : decodeFrom (0 + 1) lead.more (tail ++ behind) = .ok others := by
      rw [decodeFrom_eq_ok_iff, ← length_of_spells hlead hspells, List.drop_left]
      exact hbehind
    rw [decode, decodeFrom, hlead]
    dsimp only
    rw [htake]
    dsimp only
    rw [hrest]
    rfl

/-! ## Bytes and texts -/

theorem toList_loop (bytes : ByteArray) (i : Nat) (done : List UInt8) :
    ByteArray.toList.loop bytes i done = done.reverse ++ bytes.data.toList.drop i := by
  fun_induction ByteArray.toList.loop bytes i done with
  | case1 i done h ih =>
    have hlt : i < bytes.data.toList.length := by simpa using h
    rw [ih, List.reverse_cons, List.append_assoc, List.drop_eq_getElem_cons hlt]
    simp [ByteArray.get!, getElem!_pos bytes.data i (by simpa using h)]
  | case2 i done h =>
    have hle : bytes.data.toList.length ≤ i := by simpa using h
    rw [List.drop_eq_nil_of_le hle, List.append_nil]

/-- A text is encoded character by character. -/
theorem encode_eq_flatMap (text : Text) : encode text = text.flatMap String.utf8EncodeChar := by
  show ByteArray.toList.loop _ 0 [] = _
  rw [toList_loop]
  exact List.toList_data_toByteArray

theorem encode_nil : encode [] = [] := by
  rw [encode_eq_flatMap, List.flatMap_nil]

theorem encode_cons (c : Char) (text : Text) :
    encode (c :: text) = String.utf8EncodeChar c ++ encode text := by
  rw [encode_eq_flatMap, List.flatMap_cons, encode_eq_flatMap]

/-- **Decoding accepts exactly what encoding produces.** -/
theorem decode_eq_ok_iff {bytes : List UInt8} {text : Text} :
    decode bytes = .ok text ↔ bytes = encode text := by
  constructor
  · intro h
    induction hlength : bytes.length using Nat.strong_induction_on generalizing bytes text with
    | _ length ih =>
      cases bytes with
      | nil =>
        obtain rfl := Except.ok.inj h
        rw [encode_nil]
      | cons first rest =>
        obtain ⟨tail, behind, number, others, rfl, hspells, rfl, hbehind⟩ :=
          decode_cons_eq_ok_iff.mp h
        have hshorter : behind.length < length := by
          rw [← hlength, List.length_cons, List.length_append]
          omega
        rw [encode_cons, encodeChar_of_spells hspells, List.cons_append,
          ← ih behind.length hshorter hbehind rfl]
  · rintro rfl
    induction text with
    | nil => rw [encode_nil]; rfl
    | cons c text ih =>
      obtain ⟨first, tail, hspells⟩ := exists_spells c
      have hchar := encodeChar_of_spells hspells
      rw [Char.ofNat_toNat] at hchar
      rw [encode_cons, hchar, List.cons_append]
      exact decode_cons_eq_ok_iff.mpr
        ⟨tail, encode text, c.toNat, text, rfl, hspells, by rw [Char.ofNat_toNat], ih⟩

end MarkdownCheck.Utf8
