import MarkdownCheck.Unicode.Packed

/-!
# Looking up entries

Entries are pairs of a key and a value; the first entry of a key counts when it is looked up.

- `lookup_cons_eq`: a look-up goes through the entries one by one.
- `lookup_map_replace`, `lookup_filter_ne`: entries with a key replaced, or without it.
- `isSome_lookup_iff`, `mem_of_lookup_eq_some`: what is found is there.
- `Unicode.PackedTable.exists_of_find?`, `Unicode.PackedTable.exists_of_mem_findAll`: what a packed
  table holds for a character comes from one of its entries.
-/

namespace MarkdownCheck

variable {α β : Type} [BEq α] [LawfulBEq α] [DecidableEq α]

theorem lookup_cons_eq (key : α) (value : β) (rest : List (α × β)) (other : α) :
    ((key, value) :: rest).lookup other =
      if other = key then some value else rest.lookup other := by
  rw [List.lookup_cons]
  by_cases h : other = key
  · rw [if_pos h, h, beq_self_eq_true]
  · rw [if_neg h, beq_false_of_ne h]

/-- Entries with a key's value replaced. -/
theorem lookup_map_replace (key : α) (value : β) (entries : List (α × β)) (other : α) :
    (entries.map fun entry => if entry.1 = key then (key, value) else entry).lookup other =
      if other = key then (entries.lookup other).map fun _ => value
      else entries.lookup other := by
  induction entries with
  | nil => simp
  | cons entry rest ih =>
    obtain ⟨known, old⟩ := entry
    rw [List.map_cons, lookup_cons_eq]
    by_cases hknown : known = key
    · rw [if_pos hknown, lookup_cons_eq, ih, hknown]
      by_cases hother : other = key
      · simp only [if_pos hother, Option.map_some]
      · simp only [if_neg hother]
    · rw [if_neg hknown, lookup_cons_eq, ih]
      by_cases hother : other = known
      · have hne : ¬ other = key := hother ▸ hknown
        simp only [if_pos hother, if_neg hne]
      · simp only [if_neg hother]

/-- Entries without those of a key. -/
theorem lookup_filter_ne (key : α) (entries : List (α × β)) (other : α) :
    (entries.filter fun entry => entry.1 ≠ key).lookup other =
      if other = key then none else entries.lookup other := by
  induction entries with
  | nil => simp
  | cons entry rest ih =>
    obtain ⟨known, value⟩ := entry
    rw [List.filter_cons, lookup_cons_eq]
    by_cases hknown : known = key
    · rw [if_neg (by simpa using hknown), ih, hknown]
      by_cases hother : other = key
      · simp only [if_pos hother]
      · simp only [if_neg hother]
    · rw [if_pos (by simpa using hknown), lookup_cons_eq, ih]
      by_cases hother : other = known
      · have hne : ¬ other = key := hother ▸ hknown
        simp only [if_pos hother, if_neg hne]
      · simp only [if_neg hother]

theorem isSome_lookup_iff {entries : List (α × β)} {key : α} :
    (entries.lookup key).isSome ↔ key ∈ entries.map Prod.fst := by
  induction entries with
  | nil => simp
  | cons entry rest ih =>
    obtain ⟨known, value⟩ := entry
    rw [lookup_cons_eq, List.map_cons, List.mem_cons, ← ih]
    by_cases h : key = known
    · simp [h]
    · simp [h]

theorem mem_of_lookup_eq_some {entries : List (α × β)} {key : α} {value : β}
    (h : entries.lookup key = some value) : (key, value) ∈ entries := by
  induction entries with
  | nil => cases h
  | cons entry rest ih =>
    obtain ⟨known, old⟩ := entry
    rw [lookup_cons_eq] at h
    split at h
    · next hkey =>
      rw [hkey, Option.some.inj h]
      exact List.mem_cons_self
    · exact List.mem_cons_of_mem _ (ih h)

/-! ## Packed tables -/

namespace Unicode

/-- What a table holds for a character comes from an entry for this character. -/
theorem PackedTable.exists_of_find? {table : PackedTable} {c : Char} {held : List Char}
    (h : table.find? c = some held) :
    ∃ row ∈ table, ∃ entry ∈ row.2,
      entry % 0x1000000 = c.toNat ∧ unpack longestEntry (entry / 0x1000000) = held := by
  unfold PackedTable.find? at h
  split at h
  · cases h
  · next highest row hrow =>
    obtain ⟨entry, hentry, rfl⟩ := Option.map_eq_some_iff.mp h
    refine ⟨(highest, row), List.mem_of_find?_eq_some hrow, entry,
      List.mem_of_find?_eq_some hentry, ?_, rfl⟩
    exact of_decide_eq_true (List.find?_some (p := (· % 0x1000000 = c.toNat)) hentry)

theorem PackedTable.exists_of_mem_findAll {table : PackedTable} {c : Char} {held : List Char}
    (h : held ∈ table.findAll c) :
    ∃ row ∈ table, ∃ entry ∈ row.2,
      entry % 0x1000000 = c.toNat ∧ unpack longestEntry (entry / 0x1000000) = held := by
  unfold PackedTable.findAll at h
  split at h
  · cases h
  · next highest row hrow =>
    obtain ⟨entry, hentry, rfl⟩ := List.mem_map.mp h
    obtain ⟨hmem, hkey⟩ := List.mem_filter.mp hentry
    exact ⟨(highest, row), List.mem_of_find?_eq_some hrow, entry, hmem, of_decide_eq_true hkey, rfl⟩

end Unicode

end MarkdownCheck
