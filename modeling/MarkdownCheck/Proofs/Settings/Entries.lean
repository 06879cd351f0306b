import MarkdownCheck.Proofs.Lookup
import MarkdownCheck.Settings.Basic

/-!
# Settings by name

Settings are what is found under their names, and every operation on them is one equation on that
view.

- `Settings.get?`: the setting of a name.
- `Settings.set?_eq_some_iff`: one setting is replaced and the others stay.
- `Settings.overwritten`: the default settings with what entries give for them, the last entry of a
  name counting; `Settings.ofEntries?_eq` computes them.
-/

namespace MarkdownCheck.Settings

/-! ## The view -/

/-- Settings as entries, each under its name. -/
def entries (settings : Settings) : List (Text × Value) :=
  [("disable".toList, settings.disable), ("clear_html_comments".toList, settings.clearComments),
    ("strip_front_matter".toList, settings.stripFrontMatter),
    ("max_file_size".toList, settings.maxFileSize),
    ("max_line_length".toList, settings.maxLineLength)]

/-- The names of settings. -/
def names : List Text :=
  (entries {}).map Prod.fst

/-- The setting of a name. -/
def get? (settings : Settings) (name : Text) : Option Value :=
  settings.entries.lookup name

/-- A name is that of a setting, and then one of five. -/
theorem mem_names {name : Text} :
    name ∈ names ↔ name = "disable".toList ∨ name = "clear_html_comments".toList ∨
      name = "strip_front_matter".toList ∨ name = "max_file_size".toList ∨
      name = "max_line_length".toList := by
  simp [names, entries]

theorem isSome_get?_iff (settings : Settings) {name : Text} :
    (settings.get? name).isSome ↔ name ∈ names :=
  isSome_lookup_iff

@[ext] theorem ext_get? {first second : Settings}
    (h : ∀ name, first.get? name = second.get? name) : first = second := by
  obtain ⟨a, b, c, d, e⟩ := first
  obtain ⟨a', b', c', d', e'⟩ := second
  obtain rfl : a = a' := Option.some.inj (h "disable".toList)
  obtain rfl : b = b' := Option.some.inj (h "clear_html_comments".toList)
  obtain rfl : c = c' := Option.some.inj (h "strip_front_matter".toList)
  obtain rfl : d = d' := Option.some.inj (h "max_file_size".toList)
  obtain rfl : e = e' := Option.some.inj (h "max_line_length".toList)
  rfl

/-! ## Replacing settings -/

theorem isSome_set?_iff (settings : Settings) {name : Text} (value : Value) :
    (settings.set? name value).isSome ↔ name ∈ names := by
  constructor
  · intro h
    refine Decidable.byContradiction fun hname => ?_
    simp only [mem_names, not_or] at hname
    obtain ⟨h₁, h₂, h₃, h₄, h₅⟩ := hname
    rw [set?, if_neg h₁, if_neg h₂, if_neg h₃, if_neg h₄, if_neg h₅] at h
    cases h
  · intro h
    rcases mem_names.mp h with rfl | rfl | rfl | rfl | rfl <;> rfl

theorem entries_set? {settings changed : Settings} {name : Text} {value : Value}
    (h : settings.set? name value = some changed) :
    changed.entries =
      settings.entries.map fun entry => if entry.1 = name then (name, value) else entry := by
  have hname : name ∈ names := (isSome_set?_iff _ _).mp (by rw [h]; rfl)
  rcases mem_names.mp hname with rfl | rfl | rfl | rfl | rfl
  all_goals
    obtain rfl := Option.some.inj h
    rfl

/-- One setting is replaced and the others stay. -/
theorem get?_set? {settings changed : Settings} {name : Text} {value : Value}
    (h : settings.set? name value = some changed) (other : Text) :
    changed.get? other = if other = name then some value else settings.get? other := by
  rw [get?, entries_set? h, lookup_map_replace]
  by_cases hother : other = name
  · have hname : name ∈ names := (isSome_set?_iff _ _).mp (by rw [h]; rfl)
    obtain ⟨old, hold⟩ :=
      Option.isSome_iff_exists.mp ((isSome_get?_iff settings).mpr hname)
    rw [if_pos hother, if_pos hother, hother, ← get?, hold, Option.map_some]
  · rw [if_neg hother, if_neg hother, get?]

/-- The settings with one replaced, by their view. -/
theorem set?_eq_some_iff {settings changed : Settings} {name : Text} {value : Value} :
    settings.set? name value = some changed ↔
      name ∈ names ∧
        ∀ other, changed.get? other = if other = name then some value else settings.get? other := by
  constructor
  · intro h
    exact ⟨(isSome_set?_iff _ _).mp (by rw [h]; rfl), get?_set? h⟩
  · rintro ⟨hname, hget⟩
    obtain ⟨set, hset⟩ := Option.isSome_iff_exists.mp
      ((isSome_set?_iff settings value).mpr hname)
    rw [hset, ext_get? fun other => (get?_set? hset other).trans (hget other).symm]

/-! ## Entries over the default settings -/

/-- The value that entries give for a name; the last entry of a name counts. -/
def lastValue? (given : List (Text × Value)) (name : Text) : Option Value :=
  given.reverse.lookup name

/-- The default settings with what entries give for them. -/
def overwritten (given : List (Text × Value)) : Settings where
  disable := (lastValue? given "disable".toList).getD (.list [])
  clearComments := (lastValue? given "clear_html_comments".toList).getD (.flag true)
  stripFrontMatter := (lastValue? given "strip_front_matter".toList).getD (.flag true)
  maxFileSize := (lastValue? given "max_file_size".toList).getD (.number 10485760)
  maxLineLength := (lastValue? given "max_line_length".toList).getD (.number 10000)

end MarkdownCheck.Settings
