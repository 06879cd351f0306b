import MarkdownCheck.Proofs.General
import MarkdownCheck.Proofs.Settings.Entries
import MarkdownCheck.Settings.Check

/-!
# Which settings are accepted

Settings are checked one by one: they are accepted if and only if each of them would be accepted
among the default ones.

- `Settings.Accepts`: a value is accepted for one setting, all others being the default ones.
- `Settings.accepts_disable_iff` and its like: the values that are accepted.
- `Settings.check_isOk_iff`: the check of all settings is that of each.
-/

namespace MarkdownCheck

namespace Settings

/-! ## Values of one kind -/

theorem mapM_text?_eq_some_iff {items : List Value} {texts : List Text} :
    items.mapM Value.text? = some texts ↔ items = texts.map .text := by
  induction items generalizing texts with
  | nil => simp [eq_comm]
  | cons item rest ih =>
    rw [List.mapM_cons]
    cases item with
    | text first =>
      cases texts with
      | nil => simp [Value.text?, Option.bind_eq_some_iff]
      | cons second others =>
        simp only [Value.text?, Option.bind_eq_bind, Option.bind_some, Option.bind_eq_some_iff, ih]
        constructor
        · rintro ⟨found, rfl, h⟩
          obtain ⟨rfl, rfl⟩ := List.cons.inj (Option.some.inj h)
          rfl
        · intro h
          obtain ⟨hfirst, hrest⟩ := List.cons.inj h
          rw [Value.text.inj hfirst]
          exact ⟨others, hrest, rfl⟩
    | _ => cases texts <;> simp [Value.text?]

/-- A list of names of rules, and nothing else. -/
theorem checkNames_eq_ok_iff {value : Value} {texts : List Text} :
    checkNames value = .ok texts ↔
      value = .list (texts.map .text) ∧ ∀ text ∈ texts, (findRule? text).isSome := by
  cases value with
  | list items =>
    rw [checkNames]
    cases hitems : items.mapM Value.text? with
    | none =>
      have hne : Value.list items ≠ .list (texts.map .text) := by
        intro h
        rw [mapM_text?_eq_some_iff.mpr (Value.list.inj h)] at hitems
        cases hitems
      simp [hne]
    | some found =>
      obtain rfl := mapM_text?_eq_some_iff.mp hitems
      have hlist : Value.list (found.map .text) = .list (texts.map .text) ↔ found = texts := by
        rw [Value.list.injEq, List.map_inj_right fun _ _ => Value.text.inj]
      dsimp only
      rw [hlist]
      split
      · next hknown =>
        rw [Except.ok.injEq]
        constructor
        · rintro rfl
          exact ⟨rfl, by simpa [Option.isSome_iff_ne_none] using hknown⟩
        · exact And.left
      · next hknown =>
        constructor
        · intro h
          cases h
        · rintro ⟨rfl, h⟩
          exact absurd (by simpa [Option.isSome_iff_ne_none] using h) hknown
  | _ => simp [checkNames]

theorem checkFlag_eq_ok_iff {setting : String} {value : Value} {flag : Bool} :
    checkFlag setting value = .ok flag ↔ value = .flag flag := by
  cases value <;> simp [checkFlag]

theorem checkPositive_eq_ok_iff {setting : String} {value : Value} {n : Nat} :
    checkPositive setting value = .ok n ↔ value = .number n ∧ 0 < n := by
  cases value with
  | number m =>
    rw [checkPositive, Value.number.injEq]
    split
    · rw [Except.ok.injEq]
      omega
    · constructor
      · intro h
        cases h
      · omega
  | _ => simp [checkPositive]

/-- A list of names of rules. -/
def NamesRules (value : Value) : Prop :=
  ∃ texts : List Text, value = .list (texts.map .text) ∧ ∀ text ∈ texts, (findRule? text).isSome

/-- A flag. -/
def IsFlag (value : Value) : Prop :=
  ∃ flag, value = .flag flag

/-- A positive integer. -/
def IsPositive (value : Value) : Prop :=
  ∃ n : Nat, value = .number n ∧ 0 < n

/-! ## All settings -/

/-- Every setting has the kind that is asked for. -/
theorem check_isOk_iff {settings : Settings} :
    (∃ options, settings.check = .ok options) ↔
      NamesRules settings.disable ∧ IsFlag settings.clearComments ∧
      IsFlag settings.stripFrontMatter ∧ IsPositive settings.maxFileSize ∧
      IsPositive settings.maxLineLength := by
  simp only [check, bind_eq_ok_iff, checkNames_eq_ok_iff, checkFlag_eq_ok_iff,
    checkPositive_eq_ok_iff]
  constructor
  · rintro ⟨options, disable, h₁, clearComments, h₂, stripFrontMatter, h₃, maxFileSize, h₄,
      maxLineLength, h₅, -⟩
    exact ⟨⟨_, h₁⟩, ⟨_, h₂⟩, ⟨_, h₃⟩, ⟨_, h₄⟩, ⟨_, h₅⟩⟩
  · rintro ⟨⟨disable, h₁⟩, ⟨clearComments, h₂⟩, ⟨stripFrontMatter, h₃⟩, ⟨maxFileSize, h₄⟩,
      ⟨maxLineLength, h₅⟩⟩
    exact ⟨_, _, h₁, _, h₂, _, h₃, _, h₄, _, h₅, rfl⟩

/-- A value is accepted for a setting, all others being the default ones. -/
def Accepts (name : Text) (value : Value) : Prop :=
  ∃ alone options, ({} : Settings).set? name value = some alone ∧ alone.check = .ok options

theorem accepts_iff {name : Text} {value : Value} {alone : Settings}
    (halone : ({} : Settings).set? name value = some alone) :
    Accepts name value ↔ ∃ options, alone.check = .ok options := by
  constructor
  · rintro ⟨other, options, hother, hcheck⟩
    rw [halone] at hother
    rw [← Option.some.inj hother] at hcheck
    exact ⟨options, hcheck⟩
  · rintro ⟨options, hcheck⟩
    exact ⟨alone, options, halone, hcheck⟩

theorem default_isOk :
    NamesRules ({} : Settings).disable ∧ IsFlag ({} : Settings).clearComments ∧
      IsFlag ({} : Settings).stripFrontMatter ∧ IsPositive ({} : Settings).maxFileSize ∧
      IsPositive ({} : Settings).maxLineLength :=
  ⟨⟨[], rfl, nofun⟩, ⟨true, rfl⟩, ⟨true, rfl⟩, ⟨10485760, rfl, Nat.succ_pos _⟩,
    ⟨10000, rfl, Nat.succ_pos _⟩⟩

theorem accepts_disable_iff {value : Value} :
    Accepts "disable".toList value ↔ NamesRules value := by
  obtain ⟨-, h₂, h₃, h₄, h₅⟩ := default_isOk
  rw [accepts_iff rfl, check_isOk_iff]
  exact ⟨fun h => h.1, fun h => ⟨h, h₂, h₃, h₄, h₅⟩⟩

theorem accepts_clearComments_iff {value : Value} :
    Accepts "clear_html_comments".toList value ↔ IsFlag value := by
  obtain ⟨h₁, -, h₃, h₄, h₅⟩ := default_isOk
  rw [accepts_iff rfl, check_isOk_iff]
  exact ⟨fun h => h.2.1, fun h => ⟨h₁, h, h₃, h₄, h₅⟩⟩

theorem accepts_stripFrontMatter_iff {value : Value} :
    Accepts "strip_front_matter".toList value ↔ IsFlag value := by
  obtain ⟨h₁, h₂, -, h₄, h₅⟩ := default_isOk
  rw [accepts_iff rfl, check_isOk_iff]
  exact ⟨fun h => h.2.2.1, fun h => ⟨h₁, h₂, h, h₄, h₅⟩⟩

theorem accepts_maxFileSize_iff {value : Value} :
    Accepts "max_file_size".toList value ↔ IsPositive value := by
  obtain ⟨h₁, h₂, h₃, -, h₅⟩ := default_isOk
  rw [accepts_iff rfl, check_isOk_iff]
  exact ⟨fun h => h.2.2.2.1, fun h => ⟨h₁, h₂, h₃, h, h₅⟩⟩

theorem accepts_maxLineLength_iff {value : Value} :
    Accepts "max_line_length".toList value ↔ IsPositive value := by
  obtain ⟨h₁, h₂, h₃, h₄, -⟩ := default_isOk
  rw [accepts_iff rfl, check_isOk_iff]
  exact ⟨fun h => h.2.2.2.2, fun h => ⟨h₁, h₂, h₃, h₄, h⟩⟩

/-- Settings are accepted if and only if each of them is. -/
theorem check_isOk_iff_forall_accepts {settings : Settings} :
    (∃ options, settings.check = .ok options) ↔
      ∀ name value, settings.get? name = some value → Accepts name value := by
  rw [check_isOk_iff]
  constructor
  · rintro ⟨h₁, h₂, h₃, h₄, h₅⟩ name value hvalue
    have hname : name ∈ names := (isSome_get?_iff settings).mp (by rw [hvalue]; rfl)
    rcases mem_names.mp hname with rfl | rfl | rfl | rfl | rfl
    all_goals obtain rfl := Option.some.inj hvalue
    · exact accepts_disable_iff.mpr h₁
    · exact accepts_clearComments_iff.mpr h₂
    · exact accepts_stripFrontMatter_iff.mpr h₃
    · exact accepts_maxFileSize_iff.mpr h₄
    · exact accepts_maxLineLength_iff.mpr h₅
  · intro h
    exact ⟨accepts_disable_iff.mp (h _ _ rfl), accepts_clearComments_iff.mp (h _ _ rfl),
      accepts_stripFrontMatter_iff.mp (h _ _ rfl), accepts_maxFileSize_iff.mp (h _ _ rfl),
      accepts_maxLineLength_iff.mp (h _ _ rfl)⟩

end Settings

end MarkdownCheck
