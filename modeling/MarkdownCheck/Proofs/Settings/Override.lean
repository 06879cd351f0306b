import MarkdownCheck.Proofs.Settings.Entries

/-!
# Overridden settings

Overrides replace settings by name; names of rules are added to the disabled ones.

- `Settings.merged?`: the value that an override leaves under a name.
- `Settings.changeAll_cases`: several changes with distinct names, setting by setting.
- `Settings.override_eq_changeAll`: overrides are the changes that say something.
- `Settings.mergeNames?_texts`: names of rules added to whatever the disabled rules are.
-/

namespace MarkdownCheck.Settings

/-! ## One change -/

/-- The value that an override leaves under a name; `none` when the disabled rules cannot be
extended. -/
def merged? (settings : Settings) (name : Text) (value : Value) : Option Value :=
  if name = "disable".toList then mergeNames? settings.disable value else some value

theorem merged?_congr {first second : Settings} {name : Text}
    (h : first.get? name = second.get? name) (value : Value) :
    first.merged? name value = second.merged? name value := by
  rw [merged?, merged?]
  by_cases hname : name = "disable".toList
  · rw [hname] at h
    have hdisable : first.disable = second.disable := Option.some.inj h
    rw [hdisable]
  · rw [if_neg hname, if_neg hname]

theorem change_of_merged?_eq_none {settings : Settings} {name : Text} {value : Value}
    (h : settings.merged? name value = none) : settings.change name value = .error .notNames := by
  rw [merged?] at h
  split at h
  · next hname => rw [change, if_pos hname, h]
  · cases h

/-- A change puts the merged value under its name. -/
theorem change_of_merged?_eq_some {settings changed : Settings} {name : Text}
    {value merged : Value} (h : settings.merged? name value = some merged)
    (hset : settings.set? name merged = some changed) :
    settings.change name value = .ok changed := by
  rw [merged?] at h
  split at h
  · next hname =>
    rw [change, if_pos hname, h]
    rw [hname] at hset
    exact congrArg Except.ok (Option.some.inj hset)
  · next hname =>
    rw [Option.some.inj h] at *
    rw [change, if_neg hname, hset]

/-- What a change of a setting leaves. -/
theorem change_cases (settings : Settings) {name : Text} (hname : name ∈ names) (value : Value) :
    (settings.merged? name value = none ∧ settings.change name value = .error .notNames) ∨
    ∃ merged changed, settings.merged? name value = some merged ∧
      settings.change name value = .ok changed ∧
      ∀ other, changed.get? other = if other = name then some merged else settings.get? other := by
  cases h : settings.merged? name value with
  | none => exact .inl ⟨rfl, change_of_merged?_eq_none h⟩
  | some merged =>
    obtain ⟨changed, hset⟩ := Option.isSome_iff_exists.mp
      ((isSome_set?_iff settings merged).mpr hname)
    exact .inr ⟨merged, changed, rfl, change_of_merged?_eq_some h hset, get?_set? hset⟩

/-! ## Several changes -/

/-- What several changes leave under a name. -/
def afterChanges? (settings : Settings) (given : List (Text × Value)) (name : Text) :
    Option Value :=
  match given.lookup name with
  | none => settings.get? name
  | some value => settings.merged? name value

/-- Changes behind one of another name see the setting as it was. -/
theorem afterChanges?_cons {settings changed : Settings} {name : Text} {value merged : Value}
    {rest : List (Text × Value)} (hmerged : settings.merged? name value = some merged)
    (hget : ∀ other, changed.get? other = if other = name then some merged else settings.get? other)
    (hfresh : name ∉ rest.map Prod.fst) (other : Text) :
    settings.afterChanges? ((name, value) :: rest) other = changed.afterChanges? rest other := by
  rw [afterChanges?, lookup_cons_eq, afterChanges?]
  by_cases hother : other = name
  · have hnone : rest.lookup other = none := by
      rw [← Option.not_isSome_iff_eq_none, isSome_lookup_iff, hother]
      exact hfresh
    rw [if_pos hother, hnone, hother]
    exact hmerged.trans ((hget name).trans (if_pos rfl)).symm
  · have hkept : changed.get? other = settings.get? other := (hget other).trans (if_neg hother)
    rw [if_neg hother]
    cases rest.lookup other with
    | none => exact hkept.symm
    | some value => exact merged?_congr hkept.symm value

/-- Changes of distinct settings succeed if the disabled rules can be extended, and then each
setting is changed on its own. -/
theorem changeAll_cases (settings : Settings) {given : List (Text × Value)}
    (hnames : ∀ entry ∈ given, entry.1 ∈ names) (hdistinct : (given.map Prod.fst).Nodup) :
    (settings.afterChanges? given "disable".toList = none ∧
      settings.changeAll given = .error .notNames) ∨
    ∃ changed, settings.changeAll given = .ok changed ∧
      ∀ name, changed.get? name = settings.afterChanges? given name := by
  induction given generalizing settings with
  | nil => exact .inr ⟨settings, rfl, fun _ => rfl⟩
  | cons entry rest ih =>
    obtain ⟨name, value⟩ := entry
    obtain ⟨hname, hrest⟩ := List.forall_mem_cons.mp hnames
    obtain ⟨hfresh, hdistinct⟩ := List.nodup_cons.mp hdistinct
    rcases change_cases settings hname value with ⟨hmerged, hchange⟩ | ⟨merged, mid, hmerged,
      hchange, hget⟩
    · have hdisable : name = "disable".toList := by
        rw [merged?] at hmerged
        split at hmerged
        · assumption
        · cases hmerged
      refine .inl ⟨?_, by rw [changeAll, hchange]; rfl⟩
      rw [afterChanges?, lookup_cons_eq, ← hdisable, if_pos rfl]
      exact hmerged
    · have hafter := afterChanges?_cons hmerged hget hfresh
      have hstep : settings.changeAll ((name, value) :: rest) = mid.changeAll rest := by
        rw [changeAll, hchange]
        rfl
      rw [hstep]
      simp only [hafter]
      exact ih mid hrest hdistinct

/-! ## Overrides -/

/-- Overrides are the changes that say something. -/
theorem override_eq_changeAll (settings : Settings) {overrides : List (Text × Value)}
    (h : ∀ entry ∈ overrides, entry.1 ≠ ownName) :
    (settings.override overrides).map (·.getD settings) =
      settings.changeAll (changes overrides) := by
  have hown : ¬ overrides.any (·.1 = ownName) = true := by
    simp only [List.any_eq_true, decide_eq_true_eq, not_exists, not_and]
    exact h
  rw [override, if_neg hown]
  cases changes overrides with
  | nil => rfl
  | cons entry rest =>
    dsimp only
    cases settings.changeAll (entry :: rest) <;> rfl

/-! ## Names added to the disabled rules -/

/-- Names that a collection does not hold yet. -/
def newNames (collection : Value) (texts : List Text) : List Text :=
  texts.filter fun text => collection.holds? (.text text) ≠ some true

/-- Every collection can be asked for a text. -/
theorem isSome_holds?_text {collection : Value} (h : collection.items?.isSome) (text : Text) :
    (collection.holds? (.text text)).isSome := by
  cases collection <;> first | rfl | cases h

theorem missing?_texts {collection : Value} (h : collection.items?.isSome) (texts : List Text) :
    missing? collection (texts.map .text) = some ((newNames collection texts).map .text) := by
  induction texts with
  | nil => rfl
  | cons text rest ih =>
    obtain ⟨held, hheld⟩ := Option.isSome_iff_exists.mp (isSome_holds?_text h text)
    have hnew : newNames collection (text :: rest) =
        if held then newNames collection rest else text :: newNames collection rest := by
      rw [newNames, List.filter_cons, hheld]
      cases held <;> rfl
    rw [List.map_cons, missing?, hheld, ih, hnew]
    cases held <;> rfl

/-- Names are added to the items of a collection, and to nothing else. -/
theorem mergeNames?_texts (disabled : Value) (texts : List Text) :
    mergeNames? disabled (.list (texts.map .text)) =
      disabled.items?.map fun known =>
        .list (known ++ (newNames disabled texts).map .text) := by
  have hnames : (Value.list (texts.map .text)).items? = some (texts.map .text) := rfl
  rw [mergeNames?, hnames, Option.bind_eq_bind, Option.bind_some]
  cases hitems : disabled.items? with
  | none =>
    simp only [Option.bind_none, Option.bind_fun_none, Option.map_none]
  | some known =>
    rw [missing?_texts (by rw [hitems]; rfl)]
    rfl

end MarkdownCheck.Settings
