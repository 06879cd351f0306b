import MarkdownCheck.Proofs.Rule.Names
import MarkdownCheck.Proofs.Settings.Check
import MarkdownCheck.Proofs.Settings.Override
import MarkdownCheck.Settings.Load

/-!
# The settings of a run

Settings that have been loaded are overridden first and checked afterwards. The check comes too late
for disabled rules of the wrong kind when names are added to them: a value that is no collection
cannot be extended at all, and the empty text and tables of rule names turn into lists of names.

- `Settings.IsRunOverride`: the overrides that the command passes.
- `Value.PassesForNames`: the values of the wrong kind that pass for lists of names of rules.
- `buildSettings_eq`: loading, overriding, checking.
- `buildSettings_outcome`: how it ends, for all settings that are loaded and all overrides.
- `buildSettings_not_fault_number`: it may end neither with accepted settings nor with a fault, and
  settings may be accepted that had a fault before.
-/

namespace MarkdownCheck

/-! ## Disabled rules with names added -/

namespace Value

/-- A list, a text or a table. -/
def IsCollection : Value → Prop
  | .list _ | .text _ | .table _ => True
  | _ => False

/-- A value that is no list and whose items all are names of rules when it is taken for one: the
empty text, or a table with names of rules for keys. -/
def PassesForNames (value : Value) : Prop :=
  value = .text [] ∨
    ∃ entries, value = .table entries ∧ ∀ entry ∈ entries, (findRule? entry.1).isSome

theorem isSome_items?_iff {value : Value} : value.items?.isSome ↔ value.IsCollection := by
  cases value <;> simp [items?, IsCollection]

end Value

namespace Settings

theorem namesRules_list_iff {items : List Value} :
    NamesRules (.list items) ↔
      ∀ item ∈ items, ∃ text, item = .text text ∧ (findRule? text).isSome := by
  constructor
  · rintro ⟨texts, hlist, hknown⟩ item hitem
    rw [Value.list.inj hlist] at hitem
    obtain ⟨text, htext, rfl⟩ := List.mem_map.mp hitem
    exact ⟨text, rfl, hknown text htext⟩
  · intro h
    induction items with
    | nil => exact ⟨[], rfl, nofun⟩
    | cons item rest ih =>
      obtain ⟨⟨text, rfl, htext⟩, hrest⟩ := List.forall_mem_cons.mp h
      obtain ⟨texts, hlist, hknown⟩ := ih hrest
      refine ⟨text :: texts, ?_, List.forall_mem_cons.mpr ⟨htext, hknown⟩⟩
      rw [Value.list.inj hlist, List.map_cons]

/-- The items of a collection are names of rules if it is a list of them or passes for one. A text
is taken character by character, and no rule has a name of one character. -/
theorem namesRules_items_iff {value : Value} {items : List Value} (h : value.items? = some items) :
    NamesRules (.list items) ↔ NamesRules value ∨ value.PassesForNames := by
  cases value with
  | list own =>
    obtain rfl := Option.some.inj h
    simp [Value.PassesForNames]
  | text whole =>
    obtain rfl := Option.some.inj h
    have hnot : ¬ NamesRules (.text whole) := by
      rintro ⟨texts, htext, -⟩
      cases htext
    have hpasses : (Value.text whole).PassesForNames ↔ whole = [] := by
      simp [Value.PassesForNames]
    rw [namesRules_list_iff, hpasses, or_iff_right hnot]
    constructor
    · intro hitems
      cases whole with
      | nil => rfl
      | cons c rest =>
        obtain ⟨text, htext, hknown⟩ := hitems (.text [c]) (List.mem_cons_self ..)
        rw [← Value.text.inj htext, findRule?_singleton] at hknown
        cases hknown
    · rintro rfl
      exact nofun
  | table entries =>
    obtain rfl := Option.some.inj h
    have hnot : ¬ NamesRules (.table entries) := by
      rintro ⟨texts, htable, -⟩
      cases htable
    rw [namesRules_list_iff, or_iff_right hnot, List.forall_mem_map]
    simp [Value.PassesForNames]
  | _ => cases h

theorem isCollection_of_namesRules {value : Value} (h : NamesRules value ∨ value.PassesForNames) :
    value.IsCollection := by
  rcases h with ⟨texts, rfl, -⟩ | rfl | ⟨entries, rfl, -⟩
  all_goals trivial

/-- A name that is not added again, because it is there already, is that of a rule; or both are
empty. -/
theorem isSome_findRule?_of_holds? {disabled : Value} {text : Text}
    (h : NamesRules disabled ∨ disabled.PassesForNames)
    (hheld : disabled.holds? (.text text) = some true) :
    (findRule? text).isSome ∨ text = [] ∧ disabled = .text [] := by
  rcases h with ⟨texts, rfl, hknown⟩ | rfl | ⟨entries, rfl, hknown⟩
  · refine .inl (hknown text ?_)
    have hany := Option.some.inj hheld
    obtain ⟨item, hitem, hagrees⟩ := List.any_eq_true.mp hany
    obtain ⟨known, hmem, rfl⟩ := List.mem_map.mp hitem
    have heq : known = text := by simpa [Value.agrees, Value.atomsAgree] using hagrees
    exact heq ▸ hmem
  · refine .inr ⟨?_, rfl⟩
    have hincludes : Text.includes text [] = true := Option.some.inj hheld
    cases text with
    | nil => rfl
    | cons c rest => cases hincludes
  · refine .inl ?_
    have hany := Option.some.inj hheld
    obtain ⟨entry, hentry, hkey⟩ := List.any_eq_true.mp hany
    exact of_decide_eq_true hkey ▸ hknown entry hentry

/-- Disabled rules with names added are names of rules if both were, or if what was there passes
for it. -/
theorem namesRules_merged_iff {disabled merged : Value} {texts : List Text}
    (h : mergeNames? disabled (.list (texts.map .text)) = some merged) :
    NamesRules merged ↔
      (NamesRules disabled ∨ disabled.PassesForNames) ∧
        ∀ text ∈ texts, (findRule? text).isSome ∨ text = [] ∧ disabled = .text [] := by
  rw [mergeNames?_texts] at h
  obtain ⟨known, hitems, rfl⟩ := Option.map_eq_some_iff.mp h
  have hnew : NamesRules (.list (known ++ (newNames disabled texts).map .text)) ↔
      NamesRules (.list known) ∧ ∀ text ∈ newNames disabled texts, (findRule? text).isSome := by
    simp only [namesRules_list_iff, List.forall_mem_append, List.forall_mem_map]
    simp
  rw [hnew, namesRules_items_iff hitems]
  refine and_congr_right fun hdisabled => ⟨fun hall text htext => ?_, fun hall text htext => ?_⟩
  · by_cases hheld : disabled.holds? (.text text) = some true
    · exact isSome_findRule?_of_holds? hdisabled hheld
    · exact .inl (hall text (List.mem_filter.mpr ⟨htext, by simpa using hheld⟩))
  · obtain ⟨hmem, hheld⟩ := List.mem_filter.mp htext
    rcases hall text hmem with hknown | ⟨rfl, rfl⟩
    · exact hknown
    · -- the empty text holds the empty name, so that is not added
      exact absurd rfl (of_decide_eq_true hheld)

/-! ## Overrides of a run -/

/-- The overrides that the command passes: names of rules, a flag, an integer, or nothing. -/
inductive IsRunOverride : Text × Value → Prop where
  | silent {name : Text} (hname : name ∈ names) : IsRunOverride (name, .null)
  | disable (texts : List Text) : IsRunOverride ("disable".toList, .list (texts.map .text))
  | clearComments (flag : Bool) : IsRunOverride ("clear_html_comments".toList, .flag flag)
  | maxLineLength (n : Int) : IsRunOverride ("max_line_length".toList, .number n)

theorem IsRunOverride.fst_mem_names {entry : Text × Value} (h : IsRunOverride entry) :
    entry.1 ∈ names := by
  cases h with
  | silent hname => exact hname
  | disable => exact mem_names.mpr (.inl rfl)
  | clearComments => exact mem_names.mpr (.inr (.inl rfl))
  | maxLineLength => exact mem_names.mpr (.inr (.inr (.inr (.inr rfl))))

theorem mem_of_mem_changes {overrides : List (Text × Value)} {entry : Text × Value}
    (h : entry ∈ changes overrides) : entry ∈ overrides :=
  (List.mem_filter.mp h).1

/-- Names of rules are all that the disabled rules are overridden with. -/
theorem exists_texts_of_lookup_disable {overrides : List (Text × Value)}
    (hkinds : ∀ entry ∈ overrides, IsRunOverride entry) {value : Value}
    (h : (changes overrides).lookup "disable".toList = some value) :
    ∃ texts : List Text, value = .list (texts.map .text) := by
  have hmem := mem_of_lookup_eq_some h
  have hsays : (!value.isNull) = true := (List.mem_filter.mp hmem).2
  generalize hentry : ("disable".toList, value) = entry at hmem
  cases hkinds entry (mem_of_mem_changes hmem) with
  | silent hname =>
    rw [(Prod.mk.inj hentry).2] at hsays
    cases hsays
  | disable texts => exact ⟨texts, (Prod.mk.inj hentry).2⟩
  | clearComments flag => exact absurd (Prod.mk.inj hentry).1 (by decide)
  | maxLineLength n => exact absurd (Prod.mk.inj hentry).1 (by decide)

/-- Names are added to the disabled rules, or they stay as they are. -/
theorem afterChanges?_disable_cases (settings : Settings) {overrides : List (Text × Value)}
    (hkinds : ∀ entry ∈ overrides, IsRunOverride entry) :
    ((changes overrides).lookup "disable".toList = none ∧
      settings.afterChanges? (changes overrides) "disable".toList = some settings.disable) ∨
    ∃ texts : List Text,
      (changes overrides).lookup "disable".toList = some (.list (texts.map .text)) ∧
      settings.afterChanges? (changes overrides) "disable".toList =
        mergeNames? settings.disable (.list (texts.map .text)) := by
  cases hlookup : (changes overrides).lookup "disable".toList with
  | none =>
    refine .inl ⟨rfl, ?_⟩
    rw [afterChanges?, hlookup]
    rfl
  | some value =>
    obtain ⟨texts, rfl⟩ := exists_texts_of_lookup_disable hkinds hlookup
    refine .inr ⟨texts, rfl, ?_⟩
    rw [afterChanges?, hlookup]
    exact if_pos rfl

theorem mergeNames?_eq_none_iff {disabled : Value} {texts : List Text} :
    mergeNames? disabled (.list (texts.map .text)) = none ↔ ¬ disabled.IsCollection := by
  rw [mergeNames?_texts, Option.map_eq_none_iff, ← Value.isSome_items?_iff,
    Option.not_isSome_iff_eq_none]

/-- What is left under the other names is the override, or else what was there. -/
theorem afterChanges?_of_ne (settings : Settings) (given : List (Text × Value)) {name : Text}
    (h : name ≠ "disable".toList) :
    settings.afterChanges? given name = (given.lookup name).or (settings.get? name) := by
  rw [afterChanges?]
  cases given.lookup name with
  | none => rfl
  | some value => exact if_neg h

end Settings

/-! ## How it ends -/

/-- Loaded settings are overridden, and what comes out is checked. -/
theorem buildSettings_eq {workspace : Workspace} {path : Path} {loaded : Settings}
    {overrides : List (Text × Value)} (hload : loadSettings workspace path = .ok loaded)
    (hnames : ∀ entry ∈ overrides, entry.1 ∈ Settings.names) :
    buildSettings workspace path overrides =
      match loaded.changeAll (Settings.changes overrides) with
      | .error failure => .error (.override failure)
      | .ok settings =>
        match settings.check with
        | .error fault => .error (.fault fault)
        | .ok _ => .ok settings := by
  have hreserved (name : Text) (hname : name ∉ Settings.names) :
      ¬ overrides.any (·.1 = name) = true := by
    simp only [List.any_eq_true, decide_eq_true_eq, not_exists, not_and]
    exact fun entry hentry heq => hname (heq ▸ hnames entry hentry)
  have hchanges := loaded.override_eq_changeAll fun entry hentry heq =>
    absurd (hnames entry hentry) (heq ▸ by decide)
  have hsteps : buildSettings workspace path overrides =
      ((loaded.override overrides).mapError BuildFailure.override >>= fun changed =>
        (changed.getD loaded).check.mapError .fault >>= fun _ => .ok (changed.getD loaded)) := by
    rw [buildSettings, if_neg (hreserved startName (by decide)), hload]
    rfl
  rw [hsteps, ← hchanges]
  cases loaded.override overrides with
  | error failure => rfl
  | ok changed =>
    show (changed.getD loaded).check.mapError BuildFailure.fault >>= _ = _
    dsimp only [Except.map]
    cases (changed.getD loaded).check <;> rfl

/-- Overrides end in a failure of their own, or each setting is overridden and all are checked. -/
theorem buildSettings_cases {workspace : Workspace} {path : Path} {loaded : Settings}
    {overrides : List (Text × Value)} (hload : loadSettings workspace path = .ok loaded)
    (hnames : ∀ entry ∈ overrides, entry.1 ∈ Settings.names)
    (hdistinct : (overrides.map Prod.fst).Nodup) :
    (loaded.afterChanges? (Settings.changes overrides) "disable".toList = none ∧
      buildSettings workspace path overrides = .error (.override .notNames)) ∨
    ∃ changed : Settings,
      (∀ name, changed.get? name = loaded.afterChanges? (Settings.changes overrides) name) ∧
      ((∃ options, changed.check = .ok options ∧
          buildSettings workspace path overrides = .ok changed) ∨
        ∃ fault, changed.check = .error fault ∧
          buildSettings workspace path overrides = .error (.fault fault)) := by
  have hgiven : ∀ entry ∈ Settings.changes overrides, entry.1 ∈ Settings.names := fun entry h =>
    hnames entry (Settings.mem_of_mem_changes h)
  have hfiltered : ((Settings.changes overrides).map Prod.fst).Nodup :=
    hdistinct.sublist (List.filter_sublist.map Prod.fst)
  rw [buildSettings_eq hload hnames]
  rcases loaded.changeAll_cases hgiven hfiltered with ⟨hnone, hchange⟩ | ⟨changed, hchange, hget⟩
  · rw [hchange]
    exact .inl ⟨hnone, rfl⟩
  · refine .inr ⟨changed, hget, ?_⟩
    rw [hchange]
    dsimp only
    cases changed.check with
    | ok options => exact .inl ⟨options, rfl, rfl⟩
    | error fault => exact .inr ⟨fault, rfl, rfl⟩

/-- Overridden settings are accepted setting by setting. -/
theorem check_isOk_iff_of_afterChanges? {loaded changed : Settings} {given : List (Text × Value)}
    (hget : ∀ name, changed.get? name = loaded.afterChanges? given name) :
    (∃ options, changed.check = .ok options) ↔
      (∀ name value, name ≠ "disable".toList →
        (given.lookup name).or (loaded.get? name) = some value → Settings.Accepts name value) ∧
      Settings.NamesRules changed.disable := by
  rw [Settings.check_isOk_iff_forall_accepts]
  constructor
  · intro h
    refine ⟨fun name value hname hvalue => h name value ?_,
      Settings.accepts_disable_iff.mp (h _ _ rfl)⟩
    rw [hget, Settings.afterChanges?_of_ne loaded given hname]
    exact hvalue
  · rintro ⟨hothers, hdisable⟩ name value hvalue
    by_cases hname : name = "disable".toList
    · subst hname
      rw [← Option.some.inj hvalue]
      exact Settings.accepts_disable_iff.mpr hdisable
    · rw [hget, Settings.afterChanges?_of_ne loaded given hname] at hvalue
      exact hothers name value hname hvalue

/-- Names are added to disabled rules that are no collection, or what comes out is checked. -/
theorem buildSettings_disable_cases {workspace : Workspace} {path : Path} {loaded : Settings}
    {overrides : List (Text × Value)} (hload : loadSettings workspace path = .ok loaded)
    (hkinds : ∀ entry ∈ overrides, Settings.IsRunOverride entry)
    (hdistinct : (overrides.map Prod.fst).Nodup) :
    ((∃ texts : List Text,
        (Settings.changes overrides).lookup "disable".toList = some (.list (texts.map .text))) ∧
      ¬ loaded.disable.IsCollection ∧
      buildSettings workspace path overrides = .error (.override .notNames)) ∨
    ∃ changed : Settings,
      (((Settings.changes overrides).lookup "disable".toList = none ∧
          changed.disable = loaded.disable) ∨
        ∃ texts : List Text,
          (Settings.changes overrides).lookup "disable".toList = some (.list (texts.map .text)) ∧
          Settings.mergeNames? loaded.disable (.list (texts.map .text)) = some changed.disable) ∧
      ((∃ options, changed.check = .ok options) ↔
        (∀ name value, name ≠ "disable".toList →
          ((Settings.changes overrides).lookup name).or (loaded.get? name) = some value →
          Settings.Accepts name value) ∧
        Settings.NamesRules changed.disable) ∧
      ((∃ options, changed.check = .ok options ∧
          buildSettings workspace path overrides = .ok changed) ∨
        ∃ fault, changed.check = .error fault ∧
          buildSettings workspace path overrides = .error (.fault fault)) := by
  rcases buildSettings_cases hload (fun entry h => (hkinds entry h).fst_mem_names) hdistinct with
    ⟨hnone, hbuild⟩ | ⟨changed, hget, hend⟩
  · rcases loaded.afterChanges?_disable_cases hkinds with ⟨-, hkept⟩ | ⟨texts, hlookup, hmerged⟩
    · rw [hkept] at hnone
      cases hnone
    · exact .inl ⟨⟨texts, hlookup⟩, Settings.mergeNames?_eq_none_iff.mp (hmerged.symm.trans hnone),
        hbuild⟩
  · refine .inr ⟨changed, ?_, check_isOk_iff_of_afterChanges? hget, hend⟩
    have hdisable : some changed.disable = _ := hget "disable".toList
    rcases loaded.afterChanges?_disable_cases hkinds with
      ⟨hlookup, hkept⟩ | ⟨texts, hlookup, hmerged⟩
    · exact .inl ⟨hlookup, Option.some.inj (hdisable.trans hkept)⟩
    · exact .inr ⟨texts, hlookup, (hdisable.trans hmerged).symm⟩

section

variable {workspace : Workspace} {path : Path} {loaded : Settings}
  {overrides : List (Text × Value)} (hload : loadSettings workspace path = .ok loaded)
  (hkinds : ∀ entry ∈ overrides, Settings.IsRunOverride entry)
  (hdistinct : (overrides.map Prod.fst).Nodup)

include hload hkinds hdistinct

theorem buildSettings_ends :
    buildSettings workspace path overrides = .error (.override .notNames) ∨
    (∃ fault, buildSettings workspace path overrides = .error (.fault fault)) ∨
    ∃ settings options, buildSettings workspace path overrides = .ok settings ∧
      settings.check = .ok options := by
  rcases buildSettings_disable_cases hload hkinds hdistinct with
    ⟨-, -, hbuild⟩ | ⟨changed, -, -, ⟨options, hcheck, hbuild⟩ | ⟨fault, -, hbuild⟩⟩
  · exact .inl hbuild
  · exact .inr (.inr ⟨changed, options, hbuild, hcheck⟩)
  · exact .inr (.inl ⟨fault, hbuild⟩)

theorem buildSettings_eq_notNames_iff :
    buildSettings workspace path overrides = .error (.override .notNames) ↔
      "disable".toList ∈ (Settings.changes overrides).map Prod.fst ∧
        ¬ loaded.disable.IsCollection := by
  rw [← isSome_lookup_iff]
  rcases buildSettings_disable_cases hload hkinds hdistinct with
    ⟨⟨texts, hlookup⟩, hnot, hbuild⟩ | ⟨changed, hdisable, -, hend⟩
  · exact ⟨fun _ => ⟨by rw [hlookup]; rfl, hnot⟩, fun _ => hbuild⟩
  · have hne : buildSettings workspace path overrides ≠ .error (.override .notNames) := by
      rcases hend with ⟨-, -, hbuild⟩ | ⟨fault, -, hbuild⟩
      all_goals
        rw [hbuild]
        exact nofun
    refine iff_of_false hne ?_
    rintro ⟨hgiven, hnot⟩
    rcases hdisable with ⟨hlookup, -⟩ | ⟨texts, -, hmerged⟩
    · rw [hlookup] at hgiven
      cases hgiven
    · rw [Settings.mergeNames?_eq_none_iff.mpr hnot] at hmerged
      cases hmerged

theorem buildSettings_isOk_iff :
    (∃ settings, buildSettings workspace path overrides = .ok settings) ↔
      (∀ name value, name ≠ "disable".toList →
        ((Settings.changes overrides).lookup name).or (loaded.get? name) = some value →
        Settings.Accepts name value) ∧
      ("disable".toList ∉ (Settings.changes overrides).map Prod.fst →
        Settings.Accepts "disable".toList loaded.disable) ∧
      ∀ texts : List Text,
        (Settings.changes overrides).lookup "disable".toList = some (.list (texts.map .text)) →
        (Settings.Accepts "disable".toList loaded.disable ∨ loaded.disable.PassesForNames) ∧
        ∀ text ∈ texts, (findRule? text).isSome ∨ text = [] ∧ loaded.disable = .text [] := by
  rw [Settings.accepts_disable_iff, ← isSome_lookup_iff]
  rcases buildSettings_disable_cases hload hkinds hdistinct with
    ⟨⟨texts, hlookup⟩, hnot, hbuild⟩ | ⟨changed, hdisable, haccepted, hend⟩
  -- what cannot be extended is no collection, and nothing else passes for names of rules
  · refine iff_of_false ?_ ?_
    · rintro ⟨settings, hok⟩
      rw [hbuild] at hok
      cases hok
    · rintro ⟨-, -, hadded⟩
      exact hnot (Settings.isCollection_of_namesRules (hadded texts hlookup).1)
  · have hok : (∃ settings, buildSettings workspace path overrides = .ok settings) ↔
        ∃ options, changed.check = .ok options := by
      rcases hend with ⟨options, hcheck, hbuild⟩ | ⟨fault, hcheck, hbuild⟩
      all_goals
        rw [hbuild, hcheck]
        simp
    rw [hok, haccepted]
    -- the other settings are as they should be; what remains are the disabled rules
    refine and_congr_right fun _ => ?_
    rcases hdisable with ⟨hlookup, hkept⟩ | ⟨texts, hlookup, hmerged⟩
    · rw [hkept, hlookup]
      exact ⟨fun h => ⟨fun _ => h, nofun⟩, fun h => h.1 nofun⟩
    · rw [Settings.namesRules_merged_iff hmerged, hlookup]
      constructor
      · intro h
        refine ⟨fun hsilent => absurd rfl hsilent, fun others hothers => ?_⟩
        obtain rfl : texts = others :=
          (List.map_inj_right fun _ _ => Value.text.inj).mp
            (Value.list.inj (Option.some.inj hothers))
        exact h
      · intro h
        exact h.2 texts rfl

/-- A value that would be rejected by itself leads to a fault, unless names are added to it or to
disabled rules that cannot take any. -/
theorem buildSettings_fault {name : Text} {value : Value} (hvalue : loaded.get? name = some value)
    (hkept : name = "disable".toList ∨ name ∉ (Settings.changes overrides).map Prod.fst)
    (hrejected : ¬ Settings.Accepts name value)
    (hadded : "disable".toList ∈ (Settings.changes overrides).map Prod.fst →
      loaded.disable.IsCollection ∧ (name = "disable".toList → ¬ value.PassesForNames)) :
    ∃ fault, buildSettings workspace path overrides = .error (.fault fault) := by
  rcases buildSettings_ends hload hkinds hdistinct with hnot | hfault | ⟨settings, options, hok, -⟩
  · obtain ⟨hgiven, hcollection⟩ := (buildSettings_eq_notNames_iff hload hkinds hdistinct).mp hnot
    exact absurd (hadded hgiven).1 hcollection
  · exact hfault
  · obtain ⟨hothers, hsilent, hnames⟩ :=
      (buildSettings_isOk_iff hload hkinds hdistinct).mp ⟨settings, hok⟩
    refine absurd ?_ hrejected
    by_cases hname : name = "disable".toList
    · subst hname
      obtain rfl : loaded.disable = value := Option.some.inj hvalue
      by_cases hgiven : "disable".toList ∈ (Settings.changes overrides).map Prod.fst
      · obtain ⟨given, hlookup⟩ := Option.isSome_iff_exists.mp (isSome_lookup_iff.mpr hgiven)
        obtain ⟨texts, rfl⟩ := Settings.exists_texts_of_lookup_disable hkinds hlookup
        exact (hnames texts hlookup).1.resolve_right ((hadded hgiven).2 rfl)
      · exact hsilent hgiven
    · have hlookup : (Settings.changes overrides).lookup name = none := by
        rw [← Option.not_isSome_iff_eq_none, isSome_lookup_iff]
        exact hkept.resolve_left hname
      refine hothers name value hname ?_
      rw [hlookup]
      exact hvalue

end

/-- **How building settings ends.** It fails with something other than a fault if and only if names
are added to disabled rules that are no collection. Otherwise it ends with a fault or with accepted
settings. They are accepted if and only if every value is that is left after overriding; but of
disabled rules to which names are added it is enough that they pass for names of rules. So any
loaded value that would be rejected by itself, and is not overridden, leads to a fault, unless it is
such a value of the disabled rules. -/
theorem buildSettings_outcome {workspace : Workspace} {path : Path} {loaded : Settings}
    {overrides : List (Text × Value)} (hload : loadSettings workspace path = .ok loaded)
    (hkinds : ∀ entry ∈ overrides, Settings.IsRunOverride entry)
    (hdistinct : (overrides.map Prod.fst).Nodup) :
    let build := buildSettings workspace path overrides
    let given := Settings.changes overrides
    let disable := "disable".toList
    (build = .error (.override .notNames) ↔
      disable ∈ given.map Prod.fst ∧ ¬ loaded.disable.IsCollection) ∧
    (build = .error (.override .notNames) ∨ (∃ fault, build = .error (.fault fault)) ∨
      ∃ settings options, build = .ok settings ∧ settings.check = .ok options) ∧
    ((∃ settings, build = .ok settings) ↔
      (∀ name value, name ≠ disable →
        (given.lookup name).or (loaded.get? name) = some value → Settings.Accepts name value) ∧
      (disable ∉ given.map Prod.fst → Settings.Accepts disable loaded.disable) ∧
      ∀ texts : List Text, given.lookup disable = some (.list (texts.map .text)) →
        (Settings.Accepts disable loaded.disable ∨ loaded.disable.PassesForNames) ∧
        ∀ text ∈ texts, (findRule? text).isSome ∨ text = [] ∧ loaded.disable = .text []) ∧
    ∀ name value, loaded.get? name = some value → name = disable ∨ name ∉ given.map Prod.fst →
      ¬ Settings.Accepts name value →
      (disable ∈ given.map Prod.fst →
        loaded.disable.IsCollection ∧ (name = disable → ¬ value.PassesForNames)) →
      ∃ fault, build = .error (.fault fault) := by
  intro build given disable
  exact ⟨buildSettings_eq_notNames_iff hload hkinds hdistinct,
    buildSettings_ends hload hkinds hdistinct, buildSettings_isOk_iff hload hkinds hdistinct,
    fun name value => buildSettings_fault hload hkinds hdistinct⟩

/-- One file of settings in the working directory, the root. -/
def workspaceWith (settings : String) : Workspace where
  tree := .directory
    [(".mdlint-rules.toml".toList, .file (settings.toList.map fun c => c.toNat.toUInt8))]
  directory := []

/-- The disabled rules of the file are one text, to which a name is added. A text is a collection,
but this one does not pass for names of rules, so the build ends with a fault. -/
theorem buildSettings_outcome_text :
    let workspace := workspaceWith "[mdlint-rules]\ndisable = 'AM022'"
    let names : Value := .list ([['A', 'M']].map .text)
    loadSettings workspace ⟨0, []⟩ = .ok { disable := .text "AM022".toList } ∧
      (∀ entry ∈ [("disable".toList, names)], Settings.IsRunOverride entry) ∧
      ([("disable".toList, names)].map Prod.fst).Nodup ∧
      ∃ fault,
        buildSettings workspace ⟨0, []⟩ [("disable".toList, names)] = .error (.fault fault) := by
  intro workspace names
  have hload : loadSettings workspace ⟨0, []⟩ = .ok { disable := .text "AM022".toList } := rfl
  have hkinds : ∀ entry ∈ [("disable".toList, names)], Settings.IsRunOverride entry := by
    intro entry hentry
    rw [List.mem_singleton.mp hentry]
    exact .disable _
  have hdistinct : ([("disable".toList, names)].map Prod.fst).Nodup := List.pairwise_singleton _ _
  refine ⟨hload, hkinds, hdistinct, ?_⟩
  refine (buildSettings_outcome hload hkinds hdistinct).2.2.2 _ _ rfl (.inl rfl) ?_ fun _ =>
    ⟨trivial, fun _ => ?_⟩
  · rw [Settings.accepts_disable_iff]
    rintro ⟨texts, htext, -⟩
    cases htext
  · simp [Value.PassesForNames]

/-- Names added to a number end in a failure that is no fault, and names added to the empty text in
accepted settings. Neither value is accepted by itself. -/
theorem buildSettings_not_fault_number :
    let names : Value := .list [.text "AM022".toList]
    loadSettings (workspaceWith "[mdlint-rules]\ndisable = 5") ⟨0, []⟩ =
        .ok { disable := .number 5 } ∧
      ¬ Settings.Accepts "disable".toList (.number 5) ∧
      buildSettings (workspaceWith "[mdlint-rules]\ndisable = 5") ⟨0, []⟩
        [("disable".toList, names)] = .error (.override .notNames) ∧
      loadSettings (workspaceWith "[mdlint-rules]\ndisable = ''") ⟨0, []⟩ =
        .ok { disable := .text [] } ∧
      ¬ Settings.Accepts "disable".toList (.text []) ∧
      buildSettings (workspaceWith "[mdlint-rules]\ndisable = ''") ⟨0, []⟩
        [("disable".toList, names)] = .ok { disable := names } := by
  refine ⟨rfl, ?_, rfl, rfl, ?_, rfl⟩
  all_goals
    rw [Settings.accepts_disable_iff]
    rintro ⟨texts, hvalue, -⟩
    cases hvalue

end MarkdownCheck
