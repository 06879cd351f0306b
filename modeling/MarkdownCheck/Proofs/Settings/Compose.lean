import MarkdownCheck.Proofs.Settings.Check
import MarkdownCheck.Proofs.Settings.Override

/-!
# Overrides one after the other

Several sets of overrides act setting by setting: what was said last counts, except that the
disabled rules only ever grow.

- `Settings.IsOverrideSet`: distinct settings, with names of rules or nothing for the disabled ones.
- `Settings.overridden`, `Settings.overrideAll`: the settings after one set and after several.
- `Settings.lastSaid?`, `Settings.mergedNames`: what the sets leave of a setting and of the disabled
  rules.
- `Settings.overridden_cases`: one set; `Settings.overrideAll_cases`: several, by induction.
- `Settings.overrideAll_composes`: with the rules that run afterwards.
-/

namespace MarkdownCheck

/-! ## Rules by their names -/

/-- A name leads to a rule of the list if and only if the rule has it. -/
theorem any_findRule?_iff {rule : Rule} (h : rule ∈ allRules) (name : Text) :
    (findRule? name).any (·.names = rule.names) = rule.isNamed name := by
  obtain rfl : rule = anchorCollision := List.mem_singleton.mp h
  rw [findRule?, allRules, List.find?_singleton]
  cases anchorCollision.isNamed name with
  | true => simp
  | false => rfl

theorem isAmong_eq {rule : Rule} (h : rule ∈ allRules) (names : List Text) :
    rule.isAmong names = names.any rule.isNamed :=
  congrArg names.any (funext (any_findRule?_iff h))

namespace Settings

/-- The rules that run are those without a disabled name. -/
theorem rules_texts {settings : Settings} {known : List Text}
    (h : settings.disable = .list (known.map .text)) :
    settings.rules = .ok (allRules.filter fun rule => !known.any rule.isNamed) := by
  have htexts : (known.map Value.text).mapM Value.text? = some known :=
    mapM_text?_eq_some_iff.mpr rfl
  rw [rules, h]
  dsimp only [Value.items?]
  rw [htexts]
  refine congrArg Except.ok (List.filter_congr fun rule hrule => ?_)
  rw [isAmong_eq hrule]

/-! ## One set of overrides -/

/-- One set of overrides: settings by distinct names, each with a value or nothing, and names of
rules for the disabled ones. The other values may be of any kind. -/
structure IsOverrideSet (overrides : List (Text × Value)) : Prop where
  isSetting : ∀ entry ∈ overrides, entry.1 ∈ names
  distinct : (overrides.map Prod.fst).Nodup
  areNames : ∀ value, ("disable".toList, value) ∈ overrides →
    value = .null ∨ ∃ texts : List Text, value = .list (texts.map .text)

/-- The settings after a set of overrides. -/
def overridden (settings : Settings) (overrides : List (Text × Value)) :
    Except OverrideFailure Settings :=
  (settings.override overrides).map (·.getD settings)

/-- What a set of overrides says of a setting; nothing is not something said. -/
def said? (overrides : List (Text × Value)) (name : Text) : Option Value :=
  (changes overrides).lookup name

/-- The names of rules that a set of overrides disables. -/
def addedNames (overrides : List (Text × Value)) : List Text :=
  match said? overrides "disable".toList with
  | some (.list items) => items.filterMap Value.text?
  | _ => []

/-- Names with those that are not there yet behind them. A name that is new may come twice. -/
def withNew (known added : List Text) : List Text :=
  known ++ added.filter fun name => !known.contains name

@[simp] theorem mem_withNew {known added : List Text} {name : Text} :
    name ∈ withNew known added ↔ name ∈ known ∨ name ∈ added := by
  rw [withNew, List.mem_append, List.mem_filter]
  by_cases h : name ∈ known <;> simp [h]

/-- Names that are all there add nothing. -/
theorem withNew_of_subset {known added : List Text} (h : ∀ name ∈ added, name ∈ known) :
    withNew known added = known := by
  have hnone : added.filter (fun name => !known.contains name) = [] :=
    List.filter_eq_nil_iff.mpr fun name hname => by simpa using h name hname
  rw [withNew, hnone, List.append_nil]

theorem filterMap_text? (texts : List Text) :
    (texts.map Value.text).filterMap Value.text? = texts := by
  rw [List.filterMap_map]
  exact List.filterMap_some

theorem newNames_texts (known texts : List Text) :
    newNames (.list (known.map .text)) texts = texts.filter fun name => !known.contains name := by
  refine List.filter_congr fun text _ => ?_
  have hheld : (Value.list (known.map .text)).holds? (.text text) =
      some (known.any (· = text)) := by
    rw [Value.holds?, List.any_map]
    refine congrArg (fun test => some (known.any test)) (funext fun other => ?_)
    simp [Value.agrees, Value.atomsAgree]
  rw [hheld]
  simp

namespace IsOverrideSet

variable {overrides : List (Text × Value)} (h : IsOverrideSet overrides)

include h

/-- Nothing is said of the disabled rules, or names are given for them. -/
theorem said?_disable :
    (said? overrides "disable".toList = none ∧ addedNames overrides = []) ∨
      said? overrides "disable".toList = some (.list ((addedNames overrides).map .text)) := by
  cases hsaid : said? overrides "disable".toList with
  | none =>
    refine .inl ⟨rfl, ?_⟩
    rw [addedNames, hsaid]
  | some value =>
    obtain ⟨hmem, hsays⟩ := List.mem_filter.mp (mem_of_lookup_eq_some hsaid)
    rcases h.areNames value hmem with rfl | ⟨texts, rfl⟩
    · cases hsays
    · have hadded : addedNames overrides = texts := by
        rw [addedNames, hsaid]
        exact filterMap_text? texts
      exact .inr (by rw [hadded])

theorem overridden_eq_changeAll (settings : Settings) :
    settings.overridden overrides = settings.changeAll (changes overrides) :=
  settings.override_eq_changeAll fun entry hentry heq =>
    absurd (h.isSetting entry hentry) (heq ▸ by decide)

/-- What a set of overrides leaves of the disabled rules. -/
theorem afterChanges?_disable {settings : Settings} {known : List Text}
    (hknown : settings.disable = .list (known.map .text)) :
    settings.afterChanges? (changes overrides) "disable".toList =
      some (.list ((withNew known (addedNames overrides)).map .text)) := by
  rcases h.said?_disable with ⟨hsaid, hadded⟩ | hsaid
  · rw [afterChanges?, ← said?, hsaid, hadded, withNew_of_subset (List.forall_mem_nil _), ← hknown]
    rfl
  · rw [afterChanges?, ← said?, hsaid]
    dsimp only
    rw [merged?, if_pos rfl, mergeNames?_texts, hknown, newNames_texts, withNew, List.map_append]
    rfl

/-- **One set of overrides.** It is always accepted. Names of rules are added, and every other
setting is what is said of it, or else stays. -/
theorem overridden_cases {settings : Settings} {known : List Text}
    (hknown : settings.disable = .list (known.map .text)) :
    ∃ changed, settings.overridden overrides = .ok changed ∧
      changed.disable = .list ((withNew known (addedNames overrides)).map .text) ∧
      ∀ name, name ≠ "disable".toList →
        changed.get? name = (said? overrides name).or (settings.get? name) := by
  have hgiven : ∀ entry ∈ changes overrides, entry.1 ∈ names := fun entry hentry =>
    h.isSetting entry (List.mem_filter.mp hentry).1
  have hdistinct : ((changes overrides).map Prod.fst).Nodup :=
    h.distinct.sublist (List.filter_sublist.map Prod.fst)
  have hdisable := h.afterChanges?_disable hknown
  rw [h.overridden_eq_changeAll]
  rcases settings.changeAll_cases hgiven hdistinct with ⟨hnone, -⟩ | ⟨changed, hchange, hget⟩
  · rw [hdisable] at hnone
    cases hnone
  · refine ⟨changed, hchange, Option.some.inj ((hget _).trans hdisable), fun name hname => ?_⟩
    rw [hget, afterChanges?, ← said?]
    cases said? overrides name with
    | none => rfl
    | some value => exact if_neg hname

/-- The second time a set of overrides finds everything as it leaves it. -/
theorem overridden_again {settings changed : Settings} {known : List Text}
    (hknown : settings.disable = .list (known.map .text))
    (hchanged : settings.overridden overrides = .ok changed) :
    changed.overridden overrides = .ok changed := by
  obtain ⟨once, honce, hdisable, hget⟩ := h.overridden_cases hknown
  obtain rfl : once = changed := Except.ok.inj (honce.symm.trans hchanged)
  obtain ⟨twice, htwice, hdisable', hget'⟩ := h.overridden_cases hdisable
  rw [withNew_of_subset fun name hname => mem_withNew.mpr (.inr hname)] at hdisable'
  have hsame : twice = once := by
    refine ext_get? fun name => ?_
    by_cases hname : name = "disable".toList
    · rw [hname]
      exact congrArg some (hdisable'.trans hdisable.symm)
    · rw [hget' name hname, hget name hname, ← Option.or_assoc, Option.or_self]
  rw [htwice, hsame]

/-- A set of overrides leaves the very settings it was given if and only if it says nothing. -/
theorem override_eq_none_iff {settings : Settings} {known : List Text}
    (hknown : settings.disable = .list (known.map .text)) :
    settings.override overrides = .ok none ↔ ∀ entry ∈ overrides, entry.2.isNull := by
  obtain ⟨changed, hchanged, -⟩ := h.overridden_cases hknown
  have hown : ¬ overrides.any (·.1 = ownName) = true := by
    simp only [List.any_eq_true, decide_eq_true_eq, not_exists, not_and]
    exact fun entry hentry heq => absurd (h.isSetting entry hentry) (heq ▸ by decide)
  have hsilent : changes overrides = [] ↔ ∀ entry ∈ overrides, entry.2.isNull := by
    simp [changes, List.filter_eq_nil_iff]
  rw [← hsilent, override, if_neg hown]
  cases hchanges : changes overrides with
  | nil => simp
  | cons entry rest =>
    rw [h.overridden_eq_changeAll, hchanges] at hchanged
    dsimp only
    rw [hchanged]
    simp [Except.map]

end IsOverrideSet

/-! ## Several sets of overrides -/

/-- The settings after several sets of overrides. -/
def overrideAll (settings : Settings) (sets : List (List (Text × Value))) :
    Except OverrideFailure Settings :=
  sets.foldlM overridden settings

/-- What is said last of a setting. -/
def lastSaid? (sets : List (List (Text × Value))) (name : Text) : Option Value :=
  (sets.filterMap (said? · name)).getLast?

/-- Names with those that each set in turn finds missing behind them. -/
def mergedNames (known : List Text) (sets : List (List (Text × Value))) : List Text :=
  sets.foldl (fun names overrides => withNew names (addedNames overrides)) known

theorem lastSaid?_cons (first : List (Text × Value)) (rest : List (List (Text × Value)))
    (name : Text) :
    lastSaid? (first :: rest) name = (lastSaid? rest name).or (said? first name) := by
  rw [lastSaid?, List.filterMap_cons, lastSaid?]
  cases said? first name with
  | none => simp
  | some value => simp [List.getLast?_cons]

/-- Names are only ever added. -/
theorem mem_mergedNames {known : List Text} {sets : List (List (Text × Value))} {name : Text} :
    name ∈ mergedNames known sets ↔
      name ∈ known ∨ ∃ overrides ∈ sets, name ∈ addedNames overrides := by
  induction sets generalizing known with
  | nil => simp [mergedNames]
  | cons first rest ih =>
    rw [mergedNames, List.foldl_cons, ← mergedNames, ih]
    simp [or_assoc]

/-- Several sets of overrides, setting by setting. -/
theorem overrideAll_cases {sets : List (List (Text × Value))}
    (hsets : ∀ overrides ∈ sets, IsOverrideSet overrides) {settings : Settings}
    {known : List Text} (hknown : settings.disable = .list (known.map .text)) :
    ∃ final, settings.overrideAll sets = .ok final ∧
      final.disable = .list ((mergedNames known sets).map .text) ∧
      ∀ name, name ≠ "disable".toList →
        final.get? name = (lastSaid? sets name).or (settings.get? name) := by
  induction sets generalizing settings known with
  | nil => exact ⟨settings, rfl, hknown, fun _ _ => rfl⟩
  | cons first rest ih =>
    obtain ⟨hfirst, hrest⟩ := List.forall_mem_cons.mp hsets
    obtain ⟨changed, hchanged, hdisable, hget⟩ := hfirst.overridden_cases hknown
    obtain ⟨final, hfinal, hmerged, hlast⟩ := ih hrest hdisable
    refine ⟨final, ?_, hmerged, fun name hname => ?_⟩
    · rw [overrideAll, List.foldlM_cons, hchanged]
      exact hfinal
    · rw [hlast name hname, hget name hname, lastSaid?_cons, Option.or_assoc]

/-- The rules that run after several sets of overrides are those that ran before, without the rules
that one of the sets names. -/
theorem rules_mergedNames {settings final : Settings} {known : List Text}
    {sets : List (List (Text × Value))} (hknown : settings.disable = .list (known.map .text))
    (hmerged : final.disable = .list ((mergedNames known sets).map .text)) :
    ∃ running, settings.rules = .ok running ∧
      final.rules = .ok (running.filter fun rule =>
        !sets.any fun overrides => (addedNames overrides).any rule.isNamed) := by
  refine ⟨_, rules_texts hknown, ?_⟩
  rw [rules_texts hmerged, List.filter_filter]
  refine congrArg Except.ok (List.filter_congr fun rule _ => ?_)
  rw [← Bool.not_or, Bool.or_comm]
  refine congrArg not (Bool.eq_iff_iff.mpr ?_)
  simp only [Bool.or_eq_true, List.any_eq_true, mem_mergedNames]
  constructor
  · rintro ⟨name, hmem | ⟨overrides, hset, hmem⟩, hnamed⟩
    · exact .inl ⟨name, hmem, hnamed⟩
    · exact .inr ⟨overrides, hset, name, hmem, hnamed⟩
  · rintro (⟨name, hmem, hnamed⟩ | ⟨overrides, hset, name, hmem, hnamed⟩)
    · exact ⟨name, .inl hmem, hnamed⟩
    · exact ⟨name, .inr ⟨overrides, hset, hmem⟩, hnamed⟩

/-- **Overrides compose.** Sets of overrides are applied one after the other to settings whose
disabled rules are a list of names. That never fails, and afterwards

- every other setting is what was said of it last, or else as before;
- the disabled rules are the ones before, followed set by set by the names that were not there;
- the same set twice in a row leaves what it leaves once, and a set leaves the very settings it is
  given if and only if it says nothing;
- the rules that run are those that ran before, without the rules that some set names, case
  apart. -/
theorem overrideAll_composes {settings : Settings} {known : List Text}
    (hknown : settings.disable = .list (known.map .text)) {sets : List (List (Text × Value))}
    (hsets : ∀ overrides ∈ sets, IsOverrideSet overrides) :
    ∃ final, settings.overrideAll sets = .ok final ∧
      (∀ name, name ≠ "disable".toList →
        final.get? name = (lastSaid? sets name).or (settings.get? name)) ∧
      final.disable = .list ((mergedNames known sets).map .text) ∧
      (∀ overrides, IsOverrideSet overrides →
        settings.overrideAll (sets ++ [overrides, overrides]) =
            settings.overrideAll (sets ++ [overrides]) ∧
          (final.override overrides = .ok none ↔ ∀ entry ∈ overrides, entry.2.isNull)) ∧
      ∃ running, settings.rules = .ok running ∧
        final.rules = .ok (running.filter fun rule =>
          !sets.any fun overrides => (addedNames overrides).any rule.isNamed) := by
  obtain ⟨final, hfinal, hmerged, hlast⟩ := overrideAll_cases hsets hknown
  refine ⟨final, hfinal, hlast, hmerged, fun overrides hset => ⟨?_, ?_⟩,
    rules_mergedNames hknown hmerged⟩
  · obtain ⟨changed, hchanged, -⟩ := hset.overridden_cases hmerged
    have hagain := hset.overridden_again hmerged hchanged
    rw [overrideAll, overrideAll, List.foldlM_append, List.foldlM_append, ← overrideAll, hfinal]
    show (final.overridden overrides >>= fun changed => changed.overridden overrides >>= pure) =
      final.overridden overrides >>= pure
    rw [hchanged]
    show (changed.overridden overrides >>= pure) = pure changed
    rw [hagain]
    rfl
  · exact hset.override_eq_none_iff hmerged

/-- Two sets of overrides: the first disables a rule by its identifier in other letters, twice, and
says nothing of long lines; the second says how long they may be and names an alias as well. -/
theorem overrideAll_composes_other_case :
    let settings : Settings := { disable := .list [.text "unknown".toList] }
    let first : List (Text × Value) :=
      [("max_line_length".toList, .null),
        ("disable".toList, .list [.text "am022".toList, .text "am022".toList])]
    let second : List (Text × Value) :=
      [("max_line_length".toList, .number 80),
        ("disable".toList,
          .list (["Header-Anchor-Collision", "am022", "unknown"].map (.text ·.toList)))]
    settings.disable = .list (["unknown".toList].map .text) ∧
      (∀ overrides ∈ [first, second], IsOverrideSet overrides) ∧
      ∃ final, settings.overrideAll [first, second] = .ok final ∧
        final.get? "max_line_length".toList = some (.number 80) ∧
        final.get? "clear_html_comments".toList = some (.flag true) ∧
        final.disable = .list
          ((["unknown", "am022", "am022", "Header-Anchor-Collision"].map String.toList).map .text) ∧
        settings.overrideAll [first, second, second] = .ok final ∧
        settings.rules = .ok [anchorCollision] ∧ final.rules = .ok [] := by
  intro settings first second
  have hsets : ∀ overrides ∈ [first, second], IsOverrideSet overrides := by
    refine List.forall_mem_cons.mpr ⟨⟨by decide, by decide, fun value hvalue => .inr ?_⟩,
      List.forall_mem_singleton.mpr ⟨by decide, by decide, fun value hvalue => .inr ?_⟩⟩
    · exact ⟨["am022", "am022"].map String.toList, by simpa [first] using hvalue⟩
    · exact ⟨["Header-Anchor-Collision", "am022", "unknown"].map String.toList,
        by simpa [second] using hvalue⟩
  have hknown : settings.disable = .list (["unknown".toList].map .text) := rfl
  obtain ⟨final, hfinal, hlast, hmerged, htwice, running, hrunning, hrules⟩ :=
    overrideAll_composes hknown hsets
  have hbefore : settings.rules = .ok [anchorCollision] := rfl
  obtain rfl : [anchorCollision] = running := Except.ok.inj (hbefore.symm.trans hrunning)
  refine ⟨hknown, hsets, final, hfinal, hlast _ (by decide), hlast _ (by decide), hmerged, ?_,
    hbefore, hrules⟩
  exact (htwice second (hsets second (by simp))).1.trans hfinal

end Settings

end MarkdownCheck
