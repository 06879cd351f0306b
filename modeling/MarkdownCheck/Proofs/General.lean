/-!
# Lists, options and outcomes

What the library does not say about lists in parts, about alternatives, and about computations that
may fail.
-/

namespace MarkdownCheck

/-! ## Lists -/

section Lists

variable {α : Type}

/-- Of a list without repetitions, a member is not the only one if there are several. -/
theorem one_lt_length_iff_of_nodup {list : List α} (hlist : list.Nodup) {a : α}
    (ha : a ∈ list) : 1 < list.length ↔ ∃ b ∈ list, b ≠ a := by
  constructor
  · intro hlen
    match list, hlist, hlen with
    | first :: second :: rest, hlist, _ =>
      have hne : first ≠ second := fun h => (List.nodup_cons.mp hlist).1 (h ▸ List.mem_cons_self)
      by_cases h : first = a
      · exact ⟨second, by simp, h ▸ hne.symm⟩
      · exact ⟨first, by simp, h⟩
  · rintro ⟨b, hb, hne⟩
    refine Nat.lt_of_not_le fun hlen => hne ?_
    match list, hlen with
    | [only], _ => rw [List.mem_singleton.mp ha, List.mem_singleton.mp hb]

/-- An element of a list with one more at the end is one of the list or the one more. -/
theorem getElem?_concat_eq_some {list : List α} {last found : α} {i : Nat}
    (h : (list ++ [last])[i]? = some found) :
    list[i]? = some found ∨ i = list.length ∧ last = found := by
  rw [List.getElem?_append] at h
  split at h
  · exact .inl h
  · next hge =>
    rw [List.getElem?_singleton] at h
    split at h
    · next hi => exact .inr ⟨by omega, Option.some.inj h⟩
    · cases h

/-- The last element of a list in parts is the last of the second part. -/
theorem concat_eq_append_cons {list front behind : List α} {last middle : α}
    (h : list ++ [last] = front ++ middle :: behind) :
    (last = middle ∧ list = front ∧ behind = []) ∨
      ∃ rest, behind = rest ++ [last] ∧ list = front ++ middle :: rest := by
  rcases behind.eq_nil_or_concat with rfl | ⟨rest, other, rfl⟩
  · obtain ⟨hlist, hlast⟩ := List.append_inj' h rfl
    exact .inl ⟨List.singleton_inj.mp hlast, hlist, rfl⟩
  · rw [List.concat_eq_append] at h ⊢
    have h : list ++ [last] = (front ++ middle :: rest) ++ [other] := by simpa using h
    obtain ⟨hlist, hlast⟩ := List.append_inj' h rfl
    rw [List.singleton_inj.mp hlast]
    exact .inr ⟨rest, rfl, hlist⟩

/-- Of two different places in a list, one is in front of the other. -/
theorem cases_of_append_cons {front behind front' behind' : List α} {x y : α}
    (h : front ++ x :: behind = front' ++ y :: behind') (hne : x ≠ y) :
    (∃ between, front' = front ++ x :: between ∧ behind = between ++ y :: behind') ∨
      ∃ between, front = front' ++ y :: between ∧ behind' = between ++ x :: behind := by
  rcases List.append_eq_append_iff.mp h with ⟨between, rfl, hbehind⟩ | ⟨between, rfl, hbehind⟩
  · cases between with
    | nil => exact absurd (List.cons.inj hbehind).1 hne
    | cons z between =>
      obtain ⟨rfl, rfl⟩ := List.cons.inj hbehind
      exact .inl ⟨between, rfl, rfl⟩
  · cases between with
    | nil => exact absurd (List.cons.inj hbehind).1.symm hne
    | cons z between =>
      obtain ⟨rfl, rfl⟩ := List.cons.inj hbehind
      exact .inr ⟨between, rfl, rfl⟩

/-- What goes to the slot at the end of a front stands between it and what is behind. -/
theorem insertIdx_length_append (front behind : List α) (x : α) :
    (front ++ behind).insertIdx front.length x = front ++ x :: behind := by
  induction front with
  | nil => rfl
  | cons y front ih => simp [ih]

end Lists

/-! ## Options -/

theorem forall_orElse {α : Type} {P : α → Prop} {first second : Option α}
    (hfirst : ∀ a, first = some a → P a) (hsecond : ∀ a, second = some a → P a) :
    ∀ a, (first <|> second) = some a → P a := by
  cases first with
  | none => exact hsecond
  | some found => exact fun a ha => hfirst a ha

/-! ## Outcomes -/

section Outcomes

variable {ε α β : Type}

theorem eq_ok_of_toOption {result : Except ε α} {value : α}
    (h : result.toOption = some value) : result = .ok value := by
  cases result with
  | error failure => cases h
  | ok found => exact congrArg Except.ok (Option.some.inj h)

theorem bind_eq_ok_iff {result : Except ε α} {next : α → Except ε β} {value : β} :
    result >>= next = .ok value ↔ ∃ first, result = .ok first ∧ next first = .ok value := by
  cases result with
  | error failure =>
    constructor
    · intro h
      cases h
    · rintro ⟨first, h, -⟩
      cases h
  | ok first =>
    constructor
    · intro h
      exact ⟨first, rfl, h⟩
    · rintro ⟨other, h, hnext⟩
      rw [← Except.ok.inj h] at hnext
      exact hnext

theorem mapError_map {δ : Type} (tell : ε → δ) (f : α → β) (result : Except ε α) :
    (result.map f).mapError tell = (result.mapError tell).map f := by
  cases result <;> rfl

end Outcomes

end MarkdownCheck
