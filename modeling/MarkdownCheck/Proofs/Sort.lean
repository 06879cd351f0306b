import Mathlib.Data.List.Pairwise
import Mathlib.Data.List.Sort
import Mathlib.Order.Defs.LinearOrder

/-!
# Stable sorts

What a sort leaves open is settled by the order in which the elements came. A list that is sorted by
keys is known as soon as it is known what it holds under each key, in which order.

- `mergeSort_sublist`: a stable sort keeps the order of what is left when elements are left out.
- `mergeSort_pairwise_key`, `filter_mergeSort_key`: a stable sort puts the keys in order and leaves
  elements with the same key in theirs.
- `eq_of_pairwise_key`: two sorted lists that hold the same under each key are the same.
-/

namespace MarkdownCheck

/-! ## Fewer elements -/

section Sublist

variable {α : Type} {le : α → α → Bool} (trans : ∀ a b c, le a b → le b c → le a c)
  (total : ∀ a b, le a b || le b a)

include trans total

/-- A stable sort puts the first element behind the smaller ones and in front of all others. -/
theorem mergeSort_cons_eq (a : α) (rest : List α) :
    (a :: rest).mergeSort le =
      (rest.mergeSort le).filter (!le a ·) ++ a :: (rest.mergeSort le).filter (le a ·) := by
  obtain ⟨smaller, others, hwith, hwithout, hsmaller⟩ := List.mergeSort_cons trans total a rest
  have hsorted := List.pairwise_mergeSort trans total (a :: rest)
  rw [hwith, List.pairwise_append, List.pairwise_cons] at hsorted
  have hothers : ∀ b ∈ others, le a b = true := hsorted.2.1.1
  have hleft : (smaller ++ others).filter (!le a ·) = smaller := by
    have hnone : others.filter (!le a ·) = [] := by
      rw [List.filter_eq_nil_iff]
      intro b hb
      simp [hothers b hb]
    rw [List.filter_append, List.filter_eq_self.mpr hsmaller, hnone, List.append_nil]
  have hright : (smaller ++ others).filter (le a ·) = others := by
    have hnone : smaller.filter (le a ·) = [] := by
      rw [List.filter_eq_nil_iff]
      intro b hb
      simpa using hsmaller b hb
    rw [List.filter_append, List.filter_eq_self.mpr hothers, hnone, List.nil_append]
  rw [hwith, hwithout, hleft, hright]

/-- A stable sort keeps the order of what is left when elements are left out. -/
theorem mergeSort_sublist {part whole : List α} (h : part.Sublist whole) :
    (part.mergeSort le).Sublist (whole.mergeSort le) := by
  induction h with
  | slnil => exact .refl _
  | @cons part whole a _ ih =>
    obtain ⟨smaller, others, hwith, hwithout, -⟩ := List.mergeSort_cons trans total a whole
    rw [hwith]
    rw [hwithout] at ih
    exact ih.trans (.append (.refl smaller) (List.sublist_cons_self a others))
  | cons_cons a _ ih =>
    rw [mergeSort_cons_eq trans total, mergeSort_cons_eq trans total]
    exact .append (ih.filter _) ((ih.filter _).cons_cons a)

end Sublist

/-! ## Sorting by keys -/

section Keys

variable {α κ : Type} {key : α → κ}

section Stable

variable [LinearOrder κ] {le : α → α → Bool} (hle : ∀ a b, le a b ↔ key a ≤ key b)

include hle

theorem le_trans_of_key (a b c : α) (hab : le a b) (hbc : le b c) : le a c :=
  (hle a c).mpr (((hle a b).mp hab).trans ((hle b c).mp hbc))

theorem le_total_of_key (a b : α) : (le a b || le b a) := by
  rw [Bool.or_eq_true, hle, hle]
  exact le_total (key a) (key b)

theorem mergeSort_pairwise_key (list : List α) :
    (list.mergeSort le).Pairwise fun a b => key a ≤ key b :=
  (List.pairwise_mergeSort (le_trans_of_key hle) (le_total_of_key hle) list).imp (hle _ _).mp

/-- A stable sort leaves elements with the same key in their order. -/
theorem filter_mergeSort_key [DecidableEq κ] (list : List α) (k : κ) :
    (list.mergeSort le).filter (key · = k) = list.filter (key · = k) := by
  have htied : (list.filter (key · = k)).Pairwise fun a b => le a b := by
    refine List.pairwise_of_forall_mem_list fun a ha b hb => (hle a b).mpr (le_of_eq ?_)
    rw [of_decide_eq_true (List.mem_filter.mp ha).2, of_decide_eq_true (List.mem_filter.mp hb).2]
  have hsub := (List.sublist_mergeSort (le_trans_of_key hle) (le_total_of_key hle) htied
    List.filter_sublist).filter (key · = k)
  simp only [List.filter_filter, Bool.and_self] at hsub
  have hlength := ((List.mergeSort_perm list le).filter (key · = k)).length_eq
  exact (hsub.eq_of_length hlength.symm).symm

end Stable

theorem mem_iff_of_filter_key [DecidableEq κ] {first second : List α}
    (h : ∀ k, first.filter (key · = k) = second.filter (key · = k)) (a : α) :
    a ∈ first ↔ a ∈ second := by
  have hkey (list : List α) : a ∈ list ↔ a ∈ list.filter (key · = key a) := by simp
  rw [hkey first, h, ← hkey second]

/-- What a sorted list starts with is not behind anything else in it. -/
theorem le_of_pairwise_key [LinearOrder κ] {a b : α} {rest : List α}
    (h : (a :: rest).Pairwise fun a b => key a ≤ key b) (hb : b ∈ a :: rest) :
    key a ≤ key b := by
  rcases List.mem_cons.mp hb with rfl | hb
  · exact le_rfl
  · exact (List.pairwise_cons.mp h).1 b hb

/-- Two sorted lists that hold the same under each key are the same. -/
theorem eq_of_pairwise_key [LinearOrder κ] [DecidableEq κ] {first second : List α}
    (hfirst : first.Pairwise fun a b => key a ≤ key b)
    (hsecond : second.Pairwise fun a b => key a ≤ key b)
    (h : ∀ k, first.filter (key · = k) = second.filter (key · = k)) : first = second := by
  induction first generalizing second with
  | nil =>
    refine (List.eq_nil_iff_forall_not_mem.mpr fun b => ?_).symm
    exact (mem_iff_of_filter_key h b).not.mp List.not_mem_nil
  | cons a first ih =>
    have hmem := mem_iff_of_filter_key h
    cases second with
    | nil => exact absurd ((hmem a).mp List.mem_cons_self) List.not_mem_nil
    | cons b second =>
      have hkey : key a = key b :=
        le_antisymm (le_of_pairwise_key hfirst ((hmem b).mpr List.mem_cons_self))
          (le_of_pairwise_key hsecond ((hmem a).mp List.mem_cons_self))
      -- both come first under their key
      obtain rfl : a = b := by
        have hfront := h (key b)
        rw [List.filter_cons_of_pos (by simp [hkey]), List.filter_cons_of_pos (by simp)] at hfront
        exact (List.cons.inj hfront).1
      have hrest : ∀ k, first.filter (key · = k) = second.filter (key · = k) := by
        intro k
        have hwhole := h k
        rw [List.filter_cons, List.filter_cons] at hwhole
        split at hwhole
        · exact (List.cons.inj hwhole).2
        · exact hwhole
      rw [ih hfirst.of_cons hsecond.of_cons hrest]

end Keys

end MarkdownCheck
