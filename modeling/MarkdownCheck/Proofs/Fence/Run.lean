import MarkdownCheck.Fence
import MarkdownCheck.Pattern.Named
import MarkdownCheck.Proofs.Pattern.Ends

/-!
# The fence at the start of a line

- `Fence.run?_eq_some_iff`: a line starts with a fence when at most three spaces stand before a run
  of at least three equal marks. The run is as long as it can be.
- `Fence.captured?_codeFence`: this is what the fence pattern captures.
-/

namespace MarkdownCheck.Fence

/-! ## The longest run of a character -/

/-- A text is a run of a character, maybe empty, and what does not go on with it. -/
theorem exists_replicate_append (c : Char) (text : Text) :
    ∃ n tail, text = List.replicate n c ++ tail ∧ tail.head? ≠ some c := by
  induction text with
  | nil => exact ⟨0, [], rfl, by simp⟩
  | cons d rest ih =>
    by_cases hd : d = c
    · obtain ⟨n, tail, rfl, htail⟩ := ih
      exact ⟨n + 1, tail, by rw [hd, List.replicate_succ, List.cons_append], htail⟩
    · exact ⟨0, d :: rest, rfl, by simpa using hd⟩

/-- The run is all that stands in front. -/
theorem takeWhile_replicate_append {c : Char} {tail : Text} (h : tail.head? ≠ some c) (n : Nat) :
    (List.replicate n c ++ tail).takeWhile (· = c) = List.replicate n c := by
  have hfront : ∀ d ∈ List.replicate n c, decide (d = c) = true := fun d hd =>
    decide_eq_true (List.eq_of_mem_replicate hd)
  have htail : tail.takeWhile (· = c) = [] := by
    cases tail with
    | nil => rfl
    | cons d tail =>
      have hd : d ≠ c := by simpa using h
      simp [hd]
  rw [List.takeWhile_append_of_pos hfront, htail, List.append_nil]

theorem dropWhile_replicate_append {c : Char} {tail : Text} (h : tail.head? ≠ some c) (n : Nat) :
    (List.replicate n c ++ tail).dropWhile (· = c) = tail := by
  have hsplit := List.takeWhile_append_dropWhile (p := (· = c)) (l := List.replicate n c ++ tail)
  rw [takeWhile_replicate_append h] at hsplit
  exact List.append_cancel_left hsplit

/-! ## The grammar of fences -/

/-- The run that a text starts with: at least three marks, and no mark of the kind behind them. -/
theorem runAt?_eq_some_iff {text run : Text} :
    runAt? text = some run ↔
      ∃ mark n tail, isMark mark = true ∧ 3 ≤ n ∧ tail.head? ≠ some mark ∧
        run = List.replicate n mark ∧ text = List.replicate n mark ++ tail := by
  constructor
  · intro h
    cases text with
    | nil => cases h
    | cons c rest =>
      obtain ⟨n, tail, rfl, htail⟩ := exists_replicate_append c rest
      rw [runAt?, takeWhile_replicate_append htail, ← List.replicate_succ] at h
      split at h
      · next hrun =>
        refine ⟨c, n + 1, tail, hrun.1, ?_, htail, (Option.some.inj h).symm, ?_⟩
        · simpa using hrun.2
        · rw [List.replicate_succ, List.cons_append]
      · cases h
  · rintro ⟨mark, n, tail, hmark, hn, htail, rfl, rfl⟩
    obtain ⟨n, rfl⟩ : ∃ k, n = k + 1 := ⟨n - 1, by omega⟩
    rw [List.replicate_succ, List.cons_append, runAt?, takeWhile_replicate_append htail]
    simp [hmark, hn]

/-- **The grammar of fences.** A line starts with a fence when at most three spaces stand before a
run of at least three backticks or three tildes; the fence is the whole run. -/
theorem run?_eq_some_iff {line run : Text} :
    run? line = some run ↔
      ∃ spaces mark n tail, spaces ≤ 3 ∧ (mark = '`' ∨ mark = '~') ∧ 3 ≤ n ∧
        tail.head? ≠ some mark ∧ run = List.replicate n mark ∧
        line = List.replicate spaces ' ' ++ (List.replicate n mark ++ tail) := by
  have hmark : ∀ c, isMark c = true ↔ c = '`' ∨ c = '~' := fun c => by simp [isMark]
  obtain ⟨spaces, rest, rfl, hrest⟩ := exists_replicate_append ' ' line
  rw [run?, takeWhile_replicate_append hrest, dropWhile_replicate_append hrest,
    List.length_replicate]
  constructor
  · intro h
    split at h
    · next hspaces =>
      obtain ⟨mark, n, tail, hm, hn, htail, rfl, rfl⟩ := runAt?_eq_some_iff.mp h
      exact ⟨spaces, mark, n, tail, hspaces, (hmark mark).mp hm, hn, htail, rfl, rfl⟩
    · cases h
  · rintro ⟨spaces', mark, n, tail, hspaces, hm, hn, htail, rfl, heq⟩
    -- the marks are no spaces, so both ways to split the line off its spaces agree
    have hfront : (List.replicate n mark ++ tail).head? ≠ some ' ' := by
      obtain ⟨n, rfl⟩ : ∃ k, n = k + 1 := ⟨n - 1, by omega⟩
      rcases hm with rfl | rfl <;> simp [List.replicate_succ]
    have htake := congrArg (List.takeWhile (· = ' ')) heq
    have hdrop := congrArg (List.dropWhile (· = ' ')) heq
    rw [takeWhile_replicate_append hrest, takeWhile_replicate_append hfront] at htake
    rw [dropWhile_replicate_append hrest, dropWhile_replicate_append hfront] at hdrop
    have hlength : spaces = spaces' := by simpa using congrArg List.length htake
    rw [if_pos (hlength ▸ hspaces), hdrop]
    exact runAt?_eq_some_iff.mpr ⟨mark, n, tail, (hmark mark).mpr hm, hn, htail, rfl, rfl⟩

/-! ## The fence pattern -/

open Pattern in
/-- Where the pattern of a run prefers to end: behind all of it. -/
theorem head?_ends_fenceRun (place : Place) (c : Char) :
    ((fenceRun c).ends place).head? =
      if 3 ≤ place.count c then some (place.advance (place.count c)) else none := by
  rw [fenceRun, ends, ends_times_char]
  split
  · next h =>
    rw [List.flatMap_singleton, ends_star_char, Place.head?_descending, Place.count_advance h,
      Place.advance_advance, Nat.add_sub_cancel' h]
  · rfl

/-- The fence at the start of what is left: the run that is counted there, of one mark or the
other. -/
theorem runAt?_rest (place : Place) :
    runAt? place.rest =
      if 3 ≤ place.count '`' then some (place.rest.take (place.count '`'))
      else if 3 ≤ place.count '~' then some (place.rest.take (place.count '~'))
      else none := by
  have htake : ∀ (c : Char) (rest : Text), rest.take (rest.takeWhile (· = c)).length =
      rest.takeWhile (· = c) := fun c rest =>
    (List.prefix_iff_eq_take.mp (List.takeWhile_prefix _)).symm
  cases hr : place.rest with
  | nil => simp [runAt?, Place.count, hr]
  | cons d rest =>
    have hcount : ∀ c,
        place.count c = if d = c then (rest.takeWhile (· = c)).length + 1 else 0 := by
      intro c
      by_cases hd : d = c <;> simp [Place.count, hr, hd]
    by_cases hb : d = '`'
    · subst hb
      simp [runAt?, isMark, hcount, htake]
    · by_cases ht : d = '~'
      · subst ht
        simp [runAt?, isMark, hcount, htake]
      · simp [runAt?, isMark, hcount, hb, ht]

open Pattern in
/-- What the pattern captures at a place where the fence may start. -/
theorem head?_ends_group (place : Place) :
    ((Pattern.group 1 (.either (fenceRun '`') (fenceRun '~'))).ends place).head? =
      (runAt? place.rest).map fun run =>
        { place.advance run.length with
          captures := ⟨1, place.position, run⟩ :: place.captures } := by
  have hlength : ∀ c, (place.rest.take (place.count c)).length = place.count c := fun c =>
    List.length_take_of_le (place.count_le c)
  rw [ends, List.head?_map, ends, List.head?_append, head?_ends_fenceRun, head?_ends_fenceRun,
    runAt?_rest]
  split
  · simp [Place.advance, hlength]
  · split <;> simp [Place.advance, hlength]

/-- Where only the farthest of some places leads on, the others do not matter. -/
theorem head?_flatMap_descending {place : Place} {n : Nat} {next : Place → List Place}
    (h : ∀ k < n, next (place.advance k) = []) :
    ((place.descending n).flatMap next).head? = (next (place.advance n)).head? := by
  have hlower : ((List.range n).reverse.map place.advance).flatMap next = [] := by
    simpa [List.flatMap_eq_nil_iff] using h
  rw [Place.descending, List.range_succ, List.reverse_append, List.map_append,
    List.flatMap_append, hlower, List.append_nil]
  simp

open Pattern in
/-- The fence pattern captures the fence at the start of a line, and matches no other line. -/
theorem captured?_codeFence (line : Text) :
    (codeFence.matchStart? line).bind (·.captured? 1) = run? line := by
  obtain ⟨spaces, rest, rfl, hrest⟩ := exists_replicate_append ' ' line
  let start : Place := ⟨0, List.replicate spaces ' ' ++ rest, []⟩
  have hcount : start.count ' ' = spaces := by
    rw [Place.count, takeWhile_replicate_append hrest, List.length_replicate]
  -- a place in front of a space is not one where a fence may start
  have hspace : ∀ k < spaces, runAt? (start.advance k).rest = none := by
    intro k hk
    obtain ⟨m, hm⟩ : ∃ m, spaces - k = m + 1 := ⟨spaces - k - 1, by omega⟩
    show runAt? ((List.replicate spaces ' ' ++ rest).drop k) = none
    rw [List.drop_append_of_le_length (by simpa using Nat.le_of_lt hk), List.drop_replicate, hm,
      List.replicate_succ, List.cons_append]
    simp [runAt?, isMark]
  have hskip : ∀ k < min 3 spaces,
      (Pattern.group 1 (.either (fenceRun '`') (fenceRun '~'))).ends (start.advance k) = [] := by
    intro k hk
    rw [← List.head?_eq_none_iff, head?_ends_group, hspace k (by omega), Option.map_none]
  have hends : (codeFence.ends start).head? =
      (runAt? (start.advance (min 3 spaces)).rest).map fun run =>
        { (start.advance (min 3 spaces)).advance run.length with
          captures := [⟨1, (start.advance (min 3 spaces)).position, run⟩] } := by
    rw [codeFence, all, List.foldr, ends_seq_atStart _ rfl, List.foldr, List.foldr, List.foldr,
      ends, ends_upTo_char, hcount, ends_seq_empty, head?_flatMap_descending hskip,
      head?_ends_group]
    rfl
  have hcaptured : (codeFence.matchStart? start.rest).bind (·.captured? 1) =
      runAt? (start.advance (min 3 spaces)).rest := by
    show ((codeFence.ends start).head?.map _).bind _ = _
    rw [hends]
    cases runAt? (start.advance (min 3 spaces)).rest <;> rfl
  have hrun : run? start.rest = if spaces ≤ 3 then runAt? rest else none := by
    rw [run?, takeWhile_replicate_append hrest, dropWhile_replicate_append hrest,
      List.length_replicate]
  show (codeFence.matchStart? start.rest).bind _ = run? start.rest
  rw [hcaptured, hrun]
  split
  · next h =>
    rw [Nat.min_eq_right h]
    simp [start, Place.advance]
  · next h => exact hspace _ (by omega)

end MarkdownCheck.Fence
