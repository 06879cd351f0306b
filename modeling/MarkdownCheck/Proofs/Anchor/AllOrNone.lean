import MarkdownCheck.Proofs.Anchor.Collision
import MarkdownCheck.Proofs.Rule.SortPlan

/-!
# All collisions are reported or none

A check hands its findings to a receiver one by one. It sorts them first, and sorting is all that
can fail: the tokens that open headings need not have lines.

- `AnchorCollision.reportTo`: the check with any receiver and with any way of sorting.
- `AnchorCollision.reportTo_lacking`: where a colliding heading has no line nothing is received.
- `AnchorCollision.reportTo_lined`: otherwise every colliding heading is received, by line.
- `AnchorCollision.reportTo_all_or_none`: these two, and the findings of the check itself.
-/

namespace MarkdownCheck.AnchorCollision

/-! ## Reporting to a receiver -/

section Receiver

variable {m : Type → Type} [Monad m]

/-- Hands findings to a receiver, one after the other. -/
def handOver (receive : Finding → m Unit) (findings : List Finding) :
    m (Except RuleFailure Unit) := do
  findings.forM receive
  pure (.ok ())

/-- Sorts reports by line and hands their findings to a receiver. -/
def reportAll (plan : (n : Nat) → SortPlan n) (receive : Finding → m Unit)
    (reports : List (Occurrence × Text)) : m (Except RuleFailure Unit) :=
  match (plan reports.length).run fun i => reports[i].1.lineNumber with
  | none => pure (.error .unordered)
  | some order => handOver receive (order.map fun i => finding reports[i])

/-- Hands the findings for the headings whose anchors collide to a receiver. -/
def reportTo (plan : (n : Nat) → SortPlan n) (receive : Finding → m Unit) (document : Document) :
    m (Except RuleFailure Unit) :=
  reportAll plan receive (reports (anchorGroups document.tokens))

variable {plan : (n : Nat) → SortPlan n} (hplan : ∀ n, (plan n).Sorts) (receive : Finding → m Unit)

/-- The reports on headings, in the order in which these are given. -/
def reportsOn (claims : List HeadingClaim) (places : List (Fin claims.length)) :
    List (Occurrence × Text) :=
  places.map fun i => (claims.get i).report

section Places

variable {claims : List HeadingClaim} {places : List (Fin claims.length)}

@[simp] theorem length_reportsOn : (reportsOn claims places).length = places.length :=
  List.length_map _

theorem getElem_reportsOn {k : Nat} (hk : k < (reportsOn claims places).length) :
    (reportsOn claims places)[k] =
      (claims.get (places.get ⟨k, by rwa [length_reportsOn] at hk⟩)).report :=
  List.getElem_map _

include hplan

/-- The reports on several headings, one of them without a line, are not received at all. -/
theorem reportAll_of_none (hlength : places.length ≠ 1) {i : Fin claims.length} (hi : i ∈ places)
    (hnone : (claims.get i).lineNumber = none) :
    reportAll plan receive (reportsOn claims places) = pure (.error .unordered) := by
  obtain ⟨k, hk, rfl⟩ := List.getElem_of_mem hi
  have hlack : ∃ item : Fin (reportsOn claims places).length,
      (reportsOn claims places)[item].1.lineNumber = none := by
    have hk' : k < (reportsOn claims places).length := length_reportsOn.symm ▸ hk
    refine ⟨⟨k, hk'⟩, ?_⟩
    show (reportsOn claims places)[k].1.lineNumber = none
    rw [getElem_reportsOn hk']
    exact hnone
  have hlength : (reportsOn claims places).length ≠ 1 := by rwa [length_reportsOn]
  rw [reportAll, ((plan _).run_eq_none_iff (hplan _) hlength _).mpr hlack]

/-- If all headings have lines their findings are received by line. -/
theorem reportAll_of_isSome (hlines : ∀ i ∈ places, (claims.get i).lineNumber.isSome) :
    ∃ order : List (Fin claims.length), order.Perm places ∧
      (order.Pairwise fun i j => lineOf (claims.get i).report ≤ lineOf (claims.get j).report) ∧
      reportAll plan receive (reportsOn claims places) =
        handOver receive (order.map fun i => (claims.get i).finding) := by
  -- a plan speaks of the places of the reports in their list, an order of the headings there
  let heading (k : Fin (reportsOn claims places).length) : Fin claims.length :=
    places.get ⟨k, length_reportsOn ▸ k.isLt⟩
  have hreport : ∀ k, (reportsOn claims places)[k] = (claims.get (heading k)).report := fun k =>
    getElem_reportsOn k.isLt
  have hline : ∀ k, (claims.get (heading k)).report.1.lineNumber =
      some (lineOf (claims.get (heading k)).report) := by
    intro k
    obtain ⟨line, hline⟩ := Option.isSome_iff_exists.mp (hlines (heading k) (List.getElem_mem _))
    rw [lineOf_report hline]
    exact hline
  have hall : (List.finRange _).map heading = places :=
    List.ext_getElem (by simp) fun k hk hk' => by simp [heading]
  obtain ⟨found, hrun, hperm, hordered⟩ := hplan _ fun k => lineOf (claims.get (heading k)).report
  have hplaces := hperm.map heading
  rw [hall] at hplaces
  refine ⟨found.map heading, hplaces, List.pairwise_map.mpr hordered, ?_⟩
  simp only [reportAll, hreport, hline, hrun, List.map_map, Function.comp_def,
    HeadingClaim.finding_report]

end Places

include hplan

/-- A colliding heading without a line keeps all findings from the receiver: it does not collide
alone, so there is something to sort. -/
theorem reportTo_lacking (document : Document) {i : Fin (claimsIn document).length}
    (hi : ∃ j, Collide (claimsIn document) i j)
    (hnone : ((claimsIn document).get i).lineNumber = none) :
    reportTo plan receive document = pure (.error .unordered) := by
  rw [reportTo, reports_anchorGroups]
  exact reportAll_of_none hplan receive length_collisions_ne_one (mem_collisions.mpr hi) hnone

/-- If the colliding headings have lines their findings are received by line, whatever the other
headings lack. -/
theorem reportTo_lined (document : Document)
    (hlines : ∀ i ∈ collisions (claimsIn document), ((claimsIn document).get i).lineNumber.isSome) :
    ∃ order : List (Fin (claimsIn document).length), order.Perm (collisions (claimsIn document)) ∧
      (order.Pairwise fun i j =>
        lineOf ((claimsIn document).get i).report ≤ lineOf ((claimsIn document).get j).report) ∧
      reportTo plan receive document =
        handOver receive (order.map fun i => ((claimsIn document).get i).finding) := by
  rw [reportTo, reports_anchorGroups]
  exact reportAll_of_isSome hplan receive hlines

end Receiver

/-! ## The check -/

/-- The check itself fails where a colliding heading has no line. -/
theorem check_lacking {document : Document} {i : Fin (claimsIn document).length}
    (hi : ∃ j, Collide (claimsIn document) i j)
    (hnone : ((claimsIn document).get i).lineNumber = none) :
    check document = .error .unordered := by
  have hmem : ((claimsIn document).get i).report ∈ reports (anchorGroups document.tokens) := by
    rw [reports_anchorGroups]
    exact List.mem_map_of_mem (mem_collisions.mpr hi)
  have hlength : (reports (anchorGroups document.tokens)).length ≠ 1 := by
    rw [reports_anchorGroups, List.length_map]
    exact length_collisions_ne_one
  rw [check]
  cases hsorted : sorted (reports (anchorGroups document.tokens)) with
  | ok ordered =>
    have hsome := isSome_lineNumber_of_sorted hsorted hlength _ hmem
    rw [show ((claimsIn document).get i).report.1.lineNumber = none from hnone] at hsome
    cases hsome
  | error cause =>
    rw [sorted] at hsorted
    split at hsorted
    · cases hsorted
    · split at hsorted
      · cases hsorted
      · rw [← Except.error.inj hsorted]

/-- **All or none.** Whatever receives the findings, and however they are sorted: if a heading that
shares its key or its anchor with another one has no line, the check fails before anything is
received. Otherwise exactly the headings that collide are received, each once and by line, and
headings without lines that collide with none make no difference. The findings of the check are the
same. -/
theorem reportTo_all_or_none {m : Type → Type} [Monad m] {plan : (n : Nat) → SortPlan n}
    (hplan : ∀ n, (plan n).Sorts) (receive : Finding → m Unit) (document : Document) :
    let claims := headingClaims (headings document.tokens)
    let IsColliding (i : Fin claims.length) : Prop := ∃ j, Collide claims i j
    ((∃ i, IsColliding i ∧ (claims.get i).lineNumber = none) →
      reportTo plan receive document = pure (.error .unordered) ∧
        check document = .error .unordered) ∧
    ((∀ i, IsColliding i → (claims.get i).lineNumber ≠ none) →
      ∃ order : List (Fin claims.length),
        reportTo plan receive document =
          handOver receive (order.map fun i => (claims.get i).finding) ∧
        order.Nodup ∧ (∀ i, i ∈ order ↔ IsColliding i) ∧
        (order.Pairwise fun i j => ∀ line ∈ (claims.get i).lineNumber,
          ∀ later ∈ (claims.get j).lineNumber, line ≤ later) ∧
        ∃ findings, check document = .ok findings ∧
          findings.Perm (order.map fun i => (claims.get i).finding)) := by
  intro claims IsColliding
  constructor
  · rintro ⟨i, hi, hnone⟩
    exact ⟨reportTo_lacking hplan receive document hi hnone, check_lacking hi hnone⟩
  · intro hthere
    have hlines : ∀ i ∈ collisions claims, (claims.get i).lineNumber.isSome := fun i hi =>
      Option.isSome_iff_ne_none.mpr (hthere i (mem_collisions.mp hi))
    obtain ⟨order, hperm, hordered, hreport⟩ := reportTo_lined hplan receive document hlines
    refine ⟨order, hreport, hperm.nodup_iff.mpr nodup_collisions,
      fun i => hperm.mem_iff.trans mem_collisions, ?_, _, check_eq_ok hlines, ?_⟩
    · refine hordered.imp fun {i j} hle line hline later hlater => ?_
      rwa [lineOf_report hline, lineOf_report hlater] at hle
    · exact (byLine_perm.trans hperm.symm).map _

/-- A heading without a line that collides keeps the findings back; one that collides with none does
not. -/
theorem reportTo_all_or_none_missing_lines :
    let heading (line : Option Int) (title : Text) : List Token := [
      { kind := "heading_open", lineNumber := line }, { kind := "inline", content := title },
      { kind := "heading_close" }]
    let lacking : Document := { tokens := heading (some 1) ['A'] ++ heading none ['A'] }
    let lined : Document := {
      tokens := heading (some 3) ['A'] ++ heading none ['B'] ++ heading (some 1) ['A'] }
    let receive (finding : Finding) : StateM (List Finding) Unit := modify (· ++ [finding])
    let claims := headingClaims (headings lined.tokens)
    (∀ n, (SortPlan.insertion n).Sorts) ∧
      reportTo SortPlan.insertion receive lacking = pure (.error .unordered) ∧
      ∃ order : List (Fin claims.length),
        reportTo SortPlan.insertion receive lined =
          handOver receive (order.map fun i => (claims.get i).finding) ∧
        order.Nodup ∧ ∀ i, i ∈ order ↔ i.val ≠ 1 := by
  intro heading lacking lined receive claims
  have hlacking : ∃ i : Fin (headingClaims (headings lacking.tokens)).length,
      (∃ j, Collide (headingClaims (headings lacking.tokens)) i j) ∧
        ((headingClaims (headings lacking.tokens)).get i).lineNumber = none := by
    decide +kernel
  have hcolliding : ∀ i : Fin claims.length, (∃ j, Collide claims i j) ↔ i.val ≠ 1 := by
    decide +kernel
  have hlined : ∀ i : Fin claims.length, i.val ≠ 1 → (claims.get i).lineNumber ≠ none := by
    decide +kernel
  obtain ⟨order, hreport, hnodup, hmem, -⟩ :=
    (reportTo_all_or_none SortPlan.sorts_insertion receive lined).2 fun i hi =>
      hlined i ((hcolliding i).mp hi)
  exact ⟨SortPlan.sorts_insertion,
    ((reportTo_all_or_none SortPlan.sorts_insertion receive lacking).1 hlacking).1,
    order, hreport, hnodup, fun i => (hmem i).trans (hcolliding i)⟩

end MarkdownCheck.AnchorCollision
