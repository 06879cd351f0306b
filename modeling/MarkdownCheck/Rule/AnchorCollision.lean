import MarkdownCheck.Anchor
import MarkdownCheck.Rule.Basic

/-!
# Headings have different anchors

- `AnchorCollision.reports`: the claims that collide with another one, each with the name under
  which it is reported.
- `AnchorCollision.check`: the findings for them, by line.
- `anchorCollision`: the rule.

Two headings collide when they share their key or the anchor that they get.
-/

namespace MarkdownCheck

namespace AnchorCollision

/-- How many claims there are on an anchor. -/
def claimCount (groups : AnchorGroups) (anchor : Text) : Nat :=
  (groups.flatMap (·.2)).countP (·.anchor = anchor)

/-- The colliding claims of one group. In a group with several claims all collide and are reported
under its key; a single claim collides when another heading gets its anchor. -/
def groupReports (groups : AnchorGroups) (group : Text × List Occurrence) :
    List (Occurrence × Text) :=
  if 1 < group.2.length then group.2.map fun claim => (claim, group.1)
  else (group.2.filter fun claim => 1 < claimCount groups claim.anchor).map fun claim =>
    (claim, claim.anchor)

/-- The colliding claims and the names under which they are reported. -/
def reports (groups : AnchorGroups) : List (Occurrence × Text) :=
  groups.flatMap (groupReports groups)

/-- The finding for a colliding claim. -/
def finding (report : Occurrence × Text) : Finding :=
  let (claim, key) := report
  let origin := if claim.isGenerated then " (autogenerated)".toList else []
  { lineNumber := claim.lineNumber
    detail :=
      if claim.isGenerated ∧ claim.slug ≠ key then
        some ("Generated anchor: '".toList ++ claim.slug ++ ['\''])
      else none
    context := some ("Duplicate anchor".toList ++ origin ++ " '".toList ++ key ++ ['\'']) }

/-- The lines of all reports; `none` when one has no line. -/
def linesOf? : List (Occurrence × Text) → Option (List (Int × (Occurrence × Text)))
  | [] => some []
  | report :: rest => do
    let line ← report.1.lineNumber
    let more ← linesOf? rest
    some ((line, report) :: more)

/-- Puts reports in the order of their lines; reports on one line keep their order. A single report
needs no line, several do. -/
def sorted (reports : List (Occurrence × Text)) :
    Except RuleFailure (List (Occurrence × Text)) :=
  if reports.length ≤ 1 then .ok reports
  else
    match linesOf? reports with
    | some lined => .ok ((lined.mergeSort fun a b => a.1 ≤ b.1).map (·.2))
    | none => .error .unordered

/-- The findings for the headings of a document whose anchors collide. -/
def check (document : Document) : Except RuleFailure (List Finding) :=
  match sorted (reports (anchorGroups document.tokens)) with
  | .ok ordered => .ok (ordered.map finding)
  | .error cause => .error cause

end AnchorCollision

/-- The rule that headings have different anchors. -/
def anchorCollision : Rule where
  names := ["AM022".toList, "header-anchor-collision".toList]
  description := "Heading anchor has collision".toList
  tags := ["headings".toList, "headers".toList]
  check := AnchorCollision.check

end MarkdownCheck
