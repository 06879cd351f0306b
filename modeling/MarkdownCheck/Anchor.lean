import MarkdownCheck.Heading
import MarkdownCheck.Slug

/-!
# Anchors of headings

- `Anchor.splitExplicit`: takes a `{#id}` directive off a title.
- `Occurrence`: the claim of one heading on an anchor.
- `AnchorScan`: one loop over the headings fills the groups and the counters of slugs.
- `anchorGroups`: the claims of all headings, grouped by key.

The key of a heading is its explicit anchor or the slug of its title. Headings that repeat a slug
are numbered the way site generators do, so the second one with the slug `a` claims `a-1`.
-/

namespace MarkdownCheck

namespace Anchor

/-- Looks in a title without its last brace for the first directive that runs to the brace: what
comes before it and its anchor. A directive stands on one line. -/
def directive? : Text → Option (Text × Text)
  | [] => none
  | c :: rest =>
    let here := match c, rest with
      | '\x7b', '#' :: anchor => if '\n' ∈ anchor then none else some ([], anchor)
      | _, _ => none
    here.or ((directive? rest).map fun (before, anchor) => (c :: before, anchor))

/-- A title without its directive, and the anchor, which is empty when there is no directive. -/
def splitExplicit (title : Text) : Text × Text :=
  let shown := Text.trimRight title
  if shown.getLast? = some '\x7d' then
    match directive? shown.dropLast with
    | some (before, anchor) => (Text.trimRight before, anchor)
    | none => (title, [])
  else (title, [])

end Anchor

/-- The claim of a heading on an anchor. -/
structure Occurrence where
  /-- The explicit anchor, empty when the anchor is made from the title. -/
  explicit : Text
  /-- The slug with its number, empty when the anchor is explicit. -/
  slug : Text
  lineNumber : Option Int
deriving DecidableEq, Repr

namespace Occurrence

/-- Whether the anchor is made from the title. -/
def isGenerated (occurrence : Occurrence) : Bool :=
  !occurrence.slug.isEmpty

/-- The anchor that the heading gets. -/
def anchor (occurrence : Occurrence) : Text :=
  if occurrence.explicit.isEmpty then occurrence.slug else occurrence.explicit

end Occurrence

/-- Entries with the value of a key changed. A key that is new comes last. -/
def alterEntry {α : Type} (key : Text) (change : Option α → α) : List (Text × α) → List (Text × α)
  | [] => [(key, change none)]
  | (known, value) :: rest =>
    if known = key then (known, change (some value)) :: rest
    else (known, value) :: alterEntry key change rest

/-- The claims on the anchors of a document by key, keys in the order of their first claim. -/
abbrev AnchorGroups := List (Text × List Occurrence)

/-- Adds a claim at the end of its group. -/
def AnchorGroups.add (groups : AnchorGroups) (key : Text) (claim : Occurrence) : AnchorGroups :=
  alterEntry key (fun members => members.getD [] ++ [claim]) groups

/-- Counters by slug, slugs in the order of their first anchor. -/
abbrev SlugCounts := List (Text × Nat)

namespace SlugCounts

/-- The counter of a slug. -/
def count (counts : SlugCounts) (key : Text) : Nat :=
  (counts.lookup key).getD 0

/-- Sets the counter of a slug. -/
def set (counts : SlugCounts) (key : Text) (count : Nat) : SlugCounts :=
  alterEntry key (fun _ => count) counts

end SlugCounts

/-- What has been collected from the headings so far. -/
structure AnchorScan where
  groups : AnchorGroups := []
  /-- The counters that number repeated slugs. -/
  counts : SlugCounts := []
deriving DecidableEq, Repr

namespace AnchorScan

/-- Adds the claim of one heading. A slug takes its number from its counter, which moves on; an
explicit anchor leaves the counters alone. -/
def addHeading (scan : AnchorScan) (heading : Token × Text) : AnchorScan :=
  let (title, explicit) := Anchor.splitExplicit heading.2
  if explicit.isEmpty then
    let key := MarkdownCheck.slug false title
    let count := scan.counts.count key
    let slug := if count = 0 then key else key ++ '-' :: Text.ofNat count
    { groups := scan.groups.add key ⟨[], slug, heading.1.lineNumber⟩
      counts := scan.counts.set key (count + 1) }
  else { scan with groups := scan.groups.add explicit ⟨explicit, [], heading.1.lineNumber⟩ }

/-- What headings claim, one after the other. -/
def ofHeadings (headings : List (Token × Text)) : AnchorScan :=
  headings.foldl addHeading {}

end AnchorScan

/-- The claims of the headings of a token stream, in document order within each group. -/
def anchorGroups (tokens : List Token) : AnchorGroups :=
  (AnchorScan.ofHeadings (headings tokens)).groups

end MarkdownCheck
