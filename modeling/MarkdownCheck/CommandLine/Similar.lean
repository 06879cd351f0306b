import MarkdownCheck.Text.Basic

/-!
# Names that look alike

- `Similar.shared`: the number of characters that two texts share in order: those of their longest
  common stretch, and what the parts on both sides of it share.
- `Similar.best`: the names that are most similar to a given one.
-/

namespace MarkdownCheck.Similar

/-- The length of the common start of two texts. -/
def commonStart : Text → Text → Nat
  | a :: left, b :: right => if a = b then commonStart left right + 1 else 0
  | _, _ => 0

/-- A common stretch of two texts: where it starts in each, and its length. -/
structure Stretch where
  left : Nat := 0
  right : Nat := 0
  length : Nat := 0
deriving Repr

/-- The longest common stretch, the leftmost one in the first text and then in the second. -/
def longestStretch (left right : Text) : Stretch :=
  let starts := (List.range left.length).flatMap fun i =>
    (List.range right.length).map fun j => (i, j)
  starts.foldl (fun best (i, j) =>
    let length := commonStart (left.drop i) (right.drop j)
    if best.length < length then ⟨i, j, length⟩ else best) {}

/-- The number of characters that two texts share in order, in at most `bound` stretches on any
side of each other. -/
def sharedWithin : (bound : Nat) → Text → Text → Nat
  | 0, _, _ => 0
  | bound + 1, left, right =>
    let best := longestStretch left right
    if best.length = 0 then 0
    else
      sharedWithin bound (left.take best.left) (right.take best.right) + best.length
        + sharedWithin bound (left.drop (best.left + best.length))
            (right.drop (best.right + best.length))

/-- The number of characters that two texts share in order. -/
def shared (left right : Text) : Nat :=
  sharedWithin (left.length + 1) left right

/-- A name with its similarity to a given one, as a quotient. -/
structure Scored where
  name : Text
  same : Nat
  total : Nat

/-- The similarity of a name to a given one: the part of the characters of both that they share. -/
def score (given name : Text) : Scored :=
  ⟨name, 2 * shared name given, name.length + given.length⟩

/-- Names are similar from three fifths on. -/
def Scored.isClose (scored : Scored) : Bool :=
  3 * scored.total ≤ 5 * scored.same

/-- The order in which similar names are chosen: more similar ones first, then later ones in the
alphabet. -/
def Scored.precedes (first second : Scored) : Bool :=
  let here := first.same * second.total
  let there := second.same * first.total
  there < here || (here = there && Text.le second.name first.name)

/-- At most this many names are proposed. -/
def mostProposed : Nat := 3

/-- The names that are most similar to a given one. -/
def best (given : Text) (names : List Text) : List Text :=
  ((((names.map (score given)).filter Scored.isClose).mergeSort Scored.precedes).take
    mostProposed).map (·.name)

end MarkdownCheck.Similar
