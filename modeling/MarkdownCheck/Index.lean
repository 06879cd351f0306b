import MarkdownCheck.Document
import MarkdownCheck.Log

/-!
# Structural indexes

- `Index`: the classes of a document's lines and its lists.
- `Document.buildIndex`: makes the index of a document.
- `Index.walk`: goes through lines with the classes that the index has for them.
- `Draft`: a document under change with the index that was made of it, if any.
-/

namespace MarkdownCheck

/-- The structure of a document at the time when the index was made. -/
structure Index where
  classes : List LineClass
  lists : List ListEntry
deriving Repr

/-- A line with its class. -/
structure LineInfo where
  line : Text
  position : Nat
  lineClass : LineClass
deriving Repr

/-- A walk through lines: the ones met, and whether the index had a class for every line. -/
structure Walk where
  met : List LineInfo
  complete : Bool
deriving Repr

/-- Makes the index of a document. -/
def Document.buildIndex (document : Document) : Logged Imbalance Index := do
  let classes := classify document.lines document.tokens
  let lists ← .ofExcept (outline document.tokens)
  .entry .debug ("Indexed ".toList ++ Text.ofNat classes.length ++ " lines and ".toList
    ++ Text.ofNat lists.length ++ " lists for ".toList ++ document.displayName)
  pure ⟨classes, lists⟩

namespace Index

/-- Pairs lines with classes by position, starting at `position`. It ends early when there are more
lines than classes. -/
def walkFrom (position : Nat) : List Text → List LineClass → Walk
  | [], _ => ⟨[], true⟩
  | _ :: _, [] => ⟨[], false⟩
  | line :: lines, lineClass :: classes =>
    let rest := walkFrom (position + 1) lines classes
    ⟨⟨line, position, lineClass⟩ :: rest.met, rest.complete⟩

/-- Goes through the lines that a document has now with the classes that the index has. -/
def walk (index : Index) (lines : List Text) : Walk :=
  walkFrom 0 lines index.classes

end Index

/-! ## Documents under change -/

/-- A document under change, with the index of an earlier or the present state. -/
structure Draft where
  document : Document
  index : Option Index := none
deriving Repr

/-- A change to a document. -/
inductive Edit where
  /-- Replaces the line at a position; negative positions count from the end. -/
  | setLine (position : Int) (line : Text)
  | appendLine (line : Text)
  | popLine
  | appendToken (token : Token)
  | popToken
  /-- Forgets the index. -/
  | dropIndex
deriving Repr

namespace Draft

/-- The draft after a change; `none` when there is nothing to change. -/
def edit? (draft : Draft) : Edit → Option Draft
  | .setLine position line =>
    (resolvePosition? position draft.document.lines.length).map fun place =>
      { draft with document.lines := draft.document.lines.set place line }
  | .appendLine line => some { draft with document.lines := draft.document.lines ++ [line] }
  | .popLine =>
    if draft.document.lines.isEmpty then none
    else some { draft with document.lines := draft.document.lines.dropLast }
  | .appendToken token => some { draft with document.tokens := draft.document.tokens ++ [token] }
  | .popToken =>
    if draft.document.tokens.isEmpty then none
    else some { draft with document.tokens := draft.document.tokens.dropLast }
  | .dropIndex => some { draft with index := none }

/-- The index of a draft: the one that it has, else a new one, which it keeps. A failure leaves the
draft without an index. -/
def readIndex (draft : Draft) : Logged Imbalance (Index × Draft) :=
  match draft.index with
  | some index => pure (index, draft)
  | none => do
    let index ← draft.document.buildIndex
    pure (index, { draft with index := some index })

end Draft

end MarkdownCheck
