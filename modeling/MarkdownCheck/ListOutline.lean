import MarkdownCheck.Quote

/-!
# The lists of a document

- `ListEntry`: one list, with its place among the others.
- `outline`: the lists of a token stream in document order, every list before the lists inside it.
- `Imbalance`: why a token stream has no outline.

The stream is read once with a stack of the lists that are open. A list gets a slot among the closed
lists when it opens and goes there when it closes, so that it stands before the lists inside it,
which have closed earlier.
-/

namespace MarkdownCheck

/-! ## Kinds of list tokens -/

namespace Token

/-- Opens a bullet list. -/
def opensBullets (token : Token) : Bool :=
  token.kind = "bullet_list_open"

/-- Opens a list. -/
def opensList (token : Token) : Bool :=
  token.kind = "bullet_list_open" || token.kind = "ordered_list_open"

/-- Closes a list. -/
def closesList (token : Token) : Bool :=
  token.kind = "bullet_list_close" || token.kind = "ordered_list_close"

/-- Opens an item of a list. -/
def opensItem (token : Token) : Bool :=
  token.kind = "list_item_open"

end Token

/-! ## Entries -/

/-- A bullet or ordered list of a document. -/
structure ListEntry where
  isUnordered : Bool
  /-- Whether this list and every list around it are bullet lists. -/
  allUnordered : Bool
  opening : Token
  /-- The column of its marker, behind block-quote markers. -/
  indent : Nat
  /-- The indent of the list around it, 0 at the top. -/
  parentIndent : Nat
  /-- The tokens that open its items. -/
  items : List Token := []
  /-- The number of lists around it. -/
  depth : Nat
  /-- The line after the last one of its content. -/
  lastLine : Int := -1
  /-- Its position among the lists of the document; while it is open, the slot reserved for it. -/
  position : Nat := 0
deriving Repr

/-- The entry of a list that opens inside `parent`, with `depth` lists around it. `slot` is its
place among the lists that are closed by then. -/
def ListEntry.start (token : Token) (parent : Option ListEntry) (depth slot : Nat) :
    ListEntry where
  isUnordered := token.opensBullets
  allUnordered := token.opensBullets && parent.all (·.allUnordered)
  opening := token
  indent := token.indent
  parentIndent := (parent.map (·.indent)).getD 0
  depth := depth
  position := slot

/-- Why a token stream has no outline. -/
inductive Imbalance where
  /-- A list or an item is closed or opened where no list is open. -/
  | outside (kind : String) (position : Nat)
  /-- The stream ends inside a list. -/
  | unclosed (kind : String)
deriving DecidableEq, Repr

/-- An imbalance in words. -/
def Imbalance.message : Imbalance → String
  | .outside kind position =>
    "Unbalanced list token `" ++ kind ++ "` at token " ++ toString position
  | .unclosed kind => "Token stream ended with unclosed list (" ++ kind ++ ")"

/-! ## Reading a stream -/

/-- What has been read of a stream. -/
structure Outline where
  /-- The lists that are open, innermost first, each at the slot that it has reserved. -/
  stack : List ListEntry := []
  /-- The lists that are closed, in document order. -/
  closed : List ListEntry := []
  /-- Where the last token with lines ended, list and item openings left out. -/
  lastLine : Int := 1

namespace Outline

/-- Reads one token. `position` is its place in the stream. -/
def push (outline : Outline) (token : Token) (position : Nat) : Except Imbalance Outline :=
  if token.opensList then
    let entry := ListEntry.start token outline.stack.head? outline.stack.length
      outline.closed.length
    .ok { outline with stack := entry :: outline.stack }
  else if token.closesList then
    match outline.stack with
    | [] => .error (.outside token.kind position)
    | current :: around =>
      let entry := { current with lastLine := outline.lastLine }
      .ok { outline with
        stack := around
        closed := outline.closed.insertIdx entry.position entry }
  else if token.opensItem then
    match outline.stack with
    | [] => .error (.outside token.kind position)
    | current :: around =>
      .ok { outline with stack := { current with items := current.items ++ [token] } :: around }
  else
    match token.range with
    | none => .ok outline
    | some range => .ok { outline with lastLine := range.stop }

/-- Reads tokens, the first of which stands at `position`. -/
def pushAll (outline : Outline) : Nat → List Token → Except Imbalance Outline
  | _, [] => .ok outline
  | position, token :: rest =>
    match outline.push token position with
    | .error cause => .error cause
    | .ok next => next.pushAll (position + 1) rest

/-- The entries of a stream that has ended, numbered in document order: a list that closes moves the
later ones, so their slots are not their final positions. -/
def finish (outline : Outline) : Except Imbalance (List ListEntry) :=
  match outline.stack with
  | current :: _ => .error (.unclosed current.opening.kind)
  | [] => .ok (outline.closed.mapIdx fun position entry => { entry with position := position })

end Outline

/-- The lists of a token stream in document order. -/
def outline (tokens : List Token) : Except Imbalance (List ListEntry) :=
  match Outline.pushAll {} 0 tokens with
  | .error cause => .error cause
  | .ok outline => outline.finish

end MarkdownCheck
