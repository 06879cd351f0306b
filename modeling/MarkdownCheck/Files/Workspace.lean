import MarkdownCheck.Files.Tree

/-!
# Where the program runs

- `Workspace`: the files there are, the working directory, and the variables of the environment.
- `Workspace.fileSize`, `Workspace.readText`: what can be known about a file.
- `Workspace.resolve`, `Workspace.markdownFile`: the place that a path stands for.
- `accountHomes`: the home directories in a table of accounts.

Checks of a path come with the reason why it is refused: `AccessFailure` for files that are read,
`PathFailure` for paths that a user gives.
-/

namespace MarkdownCheck

/-- Where the program runs. -/
structure Workspace where
  /-- Everything from the root down. -/
  tree : FileTree
  /-- The working directory. -/
  directory : Location
  /-- The variables of the environment. -/
  environment : List (Text × Text) := []
  /-- The home directories of accounts by name; the one under the empty name is the user's own. -/
  homes : List (Text × Text) := []

/-! ## Accounts -/

/-- The account and the home directory in a line of the table: its first and sixth of seven fields,
with colons between them. -/
def accountHome? (line : Text) : Option (Text × Text) :=
  match Text.splitAt ':' line with
  | [name, _, _, _, _, home, _] => some (name, home)
  | _ => none

/-- The home directories in a table of accounts, one account a line. -/
def accountHomes (table : Text) : List (Text × Text) :=
  (Text.splitAt '\n' table).filterMap accountHome?

/-! ## Files that are read -/

/-- Why a file cannot be read. -/
inductive AccessFailure where
  /-- The path cannot be followed. -/
  | unreachable (path : Path) (failure : FileFailure)
  /-- The operating system refuses the path as such. -/
  | refused (failure : FileFailure)
  /-- Something other than a file stands there. -/
  | notRegular (path : Path)
  /-- The file is larger than it may be. -/
  | tooLarge (path : Path) (limit : Int)
  /-- The file holds no text. -/
  | notText (path : Path) (fault : Utf8.Fault)
deriving DecidableEq, Repr

/-- A failure in words. -/
def AccessFailure.message : AccessFailure → Text
  | .unreachable path failure =>
    "Error accessing ".toList ++ path.shown ++ ": ".toList ++ failure.message
  | .refused failure => failure.message
  | .notRegular path => path.shown ++ " is not a regular file.".toList
  | .tooLarge path limit =>
    path.shown ++ " exceeds the maximum allowed size of ".toList ++ Text.ofInt limit
      ++ " bytes.".toList
  | .notText path fault =>
    "Invalid UTF-8 sequence in ".toList ++ path.shown ++ ": ".toList ++ fault.message

namespace Workspace

/-- The value of a variable. -/
def environmentValue? (workspace : Workspace) (name : Text) : Option Text :=
  workspace.environment.lookup name

/-- The place that a path leads to, followed name by name. -/
def locate (workspace : Workspace) (path : Text) : Except FileFailure Location :=
  match workspace.tree.locate workspace.directory path with
  | .ok place => .ok place
  | .error cause => .error ⟨cause, path⟩

/-- What a path leads to. -/
def find (workspace : Workspace) (path : Text) : Except FileFailure FileTree := do
  let place ← workspace.locate path
  match workspace.tree.at? place with
  | some found => .ok found
  | none => .error ⟨.missing, path⟩

/-- The size of a file in bytes. -/
def fileSize (workspace : Workspace) (path : Path) : Except AccessFailure Nat :=
  match workspace.find path.shown with
  | .ok (.file bytes) => .ok bytes.length
  | .ok (.directory _) => .error (.notRegular path)
  | .error failure =>
    .error (if failure.cause = .holdsNull then .refused failure else .unreachable path failure)

/-- The size of a file that may not be larger than `limit`. -/
def fileSizeWithin (workspace : Workspace) (path : Path) (limit : Int) :
    Except AccessFailure Nat := do
  let size ← workspace.fileSize path
  if limit < size then .error (.tooLarge path limit) else .ok size

/-- Whether a failure to open a file is told with the path that was asked for. -/
def isTold (cause : FileCause) : Bool :=
  cause = .missing || cause = .notDirectory || cause = .isDirectory

/-- The bytes of a file. -/
def readBytes (workspace : Workspace) (path : Text) : Except FileFailure (List UInt8) := do
  match ← workspace.find path with
  | .file bytes => .ok bytes
  | .directory _ => .error ⟨.isDirectory, path⟩

/-- The text of a file. -/
def readText (workspace : Workspace) (path : Path) : Except AccessFailure Text :=
  match workspace.readBytes path.shown with
  | .error failure =>
    .error (if isTold failure.cause then .unreachable path failure else .refused failure)
  | .ok bytes =>
    match Utf8.decode bytes with
    | .ok text => .ok text
    | .error fault => .error (.notText path fault)

end Workspace

/-! ## Paths that a user gives -/

/-- Why a path is not that of a Markdown file. -/
inductive PathFailure where
  /-- Nobody knows the home directory that it starts with. -/
  | homeless
  /-- It holds a null character. -/
  | holdsNull
  /-- Nothing stands there. -/
  | missing (path : Path)
  /-- It cannot be followed. -/
  | unreachable (path : Path) (failure : FileFailure)
  /-- Something other than a file stands there. -/
  | notRegular (path : Path)
  /-- The file has the extension of some other kind. -/
  | notMarkdown (path : Path)
deriving DecidableEq, Repr

/-- The extensions of Markdown files. -/
def markdownSuffixes : List Text :=
  [".md".toList, ".markdown".toList, ".mdown".toList, ".mkd".toList, ".mkdn".toList]

/-- A failure in words. -/
def PathFailure.message : PathFailure → Text
  | .homeless => "Could not determine home directory.".toList
  | .holdsNull => "embedded null byte".toList
  | .missing path => path.shown ++ " does not exist.".toList
  | .unreachable path failure =>
    "Error resolving ".toList ++ path.shown ++ ": ".toList ++ failure.message
  | .notRegular path => path.shown ++ " is not a regular file.".toList
  | .notMarkdown path =>
    path.shown ++ " is not a Markdown file.\nSupported extensions are: ".toList
      ++ Text.join [',', ' '] markdownSuffixes

namespace Workspace

/-- The home directory of an account: for the user's own the variable for it counts first. -/
def home? (workspace : Workspace) (account : Text) : Option Text :=
  let given := if account.isEmpty then workspace.environmentValue? "HOME".toList else none
  given.or (workspace.homes.lookup account)

/-- A path with the home directory in place of a tilde. -/
def expandHome (workspace : Workspace) (path : Path) : Except PathFailure Path :=
  match path.slashes, path.names with
  | 0, ('~' :: account) :: rest =>
    match workspace.home? account with
    | none => .error .homeless
    | some home =>
      let trimmed := (home.reverse.dropWhile (· = '/')).reverse
      if trimmed.head? = some '~' then .error .homeless
      else
        let start := Path.ofText (if trimmed.isEmpty then ['/'] else trimmed)
        .ok { start with names := start.names ++ rest }
  | _, _ => .ok path

/-- Follows the names of a path one by one, each of which has to exist. Two dots cancel the name
before them, whatever it stands for. -/
def resolveNames (workspace : Workspace) (slashes : Nat) (done : List Text) :
    List Text → Except FileFailure (List Text)
  | [] => .ok done
  | name :: rest =>
    if name = ['.', '.'] then
      let isStuck := slashes = 0 && done.getLast?.all (· = ['.', '.'])
      resolveNames workspace slashes (if isStuck then done ++ [name] else done.dropLast) rest
    else do
      let path : Path := ⟨slashes, done ++ [name]⟩
      let _ ← workspace.locate path.shown
      resolveNames workspace slashes (done ++ [name]) rest

/-- The place where a path starts. -/
def origin (workspace : Workspace) (path : Path) : Location :=
  if path.slashes = 0 then workspace.directory else []

/-- The place that a path stands for, all of whose names have to exist. -/
def resolve (workspace : Workspace) (path : Path) : Except FileFailure Location := do
  let names ← workspace.resolveNames (min path.slashes 1) [] path.names
  .ok ((workspace.origin path).follow names)

/-- The place of the Markdown file that a user means by a path. -/
def markdownFile (workspace : Workspace) (given : Text) : Except PathFailure Location := do
  let path ← workspace.expandHome (.ofText given)
  match workspace.resolve path with
  | .error failure =>
    if failure.cause = .holdsNull then .error .holdsNull
    else if failure.cause = .missing then .error (.missing path)
    else .error (.unreachable path failure)
  | .ok place =>
    let resolved := Path.ofLocation place
    match workspace.tree.at? place with
    | some (.file _) =>
      if markdownSuffixes.any resolved.hasSuffix then .ok place else .error (.notMarkdown resolved)
    | _ => .error (.notRegular resolved)

end Workspace

end MarkdownCheck
