import MarkdownCheck.Proofs.Files.Erase
import MarkdownCheck.Proofs.Settings.Search

/-!
# Files that are no documents

A file that breaks the rules of the language of its documents is passed over by the search for
settings: everything ends as if it were not there. A file that is not text, or that holds an integer
of too many digits, is not passed over: it ends the search wherever the search comes to it.

- `ReachesFile`: the search comes to a file.
- `settingsIn_without`: the settings in a file, in a workspace without another one.
- `Reaches`: loading settings for a path comes to a file.
- `loadSettings_undecodable`: loading settings with and without a file that is no document.
- `loadSettings_ne_without_byte`: where the difference shows.
-/

namespace MarkdownCheck

/-- The search through files comes to the one at a place. -/
def ReachesFile (workspace : Workspace) (place : Location) (files : List SettingsFile) : Prop :=
  ∃ before file after, files = before ++ file :: after ∧
    workspace.locate file.1.shown = .ok place ∧
    ∀ earlier ∈ before, settingsIn workspace earlier.1 earlier.2 = .ok none

theorem ReachesFile.head {workspace : Workspace} {place : Location} {file : SettingsFile}
    (h : workspace.locate file.1.shown = .ok place) (rest : List SettingsFile) :
    ReachesFile workspace place (file :: rest) :=
  ⟨[], file, rest, rfl, h, nofun⟩

theorem ReachesFile.tail {workspace : Workspace} {place : Location} {file : SettingsFile}
    {rest : List SettingsFile} (hsilent : settingsIn workspace file.1 file.2 = .ok none)
    (h : ReachesFile workspace place rest) : ReachesFile workspace place (file :: rest) := by
  obtain ⟨before, found, after, rfl, hfound, hbefore⟩ := h
  exact ⟨file :: before, found, after, rfl, hfound, List.forall_mem_cons.mpr ⟨hsilent, hbefore⟩⟩

/-! ## One file -/

section

variable {workspace : Workspace} {place : Location} {bytes : List UInt8}

/-- What leads to the file holds no settings without it, and everything else holds the same ones. -/
theorem settingsIn_without (hfile : workspace.tree.at? place = some (.file bytes))
    (hplace : place ≠ []) {file : Path} (hroot : file.shown.head? = some '/')
    (tables : List (List Text)) :
    (workspace.locate file.shown = .ok place ∧
      readDocument? workspace file = documentOf bytes ∧
      settingsIn (workspace.without place) file tables = .ok none) ∨
    (workspace.locate file.shown ≠ .ok place ∧
      settingsIn (workspace.without place) file tables = settingsIn workspace file tables) := by
  have hnone {other : Workspace} {cause : FileCause} (hcause : cause ≠ .nameTooLong)
      (hread : other.readBytes file.shown = .error ⟨cause, file.shown⟩) :
      settingsIn other file tables = .ok none := by
    refine settingsIn_of_none tables ?_
    rw [readDocument?_eq, hread]
    exact if_neg hcause
  rcases Workspace.readBytes_without hfile hplace hroot with
    ⟨hlocate, hread, hmissing⟩ | ⟨hlocate, hsame | ⟨hnot, hmissing⟩⟩
  · refine .inl ⟨hlocate, ?_, hnone (by decide) hmissing⟩
    rw [readDocument?_eq, hread]
  · refine .inr ⟨hlocate, ?_⟩
    rw [settingsIn, settingsIn, readDocument?_eq, readDocument?_eq, hsame]
  · exact .inr ⟨hlocate, (hnone (by decide) hmissing).trans (hnone (by decide) hnot).symm⟩

/-! ## The search -/

/-- A file that is text and no document makes no difference. -/
theorem firstSettings_skip (hfile : workspace.tree.at? place = some (.file bytes))
    (hplace : place ≠ []) (hskip : documentOf bytes = .ok none) {files : List SettingsFile}
    (hroot : ∀ file ∈ files, file.1.shown.head? = some '/') :
    firstSettings workspace files = firstSettings (workspace.without place) files := by
  induction files with
  | nil => rfl
  | cons first rest ih =>
    obtain ⟨file, tables⟩ := first
    obtain ⟨hfirst, hrest⟩ := List.forall_mem_cons.mp hroot
    have hsame : settingsIn (workspace.without place) file tables =
        settingsIn workspace file tables := by
      rcases settingsIn_without hfile hplace hfirst tables with ⟨-, hread, hsilent⟩ | ⟨-, hsame⟩
      · rw [hsilent, settingsIn_of_none tables (hread.trans hskip)]
      · exact hsame
    rw [firstSettings, firstSettings, hsame, ih hrest]

/-- A file that cannot be read ends the search that comes to it. -/
theorem firstSettings_of_reaches {failure : LoadFailure}
    (hfile : workspace.tree.at? place = some (.file bytes))
    (hstop : documentOf bytes = .error failure) {files : List SettingsFile}
    (hreaches : ReachesFile workspace place files) :
    firstSettings workspace files = .error failure := by
  obtain ⟨before, ⟨file, tables⟩, after, rfl, hlocate, hbefore⟩ := hreaches
  have hread : readDocument? workspace file = .error failure := by
    rw [readDocument?_eq, Workspace.readBytes_of_locate hlocate, hfile]
    exact hstop
  rw [firstSettings_append_of_silent hbefore,
    firstSettings_of_error (settingsIn_of_error tables hread)]

/-- A file to which the search does not come makes no difference. -/
theorem firstSettings_of_not_reaches (hfile : workspace.tree.at? place = some (.file bytes))
    (hplace : place ≠ []) {files : List SettingsFile}
    (hroot : ∀ file ∈ files, file.1.shown.head? = some '/')
    (hreaches : ¬ ReachesFile workspace place files) :
    firstSettings workspace files = firstSettings (workspace.without place) files := by
  induction files with
  | nil => rfl
  | cons first rest ih =>
    obtain ⟨file, tables⟩ := first
    obtain ⟨hfirst, hrest⟩ := List.forall_mem_cons.mp hroot
    rcases settingsIn_without hfile hplace hfirst tables with ⟨hlocate, -⟩ | ⟨-, hsame⟩
    -- the first of the files cannot be it, and the search only goes on behind a silent one
    · exact absurd (ReachesFile.head hlocate rest) hreaches
    · cases hsettings : settingsIn workspace file tables with
      | error failure =>
        rw [firstSettings_of_error hsettings, firstSettings_of_error (hsame.trans hsettings)]
      | ok found =>
        cases found with
        | some settings =>
          rw [firstSettings_of_some hsettings, firstSettings_of_some (hsame.trans hsettings)]
        | none =>
          rw [firstSettings_of_silent hsettings, firstSettings_of_silent (hsame.trans hsettings)]
          exact ih hrest fun h => hreaches (.tail hsettings h)

end

/-! ## Loading settings -/

/-- Loading settings comes to the file at a place. -/
def Reaches (workspace : Workspace) (path : Path) (place : Location) : Prop :=
  '\x00' ∉ path.shown ∧ ReachesFile workspace place (filesFor workspace path)

/-- A path with a null character is refused before any file is looked at. -/
theorem loadSettings_holdsNull {workspace : Workspace} {path : Path} (h : '\x00' ∈ path.shown) :
    loadSettings workspace path = .error (.refused ⟨.holdsNull, path.shown⟩) := by
  rw [loadSettings, if_pos (by simpa using h)]

theorem loadSettings_failure {workspace : Workspace} {path : Path} {failure : LoadFailure}
    (h : loadSettings workspace path = .error failure) :
    ('\x00' ∈ path.shown ∧ failure = .refused ⟨.holdsNull, path.shown⟩) ∨
    ∃ file ∈ filesFor workspace path, (∃ table, failure = .invalidTable table file.1) ∨
      readDocument? workspace file.1 = .error failure := by
  by_cases hnull : '\x00' ∈ path.shown
  · rw [loadSettings_holdsNull hnull] at h
    exact .inl ⟨hnull, (Except.error.inj h).symm⟩
  · rw [loadSettings_eq hnull] at h
    exact .inr (firstSettings_failure h)

/-- Without something, only the searches of paths without a null character need to be compared, and
only where it is not the root itself. -/
theorem loadSettings_without {workspace : Workspace} {place : Location} {path : Path}
    (h : '\x00' ∉ path.shown → place ≠ [] →
      firstSettings workspace (filesFor workspace path) =
        firstSettings (workspace.without place) (filesFor workspace path)) :
    loadSettings workspace path = loadSettings (workspace.without place) path := by
  by_cases hnull : '\x00' ∈ path.shown
  · rw [loadSettings_holdsNull hnull, loadSettings_holdsNull hnull]
  by_cases hplace : place = []
  · rw [hplace, Workspace.without_root]
  · rw [loadSettings_eq hnull, loadSettings_eq hnull]
    exact h hnull hplace

section

variable {workspace : Workspace} {place : Location} {bytes : List UInt8}
  (hfile : workspace.tree.at? place = some (.file bytes)) (path : Path)

include hfile

theorem loadSettings_skip (hskip : documentOf bytes = .ok none) :
    loadSettings workspace path = loadSettings (workspace.without place) path :=
  loadSettings_without fun _ hplace =>
    firstSettings_skip hfile hplace hskip fun _ h => shown_of_mem_searchedFiles h

theorem loadSettings_of_reaches {failure : LoadFailure} (hstop : documentOf bytes = .error failure)
    (hreaches : Reaches workspace path place) :
    loadSettings workspace path = .error failure := by
  rw [loadSettings_eq hreaches.1]
  exact firstSettings_of_reaches hfile hstop hreaches.2

theorem loadSettings_of_not_reaches (hreaches : ¬ Reaches workspace path place) :
    loadSettings workspace path = loadSettings (workspace.without place) path :=
  loadSettings_without fun hnull hplace =>
    firstSettings_of_not_reaches hfile hplace (fun _ h => shown_of_mem_searchedFiles h)
      fun h => hreaches ⟨hnull, h⟩

end

/-- **Loading settings with a file that is no document**, of whatever bytes and wherever it stands.
If it is text, and the rules of the language are broken, everything ends as if it were not there. If
it is not text, or holds an integer of too many digits, everything ends so unless the search comes
to the file; then it ends with that failure. All other failures are those of invalid tables, of
other files that cannot be read, and of a path with a null character. -/
theorem loadSettings_undecodable {workspace : Workspace} {place : Location} {bytes : List UInt8}
    (hfile : workspace.tree.at? place = some (.file bytes)) (path : Path) :
    (∀ text, bytes = Utf8.encode text → Toml.parse text = .error .invalid →
      loadSettings workspace path = loadSettings (workspace.without place) path) ∧
    ((∀ text, bytes ≠ Utf8.encode text) → ∃ fault, Utf8.decode bytes = .error fault ∧
      (Reaches workspace path place → loadSettings workspace path = .error (.notText fault)) ∧
      (¬ Reaches workspace path place →
        loadSettings workspace path = loadSettings (workspace.without place) path)) ∧
    (∀ text digits, bytes = Utf8.encode text → Toml.parse text = .error (.hugeInteger digits) →
      (Reaches workspace path place →
        loadSettings workspace path = .error (.hugeInteger digits)) ∧
      (¬ Reaches workspace path place →
        loadSettings workspace path = loadSettings (workspace.without place) path)) ∧
    ∀ failure, loadSettings workspace path = .error failure →
      ('\x00' ∈ path.shown ∧ failure = .refused ⟨.holdsNull, path.shown⟩) ∨
      ∃ file ∈ filesFor workspace path, (∃ table, failure = .invalidTable table file.1) ∨
        readDocument? workspace file.1 = .error failure := by
  have hother := loadSettings_of_not_reaches hfile path
  refine ⟨fun text htext hparse => ?_, fun hbytes => ?_, fun text digits htext hparse =>
    ⟨loadSettings_of_reaches hfile path ?_, hother⟩, fun failure => loadSettings_failure⟩
  · refine loadSettings_skip hfile path ?_
    rw [htext, documentOf_encode, hparse]
  · obtain ⟨fault, hdecode, hstop⟩ := documentOf_of_not_text hbytes
    exact ⟨fault, hdecode, loadSettings_of_reaches hfile path hstop, hother⟩
  · rw [htext, documentOf_encode, hparse]

/-- A file of one byte that is no text, in a directory below the root, which has settings. -/
def workspaceWithByte : Workspace where
  tree := .directory
    [("docs".toList, .directory [(".mdlint-rules.toml".toList, .file [0xFF])]),
      (".mdlint-rules.toml".toList,
        .file ("[mdlint-rules]\nmax_line_length = 7".toList.map fun c => c.toNat.toUInt8))]
  directory := []

/-- The file of one byte is the nearest one to the directory `docs`. It is not passed over for that
of the root: loading ends with a failure to decode it. -/
theorem loadSettings_undecodable_byte :
    workspaceWithByte.tree.at? ["docs".toList, ".mdlint-rules.toml".toList] =
        some (.file [0xFF]) ∧
      (∀ text, [0xFF] ≠ Utf8.encode text) ∧
      Reaches workspaceWithByte ⟨0, ["docs".toList]⟩ ["docs".toList, ".mdlint-rules.toml".toList] ∧
      ∃ fault, loadSettings workspaceWithByte ⟨0, ["docs".toList]⟩ = .error (.notText fault) := by
  have hfile : workspaceWithByte.tree.at? ["docs".toList, ".mdlint-rules.toml".toList] =
      some (.file [0xFF]) := rfl
  have hbytes : ∀ text, [0xFF] ≠ Utf8.encode text := by
    intro text h
    rw [← Utf8.decode_eq_ok_iff] at h
    cases h
  have hreaches : Reaches workspaceWithByte ⟨0, ["docs".toList]⟩
      ["docs".toList, ".mdlint-rules.toml".toList] := by
    refine ⟨by decide, [_], _, _, rfl, rfl, fun earlier h => ?_⟩
    rw [List.mem_singleton.mp h]
    rfl
  obtain ⟨fault, -, hends, -⟩ :=
    (loadSettings_undecodable hfile ⟨0, ["docs".toList]⟩).2.1 hbytes
  exact ⟨hfile, hbytes, hreaches, fault, hends hreaches⟩

/-- Without the byte the settings of the root are found, and with it there is a failure that tells
of no invalid table. -/
theorem loadSettings_ne_without_byte :
    loadSettings workspaceWithByte ⟨0, ["docs".toList]⟩ =
        .error (.notText ⟨0xFF, 0, 1, .start⟩) ∧
      loadSettings (workspaceWithByte.without ["docs".toList, ".mdlint-rules.toml".toList])
        ⟨0, ["docs".toList]⟩ = .ok { maxLineLength := .number 7 } :=
  ⟨rfl, rfl⟩

end MarkdownCheck
