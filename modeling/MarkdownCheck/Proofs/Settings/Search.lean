import MarkdownCheck.Proofs.Files.Utf8
import MarkdownCheck.Settings.Load

/-!
# The search for settings

The files that may hold settings form one list, directory by directory from the start up to the
root. The first of them that holds settings, or that fails, ends the search.

- `documentOf`: the document that bytes are, with a characterization of each outcome.
- `searchedFiles`, `firstSettings`: the files and the search through them.
- `loadSettings_eq`: loading settings is that search.
- `firstSettings_failure`: why it fails.
-/

namespace MarkdownCheck

/-! ## Documents -/

/-- The entries of the document that bytes are; `none` when they are text and no document. -/
def documentOf (bytes : List UInt8) : Except LoadFailure (Option Toml.Entries) :=
  match Utf8.decode bytes with
  | .error fault => .error (.notText fault)
  | .ok text =>
    match Toml.parse text with
    | .ok entries => .ok (some entries)
    | .error .invalid => .ok none
    | .error (.hugeInteger digits) => .error (.hugeInteger digits)

theorem documentOf_encode (text : Text) :
    documentOf (Utf8.encode text) =
      match Toml.parse text with
      | .ok entries => .ok (some entries)
      | .error .invalid => .ok none
      | .error (.hugeInteger digits) => .error (.hugeInteger digits) := by
  rw [documentOf, Utf8.decode_eq_ok_iff.mpr rfl]

theorem documentOf_of_not_text {bytes : List UInt8} (h : ∀ text, bytes ≠ Utf8.encode text) :
    ∃ fault, Utf8.decode bytes = .error fault ∧ documentOf bytes = .error (.notText fault) := by
  cases hdecode : Utf8.decode bytes with
  | error fault => exact ⟨fault, rfl, by rw [documentOf, hdecode]⟩
  | ok text => exact absurd (Utf8.decode_eq_ok_iff.mp hdecode) (h text)

theorem readDocument?_eq (workspace : Workspace) (file : Path) :
    readDocument? workspace file =
      match workspace.readBytes file.shown with
      | .error failure =>
        if failure.cause = .nameTooLong then .error (.refused failure) else .ok none
      | .ok bytes => documentOf bytes :=
  rfl

section

variable {workspace : Workspace} {file : Path} (tables : List (List Text))

theorem settingsIn_of_document {entries : Toml.Entries}
    (h : readDocument? workspace file = .ok (some entries)) :
    settingsIn workspace file tables = firstTable (.table entries) file tables := by
  rw [settingsIn, h]
  rfl

theorem settingsIn_of_none (h : readDocument? workspace file = .ok none) :
    settingsIn workspace file tables = .ok none := by
  rw [settingsIn, h]
  rfl

theorem settingsIn_of_error {failure : LoadFailure}
    (h : readDocument? workspace file = .error failure) :
    settingsIn workspace file tables = .error failure := by
  rw [settingsIn, h]
  rfl

end

/-! ## The search -/

/-- A file that may hold settings, with the tables that are looked for in it. -/
abbrev SettingsFile := Path × List (List Text)

/-- The files that may hold settings of directories, in order. -/
def searchedFiles (places : List Location) : List SettingsFile :=
  places.flatMap fun place =>
    settingsFiles.map fun file => ((Path.ofLocation place).child file.1, file.2)

/-- The settings in the first of several files that has some, or else the default ones. -/
def firstSettings (workspace : Workspace) : List SettingsFile → Except LoadFailure Settings
  | [] => .ok {}
  | (file, tables) :: rest => do
    match ← settingsIn workspace file tables with
    | some settings => .ok settings
    | none => firstSettings workspace rest

section

variable {workspace : Workspace} {file : Path} {tables : List (List Text)}

theorem firstSettings_of_silent (h : settingsIn workspace file tables = .ok none)
    (rest : List SettingsFile) :
    firstSettings workspace ((file, tables) :: rest) = firstSettings workspace rest := by
  rw [firstSettings, h]
  rfl

theorem firstSettings_of_some {settings : Settings}
    (h : settingsIn workspace file tables = .ok (some settings)) (rest : List SettingsFile) :
    firstSettings workspace ((file, tables) :: rest) = .ok settings := by
  rw [firstSettings, h]
  rfl

theorem firstSettings_of_error {failure : LoadFailure}
    (h : settingsIn workspace file tables = .error failure) (rest : List SettingsFile) :
    firstSettings workspace ((file, tables) :: rest) = .error failure := by
  rw [firstSettings, h]
  rfl

end

theorem firstSettings_append_of_silent {workspace : Workspace} {before : List SettingsFile}
    (h : ∀ earlier ∈ before, settingsIn workspace earlier.1 earlier.2 = .ok none)
    (rest : List SettingsFile) :
    firstSettings workspace (before ++ rest) = firstSettings workspace rest := by
  induction before with
  | nil => rfl
  | cons first others ih =>
    obtain ⟨hfirst, hothers⟩ := List.forall_mem_cons.mp h
    rw [List.cons_append, firstSettings_of_silent hfirst, ih hothers]

/-- The files of one directory come before all others. -/
theorem firstSettings_firstFile (workspace : Workspace) (place : Location)
    (files : List (Text × List (List Text))) (rest : List SettingsFile) :
    firstSettings workspace
        (files.map (fun file => ((Path.ofLocation place).child file.1, file.2)) ++ rest) =
      firstFile workspace place files >>= fun found =>
        match found with
        | some settings => .ok settings
        | none => firstSettings workspace rest := by
  induction files with
  | nil => rfl
  | cons file others ih =>
    obtain ⟨name, tables⟩ := file
    rw [List.map_cons, List.cons_append, firstFile]
    cases h : settingsIn workspace ((Path.ofLocation place).child name) tables with
    | error failure => rw [firstSettings_of_error h]; rfl
    | ok found =>
      cases found with
      | some settings => rw [firstSettings_of_some h]; rfl
      | none => rw [firstSettings_of_silent h, ih]; rfl

theorem nearestSettings_eq (workspace : Workspace) (places : List Location) :
    nearestSettings workspace places = firstSettings workspace (searchedFiles places) := by
  induction places with
  | nil => rfl
  | cons place rest ih =>
    rw [nearestSettings, settingsAt, ih]
    exact (firstSettings_firstFile workspace place settingsFiles (searchedFiles rest)).symm

/-- The files that may hold settings for a path. -/
def filesFor (workspace : Workspace) (path : Path) : List SettingsFile :=
  searchedFiles ((workspace.origin path).follow path.names).upward

/-- Loading settings is a search through files, unless the path holds a null character. -/
theorem loadSettings_eq {workspace : Workspace} {path : Path} (h : '\x00' ∉ path.shown) :
    loadSettings workspace path = firstSettings workspace (filesFor workspace path) := by
  rw [loadSettings, if_neg (by simpa using h), nearestSettings_eq]
  rfl

/-- All these files stand below the root. -/
theorem shown_of_mem_searchedFiles {places : List Location} {file : SettingsFile}
    (h : file ∈ searchedFiles places) : file.1.shown.head? = some '/' := by
  obtain ⟨place, -, hfile⟩ := List.mem_flatMap.mp h
  obtain ⟨entry, -, rfl⟩ := List.mem_map.mp hfile
  rfl

/-! ## Failures -/

theorem settingsOf_eq_error {table : List Text} {file : Path} {value : Value}
    {failure : LoadFailure} (h : settingsOf table file value = .error failure) :
    failure = .invalidTable table file := by
  cases value with
  | table entries =>
    rw [settingsOf] at h
    split at h
    · cases h
    · exact (Except.error.inj h).symm
  | _ => exact (Except.error.inj h).symm

theorem firstTable_eq_error {document : Value} {file : Path} {tables : List (List Text)}
    {failure : LoadFailure} (h : firstTable document file tables = .error failure) :
    ∃ table, failure = .invalidTable table file := by
  induction tables with
  | nil => cases h
  | cons table rest ih =>
    rw [firstTable] at h
    split at h
    · next value _ =>
      cases hvalue : settingsOf table file value with
      | ok settings =>
        rw [hvalue] at h
        cases h
      | error cause =>
        rw [hvalue] at h
        rw [← Except.error.inj h]
        exact ⟨table, settingsOf_eq_error hvalue⟩
    · exact ih h

/-- Settings cannot be loaded because of an invalid table, or because a file cannot be read. -/
theorem firstSettings_failure {workspace : Workspace} {files : List SettingsFile}
    {failure : LoadFailure} (h : firstSettings workspace files = .error failure) :
    ∃ file ∈ files, (∃ table, failure = .invalidTable table file.1) ∨
      readDocument? workspace file.1 = .error failure := by
  induction files with
  | nil => cases h
  | cons first rest ih =>
    obtain ⟨file, tables⟩ := first
    cases hsettings : settingsIn workspace file tables with
    | error cause =>
      rw [firstSettings_of_error hsettings] at h
      obtain rfl := Except.error.inj h
      refine ⟨(file, tables), List.mem_cons_self, ?_⟩
      cases hread : readDocument? workspace file with
      | error unread =>
        rw [settingsIn_of_error tables hread] at hsettings
        exact .inr (congrArg Except.error (Except.error.inj hsettings))
      | ok found =>
        cases found with
        | none =>
          rw [settingsIn_of_none tables hread] at hsettings
          cases hsettings
        | some entries =>
          rw [settingsIn_of_document tables hread] at hsettings
          exact .inl (firstTable_eq_error hsettings)
    | ok found =>
      cases found with
      | some settings =>
        rw [firstSettings_of_some hsettings] at h
        cases h
      | none =>
        rw [firstSettings_of_silent hsettings] at h
        obtain ⟨other, hmem, hother⟩ := ih h
        exact ⟨other, List.mem_cons_of_mem _ hmem, hother⟩

end MarkdownCheck
