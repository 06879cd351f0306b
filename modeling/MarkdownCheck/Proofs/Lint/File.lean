import MarkdownCheck.LintFile
import MarkdownCheck.Proofs.Files.Utf8
import MarkdownCheck.Proofs.Log.Laws
import MarkdownCheck.Proofs.Settings.Check

/-!
# Linting a file

A file is refused because of the settings, because of the variable for the limit, or because of what
stands there. Otherwise linting it is linting the text that its bytes are.

- `sizeLimit?`: the largest size of a file, by the variable or else by the settings.
- `Refused`: the reasons to refuse a file.
- `readForLint_cases`: the text of a file, or why there is none.
- `lintFile_outcome`: a file is refused, or else linted as its text.
-/

namespace MarkdownCheck

/-! ## Paths without null characters -/

namespace FileTree

theorem step_ne_holdsNull (tree : FileTree) (place : Location) (name : Text) :
    tree.step place name ≠ .error .holdsNull := by
  rw [step]
  split
  · exact nofun
  split
  · exact nofun
  split
  · exact nofun
  split
  · exact nofun
  split
  · exact nofun
  split
  · exact nofun
  · exact nofun

theorem walk_ne_holdsNull (tree : FileTree) (place : Location) (names : List Text) :
    tree.walk place names ≠ .error .holdsNull := by
  induction names generalizing place with
  | nil => exact nofun
  | cons name rest ih =>
    rw [walk]
    cases hstep : tree.step place name with
    | error cause =>
      intro h
      exact step_ne_holdsNull tree place name (hstep.trans h)
    | ok next => exact ih next

theorem locate_ne_holdsNull (tree : FileTree) (start : Location) {path : Text}
    (h : '\x00' ∉ path) : tree.locate start path ≠ .error .holdsNull := by
  rw [locate, if_neg (by simpa using h)]
  split
  · exact nofun
  split
  · exact nofun
  · exact walk_ne_holdsNull tree _ _

end FileTree

/-- Only a path with a null character is refused for holding one. -/
theorem Workspace.cause_ne_holdsNull {workspace : Workspace} {path : Text} (h : '\x00' ∉ path)
    {failure : FileFailure} (hfind : workspace.find path = .error failure) :
    failure.cause ≠ .holdsNull := by
  rw [find, locate] at hfind
  cases hlocate : workspace.tree.locate workspace.directory path with
  | error cause =>
    rw [hlocate] at hfind
    have hfailure : FileFailure.mk cause path = failure := Except.error.inj hfind
    rw [← hfailure]
    rintro rfl
    exact FileTree.locate_ne_holdsNull _ _ h hlocate
  | ok place =>
    rw [hlocate] at hfind
    dsimp only [bind, Except.bind] at hfind
    cases hat : workspace.tree.at? place with
    | some found =>
      rw [hat] at hfind
      cases hfind
    | none =>
      rw [hat] at hfind
      have hfailure : FileFailure.mk .missing path = failure := Except.error.inj hfind
      rw [← hfailure]
      exact nofun

/-! ## The text of a file -/

section

variable {workspace : Workspace} {path : Path}

/-- Nothing that is not a regular file has a size. -/
theorem fileSize_of_not_file (hpath : '\x00' ∉ path.shown)
    (h : ∀ bytes, workspace.find path.shown ≠ .ok (.file bytes)) :
    ∃ failure, (∀ cause, failure ≠ .refused cause) ∧
      workspace.fileSize path = .error failure := by
  rw [Workspace.fileSize]
  rcases hfind : workspace.find path.shown with failure | ⟨bytes⟩ | ⟨entries⟩
  · refine ⟨.unreachable path failure, nofun, ?_⟩
    dsimp only
    rw [if_neg (Workspace.cause_ne_holdsNull hpath hfind)]
  · exact absurd hfind (h bytes)
  · exact ⟨.notRegular path, nofun, rfl⟩

theorem readForLint_of_fileSize_error {failure : AccessFailure}
    (h : workspace.fileSize path = .error failure) (limit : Int) :
    readForLint workspace path limit = .error failure := by
  rw [readForLint, Workspace.fileSizeWithin, h]
  rfl

theorem readForLint_of_file {bytes : List UInt8}
    (h : workspace.find path.shown = .ok (.file bytes)) (limit : Int) :
    readForLint workspace path limit =
      if limit < bytes.length then .error (.tooLarge path limit)
      else
        match Utf8.decode bytes with
        | .ok text => .ok text
        | .error fault => .error (.notText path fault) := by
  have hsize : workspace.fileSize path = .ok bytes.length := by
    rw [Workspace.fileSize, h]
  have hbytes : workspace.readBytes path.shown = .ok bytes := by
    rw [Workspace.readBytes, h]
    rfl
  rw [readForLint, Workspace.fileSizeWithin, hsize, Workspace.readText, hbytes]
  by_cases hlimit : limit < bytes.length
  · rw [if_pos hlimit]
    show (if limit < bytes.length then _ else _) >>= _ = _
    rw [if_pos hlimit]
    rfl
  · rw [if_neg hlimit]
    show (if limit < bytes.length then _ else _) >>= _ = _
    rw [if_neg hlimit]
    rfl

/-- The text of a file within the limit, or the reason why there is none. -/
theorem readForLint_cases (hpath : '\x00' ∉ path.shown) (limit : Int) :
    (∃ text, workspace.find path.shown = .ok (.file (Utf8.encode text)) ∧
      ((Utf8.encode text).length : Int) ≤ limit ∧ readForLint workspace path limit = .ok text) ∨
    (((∀ bytes, workspace.find path.shown ≠ .ok (.file bytes)) ∨
        ∃ bytes, workspace.find path.shown = .ok (.file bytes) ∧
          (limit < bytes.length ∨ ∀ text, bytes ≠ Utf8.encode text)) ∧
      ∃ failure, (∀ cause, failure ≠ .refused cause) ∧
        readForLint workspace path limit = .error failure) := by
  by_cases hfile : ∃ bytes, workspace.find path.shown = .ok (.file bytes)
  · obtain ⟨bytes, hfind⟩ := hfile
    have hread := readForLint_of_file hfind limit
    by_cases hlimit : limit < bytes.length
    · rw [if_pos hlimit] at hread
      exact .inr ⟨.inr ⟨bytes, hfind, .inl hlimit⟩, .tooLarge path limit, nofun, hread⟩
    rw [if_neg hlimit] at hread
    cases hdecode : Utf8.decode bytes with
    | ok text =>
      rw [hdecode] at hread
      obtain rfl := Utf8.decode_eq_ok_iff.mp hdecode
      exact .inl ⟨text, hfind, Int.not_lt.mp hlimit, hread⟩
    | error fault =>
      rw [hdecode] at hread
      refine .inr ⟨.inr ⟨bytes, hfind, .inr fun text htext => ?_⟩, .notText path fault, nofun,
        hread⟩
      rw [Utf8.decode_eq_ok_iff.mpr htext] at hdecode
      cases hdecode
  · rw [not_exists] at hfile
    obtain ⟨failure, htold, hsize⟩ := fileSize_of_not_file hpath hfile
    exact .inr ⟨.inl hfile, failure, htold, readForLint_of_fileSize_error hsize limit⟩

end

/-! ## The outcome -/

/-- The largest size of a file: what the variable says, or else what the settings say. -/
def sizeLimit? (workspace : Workspace) (settings : Settings) : Option Int :=
  match workspace.environmentValue? SizeLimit.variableName with
  | some value => value.readInt?
  | none =>
    match settings.maxFileSize with
    | .number limit => some limit
    | _ => none

/-- The reasons to refuse a file. -/
inductive Refused (workspace : Workspace) (path : Path) (settings : Settings) : Prop where
  /-- The settings are not accepted. -/
  | settings (h : ∀ options, settings.check ≠ .ok options)
  /-- The variable is set, and not to a positive integer. -/
  | limit {value : Text} (h : workspace.environmentValue? SizeLimit.variableName = some value)
      (hvalue : ∀ limit, value.readInt? = some limit → limit ≤ 0)
  /-- No regular file stands there. -/
  | notFile (h : ∀ bytes, workspace.find path.shown ≠ .ok (.file bytes))
  /-- The file has more bytes than it may. -/
  | tooLarge {bytes : List UInt8} {limit : Int}
      (h : workspace.find path.shown = .ok (.file bytes))
      (hlimit : sizeLimit? workspace settings = some limit) (hsize : limit < bytes.length)
  /-- Its bytes are those of no text. -/
  | notText {bytes : List UInt8} (h : workspace.find path.shown = .ok (.file bytes))
      (hbytes : ∀ text, bytes ≠ Utf8.encode text)

/-- A failure that tells why a file is refused, and not one of linting its text or of the operating
system refusing the path as such. -/
def FileLintFailure.IsRefusal : FileLintFailure → Prop
  | .lint _ | .access (.refused _) => False
  | _ => True

theorem maxFileSize_of_check {settings : Settings} {options : LintOptions}
    (h : settings.check = .ok options) : settings.maxFileSize = .number options.maxFileSize := by
  simp only [Settings.check, bind_eq_ok_iff, Settings.checkPositive_eq_ok_iff] at h
  obtain ⟨_, _, _, _, _, _, maxFileSize, ⟨hsize, _⟩, _, _, hoptions⟩ := h
  rw [hsize, ← Except.ok.inj hoptions]

theorem sizeLimit_cases (workspace : Workspace) {settings : Settings} {options : LintOptions}
    (hcheck : settings.check = .ok options) :
    (∃ limit, SizeLimit.read (workspace.environmentValue? SizeLimit.variableName)
        options.maxFileSize = .ok limit ∧ sizeLimit? workspace settings = some limit ∧
      ∀ value, workspace.environmentValue? SizeLimit.variableName = some value → 0 < limit) ∨
    ∃ value fault, workspace.environmentValue? SizeLimit.variableName = some value ∧
      (∀ limit, value.readInt? = some limit → limit ≤ 0) ∧
      SizeLimit.read (some value) options.maxFileSize = .error fault := by
  rw [sizeLimit?]
  cases workspace.environmentValue? SizeLimit.variableName with
  | none => exact .inl ⟨options.maxFileSize, rfl, by rw [maxFileSize_of_check hcheck], nofun⟩
  | some value =>
    cases hread : value.readInt? with
    | none =>
      refine .inr ⟨value, .notInteger value, rfl, ?_, ?_⟩
      · rw [hread]
        exact nofun
      · rw [SizeLimit.read, hread]
    | some limit =>
      by_cases hpositive : 0 < limit
      · refine .inl ⟨limit, ?_, hread, fun _ _ => hpositive⟩
        rw [SizeLimit.read, hread]
        exact if_pos hpositive
      · refine .inr ⟨value, .notPositive limit, rfl, ?_, ?_⟩
        · intro other hother
          rw [← Option.some.inj (hread.symm.trans hother)]
          exact Int.not_lt.mp hpositive
        · rw [SizeLimit.read, hread]
          exact if_neg hpositive

section

variable {workspace : Workspace} {path : Path} {settings : Settings}

/-- No reason to refuse a file is left when its text is within the limit. -/
theorem not_refused {options : LintOptions} {limit : Int} {text : Text}
    (hcheck : settings.check = .ok options) (hlimit : sizeLimit? workspace settings = some limit)
    (hpositive : ∀ value,
      workspace.environmentValue? SizeLimit.variableName = some value → 0 < limit)
    (hfind : workspace.find path.shown = .ok (.file (Utf8.encode text)))
    (hsize : ((Utf8.encode text).length : Int) ≤ limit) :
    ¬ Refused workspace path settings := by
  have hbytes {bytes : List UInt8} (h : workspace.find path.shown = .ok (.file bytes)) :
      bytes = Utf8.encode text :=
    FileTree.file.inj (Except.ok.inj (h.symm.trans hfind))
  intro hrefused
  cases hrefused with
  | settings h => exact h options hcheck
  | limit h hvalue =>
    rw [sizeLimit?, h] at hlimit
    exact Int.not_lt.mpr (hvalue limit hlimit) (hpositive _ h)
  | notFile h => exact h _ hfind
  | tooLarge h hother hlarge =>
    rw [hbytes h, ← Option.some.inj (hlimit.symm.trans hother)] at hlarge
    exact Int.not_lt.mpr hsize hlarge
  | notText h hnot => exact hnot text (hbytes h)

theorem lintFile_of_check_error {fault : SettingsFault} (h : settings.check = .error fault) :
    lintFile workspace path settings = .fail (.settings fault) := by
  rw [lintFile, h]
  exact Logged.ofExcept_error_bind ..

theorem lintFile_of_check {options : LintOptions} (h : settings.check = .ok options) :
    lintFile workspace path settings =
      .ofExcept ((SizeLimit.read (workspace.environmentValue? SizeLimit.variableName)
          options.maxFileSize).mapError .limit) >>= fun limit =>
        .ofExcept ((readForLint workspace path limit).mapError .access) >>= fun content =>
          (lintText options content path.shown).mapError .lint := by
  rw [lintFile, h]
  exact Logged.ofExcept_ok_bind ..

/-- A file is refused with nothing logged, or linted as its text. -/
theorem lintFile_cases (workspace : Workspace) (settings : Settings)
    (hpath : '\x00' ∉ path.shown) :
    (Refused workspace path settings ∧ ∃ failure : FileLintFailure, failure.IsRefusal ∧
      lintFile workspace path settings = .fail failure) ∨
    (¬ Refused workspace path settings ∧ ∃ options text, settings.check = .ok options ∧
      workspace.find path.shown = .ok (.file (Utf8.encode text)) ∧
      lintFile workspace path settings = (lintText options text path.shown).mapError .lint) := by
  cases hcheck : settings.check with
  | error fault =>
    refine .inl ⟨.settings ?_, .settings fault, trivial, lintFile_of_check_error hcheck⟩
    rw [hcheck]
    exact nofun
  | ok options =>
    rw [lintFile_of_check hcheck]
    rcases sizeLimit_cases workspace hcheck with
      ⟨limit, hread, hlimit, hpositive⟩ | ⟨value, fault, hvalue, hbad, hread⟩
    -- from here on everything depends on what stands at the path
    · rw [hread]
      rcases readForLint_cases hpath limit with
        ⟨text, hfind, hsize, htext⟩ | ⟨hreason, failure, htold, hfails⟩
      · refine .inr ⟨not_refused hcheck hlimit hpositive hfind hsize, options, text, rfl, hfind, ?_⟩
        show Logged.ofExcept (.ok limit) >>= _ = _
        rw [Logged.ofExcept_ok_bind, htext]
        exact Logged.ofExcept_ok_bind ..
      · refine .inl ⟨?_, .access failure, ?_, ?_⟩
        · rcases hreason with hnot | ⟨bytes, hfind, hlarge | hbytes⟩
          · exact .notFile hnot
          · exact .tooLarge hfind hlimit hlarge
          · exact .notText hfind hbytes
        · cases failure with
          | refused cause => exact absurd rfl (htold cause)
          | _ => trivial
        · show Logged.ofExcept (.ok limit) >>= _ = _
          rw [Logged.ofExcept_ok_bind, hfails]
          exact Logged.ofExcept_error_bind ..
    -- a bad variable counts before the file is looked at
    · refine .inl ⟨.limit hvalue hbad, .limit fault, trivial, ?_⟩
      rw [hvalue, hread]
      exact Logged.ofExcept_error_bind ..

end

/-- **A file is refused, or else linted as its text.** It is refused, with nothing logged, if the
settings are not accepted, if the variable is set to anything but a positive integer, if no regular
file stands there, if it has more bytes than the limit, or if its bytes are those of no text.
Otherwise all its bytes are the text that is linted, under the same settings and the shown path. -/
theorem lintFile_outcome (workspace : Workspace) {path : Path} (settings : Settings)
    (hpath : '\x00' ∉ path.shown) :
    (Refused workspace path settings →
      ∃ failure : FileLintFailure, failure.IsRefusal ∧
        lintFile workspace path settings = .fail failure) ∧
    (¬ Refused workspace path settings → ∃ options text, settings.check = .ok options ∧
      workspace.find path.shown = .ok (.file (Utf8.encode text)) ∧
      lintFile workspace path settings = (lintText options text path.shown).mapError .lint) := by
  rcases lintFile_cases workspace settings hpath with ⟨hrefused, hfails⟩ | ⟨hrefused, hlints⟩
  · exact ⟨fun _ => hfails, fun h => absurd hrefused h⟩
  · exact ⟨fun h => absurd h hrefused, fun _ => hlints⟩

/-- A file of five bytes, and a limit. -/
def workspaceWithLimit (limit : String) : Workspace where
  tree := .directory [("a.md".toList, .file (Utf8.encode "# A\r\n".toList))]
  directory := []
  environment := [(SizeLimit.variableName, limit.toList)]

/-- The file is refused under a limit of four bytes. Under a limit of five it is linted as the text
of all its bytes. -/
theorem lintFile_outcome_limit :
    let path : Path := ⟨0, ["a.md".toList]⟩
    (∃ failure : FileLintFailure, failure.IsRefusal ∧
      lintFile (workspaceWithLimit "4") path {} = .fail failure) ∧
    ∃ options, ({} : Settings).check = .ok options ∧
      lintFile (workspaceWithLimit "5") path {} =
        (lintText options "# A\r\n".toList path.shown).mapError .lint := by
  intro path
  have hpath : '\x00' ∉ path.shown := by decide
  have hlength : (Utf8.encode "# A\r\n".toList).length = 5 := by
    rw [Utf8.encode_eq_flatMap]
    rfl
  have hsmaller : Refused (workspaceWithLimit "4") path {} :=
    .tooLarge rfl rfl (by rw [hlength]; decide)
  have hequal : ¬ Refused (workspaceWithLimit "5") path {} :=
    not_refused rfl rfl (fun _ _ => by decide) rfl (by rw [hlength]; decide)
  refine ⟨(lintFile_outcome _ _ hpath).1 hsmaller, ?_⟩
  obtain ⟨options, text, hcheck, hfind, hlint⟩ := (lintFile_outcome _ _ hpath).2 hequal
  have htext : Utf8.encode "# A\r\n".toList = Utf8.encode text :=
    FileTree.file.inj (Except.ok.inj hfind)
  rw [← Utf8.decode_eq_ok_iff, Utf8.decode_eq_ok_iff.mpr rfl] at htext
  exact ⟨options, hcheck, Except.ok.inj htext ▸ hlint⟩

end MarkdownCheck
