import MarkdownCheck.Files.Workspace
import MarkdownCheck.Proofs.Lookup

/-!
# A tree without a file

When something is erased from a tree, everything outside of it stays as it was. A path that led to
an erased file leads nowhere, and every other path goes on leading where it led.

- `FileTree.child?_erase`: what the tree without it holds, name by name.
- `FileTree.step_erase`, `FileTree.walk_erase`: one step and all steps of a path in it.
- `Workspace.locate_erase`, `Workspace.readBytes_erase`: what paths lead to and what can be read.
-/

namespace MarkdownCheck

namespace FileTree

/-! ## What is left -/

theorem lookup_setEntry (name : Text) (new : FileTree) (entries : List (Text × FileTree))
    (other : Text) :
    (setEntry name new entries).lookup other =
      if other = name then some new else entries.lookup other := by
  induction entries with
  | nil =>
    rw [setEntry, lookup_cons_eq]
  | cons entry rest ih =>
    obtain ⟨known, old⟩ := entry
    rw [setEntry]
    by_cases hknown : known = name
    · rw [if_pos hknown, lookup_cons_eq, lookup_cons_eq, hknown]
      by_cases hother : other = name
      · simp only [if_pos hother]
      · simp only [if_neg hother]
    · rw [if_neg hknown, lookup_cons_eq, lookup_cons_eq, ih]
      by_cases hother : other = known
      · have hne : ¬ other = name := hother ▸ hknown
        simp only [if_pos hother, if_neg hne]
      · simp only [if_neg hother]

theorem erase_cons_cons (name next : Text) (more : Location) (entries : List (Text × FileTree)) :
    erase (name :: next :: more) (.directory entries) =
      match entries.lookup name with
      | some old => .directory (setEntry name (erase (next :: more) old) entries)
      | none => .directory entries :=
  rfl

/-- Nothing is left under the last name of the place; what stands under the first of several loses
something itself. -/
theorem child?_erase (tree : FileTree) (name : Text) (rest : Location) (other : Text) :
    (erase (name :: rest) tree).child? other =
      if other = name then
        if rest = [] then none else (tree.child? other).map (erase rest)
      else tree.child? other := by
  cases tree with
  | file bytes => simp [erase, child?]
  | directory entries =>
    -- the recursion ends by taking an entry out, and before that replaces one
    cases rest with
    | nil =>
      rw [erase, child?, child?, lookup_filter_ne, if_pos rfl]
    | cons next more =>
      rw [erase_cons_cons, if_neg (List.cons_ne_nil _ _)]
      cases hold : entries.lookup name with
      | none =>
        dsimp only [child?]
        by_cases hother : other = name
        · rw [if_pos hother, hother, hold, Option.map_none]
        · rw [if_neg hother]
      | some old =>
        dsimp only [child?]
        rw [lookup_setEntry]
        by_cases hother : other = name
        · rw [if_pos hother, if_pos hother, hother, hold, Option.map_some]
        · rw [if_neg hother, if_neg hother]

/-- A file stays the same file, and a directory a directory, when something in it is erased. -/
theorem erase_file (place : Location) (bytes : List UInt8) :
    erase place (.file bytes) = .file bytes := by
  cases place <;> simp [erase]

theorem exists_erase_directory (place : Location) (entries : List (Text × FileTree)) :
    ∃ others, erase place (.directory entries) = .directory others := by
  rcases place with _ | ⟨name, _ | ⟨next, more⟩⟩
  · exact ⟨_, rfl⟩
  · exact ⟨_, rfl⟩
  · rw [erase_cons_cons]
    cases entries.lookup name with
    | none => exact ⟨_, rfl⟩
    | some old => exact ⟨_, rfl⟩

theorem isDirectory_erase (place : Location) (tree : FileTree) :
    (erase place tree).isDirectory = tree.isDirectory := by
  cases tree with
  | file bytes => rw [erase_file]
  | directory entries =>
    obtain ⟨others, hothers⟩ := exists_erase_directory place entries
    rw [hothers]
    rfl

/-- What stands outside of the erased place stands there still, having lost something itself if the
erased place is in it. -/
theorem at?_erase {target place : Location} (h : ¬ target <+: place) (tree : FileTree) :
    (erase target tree).at? place =
      (tree.at? place).map fun here =>
        if place <+: target then erase (target.drop place.length) here else here := by
  induction place generalizing target tree with
  | nil => simp [at?]
  | cons name rest ih =>
    cases target with
    | nil => exact absurd List.nil_prefix h
    | cons first others =>
      rw [at?, at?, child?_erase]
      by_cases hname : name = first
      · subst hname
        have hothers : ¬ others <+: rest := fun hinside =>
          h (List.cons_prefix_cons.mpr ⟨rfl, hinside⟩)
        have hne : others ≠ [] := by
          rintro rfl
          exact hothers List.nil_prefix
        rw [if_pos rfl, if_neg hne]
        cases tree.child? name with
        | none => rfl
        | some child =>
          show (erase others child).at? rest = (child.at? rest).map _
          rw [ih hothers]
          simp only [List.cons_prefix_cons, true_and, List.length_cons, List.drop_succ_cons]
      · rw [if_neg hname]
        have hnot : ¬ name :: rest <+: first :: others := fun hinside =>
          hname (List.cons_prefix_cons.mp hinside).1
        simp only [if_neg hnot]
        rw [Option.map_id']

/-! ## Paths -/

/-- What a step needs of a place outside of the erased one: only the erased place is gone. -/
theorem isSome_child?_erase {target place : Location} (h : ¬ target <+: place) (here : FileTree)
    (name : Text) :
    ((if place <+: target then erase (target.drop place.length) here else here).child?
        name).isSome = (decide (place ++ [name] ≠ target) && (here.child? name).isSome) := by
  by_cases hinside : place <+: target
  · obtain ⟨left, rfl⟩ := hinside
    rw [if_pos (List.prefix_append place left), List.drop_left]
    cases left with
    | nil => simp at h
    | cons first others =>
      rw [child?_erase]
      by_cases hname : name = first
      · subst hname
        rw [if_pos rfl]
        by_cases hothers : others = []
        · simp [hothers]
        · simp [hothers]
      · simp [hname]
  · rw [if_neg hinside]
    have hne : place ++ [name] ≠ target := by
      rintro rfl
      exact hinside (List.prefix_append ..)
    simp [hne]

/-- A step that arrives at the erased place fails, and every other one is the same. -/
theorem step_erase {target place : Location} (h : ¬ target <+: place) (tree : FileTree)
    (name : Text) :
    (erase target tree).step place name =
      tree.step place name >>= fun next => if next = target then .error .missing else .ok next := by
  -- neither staying nor stepping up can arrive at the erased place, so only a child can be it
  have hplace : place ≠ target := by
    rintro rfl
    exact h (List.prefix_refl _)
  have hup : place.dropLast ≠ target := by
    rintro rfl
    exact h (List.dropLast_prefix place)
  rw [step, step, at?_erase h]
  cases tree.at? place with
  | none => rfl
  | some here =>
    dsimp only [Option.map_some]
    rw [isSome_child?_erase h]
    have hkind : (if place <+: target then erase (target.drop place.length) here
        else here).isDirectory = here.isDirectory := by
      split
      · exact isDirectory_erase ..
      · rfl
    rw [hkind]
    split
    · rfl
    split
    · exact (if_neg hplace).symm
    split
    · exact (if_neg hup).symm
    split
    · rfl
    by_cases hchild : (here.child? name).isSome = true
    · rw [hchild, if_pos rfl, Bool.and_true]
      by_cases hnext : place ++ [name] = target
      · rw [if_neg (by simpa using hnext)]
        exact (if_pos hnext).symm
      · rw [if_pos (by simpa using hnext)]
        exact (if_neg hnext).symm
    · rw [Bool.eq_false_iff.mpr hchild, Bool.and_false]
      rfl

/-- A step from outside of a place leads into it only by leading to it. -/
theorem not_prefix_of_step {target place next : Location} (h : ¬ target <+: place)
    {tree : FileTree} {name : Text} (hstep : tree.step place name = .ok next)
    (hnext : next ≠ target) : ¬ target <+: next := by
  rw [step] at hstep
  split at hstep
  · cases hstep
  split at hstep
  · cases hstep
  split at hstep
  · exact Except.ok.inj hstep ▸ h
  split at hstep
  · rw [← Except.ok.inj hstep]
    exact fun hinside => h (hinside.trans (List.dropLast_prefix place))
  split at hstep
  · cases hstep
  split at hstep
  · rw [← Except.ok.inj hstep] at hnext ⊢
    intro hinside
    rcases List.prefix_concat_iff.mp hinside with heq | hin
    · exact hnext heq.symm
    · exact h hin
  · cases hstep

/-- From a file no path leads on. -/
theorem walk_file {tree : FileTree} {place : Location} {bytes : List UInt8}
    (h : tree.at? place = some (.file bytes)) (names : List Text) :
    tree.walk place names = .ok place ∨ tree.walk place names = .error .notDirectory := by
  cases names with
  | nil => exact .inl rfl
  | cons name rest =>
    refine .inr ?_
    have hstep : tree.step place name = .error .notDirectory := by
      rw [step, h]
      rfl
    rw [walk, hstep]
    rfl

/-- A path into an erased file leads nowhere, and every other one leads where it led. -/
theorem walk_erase {target place : Location} {tree : FileTree} {bytes : List UInt8}
    (hfile : tree.at? target = some (.file bytes)) (h : ¬ target <+: place) (names : List Text) :
    ((erase target tree).walk place names = tree.walk place names ∧
      ∀ next, tree.walk place names = .ok next → ¬ target <+: next) ∨
    ((erase target tree).walk place names = .error .missing ∧
      (tree.walk place names = .ok target ∨ tree.walk place names = .error .notDirectory)) := by
  induction names generalizing place with
  | nil =>
    refine .inl ⟨rfl, fun next hnext => ?_⟩
    exact Except.ok.inj hnext ▸ h
  | cons name rest ih =>
    rw [walk, walk, step_erase h]
    cases hstep : tree.step place name with
    | error cause => exact .inl ⟨rfl, nofun⟩
    | ok next =>
      by_cases hnext : next = target
      -- the erased file is where the way parts: without it there is nothing to step to, and with it
      -- the rest of the path has to be empty
      · refine .inr ⟨?_, hnext ▸ walk_file (hnext ▸ hfile) rest⟩
        show (if next = target then Except.error FileCause.missing else .ok next) >>= _ = _
        rw [if_pos hnext]
        rfl
      -- elsewhere the walk goes on outside of the erased place, and the induction takes over
      · have hsame : ((if next = target then Except.error FileCause.missing else .ok next) >>=
            fun next => (erase target tree).walk next rest) =
            (erase target tree).walk next rest := by
          rw [if_neg hnext]
          rfl
        have hrest := ih (not_prefix_of_step h hstep hnext)
        rw [← hsame] at hrest
        exact hrest

/-- A path from the root, in a tree without a file. -/
theorem locate_erase (start : Location) {target : Location} {tree : FileTree}
    {bytes : List UInt8} (hfile : tree.at? target = some (.file bytes)) (htarget : target ≠ [])
    {path : Text} (hroot : path.head? = some '/') :
    ((erase target tree).locate start path = tree.locate start path ∧
      ∀ next, tree.locate start path = .ok next → ¬ target <+: next) ∨
    ((erase target tree).locate start path = .error .missing ∧
      (tree.locate start path = .ok target ∨ tree.locate start path = .error .notDirectory)) := by
  rw [locate, locate, if_pos hroot]
  split
  · exact .inl ⟨rfl, nofun⟩
  split
  · exact .inl ⟨rfl, nofun⟩
  split
  · exact .inl ⟨rfl, nofun⟩
  · exact walk_erase hfile (fun hinside => htarget (List.prefix_nil.mp hinside)) _

end FileTree

namespace Workspace

/-! ## What can be read -/

/-- A workspace without what stands at a place. -/
def without (workspace : Workspace) (place : Location) : Workspace :=
  { workspace with tree := workspace.tree.erase place }

theorem without_tree (workspace : Workspace) (place : Location) :
    (workspace.without place).tree = workspace.tree.erase place :=
  rfl

theorem without_root (workspace : Workspace) : workspace.without [] = workspace := by
  rw [without, FileTree.erase]

theorem readBytes_of_locate {workspace : Workspace} {path : Text} {place : Location}
    (h : workspace.locate path = .ok place) :
    workspace.readBytes path =
      match workspace.tree.at? place with
      | some (.file bytes) => .ok bytes
      | some (.directory _) => .error ⟨.isDirectory, path⟩
      | none => .error ⟨.missing, path⟩ := by
  rw [readBytes, find, h]
  dsimp only [bind, Except.bind]
  rcases workspace.tree.at? place with _ | ⟨bytes⟩ | ⟨entries⟩ <;> rfl

theorem readBytes_of_locate_error {workspace : Workspace} {path : Text} {failure : FileFailure}
    (h : workspace.locate path = .error failure) :
    workspace.readBytes path = .error failure := by
  rw [readBytes, find, h]
  rfl

theorem locate_eq_ok_iff {workspace : Workspace} {path : Text} {place : Location} :
    workspace.locate path = .ok place ↔
      workspace.tree.locate workspace.directory path = .ok place := by
  rw [locate]
  cases workspace.tree.locate workspace.directory path <;> simp

theorem locate_of_error {workspace : Workspace} {path : Text} {cause : FileCause}
    (h : workspace.tree.locate workspace.directory path = .error cause) :
    workspace.locate path = .error ⟨cause, path⟩ := by
  rw [locate, h]

/-- Outside of the erased place the same can be read. -/
theorem readBytes_without_of_locate {workspace : Workspace} {target place : Location} {path : Text}
    (hplace : ¬ target <+: place) (hleads : workspace.locate path = .ok place)
    (herased : (workspace.without target).locate path = .ok place) :
    (workspace.without target).readBytes path = workspace.readBytes path := by
  rw [readBytes_of_locate hleads, readBytes_of_locate herased, without_tree,
    FileTree.at?_erase hplace]
  rcases workspace.tree.at? place with _ | ⟨bytes⟩ | ⟨entries⟩
  · rfl
  · rw [Option.map_some, FileTree.erase_file, ite_self]
  · obtain ⟨others, hothers⟩ :=
      FileTree.exists_erase_directory (target.drop place.length) entries
    rw [Option.map_some, hothers]
    by_cases hinside : place <+: target
    · rw [if_pos hinside]
    · rw [if_neg hinside]

/-- What can be read without a file: a path that led to it leads nowhere, and from any other path
the same is read, unless it tried to go on from the file. -/
theorem readBytes_without {workspace : Workspace} {target : Location} {bytes : List UInt8}
    (hfile : workspace.tree.at? target = some (.file bytes)) (htarget : target ≠ []) {path : Text}
    (hroot : path.head? = some '/') :
    (workspace.locate path = .ok target ∧ workspace.readBytes path = .ok bytes ∧
      (workspace.without target).readBytes path = .error ⟨.missing, path⟩) ∨
    (workspace.locate path ≠ .ok target ∧
      ((workspace.without target).readBytes path = workspace.readBytes path ∨
        workspace.readBytes path = .error ⟨.notDirectory, path⟩ ∧
          (workspace.without target).readBytes path = .error ⟨.missing, path⟩)) := by
  rcases FileTree.locate_erase workspace.directory hfile htarget hroot with
    ⟨hsame, houtside⟩ | ⟨hmissing, hinto | hon⟩
  · refine .inr ?_
    cases hlocate : workspace.tree.locate workspace.directory path with
    | error cause =>
      have hfails : workspace.locate path = .error ⟨cause, path⟩ := locate_of_error hlocate
      have herased : (workspace.without target).locate path = .error ⟨cause, path⟩ :=
        locate_of_error (hsame.trans hlocate)
      rw [hfails, readBytes_of_locate_error hfails, readBytes_of_locate_error herased]
      exact ⟨nofun, .inl rfl⟩
    | ok place =>
      have hleads : workspace.locate path = .ok place := locate_eq_ok_iff.mpr hlocate
      have herased : (workspace.without target).locate path = .ok place :=
        locate_eq_ok_iff.mpr (hsame.trans hlocate)
      have hplace := houtside place hlocate
      refine ⟨fun h => ?_, .inl ?_⟩
      · rw [Except.ok.inj (hleads.symm.trans h)] at hplace
        exact hplace (List.prefix_refl _)
      · exact readBytes_without_of_locate hplace hleads herased
  · have hleads : workspace.locate path = .ok target := locate_eq_ok_iff.mpr hinto
    refine .inl ⟨hleads, ?_, readBytes_of_locate_error (locate_of_error hmissing)⟩
    rw [readBytes_of_locate hleads, hfile]
  · refine .inr ⟨?_, .inr ⟨readBytes_of_locate_error (locate_of_error hon),
      readBytes_of_locate_error (locate_of_error hmissing)⟩⟩
    rw [locate_of_error hon]
    exact nofun

end Workspace

end MarkdownCheck
