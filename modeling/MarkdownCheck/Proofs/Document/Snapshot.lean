import MarkdownCheck.Index
import MarkdownCheck.Proofs.Document.LineTable
import MarkdownCheck.Proofs.General
import MarkdownCheck.Proofs.Log.Laws

/-!
# The index of a document under change

An index is made when it is first read, and from then on it stays what it was, whatever happens to
the document, until it is dropped. A read that fails leaves nothing behind.

- `DraftStep`, `Draft.afterAll`: changes and reads, one after the other.
- `Document.afterAll`: the document alone; `Draft.document_afterAll`: the index plays no part in it.
- `Unbuilt`: no read has been successful since the start or the last drop.
- `Snapshot`: the document as it was at the first successful read since then.
- `Index.walk_eq_mapIdx`: a walk pairs lines with classes by position.
- `readIndex_snapshot`: what is read, and what a walk through the present lines meets.
-/

namespace MarkdownCheck

/-! ## Steps -/

/-- What may happen to a draft: it is changed, or its index is read. -/
inductive DraftStep where
  | edit (edit : Edit)
  | read
deriving Repr

namespace DraftStep

/-- The step that forgets the index. -/
abbrev drop : DraftStep := .edit .dropIndex

end DraftStep

/-- The draft after a step. Changes that cannot be made and reads that fail leave it as it is. -/
def Draft.after (draft : Draft) : DraftStep → Draft
  | .edit edit => (draft.edit? edit).getD draft
  | .read =>
    match draft.readIndex.result with
    | .ok (_, next) => next
    | .error _ => draft

/-- The draft after several steps. -/
def Draft.afterAll (draft : Draft) (steps : List DraftStep) : Draft :=
  steps.foldl Draft.after draft

/-- The document that a step leaves where there is no index. -/
def Document.after (document : Document) : DraftStep → Document
  | .edit edit => (((⟨document, none⟩ : Draft).edit? edit).map (·.document)).getD document
  | .read => document

/-- The document that several steps leave where there is no index. -/
def Document.afterAll (document : Document) (steps : List DraftStep) : Document :=
  steps.foldl Document.after document

theorem Draft.afterAll_concat (draft : Draft) (steps : List DraftStep) (last : DraftStep) :
    draft.afterAll (steps ++ [last]) = (draft.afterAll steps).after last := by
  rw [afterAll, List.foldl_append, afterAll]
  rfl

theorem Draft.afterAll_append (draft : Draft) (steps more : List DraftStep) :
    draft.afterAll (steps ++ more) = (draft.afterAll steps).afterAll more := by
  rw [afterAll, List.foldl_append, afterAll, afterAll]

/-! ## Documents without their index -/

namespace Draft

/-- A change takes no notice of the index. -/
theorem document_edit? (draft : Draft) (edit : Edit) :
    (draft.edit? edit).map (·.document) =
      ((⟨draft.document, none⟩ : Draft).edit? edit).map (·.document) := by
  cases edit with
  | setLine position line =>
    simp only [edit?, Option.map_map]
    rfl
  | popLine =>
    simp only [edit?]
    split <;> rfl
  | popToken =>
    simp only [edit?]
    split <;> rfl
  | appendLine | appendToken | dropIndex => rfl

/-- Only dropping the index changes it. -/
theorem index_edit? {draft next : Draft} {edit : Edit} (hedit : edit ≠ .dropIndex)
    (h : draft.edit? edit = some next) : next.index = draft.index := by
  cases edit with
  | setLine position line =>
    obtain ⟨place, -, rfl⟩ := Option.map_eq_some_iff.mp h
    rfl
  | popLine =>
    rw [edit?] at h
    split at h
    · cases h
    · rw [← Option.some.inj h]
  | popToken =>
    rw [edit?] at h
    split at h
    · cases h
    · rw [← Option.some.inj h]
  | appendLine line => rw [← Option.some.inj h]
  | appendToken token => rw [← Option.some.inj h]
  | dropIndex => exact absurd rfl hedit

theorem index_after_edit {draft : Draft} {edit : Edit} (hedit : edit ≠ .dropIndex) :
    (draft.after (.edit edit)).index = draft.index := by
  rw [after]
  cases h : draft.edit? edit with
  | none => rfl
  | some next => exact index_edit? hedit h

theorem index_after_drop (draft : Draft) : (draft.after .drop).index = none :=
  rfl

/-- A draft that has an index gives it away and stays as it is. -/
theorem readIndex_of_some {draft : Draft} {index : Index} (h : draft.index = some index) :
    draft.readIndex.result = .ok (index, draft) := by
  rw [readIndex, h]
  rfl

/-- A draft without an index makes one and keeps it. -/
theorem readIndex_of_none {draft : Draft} (h : draft.index = none) :
    draft.readIndex.result = draft.document.buildIndex.result.map fun index =>
      (index, { draft with index := some index }) := by
  rw [readIndex, h]
  dsimp only
  cases hbuild : draft.document.buildIndex.result with
  | ok index =>
    rw [Logged.bind_eq_of_ok hbuild]
    rfl
  | error cause =>
    rw [Logged.bind_eq_of_error hbuild]
    rfl

theorem after_read_of_some {draft : Draft} {index : Index} (h : draft.index = some index) :
    draft.after .read = draft := by
  rw [after, readIndex_of_some h]

theorem after_read_of_none {draft : Draft} (h : draft.index = none) :
    draft.after .read = { draft with index := draft.document.buildIndex.result.toOption } := by
  rw [after, readIndex_of_none h]
  cases draft.document.buildIndex.result with
  | ok index => rfl
  | error cause =>
    obtain ⟨document, index⟩ := draft
    obtain rfl : index = none := h
    rfl

theorem document_after (draft : Draft) (step : DraftStep) :
    (draft.after step).document = draft.document.after step := by
  cases step with
  | edit edit =>
    rw [after, Document.after, ← document_edit?]
    cases draft.edit? edit <;> rfl
  | read =>
    cases h : draft.index with
    | some index => rw [after_read_of_some h, Document.after]
    | none => rw [after_read_of_none h, Document.after]

/-- The index plays no part in what becomes of a document. -/
theorem document_afterAll (draft : Draft) (steps : List DraftStep) :
    (draft.afterAll steps).document = draft.document.afterAll steps := by
  induction steps generalizing draft with
  | nil => rfl
  | cons step rest ih =>
    show ((draft.after step).afterAll rest).document = (draft.document.after step).afterAll rest
    rw [ih, document_after]

end Draft

/-! ## When an index is made -/

/-- Steps in two parts, the second one being what has happened since the start or the last drop. -/
structure IsSinceDrop (steps before since : List DraftStep) : Prop where
  eq_append : steps = before ++ since
  starts : before = [] ∨ ∃ front, before = front ++ [.drop]
  keeps : .drop ∉ since

/-- No read has been successful since the start or the last drop: whenever the index was read, none
could be made of the document as it was then. -/
def Unbuilt (start : Document) (steps : List DraftStep) : Prop :=
  ∃ before since, IsSinceDrop steps before since ∧
    ∀ front behind, since = front ++ .read :: behind →
      ∀ index, (start.afterAll (before ++ front)).buildIndex.result ≠ .ok index

/-- The document as it was at the first successful read since the start or the last drop. -/
def Snapshot (start : Document) (steps : List DraftStep) (taken : Document) : Prop :=
  ∃ before since, steps = before ++ .read :: since ∧ Unbuilt start before ∧ .drop ∉ since ∧
    taken = start.afterAll before ∧ ∃ index, taken.buildIndex.result = .ok index

section

variable {start taken : Document} {steps : List DraftStep}

theorem unbuilt_nil : Unbuilt start [] :=
  ⟨[], [], ⟨rfl, .inl rfl, nofun⟩, fun front behind h => by cases front <;> cases h⟩

theorem unbuilt_drop : Unbuilt start (steps ++ [.drop]) :=
  ⟨steps ++ [.drop], [], ⟨(List.append_nil _).symm, .inr ⟨steps, rfl⟩, nofun⟩,
    fun front behind h => by cases front <;> cases h⟩

/-- One step more makes no index unless it is a read and one can be made. -/
theorem Unbuilt.concat (h : Unbuilt start steps) {last : DraftStep} (hlast : last ≠ .drop)
    (hread : last = .read → ∀ index, (start.afterAll steps).buildIndex.result ≠ .ok index) :
    Unbuilt start (steps ++ [last]) := by
  obtain ⟨before, since, hsince, hfails⟩ := h
  refine ⟨before, since ++ [last], ⟨?_, hsince.starts, ?_⟩, fun front behind hparts => ?_⟩
  · rw [hsince.eq_append, List.append_assoc]
  · intro hdrop
    rcases List.mem_append.mp hdrop with hdrop | hdrop
    · exact hsince.keeps hdrop
    · exact hlast (List.mem_singleton.mp hdrop).symm
  · rcases concat_eq_append_cons hparts with ⟨hlast, rfl, -⟩ | ⟨rest, -, hfront⟩
    · rw [← hsince.eq_append]
      exact hread hlast
    · exact hfails front rest hfront

theorem Snapshot.concat (h : Snapshot start steps taken) {last : DraftStep} (hlast : last ≠ .drop) :
    Snapshot start (steps ++ [last]) taken := by
  obtain ⟨before, since, rfl, hunbuilt, hkeeps, htaken⟩ := h
  refine ⟨before, since ++ [last], by simp, hunbuilt, fun hdrop => ?_, htaken⟩
  rcases List.mem_append.mp hdrop with hdrop | hdrop
  · exact hkeeps hdrop
  · exact hlast (List.mem_singleton.mp hdrop).symm

/-- Either no index has been made since the last drop or there is the document of which it was. -/
theorem unbuilt_or_snapshot (start : Document) (steps : List DraftStep) :
    Unbuilt start steps ∨ ∃ taken, Snapshot start steps taken := by
  induction steps using List.reverseRecOn with
  | nil => exact .inl unbuilt_nil
  | append_singleton steps last ih =>
    by_cases hdrop : last = .drop
    · rw [hdrop]
      exact .inl unbuilt_drop
    rcases ih with hunbuilt | ⟨taken, hsnapshot⟩
    · by_cases hbuild : last = .read ∧ ∃ index, (start.afterAll steps).buildIndex.result = .ok index
      · obtain ⟨rfl, hindex⟩ := hbuild
        exact .inr ⟨_, steps, [], rfl, hunbuilt, nofun, rfl, hindex⟩
      · exact .inl (hunbuilt.concat hdrop fun hread index hindex => hbuild ⟨hread, index, hindex⟩)
    · exact .inr ⟨taken, hsnapshot.concat hdrop⟩

end

/-! ## What a draft keeps -/

namespace Draft

/-- Without a drop the index stays. -/
theorem index_afterAll_of_some {draft : Draft} {index : Index} (h : draft.index = some index)
    {steps : List DraftStep} (hkeeps : .drop ∉ steps) :
    (draft.afterAll steps).index = some index := by
  induction steps generalizing draft with
  | nil => exact h
  | cons step rest ih =>
    obtain ⟨hstep, hrest⟩ := not_or.mp (mt List.mem_cons.mpr hkeeps)
    refine ih ?_ hrest
    cases step with
    | edit edit =>
      have hedit : edit ≠ .dropIndex := by
        rintro rfl
        exact hstep rfl
      rw [index_after_edit hedit, h]
    | read => rw [after_read_of_some h, h]

/-- Reads that fail leave a draft without an index. -/
theorem index_afterAll_of_fails {draft : Draft} (h : draft.index = none) {steps : List DraftStep}
    (hfails : ∀ front behind, steps = front ++ .read :: behind →
      ∀ index, (draft.document.afterAll front).buildIndex.result ≠ .ok index) :
    (draft.afterAll steps).index = none := by
  induction steps generalizing draft with
  | nil => exact h
  | cons step rest ih =>
    refine ih ?_ fun front behind hrest index => ?_
    · cases step with
      | edit edit =>
        by_cases hedit : edit = .dropIndex
        · rw [hedit, index_after_drop]
        · rw [index_after_edit hedit, h]
      | read =>
        rw [after_read_of_none h]
        cases hbuild : draft.document.buildIndex.result with
        | ok index => exact absurd hbuild (hfails [] rest rfl index)
        | error cause => rfl
    · have hfail := hfails (step :: front) behind (by rw [hrest]; rfl) index
      rwa [document_after]

theorem index_of_unbuilt {start : Document} {steps : List DraftStep} (h : Unbuilt start steps) :
    (afterAll { document := start } steps).index = none := by
  obtain ⟨before, since, ⟨rfl, hstarts, -⟩, hfails⟩ := h
  have hbefore : (afterAll { document := start } before).index = none := by
    rcases hstarts with rfl | ⟨front, rfl⟩
    · rfl
    · rw [afterAll_concat, index_after_drop]
  rw [afterAll_append]
  refine index_afterAll_of_fails hbefore fun front behind hsince index => ?_
  rw [document_afterAll]
  have hfail := hfails front behind hsince index
  rwa [Document.afterAll, List.foldl_append] at hfail

theorem index_of_snapshot {start taken : Document} {steps : List DraftStep}
    (h : Snapshot start steps taken) :
    ∃ index, taken.buildIndex.result = .ok index ∧
      (afterAll { document := start } steps).index = some index := by
  obtain ⟨before, since, rfl, hunbuilt, hkeeps, rfl, index, hbuild⟩ := h
  refine ⟨index, hbuild, ?_⟩
  rw [List.append_cons, afterAll_append, afterAll_concat,
    after_read_of_none (index_of_unbuilt hunbuilt), document_afterAll, hbuild]
  exact index_afterAll_of_some rfl hkeeps

end Draft

/-! ## Walks -/

/-- An index has a class for each line of the document of which it was made. -/
theorem length_classes_of_buildIndex {document : Document} {index : Index}
    (h : document.buildIndex.result = .ok index) :
    index.classes.length = document.lines.length := by
  rw [Document.buildIndex] at h
  cases hlists : outline document.tokens with
  | error cause =>
    rw [hlists, Logged.ofExcept_error_bind] at h
    cases h
  | ok lists =>
    rw [hlists, Logged.ofExcept_ok_bind] at h
    cases h
    exact length_classify _ _

namespace Index

theorem walkFrom_eq_mapIdx (position : Nat) (lines : List Text) (classes : List LineClass) :
    walkFrom position lines classes =
      ⟨(lines.zip classes).mapIdx fun i pair => ⟨pair.1, position + i, pair.2⟩,
        lines.length ≤ classes.length⟩ := by
  induction lines generalizing position classes with
  | nil => simp [walkFrom]
  | cons line lines ih =>
    cases classes with
    | nil => simp [walkFrom]
    | cons lineClass classes =>
      rw [walkFrom, ih]
      simp [List.mapIdx_cons, Nat.add_assoc, Nat.add_comm 1]

/-- A walk pairs lines with classes by position, as far as there are both, and is complete if there
are no more lines than classes. -/
theorem walk_eq_mapIdx (index : Index) (lines : List Text) :
    index.walk lines =
      ⟨(lines.zip index.classes).mapIdx fun i pair => ⟨pair.1, i, pair.2⟩,
        lines.length ≤ index.classes.length⟩ := by
  rw [walk, walkFrom_eq_mapIdx]
  simp only [Nat.zero_add]

end Index

/-! ## Reading -/

/-- **An index is a snapshot.** Whatever has happened to a document, changes that could not be made
and reads that failed included: if no read has been successful since the start or the last drop,
nothing is kept, and a read makes the index of the document as it is now. Otherwise a read gives the
index of the document as it was at the first successful read, and leaves everything as it is. A walk
pairs the present lines with the classes from then, and it fails behind the last class exactly if
there are more lines now than there were. -/
theorem readIndex_snapshot (start : Document) (steps : List DraftStep) :
    let draft := Draft.afterAll { document := start } steps
    draft.document = start.afterAll steps ∧
    (Unbuilt start steps ∨ ∃ taken, Snapshot start steps taken) ∧
    (Unbuilt start steps →
      draft.index = none ∧
      draft.readIndex.result = draft.document.buildIndex.result.map fun index =>
        (index, { draft with index := some index })) ∧
    ∀ taken, Snapshot start steps taken →
      ∃ index, taken.buildIndex.result = .ok index ∧
        draft.index = some index ∧ draft.readIndex.result = .ok (index, draft) ∧
        (index.walk draft.document.lines).met =
          ((draft.document.lines.zip index.classes).mapIdx fun i pair => ⟨pair.1, i, pair.2⟩) ∧
        ((index.walk draft.document.lines).complete = false ↔
          taken.lines.length < draft.document.lines.length) ∧
        (index.walk draft.document.lines).met.length =
          min draft.document.lines.length taken.lines.length := by
  intro draft
  refine ⟨Draft.document_afterAll _ steps, unbuilt_or_snapshot start steps, fun hunbuilt => ?_,
    fun taken hsnapshot => ?_⟩
  · have hnone := Draft.index_of_unbuilt hunbuilt
    exact ⟨hnone, Draft.readIndex_of_none hnone⟩
  · obtain ⟨index, hbuild, hindex⟩ := Draft.index_of_snapshot hsnapshot
    have hlength := length_classes_of_buildIndex hbuild
    refine ⟨index, hbuild, hindex, Draft.readIndex_of_some hindex, ?_, ?_, ?_⟩
    · rw [Index.walk_eq_mapIdx]
    · rw [Index.walk_eq_mapIdx, decide_eq_false_iff_not, hlength, Nat.not_le]
    · rw [Index.walk_eq_mapIdx, List.length_mapIdx, List.length_zip, hlength]

/-- A read fails inside a list, the next one after the list has been closed makes the index, and
neither a new line nor a token taken away changes that; but the new line has no class. -/
theorem readIndex_snapshot_repaired :
    let opening : Token := { kind := "bullet_list_open" }
    let closing : Token := { kind := "bullet_list_close" }
    let start : Document := { lines := [['a']], tokens := [opening] }
    let steps : List DraftStep := [.read, .edit (.appendToken closing), .read,
      .edit (.appendLine ['b']), .edit .popToken]
    let draft := Draft.afterAll { document := start } steps
    Snapshot start steps { start with tokens := [opening, closing] } ∧
      draft.document.lines = [['a'], ['b']] ∧
      ∃ index, draft.readIndex.result = .ok (index, draft) ∧
        (index.walk draft.document.lines).complete = false ∧
        (index.walk draft.document.lines).met.length = 1 := by
  intro opening closing start steps draft
  have hfails : start.buildIndex.result = .error (.unclosed "bullet_list_open") := rfl
  have hfirst : Unbuilt start ([] ++ [.read]) :=
    unbuilt_nil.concat nofun fun _ index hindex => by
      rw [show start.afterAll [] = start from rfl, hfails] at hindex
      cases hindex
  have hunbuilt : Unbuilt start ([.read] ++ [.edit (.appendToken closing)]) :=
    hfirst.concat nofun nofun
  have hsnapshot : Snapshot start steps { start with tokens := [opening, closing] } :=
    ⟨_, [.edit (.appendLine ['b']), .edit .popToken], rfl, hunbuilt, nofun, rfl, _, rfl⟩
  obtain ⟨-, -, -, hread⟩ := readIndex_snapshot start steps
  obtain ⟨index, -, -, hresult, -, hcomplete, hmet⟩ := hread _ hsnapshot
  exact ⟨hsnapshot, rfl, index, hresult, hcomplete.mpr (by decide), hmet.trans (by decide)⟩

end MarkdownCheck
