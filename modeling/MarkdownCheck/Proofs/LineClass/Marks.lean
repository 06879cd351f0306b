import MarkdownCheck.Index
import MarkdownCheck.Proofs.Document.LineTable
import MarkdownCheck.Proofs.Fence.Nesting

/-!
# Marks on lines

A pass over the tokens writes at positions, one at a time. A write behind the document would fail,
and one at a negative position would land near its end. Ranges are cut off at both ends, so neither
happens, and what the passes write is what the tokens cover.

- `markWhere`: marks at all wanted places at once.
- `markTokens_eq_some`: a pass succeeds and marks the lines that tokens cover.
- `AddsUp`: classes that have what the fences and the tokens give, and nothing else.
- `eq_classify_iff_addsUp`: these are the classes of a document.
- `classify_additive`: the passes give them, in whatever order the tokens come.
-/

namespace MarkdownCheck

/-! ## Positions of a range -/

theorem LineRange.mem_positions {range : LineRange} {count : Nat} {position : Int} :
    position ∈ range.positions count ↔
      0 ≤ position ∧ position < count ∧ range.covers position := by
  rw [positions, List.mem_map, covers, Bool.and_eq_true, decide_eq_true_eq, decide_eq_true_eq]
  constructor
  · rintro ⟨offset, hoffset, rfl⟩
    rw [List.mem_range] at hoffset
    omega
  · intro h
    refine ⟨(position - max range.start 0).toNat, ?_, by omega⟩
    rw [List.mem_range]
    omega

theorem LineRange.any_positions (range : LineRange) {place count : Nat} (h : place < count) :
    (range.positions count).any (fun position => position = place) = range.covers place := by
  rw [Bool.eq_iff_iff, List.any_eq_true]
  simp only [decide_eq_true_eq, exists_eq_right, mem_positions]
  constructor
  · exact fun hmem => hmem.2.2
  · exact fun hcovers => ⟨Int.natCast_nonneg place, Int.ofNat_lt.mpr h, hcovers⟩

/-! ## What a pass marks -/

/-- Marks the lines at all wanted places at once. -/
def markWhere (mark : LineClass → LineClass) (wanted : Nat → Bool) (classes : List LineClass) :
    List LineClass :=
  classes.mapIdx fun place line => if wanted place then mark line else line

section Writing

variable {mark : LineClass → LineClass} {wanted : Nat → Bool} {classes : List LineClass}

@[simp] theorem length_markWhere :
    (markWhere mark wanted classes).length = classes.length :=
  List.length_mapIdx

theorem getElem?_markWhere (i : Nat) :
    (markWhere mark wanted classes)[i]? =
      classes[i]?.map fun line => if wanted i then mark line else line :=
  List.getElem?_mapIdx

theorem markWhere_congr {others : Nat → Bool} (h : ∀ i < classes.length, wanted i = others i) :
    markWhere mark wanted classes = markWhere mark others classes := by
  refine List.ext_getElem? fun i => ?_
  rw [getElem?_markWhere, getElem?_markWhere]
  by_cases hi : i < classes.length
  · rw [h i hi]
  · rw [List.getElem?_eq_none (Nat.le_of_not_lt hi)]
    rfl

theorem markWhere_false : markWhere mark (fun _ => false) classes = classes := by
  refine List.ext_getElem? fun i => ?_
  rw [getElem?_markWhere]
  cases classes[i]? <;> rfl

theorem markAt_eq_some {position : Int} (hstart : 0 ≤ position)
    (hstop : position < classes.length) :
    markAt mark classes position = some (markWhere mark (fun i => position = i) classes) := by
  have hplace : resolvePosition? position classes.length = some position.toNat := by
    unfold resolvePosition?
    simp only [if_neg (Int.not_lt.mpr hstart), if_pos (And.intro hstart hstop)]
  rw [markAt, hplace, Option.map_some]
  refine congrArg some (List.ext_getElem? fun i => ?_)
  rw [getElem?_markWhere, List.getElem?_modify]
  have hiff : position.toNat = i ↔ position = i := by omega
  simp only [hiff, decide_eq_true_eq]
  rfl

variable (hmark : ∀ line, mark (mark line) = mark line)

include hmark

theorem markWhere_markWhere (more : Nat → Bool) :
    markWhere mark more (markWhere mark wanted classes) =
      markWhere mark (fun i => wanted i || more i) classes := by
  refine List.ext_getElem? fun i => ?_
  rw [getElem?_markWhere, getElem?_markWhere, getElem?_markWhere, Option.map_map]
  congr 1
  funext line
  cases wanted i <;> cases more i <;> simp [hmark]

/-- Writing again and again, as long as no write changes what is already marked. -/
theorem foldlM_eq_some_markWhere {α : Type} {write : List LineClass → α → Option (List LineClass)}
    {reached : α → Nat → Bool} {items : List α}
    (hwrite : ∀ classes' : List LineClass, classes'.length = classes.length →
      ∀ item ∈ items, write classes' item = some (markWhere mark (reached item) classes')) :
    items.foldlM write classes =
      some (markWhere mark (fun i => items.any (reached · i)) classes) := by
  -- a write keeps the number of lines, so the ones behind it meet what they need
  induction items generalizing classes with
  | nil => exact congrArg some markWhere_false.symm
  | cons item items ih =>
    have hrest := @ih (markWhere mark (reached item) classes) fun classes' hlength other hother =>
      hwrite classes' (hlength.trans length_markWhere) other (List.mem_cons_of_mem _ hother)
    rw [List.foldlM_cons, hwrite classes rfl item List.mem_cons_self, Option.bind_eq_bind,
      Option.bind_some, hrest, markWhere_markWhere hmark]
    rfl

/-- The positions of a range are cut off so that every write finds its line. -/
theorem foldlM_markAt_positions (range : LineRange) :
    (range.positions classes.length).foldlM (markAt mark) classes =
      some (markWhere mark (fun i => range.covers i) classes) := by
  have hwrite : ∀ classes' : List LineClass, classes'.length = classes.length →
      ∀ position ∈ range.positions classes.length, markAt mark classes' position =
        some (markWhere mark (fun i => position = i) classes') := by
    intro classes' hlength position hposition
    obtain ⟨hstart, hstop, -⟩ := LineRange.mem_positions.mp hposition
    exact markAt_eq_some hstart (hlength ▸ hstop)
  rw [foldlM_eq_some_markWhere hmark hwrite]
  exact congrArg some (markWhere_congr fun i hi => range.any_positions hi)

theorem markToken_eq_some (kind : String) (token : Token) :
    markToken kind mark classes token =
      some (markWhere mark (fun i => token.kind = kind && token.range.any (·.covers i))
        classes) := by
  by_cases hkind : token.kind = kind
  · rw [markToken, if_pos hkind, hkind, decide_eq_true rfl]
    cases token.range with
    | none => exact congrArg some markWhere_false.symm
    | some range => exact foldlM_markAt_positions hmark range
  · rw [markToken, if_neg hkind, decide_eq_false hkind]
    exact congrArg some markWhere_false.symm

/-- **A pass succeeds** and marks the lines that tokens cover, no other one. -/
theorem markTokens_eq_some (kind : String) (tokens : List Token) :
    markTokens kind mark tokens classes =
      some (markWhere mark (fun i => covered kind tokens i) classes) :=
  foldlM_eq_some_markWhere hmark fun _ _ token _ => markToken_eq_some hmark kind token

end Writing

/-- **The passes give the classes of a document.** No write fails. -/
theorem classify_eq_marks (lines : List Text) (tokens : List Token) :
    (markCodeBlocks tokens (scanFences lines)).bind (markTables tokens) =
      some (classify lines tokens) := by
  have hcode : markCodeBlocks tokens (scanFences lines) = some (markWhere
      ({ · with inCode := true }) (fun i => covered "code_block" tokens i) (scanFences lines)) := by
    refine markTokens_eq_some ?_ "code_block" tokens
    exact fun _ => rfl
  have htable : ∀ classes, markTables tokens classes = some (markWhere
      ({ · with inTable := true }) (fun i => covered "table_open" tokens i) classes) := by
    intro classes
    refine markTokens_eq_some ?_ "table_open" tokens
    exact fun _ => rfl
  rw [hcode, Option.bind_some, htable]
  refine congrArg some (List.ext_getElem? fun i => ?_)
  rw [getElem?_markWhere, getElem?_markWhere, classify, List.getElem?_mapIdx, Option.map_map]
  congr 1
  funext line
  cases covered "code_block" tokens i <;> cases covered "table_open" tokens i <;> simp

/-! ## What the passes add up to -/

/-- Whether some token of a kind spans a line. -/
def SpannedBy (kind : String) (tokens : List Token) (place : Nat) : Prop :=
  ∃ token ∈ tokens, token.kind = kind ∧
    ∃ range, token.range = some range ∧ range.start ≤ place ∧ place < range.stop

theorem covered_iff_spannedBy {kind : String} {tokens : List Token} {place : Nat} :
    covered kind tokens place ↔ SpannedBy kind tokens place := by
  simp [covered, SpannedBy, LineRange.covers, Option.any_eq_true]

theorem SpannedBy.mono {kind : String} {tokens more : List Token} (h : tokens ⊆ more) {place : Nat}
    (hspanned : SpannedBy kind tokens place) : SpannedBy kind more place := by
  obtain ⟨token, htoken, hspan⟩ := hspanned
  exact ⟨token, h htoken, hspan⟩

/-- Classes that have what the fences and the tokens give, and nothing else. -/
structure AddsUp (lines : List Text) (tokens : List Token) (classes : List LineClass) : Prop where
  /-- Every line has a class. -/
  length_eq : classes.length = lines.length
  /-- Boundaries are those of the fences. -/
  boundaries_eq : classes.map (·.boundary) = (scanFences lines).map (·.boundary)
  /-- Code is what the fences make code and what code blocks span. -/
  inCode_iff : ∀ {place : Nat} {line : LineClass}, classes[place]? = some line →
    (line.inCode ↔
      (∃ fenced ∈ (scanFences lines)[place]?, fenced.inCode) ∨ SpannedBy "code_block" tokens place)
  /-- Tables are what tables span. -/
  inTable_iff : ∀ {place : Nat} {line : LineClass}, classes[place]? = some line →
    (line.inTable ↔ SpannedBy "table_open" tokens place)

attribute [ext] LineClass

variable {lines : List Text} {tokens : List Token} {classes : List LineClass}

theorem addsUp_classify (lines : List Text) (tokens : List Token) :
    AddsUp lines tokens (classify lines tokens) where
  length_eq := length_classify lines tokens
  boundaries_eq := by
    refine List.ext_getElem? fun i => ?_
    rw [List.getElem?_map, List.getElem?_map, classify, List.getElem?_mapIdx, Option.map_map]
    rfl
  inCode_iff := by
    intro place line hline
    rw [(inTable_and_inCode_of_classify hline).2, Bool.or_eq_true, covered_iff_spannedBy,
      Option.any_eq_true]
    rfl
  inTable_iff := by
    intro place line hline
    rw [(inTable_and_inCode_of_classify hline).1, covered_iff_spannedBy]

/-- A line keeps what the fences give it. -/
theorem AddsUp.exists_fenced (h : AddsUp lines tokens classes) {place : Nat} {line : LineClass}
    (hline : classes[place]? = some line) :
    ∃ fenced, (scanFences lines)[place]? = some fenced ∧ line.boundary = fenced.boundary ∧
      (fenced.inCode → line.inCode) := by
  have hboundary := congrArg (·[place]?) h.boundaries_eq
  rw [List.getElem?_map, List.getElem?_map, hline, Option.map_some] at hboundary
  obtain ⟨fenced, hfenced, heq⟩ := Option.map_eq_some_iff.mp hboundary.symm
  refine ⟨fenced, hfenced, heq.symm, fun hcode => ?_⟩
  exact (h.inCode_iff hline).mpr (.inl ⟨fenced, hfenced, hcode⟩)

/-- Whatever the tokens are, a line has the same boundary. -/
theorem AddsUp.boundary_eq {others : List Token} {classes' : List LineClass}
    (h : AddsUp lines tokens classes) (h' : AddsUp lines others classes') {place : Nat}
    {line line' : LineClass} (hline : classes[place]? = some line)
    (hline' : classes'[place]? = some line') : line.boundary = line'.boundary := by
  obtain ⟨fenced, hfenced, hboundary, -⟩ := h.exists_fenced hline
  obtain ⟨fenced', hfenced', hboundary', -⟩ := h'.exists_fenced hline'
  obtain rfl := Option.some.inj (hfenced.symm.trans hfenced')
  exact hboundary.trans hboundary'.symm

/-- Nothing else adds up. -/
theorem eq_classify_iff_addsUp : classes = classify lines tokens ↔ AddsUp lines tokens classes := by
  constructor
  · rintro rfl
    exact addsUp_classify lines tokens
  · intro h
    have hclassify := addsUp_classify lines tokens
    refine List.ext_getElem (h.length_eq.trans hclassify.length_eq.symm) fun i hi hi' => ?_
    have hline := List.getElem?_eq_getElem hi
    have hline' := List.getElem?_eq_getElem hi'
    ext1
    · rw [Bool.eq_iff_iff, h.inCode_iff hline, hclassify.inCode_iff hline']
    · exact h.boundary_eq hclassify hline hline'
    · rw [Bool.eq_iff_iff, h.inTable_iff hline, hclassify.inTable_iff hline']

/-- Neither the order of tokens nor how often one comes plays a part. -/
theorem classify_eq_of_mem_iff {others : List Token}
    (h : ∀ token, token ∈ others ↔ token ∈ tokens) :
    classify lines others = classify lines tokens := by
  have hspanned : ∀ kind place, SpannedBy kind others place ↔ SpannedBy kind tokens place :=
    fun kind place => ⟨.mono fun token => (h token).mp, .mono fun token => (h token).mpr⟩
  have hadds := addsUp_classify lines others
  -- what adds up for these tokens adds up for those, and only one list of classes does
  refine eq_classify_iff_addsUp.mpr ⟨hadds.length_eq, hadds.boundaries_eq, ?_, ?_⟩
  · intro place line hline
    rw [hadds.inCode_iff hline, hspanned]
  · intro place line hline
    rw [hadds.inTable_iff hline, hspanned]

/-- A class that may have gained marks and lost none. -/
structure LineClass.Gains (before after : LineClass) : Prop where
  boundary_eq : after.boundary = before.boundary
  inCode : before.inCode → after.inCode
  inTable : before.inTable → after.inTable

theorem classify_mono {more : List Token} (h : tokens ⊆ more) :
    List.Forall₂ LineClass.Gains (classify lines tokens) (classify lines more) := by
  have hbefore := addsUp_classify lines tokens
  have hafter := addsUp_classify lines more
  rw [List.forall₂_iff_get]
  refine ⟨hbefore.length_eq.trans hafter.length_eq.symm, fun i hi hi' => ?_⟩
  have hline := List.getElem?_eq_getElem hi
  have hline' := List.getElem?_eq_getElem hi'
  constructor
  case boundary_eq => exact hafter.boundary_eq hbefore hline' hline
  case inCode =>
    intro hcode
    refine (hafter.inCode_iff hline').mpr ?_
    exact ((hbefore.inCode_iff hline).mp hcode).imp_right (.mono h)
  case inTable =>
    intro htable
    exact (hafter.inTable_iff hline').mpr (((hbefore.inTable_iff hline).mp htable).mono h)

/-! ## Boundaries from the top -/

theorem AddsUp.map_step (h : AddsUp lines tokens classes) :
    classes.map (·.boundary.step) = (scanFences lines).map (·.boundary.step) := by
  have hsteps := congrArg (List.map Boundary.step) h.boundaries_eq
  rwa [List.map_map, List.map_map] at hsteps

/-- A boundary is code, and so is a line with an open block above it or below it. -/
theorem AddsUp.inCode_of_sum (h : AddsUp lines tokens classes) {place : Nat} {line : LineClass}
    (hline : classes[place]? = some line) :
    (line.boundary ≠ .none → line.inCode) ∧
      (((classes.map (·.boundary.step)).take place).sum = 1 ∨
        ((classes.map (·.boundary.step)).take (place + 1)).sum = 1 → line.inCode) := by
  obtain ⟨fenced, hfenced, hboundary, hcode⟩ := h.exists_fenced hline
  obtain ⟨hsum, hedge⟩ := (fencedFrom_scanFences lines).inCode_of_sum hfenced
  rw [hboundary, h.map_step, ← List.map_take, ← List.map_take]
  exact ⟨fun hne => hcode (hedge hne), fun hone => hcode (hsum hone)⟩

namespace Index

/-- A walk through as many lines as there are classes. -/
theorem walkFrom_eq (position : Nat) (h : classes.length = lines.length) :
    (walkFrom position lines classes).complete ∧
      (walkFrom position lines classes).met.map (·.line) = lines ∧
      (walkFrom position lines classes).met.map (·.position) =
        List.range' position lines.length ∧
      (walkFrom position lines classes).met.map (·.lineClass) = classes := by
  induction lines generalizing position classes with
  | nil =>
    rw [List.length_eq_zero_iff.mp h]
    exact ⟨rfl, rfl, rfl, rfl⟩
  | cons line lines ih =>
    obtain ⟨lineClass, classes, rfl⟩ := List.exists_cons_of_length_eq_add_one h
    obtain ⟨hcomplete, hlines, hpositions, hclasses⟩ := ih (position + 1) (Nat.succ.inj h)
    refine ⟨hcomplete, ?_, ?_, ?_⟩
    · rw [walkFrom, List.map_cons, hlines]
    · rw [walkFrom, List.map_cons, hpositions, List.length_cons, List.range'_succ]
    · rw [walkFrom, List.map_cons, hclasses]

variable (lists : List ListEntry)

/-- A walk meets each line at its position and with its class. -/
theorem walk_eq (h : classes.length = lines.length) :
    (walk ⟨classes, lists⟩ lines).complete ∧
      (walk ⟨classes, lists⟩ lines).met.map (·.line) = lines ∧
      (walk ⟨classes, lists⟩ lines).met.map (·.position) = List.range lines.length ∧
      (walk ⟨classes, lists⟩ lines).met.map (·.lineClass) = classes := by
  rw [List.range_eq_range']
  exact walkFrom_eq 0 h

theorem getElem?_of_mem_met (h : classes.length = lines.length) {info : LineInfo}
    (hinfo : info ∈ (walk ⟨classes, lists⟩ lines).met) :
    classes[info.position]? = some info.lineClass := by
  obtain ⟨-, -, hpositions, hclasses⟩ := walk_eq lists h
  obtain ⟨place, hplace⟩ := List.getElem?_of_mem hinfo
  have hposition := congrArg (·[place]?) hpositions
  have hclass := congrArg (·[place]?) hclasses
  rw [List.getElem?_map, hplace, Option.map_some] at hposition hclass
  obtain ⟨hlt, hplaced⟩ := List.getElem?_eq_some_iff.mp hposition.symm
  rw [List.getElem_range] at hplaced
  rw [← hplaced, ← hclass]

end Index

/-- **Classes of lines are what fences, code blocks and tables add up to.** The passes over the
tokens succeed and give each line its class, whatever lines the tokens name, and no other classes
have what these have. The same tokens in another order or more often give the same, and more tokens
only add marks. A walk through the lines meets each with its class. Its boundaries, read from the
top as steps in and out of blocks, add up to 0 or 1 at each line and to 0 in the end, and where they
add up to 1, above a line or with it, that line is code. -/
theorem classify_additive (lines : List Text) (tokens : List Token) :
    (markCodeBlocks tokens (scanFences lines)).bind (markTables tokens) =
        some (classify lines tokens) ∧
      (∀ classes, classes = classify lines tokens ↔ AddsUp lines tokens classes) ∧
      (∀ others, (∀ token, token ∈ others ↔ token ∈ tokens) →
        classify lines others = classify lines tokens) ∧
      (∀ more, tokens ⊆ more →
        List.Forall₂ LineClass.Gains (classify lines tokens) (classify lines more)) ∧
      (∀ line ∈ classify lines tokens, line.boundary ≠ .none → line.inCode) ∧
      ∀ lists,
        let walk := Index.walk ⟨classify lines tokens, lists⟩ lines
        let steps := walk.met.map (·.lineClass.boundary.step)
        walk.complete ∧ walk.met.map (·.line) = lines ∧
          walk.met.map (·.position) = List.range lines.length ∧
          walk.met.map (·.lineClass) = classify lines tokens ∧
          (∀ k, (steps.take k).sum = 0 ∨ (steps.take k).sum = 1) ∧ steps.sum = 0 ∧
          ∀ info ∈ walk.met,
            (steps.take info.position).sum = 1 ∨ (steps.take (info.position + 1)).sum = 1 →
              info.lineClass.inCode := by
  have hadds := addsUp_classify lines tokens
  refine ⟨classify_eq_marks lines tokens, fun _ => eq_classify_iff_addsUp,
    fun _ => classify_eq_of_mem_iff, fun _ => classify_mono, fun line hline => ?_,
    fun lists => ?_⟩
  · obtain ⟨place, hplace⟩ := List.getElem?_of_mem hline
    exact (hadds.inCode_of_sum hplace).1
  · intro walk steps
    obtain ⟨hcomplete, hlines, hpositions, hclasses⟩ := Index.walk_eq lists hadds.length_eq
    have hfenced := fencedFrom_scanFences lines
    have hsteps : steps = (classify lines tokens).map (·.boundary.step) := by
      rw [← hclasses, List.map_map]
      rfl
    refine ⟨hcomplete, hlines, hpositions, hclasses, fun k => ?_, ?_, fun info hinfo => ?_⟩
    · rw [hsteps, hadds.map_step, ← List.map_take]
      exact hfenced.sum_take_eq_zero_or_one k
    · rw [hsteps, hadds.map_step]
      exact hfenced.sum_eq_zero
    · rw [hsteps]
      exact (hadds.inCode_of_sum (Index.getElem?_of_mem_met lists hadds.length_eq hinfo)).2

/-- A fence and a table, with tokens that name lines in front of the document and behind it. A
second table comes in front, again with the first one. -/
theorem classify_additive_far_ranges :
    let lines := ["```".toList, ['a'], "```".toList, "|b|".toList]
    let token (kind : String) (start stop : Int) : Token := { kind, range := some ⟨start, stop⟩ }
    let tokens := [token "table_open" 3 9, token "code_block" (-7) (-1), token "code_block" 4 2,
      { kind := "code_block" }]
    let others := token "table_open" 3 9 :: tokens.reverse
    let more := token "code_block" (-2) 1 :: token "table_open" (-4) 1 :: tokens
    (∀ other, other ∈ others ↔ other ∈ tokens) ∧ tokens ⊆ more ∧
      classify lines others = classify lines tokens ∧
      List.Forall₂ LineClass.Gains (classify lines tokens) (classify lines more) ∧
      (classify lines tokens).map (·.inTable) = [false, false, false, true] ∧
      (classify lines more).map (·.inTable) = [true, false, false, true] := by
  intro lines token tokens others more
  have hothers : ∀ other, other ∈ others ↔ other ∈ tokens := by
    intro other
    simp [others, tokens]
    tauto
  have hmore : tokens ⊆ more := fun _ h => List.mem_cons_of_mem _ (List.mem_cons_of_mem _ h)
  obtain ⟨-, -, horder, hmono, -⟩ := classify_additive lines tokens
  exact ⟨hothers, hmore, horder others hothers, hmono more hmore, by decide +kernel,
    by decide +kernel⟩

end MarkdownCheck
