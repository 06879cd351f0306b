import MarkdownCheck.Markdown.Block.Container
import MarkdownCheck.Proofs.Quote.Strip

/-!
# Where content stands on its source line

Block structure knows a line by what is left of it behind the markers of quotes, and by the column
of that. The column is also told by the source line alone: by the blanks behind its quote markers,
each counted once. The two differ only where there are tabs.

- `Markdown.isLead`: what stands in front of content on a source line.
- `Markdown.measure_spec`: blanks are counted, and reach at least as many columns.
- `Markdown.Stands`: what is left of a line stands on it behind blanks and quote markers, at its
  column; kept by `Stands.unquote`.
- `Markdown.Stands.indent`: the blanks counted on the source line before content.
-/

namespace MarkdownCheck

namespace Markdown

/-- A space, a tab or a quote marker. -/
def isLead (c : Char) : Bool :=
  isSpace c || c = '>'

theorem text_isBlank_of_isSpace {c : Char} (h : isSpace c = true) : Text.isBlank c = true := by
  simp only [isSpace, Bool.or_eq_true, decide_eq_true_eq] at h
  rcases h with rfl | rfl <;> decide

theorem ne_of_isSpace {c : Char} (h : isSpace c = true) : c ≠ '>' := by
  rintro rfl
  cases h

theorem isQuoting_of_isLead {c : Char} (h : isLead c = true) : Quote.isQuoting c = true := by
  rw [isLead, Bool.or_eq_true] at h
  rw [Quote.isQuoting, Bool.or_eq_true]
  exact h.imp_left text_isBlank_of_isSpace

end Markdown

open Markdown

/-! ## Lines without quote markers -/

namespace Quote

theorem not_mem_lead_of_isSpace {blanks : Text} (h : ∀ c ∈ blanks, isSpace c = true) :
    '>' ∉ lead blanks :=
  fun hmark => ne_of_isSpace (h _ ((List.takeWhile_sublist _).subset hmark)) rfl

/-- Of blanks and markers only blanks are left. -/
theorem isSpace_of_mem_strip {front : Text} (hfront : ∀ c ∈ front, isLead c = true) :
    ∀ c ∈ strip front, isSpace c = true := by
  intro c hc
  have hne := ne_of_mem_strip (fun c hc => isQuoting_of_isLead (hfront c hc)) hc
  have hlead := hfront c (mem_of_mem_strip hc)
  simpa [isLead, hne] using hlead

end Quote

namespace Markdown

/-! ## Blanks in columns -/

theorem nextStop_gt (column : Nat) : column < nextStop column := by
  rw [nextStop]
  omega

/-- The blanks at the start of a text are counted, and a tab reaches one column or more. -/
theorem measure_spec (shifted offset : Nat) (text : Text) :
    (measure shifted offset text).1 = (text.takeWhile isSpace).length ∧
      offset + (measure shifted offset text).1 ≤ (measure shifted offset text).2 ∧
      ('\t' ∉ text.takeWhile isSpace →
        (measure shifted offset text).2 = offset + (measure shifted offset text).1) := by
  fun_induction measure shifted offset text with
  | case1 offset rest count reached hrest ih =>
    obtain ⟨hcount, hle, heq⟩ := ih
    rw [hrest] at hcount hle heq
    have hblank : isSpace ' ' = true := by decide
    rw [List.takeWhile_cons_of_pos hblank]
    refine ⟨by simpa using hcount, by simp only at *; omega, fun htab => ?_⟩
    have := heq fun hmem => htab (List.mem_cons_of_mem _ hmem)
    simp only at *
    omega
  | case2 offset rest count reached hrest ih =>
    obtain ⟨hcount, hle, -⟩ := ih
    rw [hrest] at hcount hle
    have hblank : isSpace '\t' = true := by decide
    have hstop := nextStop_gt (offset + shifted)
    rw [List.takeWhile_cons_of_pos hblank]
    refine ⟨by simpa using hcount, by simp only at *; omega, fun htab => ?_⟩
    exact absurd List.mem_cons_self htab
  | case3 text offset hspace htab =>
    have hnone : text.takeWhile isSpace = [] := by
      cases text with
      | nil => rfl
      | cons c rest =>
        have hc : isSpace c = false := by
          simp only [isSpace, Bool.or_eq_false_iff, decide_eq_false_iff_not]
          exact ⟨fun h => hspace rest (h ▸ rfl), fun h => htab rest (h ▸ rfl)⟩
        rw [List.takeWhile_cons_of_neg (by simp [hc])]
    rw [hnone]
    exact ⟨rfl, Nat.le_refl _, fun _ => rfl⟩

/-- Behind the blanks that are counted stands the rest of the text. -/
theorem takeWhile_append_drop_measure (shifted offset : Nat) (text : Text) :
    text.takeWhile isSpace ++ text.drop (measure shifted offset text).1 = text := by
  rw [(measure_spec shifted offset text).1]
  exact List.prefix_iff_eq_append.mp (List.takeWhile_prefix _)

/-! ## Lines behind their markers -/

/-- What is left of a line stands on its source line behind blanks and quote markers. Its column is
told by the blanks behind the markers, unless a tab is among them. -/
structure StandsBehind (source : Text) (line : Line) (lead : Text) : Prop where
  source_eq : source = lead ++ line.content
  isLead : ∀ c ∈ lead, isLead c = true
  /-- A marker may take a column of a tab that stays on the line. -/
  length_le : ((Quote.strip lead).length : Int) ≤ line.indent + 1
  length_eq : '\t' ∉ Quote.strip lead → ((Quote.strip lead).length : Int) = line.indent

/-- What is left of a line stands somewhere on its source line, unless the line continues a
paragraph without a quote marker. -/
def Stands (source : Text) (line : Line) : Prop :=
  0 ≤ line.indent → ∃ lead, StandsBehind source line lead

theorem isSpace_of_mem_takeWhile {text : Text} {c : Char} (h : c ∈ text.takeWhile isSpace) :
    isSpace c = true :=
  List.all_eq_true.mp List.all_takeWhile c h

theorem isLead_of_isSpace {c : Char} (h : isSpace c = true) : isLead c = true := by
  rw [isLead, h]
  rfl

theorem stands_ofText (body : Text) (isEnded : Bool) : Stands body (.ofText body isEnded) := by
  intro _
  obtain ⟨hcount, hle, heq⟩ := measure_spec 0 0 body
  have hblanks : ∀ c ∈ body.takeWhile isSpace, isSpace c = true := fun _ => isSpace_of_mem_takeWhile
  have hstrip := Quote.strip_of_not_mem (Quote.not_mem_lead_of_isSpace hblanks)
  refine ⟨body.takeWhile isSpace, (takeWhile_append_drop_measure 0 0 body).symm,
    fun c hc => isLead_of_isSpace (hblanks c hc), ?_, fun htab => ?_⟩
  · rw [hstrip]
    show (_ : Int) ≤ ((measure 0 0 body).2 : Int) + 1
    omega
  · rw [hstrip] at htab ⊢
    have := heq htab
    show (_ : Int) = ((measure 0 0 body).2 : Int)
    omega

/-- Behind a quote marker and the blank that it may take, the columns are counted anew. -/
theorem stands_of_marker (spare : Text) {source front body : Text} {inner : Line}
    {shifted start : Nat} (hsource : source = front ++ '>' :: (spare ++ body))
    (hfront : ∀ c ∈ front, isLead c = true)
    (hspare : ∀ c ∈ spare, isSpace c = true)
    (hcontent : inner.content = body.drop (measure shifted start body).1)
    (hindent : inner.indent = ((measure shifted start body).2 : Int) - start)
    (hdrop : Quote.dropSpace (spare ++ body.takeWhile isSpace) = body.takeWhile isSpace ∨
      Quote.dropSpace (spare ++ body.takeWhile isSpace) = '\t' :: body.takeWhile isSpace) :
    Stands source inner := by
  intro _
  obtain ⟨hcount, hle, heq⟩ := measure_spec shifted start body
  have hblanks : ∀ c ∈ spare ++ body.takeWhile isSpace, isSpace c = true := by
    intro c hc
    rcases List.mem_append.mp hc with hc | hc
    · exact hspare c hc
    · exact isSpace_of_mem_takeWhile hc
  have hstrip := Quote.strip_marker (fun c hc => isQuoting_of_isLead (hfront c hc))
    (Quote.not_mem_lead_of_isSpace hblanks)
  refine ⟨front ++ '>' :: (spare ++ body.takeWhile isSpace), ?_, ?_, ?_, fun htab => ?_⟩
  · rw [hsource, hcontent]
    simp [takeWhile_append_drop_measure]
  · simp only [List.forall_mem_append, List.forall_mem_cons]
    refine ⟨hfront, rfl, fun c hc => isLead_of_isSpace (hspare c hc), fun c hc =>
      isLead_of_isSpace (isSpace_of_mem_takeWhile hc)⟩
  · rw [hstrip, hindent]
    rcases hdrop with hdrop | hdrop
    · rw [hdrop]
      omega
    · rw [hdrop, List.length_cons]
      omega
  · rw [hstrip] at htab ⊢
    rcases hdrop with hdrop | hdrop
    · rw [hdrop] at htab ⊢
      have := heq htab
      rw [hindent]
      omega
    · rw [hdrop] at htab
      exact absurd List.mem_cons_self htab

namespace Stands

variable {source : Text} {line inner : Line}

/-- A line inside a quote stands where the line around it does, behind one marker more. -/
theorem unquote (h : Stands source line) (hindent : 0 ≤ line.indent)
    (hinner : line.unquote? = some inner) : Stands source inner := by
  obtain ⟨lead, hsource, hlead, -⟩ := h hindent
  unfold Line.unquote? at hinner
  split at hinner
  · next after hcontent =>
    rw [hcontent] at hsource
    dsimp only at hinner
    split at hinner
    · next body =>
      obtain rfl := Option.some.inj hinner
      exact stands_of_marker [' '] hsource hlead (by simp [isSpace]) rfl rfl (.inl rfl)
    · next body =>
      split at hinner
      · obtain rfl := Option.some.inj hinner
        exact stands_of_marker ['\t'] hsource hlead (by simp [isSpace]) rfl rfl (.inr rfl)
      · obtain rfl := Option.some.inj hinner
        exact stands_of_marker [] hsource hlead nofun rfl rfl (.inl rfl)
    · next hspace _ =>
      obtain rfl := Option.some.inj hinner
      refine stands_of_marker [] hsource hlead nofun rfl rfl (.inl ?_)
      cases after with
      | nil => rfl
      | cons c rest =>
        have hc : c ≠ ' ' := fun hc => hspace rest (hc ▸ rfl)
        by_cases hblank : isSpace c = true
        · simp [hblank, Quote.dropSpace, hc]
        · simp [hblank, Quote.dropSpace]
  · cases hinner

end Stands

/-- Content that starts with something else than blanks and markers is what its source line is
indented to. -/
theorem indent_strip_append {lead : Text} {c : Char} (rest : Text)
    (hlead : ∀ c ∈ lead, isLead c = true) (hblank : Text.isBlank c = false) (hmark : c ≠ '>') :
    Text.indent (Quote.strip (lead ++ c :: rest)) = (Quote.strip lead).length := by
  have hblanks : ∀ c ∈ Quote.strip lead, Text.isBlank c = true := fun c hc =>
    text_isBlank_of_isSpace (Quote.isSpace_of_mem_strip hlead c hc)
  have hstrip := Quote.strip_append rest (fun c hc => isQuoting_of_isLead (hlead c hc))
    (Quote.isQuoting_eq_false hblank hmark)
  rw [hstrip, Text.indent, Text.trimLeft,
    List.dropWhile_append_of_pos hblanks, List.dropWhile_cons_of_neg (by simp [hblank]),
    List.length_append]
  exact Nat.add_sub_cancel ..

end Markdown

end MarkdownCheck
