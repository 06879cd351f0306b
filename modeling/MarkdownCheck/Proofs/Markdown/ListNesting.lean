import MarkdownCheck.Document.OfText
import MarkdownCheck.Proofs.General
import MarkdownCheck.Proofs.ListOutline.Containers
import MarkdownCheck.Proofs.Markdown.Marker

/-!
# How the lists of a text nest, and where they start

The block tokens of a text nest, and what a list is indented by is told by its source line alone:
its marker stands behind the blanks there, deeper than the marker of the item it stands in. Two
things are in the way. Where an item around the list starts on the same line, that item's marker
comes first. And tabs reach further than one column.

- `StartsLine`: no item around a token starts on its line.
- `Aligned`: what the source line of a list tells about its marker and about the item around it.
- `Markdown.Surrounds`: the lines inside containers, as far as the source tells them.
- `Markdown.Yields`, `Markdown.ReadsNested`: a reader of blocks adds nested tokens, with its lists
  aligned. There is one lemma for each reader, and `Markdown.readBlocks_nested` for all blocks.
-/

namespace MarkdownCheck

/-! ## Lists that are aligned -/

/-- No item around a token starts on its line. -/
def StartsLine (around : List Token) (token : Token) : Prop :=
  ∀ outer ∈ around, outer.opensItem = true → outer.lineNumber ≠ token.lineNumber

instance (around : List Token) (token : Token) : Decidable (StartsLine around token) :=
  inferInstanceAs (Decidable (∀ outer ∈ around, _))

/-- The marker of a list stands where its line is indented to: behind spaces and tabs, with the sign
and the kind of the list. -/
structure ShowsMarker (opening : Token) (marker : Markdown.ListMarker) : Prop where
  atIndent : Markdown.ListMarker.at? opening.atIndent = some marker
  blanks : ∀ c ∈ opening.blanks, Markdown.isSpace c = true
  markup : opening.markup = [marker.sign]
  opensBullets : opening.opensBullets = marker.number.isNone

/-- A list that no item around it shares a line with shows its marker there. If no tab stands before
the marker, it is indented deeper than the item that the list stands directly in, given that no item
around starts on that item's line. -/
structure Aligned (around : List Token) (opening : Token) : Prop where
  shows : StartsLine around opening → ∃ marker, ShowsMarker opening marker
  deeper : StartsLine around opening → '\t' ∉ opening.blanks →
    ∀ item outer, around = item :: outer → item.opensItem = true → StartsLine outer item →
      item.indent < opening.indent

namespace Markdown

/-! ## Tokens as a document shows them -/

section

variable (source : List Text) (keys : List Text)

/-- A token of the parser in a document with these lines. -/
def shown (token : Token) : MarkdownCheck.Token :=
  Token.ofParsed source (token.withInline keys)

/-- The kinds of tokens that open or close a container. -/
def containerKinds : List String :=
  ["bullet_list_open", "ordered_list_open", "list_item_open", "blockquote_open",
    "bullet_list_close", "ordered_list_close", "list_item_close", "blockquote_close"]

variable {source keys} {token : Token}

@[simp] theorem shown_kind : (shown source keys token).kind = token.kind := by
  rw [shown, Token.withInline]
  split <;> rfl

@[simp] theorem shown_markup : (shown source keys token).markup = token.markup := by
  rw [shown, Token.withInline]
  split <;> rfl

@[simp] theorem shown_lineNumber :
    (shown source keys token).lineNumber = token.range.map (·.start + 1) := by
  rw [shown, Token.withInline]
  split <;> rfl

@[simp] theorem shown_line :
    (shown source keys token).line = lineAt source (token.range.map (·.start + 1)) := by
  rw [shown, Token.withInline]
  split <;> rfl

theorem leaf_of_kind (h : token.kind ∉ containerKinds) :
    (shown source keys token).opensContainer = false ∧
      (shown source keys token).closesContainer = false := by
  simp only [containerKinds, List.mem_cons, List.not_mem_nil, or_false, not_or] at h
  simp [MarkdownCheck.Token.opensContainer, MarkdownCheck.Token.opensList,
    MarkdownCheck.Token.opensItem, MarkdownCheck.Token.opensQuote,
    MarkdownCheck.Token.closesContainer, MarkdownCheck.Token.closesList,
    MarkdownCheck.Token.closesItem, MarkdownCheck.Token.closesQuote, h]

end

/-! ## What readers add -/

section

variable (source : List Text) (keys : List Text)

/-- A reader has added tokens that nest inside the containers of `around`. -/
def Yields (around : List MarkdownCheck.Token) (before after : Blocks) : Prop :=
  ∃ added : List Token, after.tokens.toList = before.tokens.toList ++ added ∧
    Nested Aligned around (added.map (shown source keys))

/-- The lines up to `stop` stand on the lines of the source, apart from lines on which an item
around starts. -/
def LinesStand (around : List MarkdownCheck.Token) (lines : Lines) (stop : Nat) : Prop :=
  ∀ index < stop,
    (∀ outer ∈ around, outer.opensItem = true → outer.lineNumber ≠ some ((index : Int) + 1)) →
    Stands ((lineAt source (some ((index : Int) + 1))).map replaceNull) (lines.line index)

/-- What is known inside the containers of `around`: where lines stand, and that content is indented
deeper than the item that it stands directly in. -/
structure Surrounds (around : List MarkdownCheck.Token) (scope : Scope) (lines : Lines)
    (stop : Nat) : Prop where
  stand : LinesStand source around lines stop
  deeper : ∀ item outer, around = item :: outer → item.opensItem = true → StartsLine outer item →
    item.indent < scope.indent

/-- A reader of blocks adds nested tokens, with lists aligned. -/
def ReadsNested (reader : BlockReader) : Prop :=
  ∀ (around : List MarkdownCheck.Token) (scope : Scope) (lines : Lines) (start stop : Nat)
    (blocks : Blocks), Surrounds source around scope lines stop →
    Yields source keys around blocks (reader scope lines start stop blocks)

end

variable {source : List Text} {keys : List Text} {around : List MarkdownCheck.Token}
  {scope : Scope} {lines : Lines} {start stop : Nat} {blocks : Blocks}

namespace Yields

variable {before middle after inner : Blocks}

theorem of_tokens_eq (h : after.tokens = before.tokens) : Yields source keys around before after :=
  ⟨[], by simp [h], .nil⟩

theorem trans (h : Yields source keys around before middle)
    (h' : Yields source keys around middle after) : Yields source keys around before after := by
  obtain ⟨first, hfirst, hnested⟩ := h
  obtain ⟨second, hsecond, hnested'⟩ := h'
  refine ⟨first ++ second, by rw [hsecond, hfirst, List.append_assoc], ?_⟩
  rw [List.map_append]
  exact hnested.append hnested'

/-- A failure is noted besides the tokens. -/
theorem note (h : Yields source keys around before after) (failure : Option ParseFailure) :
    Yields source keys around before { after with failure := failure } :=
  h

theorem add {tokens : List Token} (h : ∀ token ∈ tokens, token.kind ∉ containerKinds) (next : Nat) :
    Yields source keys around before (before.add tokens next) := by
  refine ⟨tokens, by simp [Blocks.add], .leaves ?_⟩
  rintro _ hmem
  obtain ⟨token, htoken, rfl⟩ := List.mem_map.mp hmem
  exact leaf_of_kind (h token htoken)

theorem wrap {opening closing : Token}
    (h : Encloses Aligned around (shown source keys opening) (shown source keys closing))
    (hinner : Yields source keys (shown source keys opening :: around) before.inside inner) :
    Yields source keys around before (before.wrap inner opening closing) := by
  obtain ⟨added, hadded, hnested⟩ := hinner
  refine ⟨opening :: (added ++ [closing]), ?_, ?_⟩
  · have hinside : inner.tokens.toList = added := hadded
    simp [Blocks.wrap, hinside]
  · rw [List.map_cons, List.map_append]
    exact .wrap h hnested

end Yields

/-! ## Leaves -/

theorem leaf_kinds {kind tag : String} {range inlineRange : Option LineRange}
    {content markup : Text} (h : kind = "heading" ∨ kind = "paragraph") :
    ∀ token ∈ leaf kind tag range inlineRange content markup, token.kind ∉ containerKinds := by
  rcases h with rfl | rfl <;> simp [leaf, containerKinds]

section

variable {after : Blocks}

theorem readCode_yields (h : readCode scope lines start stop blocks = some after) :
    Yields source keys around blocks after := by
  rw [readCode] at h
  split at h
  · obtain rfl := Option.some.inj h
    exact .add (by simp [containerKinds]) _
  · cases h

theorem readFence_yields (h : readFence scope lines start stop blocks = some after) :
    Yields source keys around blocks after := by
  unfold readFence at h
  dsimp only at h
  split at h
  · cases h
  · obtain ⟨fence, -, h⟩ := Option.bind_eq_some_iff.mp h
    obtain rfl := Option.some.inj h
    exact .add (by simp [containerKinds]) _

theorem readBreak_yields (h : readBreak scope lines start blocks = some after) :
    Yields source keys around blocks after := by
  unfold readBreak at h
  dsimp only at h
  split at h
  · cases h
  · obtain ⟨⟨mark, count⟩, -, h⟩ := Option.bind_eq_some_iff.mp h
    obtain rfl := Option.some.inj h
    exact .add (by simp [containerKinds]) _

theorem readHtml_yields (h : readHtml scope lines start stop blocks = some after) :
    Yields source keys around blocks after := by
  unfold readHtml at h
  dsimp only at h
  split at h
  · cases h
  · obtain ⟨kind, -, h⟩ := Option.bind_eq_some_iff.mp h
    generalize (if kind.endsAt (lines.line start).content then _ else _) = next at h
    obtain rfl := Option.some.inj h
    split
    · exact .note (.add (by simp [containerKinds]) _) _
    · exact .add (by simp [containerKinds]) _

theorem readAtx_yields (h : readAtx scope lines start blocks = some after) :
    Yields source keys around blocks after := by
  unfold readAtx at h
  dsimp only at h
  split at h
  · cases h
  · obtain ⟨heading, -, h⟩ := Option.bind_eq_some_iff.mp h
    obtain rfl := Option.some.inj h
    exact .add (leaf_kinds (.inl rfl)) _

theorem readSetext_yields (h : readSetext scope lines start stop blocks = some after) :
    Yields source keys around blocks after := by
  unfold readSetext at h
  split at h
  · cases h
  · obtain ⟨⟨last, mark, level⟩, -, h⟩ := Option.bind_eq_some_iff.mp h
    obtain rfl := Option.some.inj h
    exact .add (leaf_kinds (.inl rfl)) _

theorem readParagraph_yields :
    Yields source keys around blocks (readParagraph scope lines start blocks) :=
  .add (leaf_kinds (.inr rfl)) _

theorem readDefinition_yields (h : readDefinition scope lines start blocks = some after) :
    Yields source keys around blocks after := by
  obtain ⟨_, -, rfl⟩ := Option.map_eq_some_iff.mp h
  exact .of_tokens_eq rfl

theorem rowTokens_kinds {cellKind : String} {index count : Nat} {cells : List Text}
    (h : cellKind = "th" ∨ cellKind = "td") :
    ∀ token ∈ rowTokens cellKind index count cells, token.kind ∉ containerKinds := by
  rcases h with rfl | rfl <;> simp [rowTokens, containerKinds] <;> aesop

theorem bodyRows_kinds (bound : Nat) {index stop count : Nat} {filled : Int} :
    ∀ token ∈ (bodyRows scope lines stop count bound index filled).1,
      token.kind ∉ containerKinds := by
  induction bound generalizing index filled with
  | zero => exact nofun
  | succ bound ih =>
    rw [bodyRows]
    dsimp only
    split
    · exact nofun
    · split
      · exact nofun
      · exact List.forall_mem_append.mpr ⟨rowTokens_kinds (.inr rfl), ih⟩

theorem readTable_yields (h : readTable scope lines start stop blocks = some after) :
    Yields source keys around blocks after := by
  unfold readTable at h
  obtain ⟨count, -, h⟩ := Option.bind_eq_some_iff.mp h
  dsimp only at h
  obtain rfl := Option.some.inj h
  refine .add ?_ _
  simp only [List.forall_mem_append, List.forall_mem_cons]
  refine ⟨⟨⟨by decide, by decide, rowTokens_kinds (.inl rfl)⟩, by decide, ?_⟩, by decide, nofun⟩
  split
  · exact nofun
  · simp only [List.cons_append, List.forall_mem_append, List.forall_mem_cons]
    exact ⟨by decide, bodyRows_kinds _, by decide, nofun⟩

end

/-! ## Lines inside containers -/

theorem line_setIfInBounds (lines : Lines) (index : Nat) (line : Line) (other : Nat) :
    Lines.line (lines.setIfInBounds index line) other =
      if index = other ∧ index < lines.size then line else lines.line other := by
  rw [Lines.line, Lines.line, Array.getD_eq_getD_getElem?, Array.getD_eq_getD_getElem?,
    Array.getElem?_setIfInBounds]
  by_cases hother : index = other
  · subst hother
    by_cases hsize : index < lines.size <;> simp [hsize]
  · simp [hother]

namespace LinesStand

variable (h : LinesStand source around lines stop)

include h

/-- A line is replaced by another one that stands on the same line of the source. -/
theorem set {index : Nat} {line : Line}
    (hline : ∀ text, Stands text (lines.line index) → Stands text line) :
    LinesStand source around (lines.setIfInBounds index line) stop := by
  intro other hother hfree
  rw [line_setIfInBounds]
  split
  · next heq =>
    obtain ⟨rfl, -⟩ := heq
    exact hline _ (h index hother hfree)
  · exact h other hother hfree

theorem mono {limit : Nat} (hle : limit ≤ stop) : LinesStand source around lines limit :=
  fun index hindex => h index (Nat.lt_of_lt_of_le hindex hle)

theorem enter (opening : MarkdownCheck.Token) :
    LinesStand source (opening :: around) lines stop :=
  fun index hindex hfree =>
    h index hindex fun outer houter => hfree outer (List.mem_cons_of_mem _ houter)

end LinesStand

/-- A line of negative indentation says nothing. -/
theorem stands_of_neg {text : Text} {line : Line} (h : line.indent < 0) : Stands text line :=
  fun hindent => absurd h (Int.not_lt.mpr hindent)

/-- Inside a container that is no item everything is as it is outside. -/
theorem Surrounds.enter {opening : MarkdownCheck.Token} (hitem : opening.opensItem = false)
    {inner : Scope} {limit : Nat} {content : Lines}
    (h : LinesStand source around content limit) :
    Surrounds source (opening :: around) inner content limit where
  stand := h.enter opening
  deeper item outer heq hopens := by
    rw [← (List.cons.inj heq).1, hitem] at hopens
    cases hopens

/-! ## Quotes -/

theorem zero_le_indent {line : Line} (h : scope.isInside line = true) : 0 ≤ line.indent := by
  have hle : (scope.indent : Int) ≤ line.indent := by simpa [Scope.isInside] using h
  omega

/-- The lines of a quote stand on their lines of the source. A line that stops the quote does not
belong to it, and a lazy one has no column. -/
theorem quoteExtent_stands (scope : Scope) (bound : Nat) (afterEmpty : Bool) {index : Nat}
    (hindex : index ≤ stop) (h : LinesStand source around lines stop) :
    let extent := quoteExtent scope stop bound index afterEmpty lines
    extent.next ≤ stop ∧ LinesStand source around extent.lines extent.next := by
  induction bound generalizing index afterEmpty lines with
  | zero => exact ⟨hindex, h.mono hindex⟩
  | succ bound ih =>
    rw [quoteExtent]
    dsimp only
    split
    · exact ⟨hindex, h.mono hindex⟩
    · next hgoes =>
      have hnext : index + 1 ≤ stop := by
        simp only [Bool.or_eq_true, decide_eq_true_eq, not_or] at hgoes
        omega
      split
      · next inner hinner =>
        obtain ⟨hunquote, hinside⟩ := Option.filter_eq_some_iff.mp hinner
        exact ih _ hnext (h.set fun _ hline => hline.unquote (zero_le_indent hinside) hunquote)
      · split
        · exact ⟨hindex, h.mono hindex⟩
        · split
          · refine ⟨hindex, fun other hother hfree => ?_⟩
            rw [line_setIfInBounds, if_neg fun heq => absurd heq.1 (Nat.ne_of_gt hother)]
            exact h.mono hindex other hother hfree
          · exact ih _ hnext (h.set fun _ _ => stands_of_neg (Int.negSucc_lt_zero 0))

theorem readQuote_yields {inside : BlockReader} (hinside : ReadsNested source keys inside)
    (hstart : start < stop) (hin : scope.isInside (lines.line start) = true)
    (h : Surrounds source around scope lines stop) {after : Blocks}
    (hread : readQuote inside scope lines start stop blocks = some after) :
    Yields source keys around blocks after := by
  unfold readQuote at hread
  dsimp only at hread
  split at hread
  · cases hread
  · obtain ⟨first, hfirst, hread⟩ := Option.bind_eq_some_iff.mp hread
    obtain rfl := Option.some.inj hread
    have hset := h.stand.set fun _ hline => hline.unquote (zero_le_indent hin) hfirst
    obtain ⟨-, hextent⟩ :=
      quoteExtent_stands scope (stop - start) first.isEmpty (Nat.succ_le_of_lt hstart) hset
    refine .wrap (.quote ?_ ?_) (hinside _ _ _ _ _ _ (.enter ?_ hextent))
    all_goals simp [MarkdownCheck.Token.opensQuote, MarkdownCheck.Token.closesQuote,
      MarkdownCheck.Token.opensItem]

/-! ## Lists -/

section

variable {inside : BlockReader} {marker : ListMarker}

/-- The token of an item or a list that starts on a line stands on that line. -/
theorem stands_of_startsLine {token : Token} {next : Nat} (hrange : token.range = span start next)
    (h : LinesStand source around lines stop) (hstart : start < stop)
    (hfree : StartsLine around (shown source keys token)) :
    Stands ((shown source keys token).line.map replaceNull) (lines.line start) := by
  have hnumber : (shown source keys token).lineNumber = some ((start : Int) + 1) := by
    rw [shown_lineNumber, hrange]
    rfl
  have hline : (shown source keys token).line = lineAt source (some ((start : Int) + 1)) := by
    rw [shown_line, hrange]
    rfl
  rw [hline]
  exact h start hstart fun outer houter hitem => hnumber ▸ hfree outer houter hitem

/-- What is inside an item is indented deeper than its marker. Only the line that it starts on
stands somewhere else inside. -/
theorem surrounds_item {opening : Token} {next : Nat} (hrange : opening.range = span start next)
    (hkind : opening.kind = "list_item_open") (hstart : start < stop)
    (hin : scope.isInside (lines.line start) = true)
    (hmarker : ListMarker.at? (lines.line start).content = some marker)
    (h : LinesStand source around lines stop) {inner : Scope}
    (hinner : inner.indent = ((lines.line start).enterItem marker).2) :
    Surrounds source (shown source keys opening :: around) inner
      (lines.setIfInBounds start ((lines.line start).enterItem marker).1) stop where
  stand index hindex hfree := by
    obtain ⟨hown, houter⟩ := List.forall_mem_cons.mp hfree
    have hother : start ≠ index := by
      rintro rfl
      refine hown (by simp [MarkdownCheck.Token.opensItem, hkind]) ?_
      rw [shown_lineNumber, hrange]
      rfl
    rw [line_setIfInBounds, if_neg fun heq => hother heq.1]
    exact h index hindex houter
  deeper item outer heq _ hfree := by
    obtain ⟨rfl, rfl⟩ := List.cons.inj heq
    have hstands := stands_of_startsLine hrange h hstart hfree
    obtain ⟨-, -, hle, -⟩ :=
      MarkdownCheck.Token.marker_of_stands hstands (zero_le_indent hin) hmarker
    have hdeep := (lines.line start).indent_lt_enterItem hmarker
    omega

theorem readItem_yields (blocks : Blocks) (hinside : ReadsNested source keys inside)
    {list : MarkdownCheck.Token} (hlist : list.opensList = true) (hstart : start < stop)
    (hin : scope.isInside (lines.line start) = true)
    (hmarker : ListMarker.at? (lines.line start).content = some marker)
    (h : LinesStand source (list :: around) lines stop) :
    Yields source keys (list :: around) blocks
      (readItem inside scope lines start stop marker blocks) := by
  rw [readItem]
  dsimp only
  refine .wrap (.item hlist ?_ ?_) ?_
  · simp [MarkdownCheck.Token.opensItem]
  · simp [MarkdownCheck.Token.closesItem]
  · split
    · exact .of_tokens_eq rfl
    · exact hinside _ _ _ _ _ _ (surrounds_item rfl rfl hstart hin hmarker h rfl)

/-- The marker of a following item is one of the same kind. -/
theorem at?_following {content : Text} {following : ListMarker}
    (h : (if marker.number.isSome then ListMarker.ordered? content
      else ListMarker.bullet? content) = some following) :
    ListMarker.at? content = some following := by
  rw [ListMarker.at?]
  split at h
  · rw [h]
    rfl
  · obtain ⟨-, hsign, rest, rfl, -⟩ := ListMarker.bullet?_eq_some h
    have hdigit : following.sign.isDigit = false := by
      rcases hsign with hsign | hsign | hsign <;> rw [hsign] <;> rfl
    have hordered : ListMarker.ordered? (following.sign :: rest) = none := by
      simp [ListMarker.ordered?, hdigit]
    rw [hordered, Option.none_or, h]

theorem readItems_yields (hinside : ReadsNested source keys inside) {list : MarkdownCheck.Token}
    (hlist : list.opensList = true) (h : LinesStand source (list :: around) lines stop)
    (bound : Nat) (hstart : start < stop) (hin : scope.isInside (lines.line start) = true)
    (hmarker : ListMarker.at? (lines.line start).content = some marker) :
    Yields source keys (list :: around) blocks
      (readItems inside scope lines stop bound start marker blocks) := by
  induction bound generalizing start marker blocks with
  | zero => exact .of_tokens_eq rfl
  | succ bound ih =>
    have hitem := readItem_yields blocks hinside hlist hstart hin hmarker h
    rw [readItems]
    dsimp only
    split
    · exact hitem
    · next hgoes =>
      simp only [Bool.or_eq_true, decide_eq_true_eq, Bool.not_eq_true', not_or, Nat.not_le,
        Bool.not_eq_false] at hgoes
      split
      · next following hfollowing =>
        split
        · exact hitem.trans (ih hgoes.1.1.1 hgoes.1.1.2 (at?_following hfollowing))
        · exact hitem
      · exact hitem

/-- A list is aligned whose marker the line shows. -/
theorem aligned_shown {token : Token} {next : Nat} (hrange : token.range = span start next)
    (hopens : token.kind = if marker.number.isSome then "ordered_list_open" else "bullet_list_open")
    (hmarkup : token.markup = [marker.sign]) (hstart : start < stop)
    (hin : scope.isInside (lines.line start) = true)
    (hmarker : ListMarker.at? (lines.line start).content = some marker)
    (h : Surrounds source around scope lines stop) :
    Aligned around (shown source keys token) := by
  have hstands (hfree : StartsLine around (shown source keys token)) :=
    MarkdownCheck.Token.marker_of_stands (stands_of_startsLine hrange h.stand hstart hfree)
      (zero_le_indent hin) hmarker
  constructor
  · intro hfree
    obtain ⟨hat, hblanks, -⟩ := hstands hfree
    refine ⟨marker, hat, hblanks, by rw [shown_markup, hmarkup], ?_⟩
    rw [MarkdownCheck.Token.opensBullets, shown_kind, hopens]
    cases marker.number <;> rfl
  · intro hfree htab item outer heq hitem hfirst
    obtain ⟨-, -, -, hcolumn⟩ := hstands hfree
    have hdeep := h.deeper item outer heq hitem hfirst
    have heq := hcolumn htab
    have hle : (scope.indent : Int) ≤ (lines.line start).indent := by
      simpa [Scope.isInside] using hin
    omega

theorem readList_yields (hinside : ReadsNested source keys inside) (hstart : start < stop)
    (hin : scope.isInside (lines.line start) = true) (h : Surrounds source around scope lines stop)
    {after : Blocks} (hread : readList inside scope lines start stop blocks = some after) :
    Yields source keys around blocks after := by
  obtain ⟨marker, hmarker, hread⟩ := Option.bind_eq_some_iff.mp hread
  have hat : ListMarker.at? (lines.line start).content = some marker := by
    rw [Scope.listMarker?] at hmarker
    split at hmarker
    · cases hmarker
    · exact (Option.filter_eq_some_iff.mp hmarker).1
  obtain rfl := Option.some.inj hread
  have hopens {opening : Token} (hkind : opening.kind =
      (if marker.number.isSome then "ordered_list" else "bullet_list") ++ "_open") :
      (shown source keys opening).opensList = true := by
    rw [MarkdownCheck.Token.opensList, shown_kind, hkind]
    cases marker.number <;> rfl
  refine .wrap (.list (hopens rfl) ?_ ?_) ?_
  · rw [MarkdownCheck.Token.closesList, shown_kind]
    cases marker.number <;> rfl
  · refine aligned_shown rfl ?_ rfl hstart hin hat h
    cases marker.number <;> rfl
  · exact readItems_yields hinside (hopens rfl) (h.stand.enter _) _ hstart hin hat

end

/-! ## All blocks -/

section

variable {inQuote inList : BlockReader} (hquote : ReadsNested source keys inQuote)
  (hlist : ReadsNested source keys inList)

include hquote hlist

theorem readBlock_yields (blocks : Blocks) (hstart : start < stop)
    (hin : scope.isInside (lines.line start) = true)
    (h : Surrounds source around scope lines stop) :
    Yields source keys around blocks
      (readBlock inQuote inList scope lines start stop blocks) := by
  -- the first reader that takes the line reads it, and a paragraph takes every line
  have hreaders : ∀ after, (readTable scope lines start stop blocks
      <|> readCode scope lines start stop blocks
      <|> readFence scope lines start stop blocks
      <|> readQuote inQuote scope lines start stop blocks
      <|> readBreak scope lines start blocks
      <|> readList inList scope lines start stop blocks
      <|> readDefinition scope lines start blocks
      <|> readHtml scope lines start stop blocks
      <|> readAtx scope lines start blocks
      <|> readSetext scope lines start stop blocks) = some after →
      Yields source keys around blocks after :=
    forall_orElse (fun _ => readTable_yields) <|
    forall_orElse (fun _ => readCode_yields) <|
    forall_orElse (fun _ => readFence_yields) <|
    forall_orElse (fun _ => readQuote_yields hquote hstart hin h) <|
    forall_orElse (fun _ => readBreak_yields) <|
    forall_orElse (fun _ => readList_yields hlist hstart hin h) <|
    forall_orElse (fun _ => readDefinition_yields) <|
    forall_orElse (fun _ => readHtml_yields) <|
    forall_orElse (fun _ => readAtx_yields) fun _ => readSetext_yields
  rw [readBlock]
  generalize (readTable scope lines start stop blocks <|> _) = found at hreaders ⊢
  cases found with
  | none => exact readParagraph_yields
  | some after => exact hreaders after rfl

theorem readEach_yields (h : Surrounds source around scope lines stop) (bound : Nat) :
    Yields source keys around blocks
      (readEach inQuote inList scope lines stop bound start blocks) := by
  induction bound generalizing start blocks with
  | zero => exact .of_tokens_eq rfl
  | succ bound ih =>
    rw [readEach]
    dsimp only
    split
    · exact .of_tokens_eq rfl
    · split
      · exact .of_tokens_eq rfl
      · next hgoes =>
        simp only [Bool.or_eq_true, decide_eq_true_eq, Bool.not_eq_true', not_or, Nat.not_le,
          Bool.not_eq_false] at hgoes
        have hblock := readBlock_yields hquote hlist
          { blocks with next := skipEmpty lines scope.limit start } hgoes.1 hgoes.2 h
        exact (Yields.of_tokens_eq rfl).trans (hblock.trans ((Yields.of_tokens_eq rfl).trans ih))

end

theorem skipBlocks_nested : ReadsNested source keys skipBlocks := by
  intro around scope lines start stop blocks _
  rw [skipBlocks]
  split
  · exact .of_tokens_eq rfl
  · split <;> exact .of_tokens_eq rfl

/-- **All blocks nest, and lists are aligned,** to whatever depth containers are read. -/
theorem readBlocks_nested (depth : Nat) : ReadsNested source keys (readBlocks depth) := by
  induction depth using Nat.strongRecOn with
  | ind depth ih =>
    intro around scope lines start stop blocks h
    match depth with
    | 0 => exact skipBlocks_nested _ _ _ _ _ _ h
    | 1 => exact readEach_yields skipBlocks_nested skipBlocks_nested h _
    | depth + 2 => exact readEach_yields (ih (depth + 1) (by omega)) (ih depth (by omega)) h _

end Markdown

end MarkdownCheck
