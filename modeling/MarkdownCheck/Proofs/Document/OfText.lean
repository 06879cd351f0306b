import MarkdownCheck.Document.OfText

/-!
# What a document is read from

- `exists_tokens_of_ofText`: the parts of a document that has been read.
- `ofText_frontMatter`: the lines taken off play no part in reading the rest.
-/

namespace MarkdownCheck

/-- A document has the lines of its text, and its tokens are those of the parser. -/
theorem exists_tokens_of_ofText {content name : Text} {matter : List Text} {document : Document}
    (h : Document.ofText content name matter = .ok document) :
    ∃ tokens, Markdown.tokens content = .ok tokens ∧
      document = ⟨content.lines, tokens.map (Token.ofParsed content.lines), name, matter⟩ := by
  rw [Document.ofText] at h
  cases htokens : Markdown.tokens content with
  | error failure =>
    rw [htokens] at h
    cases h
  | ok tokens =>
    rw [htokens] at h
    cases h
    exact ⟨tokens, rfl, rfl⟩

/-- Front matter is all that tells the document behind it from one that has none. -/
theorem ofText_frontMatter (content name : Text) (matter : List Text) :
    Document.ofText content name matter =
      (Document.ofText content name []).map fun document =>
        { document with frontMatter := matter } := by
  rw [Document.ofText, Document.ofText]
  cases Markdown.tokens content <;> rfl

end MarkdownCheck
