import MarkdownCheck.Text.Basic

/-!
# Logged computations

- `LogEntry`: a message with its level.
- `Logged`: a computation that may fail, with the entries that it has logged up to its end or its
  failure.
-/

namespace MarkdownCheck

/-- How important a log entry is. -/
inductive Level where
  | debug
  | warning
deriving DecidableEq, Repr

/-- The name of a level. -/
def Level.name : Level → String
  | .debug => "DEBUG"
  | .warning => "WARNING"

/-- A message with its level. -/
structure LogEntry where
  level : Level
  message : Text
deriving DecidableEq, Repr

/-- What a computation has logged and how it has ended. -/
structure Logged (ε α : Type) where
  log : List LogEntry
  result : Except ε α

namespace Logged

variable {ε α β : Type}

/-- A value, with nothing logged. -/
protected def pure (value : α) : Logged ε α :=
  ⟨[], .ok value⟩

/-- A failure, with nothing logged. -/
def fail (cause : ε) : Logged ε α :=
  ⟨[], .error cause⟩

/-- One entry. -/
def entry (level : Level) (message : Text) : Logged ε Unit :=
  ⟨[⟨level, message⟩], .ok ()⟩

/-- One computation after another. A failure ends them, and what was logged stays. -/
protected def bind (first : Logged ε α) (next : α → Logged ε β) : Logged ε β :=
  match first.result with
  | .error cause => ⟨first.log, .error cause⟩
  | .ok value => ⟨first.log ++ (next value).log, (next value).result⟩

instance : Monad (Logged ε) where
  pure := Logged.pure
  bind := Logged.bind

/-- An outcome, with nothing logged. -/
def ofExcept (result : Except ε α) : Logged ε α :=
  ⟨[], result⟩

/-- The same computation with its failure told in other terms. -/
def mapError {δ : Type} (tell : ε → δ) (run : Logged ε α) : Logged δ α :=
  match run.result with
  | .ok value => ⟨run.log, .ok value⟩
  | .error cause => ⟨run.log, .error (tell cause)⟩

end Logged

end MarkdownCheck
