import MarkdownCheck.Log

/-!
# Laws of logged computations

Logging and failing combine as they should:

- the laws of a monad hold for `Logged`;
- `Logged.map_eq`: a function changes the value and nothing else;
- `Logged.mem_log_bind`: where an entry of two computations comes from.
-/

namespace MarkdownCheck.Logged

variable {ε α β : Type}

theorem bind_eq_of_ok {first : Logged ε α} {value : α} (h : first.result = .ok value)
    (next : α → Logged ε β) :
    first >>= next = ⟨first.log ++ (next value).log, (next value).result⟩ := by
  show Logged.bind first next = _
  rw [Logged.bind, h]

theorem bind_eq_of_error {first : Logged ε α} {cause : ε} (h : first.result = .error cause)
    (next : α → Logged ε β) : first >>= next = ⟨first.log, .error cause⟩ := by
  show Logged.bind first next = _
  rw [Logged.bind, h]

theorem ofExcept_ok_bind (value : α) (next : α → Logged ε β) :
    ofExcept (.ok value) >>= next = next value := by
  rw [bind_eq_of_ok rfl]
  rfl

theorem ofExcept_error_bind (cause : ε) (next : α → Logged ε β) :
    ofExcept (.error cause) >>= next = fail cause :=
  rfl

theorem pure_eq (value : α) : (pure value : Logged ε α) = ⟨[], .ok value⟩ :=
  rfl

/-- A function changes the value and nothing else. -/
theorem map_eq (f : α → β) (run : Logged ε α) : f <$> run = ⟨run.log, run.result.map f⟩ := by
  show Logged.bind run (fun value => Logged.pure (f value)) = _
  cases h : run.result with
  | error cause => rw [Logged.bind, h, Except.map]
  | ok value =>
    rw [Logged.bind, h]
    show (⟨run.log ++ [], .ok (f value)⟩ : Logged ε β) = _
    rw [List.append_nil]
    rfl

instance : LawfulMonad (Logged ε) :=
  LawfulMonad.mk' (Logged ε)
    (fun run => by
      obtain ⟨log, result⟩ := run
      cases result <;> rw [map_eq] <;> rfl)
    (fun value next => by rw [pure_eq, bind_eq_of_ok rfl, List.nil_append])
    (fun run next after => by
      cases h : run.result with
      | error cause =>
        rw [bind_eq_of_error h, bind_eq_of_error rfl, bind_eq_of_error h]
      | ok value =>
        rw [bind_eq_of_ok h, bind_eq_of_ok h]
        cases h' : (next value).result with
        | error cause => rw [bind_eq_of_error rfl, bind_eq_of_error h']
        | ok other => rw [bind_eq_of_ok rfl, bind_eq_of_ok h', List.append_assoc])

/-- What two computations log, the first one has logged or the second one. -/
theorem mem_log_bind {first : Logged ε α} {next : α → Logged ε β} {entry : LogEntry}
    (h : entry ∈ (first >>= next).log) :
    entry ∈ first.log ∨ ∃ value, first.result = .ok value ∧ entry ∈ (next value).log := by
  cases hresult : first.result with
  | error cause =>
    rw [bind_eq_of_error hresult] at h
    exact .inl h
  | ok value =>
    rw [bind_eq_of_ok hresult] at h
    exact (List.mem_append.mp h).imp_right fun h => ⟨value, rfl, h⟩

theorem mapError_eq {δ : Type} (tell : ε → δ) (run : Logged ε α) :
    run.mapError tell = ⟨run.log, run.result.mapError tell⟩ := by
  rw [mapError]
  cases run.result <;> rfl

end MarkdownCheck.Logged
