import MarkdownCheck.Proofs.Fence.Scan
import MarkdownCheck.Proofs.General

/-!
# Fence contexts under any calls

A context may be asked in any order to open a block and to close one. What it accepts is an opening,
a closing, an opening and so on, and all it knows is the block that is open.

- `FenceCall`: what a context may be asked for; `FenceContext.Accepts`: what it agrees to.
- `FenceLog`: the calls that a context has accepted, and the context; `FenceLog.callAll`: calls one
  after the other.
- `FencesInTurn`: accepted calls with the context that they leave.
- `FencesInTurn.call_cases`: one call more; `FencesInTurn.exists_callAll`: any number of them.
- `fenceCalls_alternate`: which calls are accepted, and what the context knows.
-/

namespace MarkdownCheck

/-- What a fence context may be asked for. -/
inductive FenceCall where
  /-- To open a block at a line. -/
  | opening (line : Text) (index : Int)
  /-- To close the open block at a line. -/
  | closing (line : Text)
deriving DecidableEq, Repr

/-- Whether a call is to open a block. -/
def FenceCall.isOpening : FenceCall → Bool
  | .opening _ _ => true
  | .closing _ => false

namespace FenceContext

/-- The answer to a call: the context behind it, `none` when the call is refused. -/
def answer (context : FenceContext) : FenceCall → Except FenceFailure (Option FenceContext)
  | .opening line index => .ok (context.open? line index)
  | .closing line => context.close line

/-- When a call is accepted: outside blocks an opening at a fence, inside a block a closing at a
fence of the same character, whatever the lengths of the two. -/
def Accepts (context : FenceContext) : FenceCall → Prop
  | .opening line _ => context.fence = none ∧ (Fence.run? line).isSome
  | .closing line => ∃ run mark, context.fence = some run ∧ run.head? = some mark ∧
      Fence.mark? line = some mark

/-- Outside blocks any fence opens one. -/
theorem answer_outside (call : FenceCall) :
    answer {} call = .ok (match call with
      | .opening line index => (Fence.run? line).map fun run => ⟨some run, index⟩
      | .closing _ => none) := by
  cases call with
  | opening line index => rfl
  | closing line => rfl

/-- Inside a block a fence of the same character closes it. -/
theorem answer_inside {run : Text} {mark : Char} (hrun : run.head? = some mark) (start : Int)
    (call : FenceCall) :
    answer ⟨some run, start⟩ call = .ok (match call with
      | .opening _ _ => none
      | .closing line => if Fence.mark? line = some mark then some {} else none) := by
  cases call with
  | opening line index => rfl
  | closing line =>
    have hne : run ≠ [] := by
      rintro rfl
      cases hrun
    have hclose : close? ⟨some run, start⟩ line =
        if Fence.mark? line = some mark then some {} else none := by
      cases hown : Fence.run? line with
      | none => simp [close?, Fence.mark?, hown]
      | some own => simp [close?, Fence.mark?, hown, hrun]
    simp [answer, close, hne, hclose]

end FenceContext

/-- The calls that a context has accepted so far, in order, and the context. -/
structure FenceLog where
  accepted : List FenceCall := []
  context : FenceContext := {}
deriving DecidableEq, Repr

namespace FenceLog

/-- One call. A context that refuses it stays as it is. -/
def call (log : FenceLog) (call : FenceCall) : Except FenceFailure FenceLog :=
  (log.context.answer call).map fun
    | none => log
    | some next => ⟨log.accepted ++ [call], next⟩

/-- Calls one after the other. -/
def callAll (log : FenceLog) (calls : List FenceCall) : Except FenceFailure FenceLog :=
  calls.foldlM call log

end FenceLog

/-! ## Accepted calls -/

/-- Accepted calls in order, with the context that they leave a fresh one in. -/
inductive FencesInTurn : List FenceCall → FenceContext → Prop
  | fresh : FencesInTurn [] {}
  /-- Outside blocks a fence opens one. -/
  | opened {accepted : List FenceCall} {line run : Text} (h : FencesInTurn accepted {})
    (hrun : Fence.run? line = some run) (index : Int) :
    FencesInTurn (accepted ++ [.opening line index]) ⟨some run, index⟩
  /-- Inside a block a fence of the same character closes it. -/
  | closed {accepted : List FenceCall} {line run : Text} {index : Int} {mark : Char}
    (h : FencesInTurn accepted ⟨some run, index⟩) (hrun : run.head? = some mark)
    (hline : Fence.mark? line = some mark) :
    FencesInTurn (accepted ++ [.closing line]) {}

namespace FencesInTurn

variable {accepted : List FenceCall} {context : FenceContext} {log : FenceLog}

/-- A block that is open was opened by the last call. -/
theorem exists_opening {run : Text} {index : Int} (h : FencesInTurn accepted ⟨some run, index⟩) :
    ∃ before line, accepted = before ++ [.opening line index] ∧ Fence.run? line = some run := by
  cases h with
  | opened h hrun => exact ⟨_, _, rfl, hrun⟩

/-- A context is outside blocks or holds the fence of one. -/
theorem context_cases (h : FencesInTurn accepted context) :
    context = {} ∨ ∃ run index mark, context = ⟨some run, index⟩ ∧ run.head? = some mark := by
  cases h with
  | fresh => exact .inl rfl
  | opened h hrun index =>
    obtain ⟨mark, hmark, -⟩ := Fence.exists_mark_of_run? hrun
    exact .inr ⟨_, index, mark, rfl, hmark⟩
  | closed => exact .inl rfl

/-- A context knows the fence and the index of the last call if that has opened a block, and else
nothing. -/
theorem context_eq (h : FencesInTurn accepted context) :
    context = match accepted.getLast? with
      | some (.opening line index) => ⟨Fence.run? line, index⟩
      | _ => ⟨none, -1⟩ := by
  cases h with
  | fresh => rfl
  | opened h hrun index =>
    rw [List.getLast?_concat, ← hrun]
  | closed => rw [List.getLast?_concat]

/-- Calls in even places open blocks and calls in odd places close them. -/
theorem alternate (h : FencesInTurn accepted context) :
    (accepted.length % 2 = 0 ↔ context.fence = none) ∧
      ∀ i call, accepted[i]? = some call → (call.isOpening = true ↔ i % 2 = 0) := by
  induction h with
  | fresh =>
    constructor
    · exact iff_of_true rfl rfl
    · intro i call hcall
      cases hcall
  | opened h hrun index ih =>
    obtain ⟨hlength, hbefore⟩ := ih
    have heven := hlength.mpr rfl
    constructor
    · rw [List.length_append, List.length_singleton]
      exact iff_of_false (by omega) (Option.some_ne_none _)
    · intro i call hcall
      rcases getElem?_concat_eq_some hcall with hcall | ⟨rfl, rfl⟩
      · exact hbefore i call hcall
      · exact iff_of_true rfl heven
  | closed h hrun hline ih =>
    obtain ⟨hlength, hbefore⟩ := ih
    have hodd := mt hlength.mp (Option.some_ne_none _)
    constructor
    · rw [List.length_append, List.length_singleton]
      exact iff_of_true (by omega) rfl
    · intro i call hcall
      rcases getElem?_concat_eq_some hcall with hcall | ⟨rfl, rfl⟩
      · exact hbefore i call hcall
      · exact iff_of_false Bool.false_ne_true hodd

/-- The call at a place opens a block at a fence of the same character as that of a line. -/
def OpensFor (accepted : List FenceCall) (i : Nat) (line : Text) : Prop :=
  ∃ opener index mark, accepted[i]? = some (.opening opener index) ∧
    Fence.mark? opener = some mark ∧ Fence.mark? line = some mark

theorem OpensFor.concat {i : Nat} {line : Text} (h : OpensFor accepted i line) (last : FenceCall) :
    OpensFor (accepted ++ [last]) i line := by
  obtain ⟨opener, index, mark, hopening, hmarks⟩ := h
  have hlt := (List.getElem?_eq_some_iff.mp hopening).1
  exact ⟨opener, index, mark, (List.getElem?_append_left hlt).trans hopening, hmarks⟩

/-- A call that closes a block comes right behind the one that has opened it. -/
theorem opensFor_of_closing (h : FencesInTurn accepted context) {i : Nat} {line : Text}
    (hclosing : accepted[i + 1]? = some (.closing line)) : OpensFor accepted i line := by
  induction h with
  | fresh => cases hclosing
  | opened h hrun index ih =>
    rcases getElem?_concat_eq_some hclosing with hbefore | ⟨-, hlast⟩
    · exact (ih hbefore).concat _
    · cases hlast
  | @closed accepted line run index mark h hrun hline ih =>
    rcases getElem?_concat_eq_some hclosing with hbefore | ⟨hi, hlast⟩
    · exact (ih hbefore).concat _
    · cases hlast
      obtain ⟨before, opener, rfl, hopener⟩ := h.exists_opening
      rw [List.length_append, List.length_singleton, Nat.add_right_cancel_iff] at hi
      refine OpensFor.concat ⟨opener, index, mark, ?_, ?_, hline⟩ _
      · rw [hi]
        exact List.getElem?_concat_length
      · rw [Fence.mark?, hopener]
        exact hrun

/-! ## Calls -/

/-- **One call.** It is accepted if it should be, and then the accepted calls with it are in turn
again. -/
theorem answer_cases (h : FencesInTurn accepted context) (call : FenceCall) :
    (context.Accepts call ∧ ∃ next, context.answer call = .ok (some next) ∧
      FencesInTurn (accepted ++ [call]) next) ∨
    (¬ context.Accepts call ∧ context.answer call = .ok none) := by
  rcases h.context_cases with rfl | ⟨run, index, mark, rfl, hrun⟩
  · rw [FenceContext.answer_outside]
    cases call with
    | opening line index =>
      dsimp only
      cases hline : Fence.run? line with
      | none =>
        refine .inr ⟨?_, rfl⟩
        rintro ⟨-, hfence⟩
        rw [hline] at hfence
        cases hfence
      | some run => exact .inl ⟨⟨rfl, by rw [hline]; rfl⟩, _, rfl, h.opened hline index⟩
    | closing line =>
      refine .inr ⟨?_, rfl⟩
      rintro ⟨_, _, hopen, -⟩
      cases hopen
  · rw [FenceContext.answer_inside hrun]
    cases call with
    | opening line start =>
      refine .inr ⟨?_, rfl⟩
      rintro ⟨hclosed, -⟩
      cases hclosed
    | closing line =>
      dsimp only
      split
      · next hline => exact .inl ⟨⟨run, mark, rfl, hrun, hline⟩, {}, rfl, h.closed hrun hline⟩
      · next hline =>
        refine .inr ⟨?_, rfl⟩
        rintro ⟨_, other, hopen, hother, hclosing⟩
        cases hopen
        rw [hrun] at hother
        exact hline (hother ▸ hclosing)

theorem call_cases (h : FencesInTurn log.accepted log.context) (call : FenceCall) :
    (log.context.Accepts call ∧ ∃ next, log.call call = .ok ⟨log.accepted ++ [call], next⟩ ∧
      FencesInTurn (log.accepted ++ [call]) next) ∨
    (¬ log.context.Accepts call ∧ log.call call = .ok log) := by
  rcases h.answer_cases call with ⟨haccepts, next, hanswer, hnext⟩ | ⟨hrefuses, hanswer⟩
  · exact .inl ⟨haccepts, next, by rw [FenceLog.call, hanswer]; rfl, hnext⟩
  · exact .inr ⟨hrefuses, by rw [FenceLog.call, hanswer]; rfl⟩

/-- **Any calls.** None of them fails, and those that are accepted are in turn. -/
theorem exists_callAll (h : FencesInTurn log.accepted log.context) (calls : List FenceCall) :
    ∃ next, log.callAll calls = .ok next ∧ FencesInTurn next.accepted next.context := by
  induction calls generalizing log with
  | nil => exact ⟨log, rfl, h⟩
  | cons call rest ih =>
    rw [FenceLog.callAll, List.foldlM_cons]
    rcases h.call_cases call with ⟨-, next, hcall, hnext⟩ | ⟨-, hcall⟩
    · -- the rest is asked of the context that has accepted the call
      rw [hcall]
      exact ih hnext
    · rw [hcall]
      exact ih h

end FencesInTurn

/-- **Fences under any calls.** Whatever a fresh context is asked for, it never fails. The calls
that it accepts open a block and close it in turn; one that closes a block has a fence of the same
character as the one before it, which has opened the block. The context is inside a block after an
odd number of accepted calls; then it holds the fence and the index of the last one, and otherwise
nothing. A further call is accepted outside blocks if it opens one at a fence, and inside a block if
it closes this at a fence of the same character; if it is refused, everything stays as it is. -/
theorem fenceCalls_alternate (calls : List FenceCall) :
    ∃ log, FenceLog.callAll {} calls = .ok log ∧
      (∀ i call, log.accepted[i]? = some call → (call.isOpening = true ↔ i % 2 = 0)) ∧
      (∀ i line, log.accepted[i + 1]? = some (.closing line) →
        ∃ opener index mark, log.accepted[i]? = some (.opening opener index) ∧
          Fence.mark? opener = some mark ∧ Fence.mark? line = some mark) ∧
      (log.context.fence.isSome ↔ log.accepted.length % 2 = 1) ∧
      log.context = (match log.accepted.getLast? with
        | some (.opening line index) => ⟨Fence.run? line, index⟩
        | _ => ⟨none, -1⟩) ∧
      ∀ call,
        (log.context.Accepts call ∧
          ∃ next, log.call call = .ok ⟨log.accepted ++ [call], next⟩) ∨
        (¬ log.context.Accepts call ∧ log.call call = .ok log) := by
  have hfresh : FencesInTurn ({} : FenceLog).accepted ({} : FenceLog).context := .fresh
  obtain ⟨log, hlog, hturns⟩ := hfresh.exists_callAll calls
  obtain ⟨heven, halternate⟩ := hturns.alternate
  refine ⟨log, hlog, halternate, ?_, ?_, hturns.context_eq, ?_⟩
  · intro i line hclosing
    exact hturns.opensFor_of_closing hclosing
  · rw [← not_iff_not, Option.not_isSome_iff_eq_none, ← heven]
    omega
  · intro call
    rcases hturns.call_cases call with ⟨haccepts, next, hcall, -⟩ | hrefuses
    · exact .inl ⟨haccepts, next, hcall⟩
    · exact .inr hrefuses

/-- A shorter fence closes a block, one of the other character neither closes it nor opens
another. -/
example : FenceLog.callAll {} [.opening "~~~~".toList 2, .opening "```".toList 3,
    .closing "```".toList, .closing " ~~~ x".toList] =
      .ok ⟨[.opening "~~~~".toList 2, .closing " ~~~ x".toList], {}⟩ := by
  rfl

end MarkdownCheck
