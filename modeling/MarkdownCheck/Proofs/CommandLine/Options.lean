import MarkdownCheck.CommandLine.Arguments
import MarkdownCheck.Proofs.Lookup

/-!
# The options among arguments

Options may stand anywhere between files, and what they say does not depend on the files.

- `Arguments.optionsFrom`: the options among arguments, each with its value.
- `CommandOption.KeepsFiles`: an option does the same whatever files have been read.
- `Arguments.alone`, `Arguments.read_alone`: the arguments that give the same options and one file.
-/

namespace MarkdownCheck

/-! ## Options and files -/

/-- The same arguments with other files. -/
def Arguments.withFiles (said : Arguments) (files : List Text) : Arguments :=
  { said with files }

/-- An option does the same whatever files there are. -/
def CommandOption.KeepsFiles : CommandOption → Prop
  | .withValue use => ∀ value said files,
      use value (Arguments.withFiles said files) = (use value said).withFiles files
  | .plain use => ∀ said files, use (Arguments.withFiles said files) = (use said).withFiles files

theorem keepsFiles_of_lookup {name : Text} {option : CommandOption}
    (h : longOptions.lookup name = some option) : option.KeepsFiles := by
  have hall : ∀ entry ∈ longOptions, entry.2.KeepsFiles := by
    simp [longOptions, CommandOption.KeepsFiles, Arguments.withFiles]
  exact hall _ (mem_of_lookup_eq_some h)

theorem useShort_withFiles (said : Arguments) (files : List Text) (names : Text) :
    useShort (said.withFiles files) names = (useShort said names).map (·.withFiles files) := by
  have hall : ∀ entry ∈ shortOptions, ∀ said files,
      entry.2 (Arguments.withFiles said files) = (entry.2 said).withFiles files := by
    simp [shortOptions, Arguments.withFiles]
  induction names generalizing said with
  | nil => rfl
  | cons name rest ih =>
    rw [useShort, useShort]
    cases hlookup : shortOptions.lookup name with
    | none => rfl
    | some use =>
      have huse := hall _ (mem_of_lookup_eq_some hlookup) said files
      dsimp only at huse ⊢
      rw [huse, ih]

theorem useOther_withFiles (said : Arguments) (files : List Text) (argument name : Text) :
    useOther (said.withFiles files) argument name =
      (useOther said argument name).map (·.withFiles files) := by
  unfold useOther
  split
  · rfl
  · exact useShort_withFiles ..

namespace Arguments

/-! ## Arguments without their files -/

/-- Whether an option has its value in the next argument. -/
def takesNext (argument : Text) : Bool :=
  match longOptions.lookup (splitValue argument).1, (splitValue argument).2 with
  | some (.withValue _), none => true
  | _, _ => false

/-- The options among arguments, each with its value; `inside` if the first argument is a value. -/
def optionsFrom : (inside : Bool) → List Text → List Text
  | _, [] => []
  | true, value :: rest => value :: optionsFrom false rest
  | false, argument :: rest =>
    if argument = ['-', '-'] then []
    else if isOption argument then argument :: optionsFrom (takesNext argument) rest
    else optionsFrom false rest

/-- Arguments with the same options and one file. -/
def alone (arguments : List Text) (file : Text) : List Text :=
  optionsFrom false arguments ++ [['-', '-'], file]

section

variable {argument : Text}

theorem alone_of_not_takesNext (hdashes : argument ≠ ['-', '-'])
    (hoption : isOption argument = true) (htakes : takesNext argument = false) (rest : List Text)
    (file : Text) : alone (argument :: rest) file = argument :: alone rest file := by
  rw [alone, optionsFrom, if_neg hdashes, if_pos hoption, htakes, List.cons_append, alone]

theorem alone_of_takesNext (hdashes : argument ≠ ['-', '-'])
    (hoption : isOption argument = true) (htakes : takesNext argument = true) (value : Text)
    (rest : List Text) (file : Text) :
    alone (argument :: value :: rest) file = argument :: value :: alone rest file := by
  rw [alone, optionsFrom, if_neg hdashes, if_pos hoption, htakes, optionsFrom, List.cons_append,
    List.cons_append, alone]

end

theorem readAfter_dashes (said : Arguments) (files : List Text) :
    readAfter said (['-', '-'] :: files) = .ok (said.withFiles (said.files ++ files)) := by
  rw [readAfter, if_pos rfl]
  rfl

/-- Options say the same in front of one file. -/
theorem readAfter_alone {said result : Arguments} {arguments : List Text}
    (h : readAfter said arguments = .ok result) (files : List Text) (file : Text) :
    readAfter (said.withFiles files) (alone arguments file) =
      .ok (result.withFiles (files ++ [file])) := by
  -- one case for each branch of the reader; one that ends in a fault has no result
  fun_induction readAfter said arguments generalizing result with
  | case1 said =>
    obtain rfl := Except.ok.inj h
    exact readAfter_dashes ..
  | case2 said rest =>
    obtain rfl := Except.ok.inj h
    rw [alone, optionsFrom, if_pos rfl]
    exact readAfter_dashes ..
  -- short options
  | case3 said argument rest hdashes hoption name value hsplit hlookup next huse ih =>
    have htakes : takesNext argument = false := by rw [takesNext, hsplit, hlookup]
    rw [alone_of_not_takesNext hdashes hoption htakes, readAfter]
    simp only [if_neg hdashes, if_pos hoption, hsplit, hlookup, useOther_withFiles, huse]
    exact ih h
  | case4 => cases h
  -- long options: without a value, with one of their own, and with the next argument
  | case5 said argument rest hdashes hoption name use hlookup hsplit ih =>
    have htakes : takesNext argument = false := by rw [takesNext, hsplit, hlookup]
    have huse := keepsFiles_of_lookup hlookup said files
    rw [alone_of_not_takesNext hdashes hoption htakes, readAfter]
    simp only [if_neg hdashes, if_pos hoption, hsplit, hlookup, huse]
    exact ih h
  | case6 => cases h
  | case7 said argument rest hdashes hoption name use value hlookup hsplit ih =>
    have htakes : takesNext argument = false := by rw [takesNext, hsplit, hlookup]
    have huse := keepsFiles_of_lookup hlookup value said files
    rw [alone_of_not_takesNext hdashes hoption htakes, readAfter]
    simp only [if_neg hdashes, if_pos hoption, hsplit, hlookup, huse]
    exact ih h
  | case8 said argument hdashes hoption name use hlookup value rest hsplit ih =>
    have htakes : takesNext argument = true := by rw [takesNext, hsplit, hlookup]
    have huse := keepsFiles_of_lookup hlookup value said files
    rw [alone_of_takesNext hdashes hoption htakes, readAfter]
    simp only [if_neg hdashes, if_pos hoption, hsplit, hlookup, huse]
    exact ih h
  | case9 => cases h
  | case10 said argument rest hdashes hoption ih =>
    rw [alone, optionsFrom, if_neg hdashes, if_neg hoption]
    exact ih h

/-- Arguments with one file in place of all others say the same about everything else. -/
theorem read_alone {said : Arguments} {arguments : List Text} (h : read arguments = .ok said)
    (file : Text) : read (alone arguments file) = .ok (said.withFiles [file]) :=
  readAfter_alone h [] file

end Arguments

end MarkdownCheck
