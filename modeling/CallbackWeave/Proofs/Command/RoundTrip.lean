import CallbackWeave.CommandView
import CallbackWeave.Proofs.Command.Grouping

/-!
Tokens and arguments are two forms of one command. Here it is said in full which lists of arguments
a command can have, by the spelling of each argument and without a look at how tokens are grouped.
The main statement says that these are the lists that grouping gives, that each of them comes from
its own tokens only, and that no token is lost or moved on the way.
-/

namespace CallbackWeave

namespace Argument

/-- An argument that lacks nothing, spelled as its kind asks. An option stands with a value if it is
one of those that take the following token, and otherwise without; only a lone hyphen among the
tokens that begin with one is no option. -/
def Whole : Argument → Prop
  | output value => value ≠ none
  | compileOnly => True
  | option flag (some _) => flag ∈ valueFlags
  | option flag none => flag.toList.head? = some '-' ∧ 1 < flag.length ∧
      flag ≠ "-o" ∧ flag ≠ "-c" ∧ flag ∉ valueFlags
  | positional token => token = "-" ∨ token.toList.head? ≠ some '-'

/-- Arguments that follow each other in a command: only behind the last one nothing is left that
could be its value. -/
structure Consecutive (arguments : List Argument) : Prop where
  front : ∀ a ∈ arguments.dropLast, a.Whole
  last : ∀ a ∈ arguments.getLast?, a.Whole ∨ a.Lacks

/-- A token has the form of an option if it begins with a hyphen and is more than that. -/
theorem isOption_iff (token : String) :
    isOption token = true ↔ token.toList.head? = some '-' ∧ token ≠ "-" := by
  have hLone : token = "-" ↔ token.toList = ['-'] := String.toList_inj.symm
  rw [isOption, ne_eq, hLone]
  split
  next hChars => simp [hChars]
  next hOther =>
    rcases hChars : token.toList with _ | ⟨first, _ | ⟨second, rest⟩⟩
    · simp
    · simp
    · have hFirst : first ≠ '-' := by
        rintro rfl
        exact hOther second rest hChars
      simp [hFirst]

theorem one_lt_length_of_isOption {flag : String} (hOption : isOption flag = true) :
    1 < flag.length := by
  unfold isOption at hOption
  split at hOption
  next hChars => simp [← String.length_toList, hChars]
  next => cases hOption

theorem whole_iff (a : Argument) : a.Whole ↔ a.Classified ∧ ¬ a.Lacks := by
  cases a with
  | output value => cases value <;> simp [Whole, Classified, Lacks]
  | compileOnly => simp [Whole, Classified, Lacks]
  | option flag value =>
      cases value with
      | some value => simp [Whole, Classified, Lacks]
      | none =>
          constructor
          · rintro ⟨hHyphen, hLength, hOutput, hCompile, hFlag⟩
            have hOption : isOption flag = true := by
              refine (isOption_iff flag).mpr ⟨hHyphen, ?_⟩
              rintro rfl
              exact absurd hLength (by decide)
            exact ⟨⟨hOption, hOutput, hCompile⟩, hFlag⟩
          · rintro ⟨⟨hOption, hOutput, hCompile⟩, hFlag⟩
            exact ⟨((isOption_iff flag).mp hOption).1, one_lt_length_of_isOption hOption, hOutput,
              hCompile, hFlag⟩
  | positional token =>
      have hOption : ¬ isOption token = true ↔ token = "-" ∨ token.toList.head? ≠ some '-' := by
        rw [isOption_iff, Classical.not_and_iff_not_or_not, Classical.not_not, or_comm]
      simpa [Whole, Classified, Lacks] using hOption.symm

/-- An argument that lacks its value is still told by its option. -/
theorem classified_of_lacks {a : Argument} (hLacks : a.Lacks) : a.Classified := by
  cases a with
  | output value => trivial
  | option flag value =>
      cases value with
      | none => exact isOption_of_mem_valueFlags flag hLacks
      | some value => cases hLacks
  | _ => cases hLacks

theorem classified_iff (a : Argument) : a.Classified ↔ a.Whole ∨ a.Lacks := by
  constructor
  · intro hKind
    by_cases hLacks : a.Lacks
    · exact Or.inr hLacks
    · exact Or.inl ((whole_iff a).mpr ⟨hKind, hLacks⟩)
  · rintro (hWhole | hLacks)
    · exact ((whole_iff a).mp hWhole).1
    · exact classified_of_lacks hLacks

/-- The arguments that follow each other are those whose kinds are told by their first tokens and
of which none but the last lacks its value. -/
theorem consecutive_iff (arguments : List Argument) :
    Consecutive arguments ↔ WellFormed arguments := by
  induction arguments with
  | nil => exact ⟨fun _ => .nil, fun _ => ⟨by simp, by simp⟩⟩
  | cons a rest ih =>
      rw [WellFormed.cons_iff, ← ih]
      rcases rest with _ | ⟨b, others⟩
      · constructor
        · rintro ⟨-, hLast⟩
          exact ⟨(classified_iff a).mpr (hLast a rfl), Or.inl rfl, by simp, by simp⟩
        · rintro ⟨hKind, -, -⟩
          exact ⟨by simp, by simpa using (classified_iff a).mp hKind⟩
      · constructor
        · rintro ⟨hFront, hLast⟩
          obtain ⟨hFirst, hOthers⟩ := List.forall_mem_cons.mp hFront
          obtain ⟨hKind, hSettled⟩ := (whole_iff a).mp hFirst
          exact ⟨hKind, Or.inr hSettled, hOthers, hLast⟩
        · rintro ⟨hKind, hSettled, hFront, hLast⟩
          have hFirst : a.Whole :=
            (whole_iff a).mpr ⟨hKind, hSettled.resolve_left (List.cons_ne_nil b others)⟩
          exact ⟨List.forall_mem_cons.mpr ⟨hFirst, hFront⟩, hLast⟩

/-- A list of arguments comes back from its own tokens exactly if a command can have it. -/
theorem group_flatMap_tokens_iff (arguments : List Argument) :
    group (arguments.flatMap tokens) = arguments ↔ Consecutive arguments := by
  rw [consecutive_iff]
  constructor
  · intro hSame
    rw [← hSame]
    exact wellFormed_group _
  · exact group_flatMap_tokens

end Argument

namespace CommandView

/-- The command as recorded is there for every command that has tokens, and is these tokens. -/
theorem exists_raw_iff (c : CompileCommand) (words : List String) :
    (∃ view, ofCommand c = .ok view ∧ view.raw = words) ↔
      c.tokens? = some words ∧ words ≠ [] := by
  constructor
  · rintro ⟨view, hView, rfl⟩
    unfold ofCommand at hView
    split at hView
    next => cases hView
    next => cases hView
    next program rest hTokens =>
      obtain rfl := Except.ok.inj hView
      rw [hTokens, raw, assemble, Argument.flatMap_tokens_group]
      exact ⟨rfl, List.cons_ne_nil program rest⟩
  · rintro ⟨hTokens, hSome⟩
    obtain ⟨program, rest, rfl⟩ := List.exists_cons_of_ne_nil hSome
    refine ⟨_, ofCommand_of_tokens? hTokens, ?_⟩
    rw [raw, assemble, Argument.flatMap_tokens_group]

end CommandView

namespace Argument

/-- Grouping and writing undo each other: on all tokens, and on all arguments that can follow each
other. So the command as recorded is the tokens that were recorded. -/
theorem group_inverse_tokens :
    (∀ words, (group words).flatMap tokens = words ∧ Consecutive (group words)) ∧
      (∀ arguments, Consecutive arguments ↔ group (arguments.flatMap tokens) = arguments) ∧
      ∀ (c : CompileCommand) (words : List String),
        (∃ view, CommandView.ofCommand c = .ok view ∧ view.raw = words) ↔
          c.tokens? = some words ∧ words ≠ [] := by
  refine ⟨fun words => ⟨flatMap_tokens_group words, ?_⟩, fun arguments => ?_,
    CommandView.exists_raw_iff⟩
  · exact (consecutive_iff _).mpr (wellFormed_group words)
  · exact (group_flatMap_tokens_iff arguments).symm

/-- A value may be spelled like any option, and nothing tells the lone hyphen and the empty token
from other arguments. -/
example :
    group ["-o", "-c", "-I", "-o", "-", "", "-Wall", "-x"] =
      [.output (some "-c"), .option "-I" (some "-o"), .positional "-", .positional "",
        .option "-Wall" none, .option "-x" none] := by
  decide +kernel

end Argument

end CallbackWeave
