import CallbackWeave.Proofs.Command.SourceToken
import Mathlib.Data.List.Flatten

/-!
What a token is depends on the token before it: an option may take it for its value. So it has to be
said that nothing becomes something else when tokens before it are left out. The main statement says
of each view that, read again, it has the arguments that it should have, and that its tokens are
tokens of the command, in order, each with the part that it played there.
-/

namespace CallbackWeave

/-- The part that a token plays in a command. -/
inductive Role where
  | option
  /-- The value of the option before it. -/
  | value (flag : String)
  | positional
deriving DecidableEq, Repr

namespace Argument

/-- The tokens of an argument, each with its part. -/
def roles : Argument → List (String × Role)
  | output value => ("-o", .option) :: value.toList.map fun token => (token, .value "-o")
  | compileOnly => [("-c", .option)]
  | option flag value => (flag, .option) :: value.toList.map fun token => (token, .value flag)
  | positional token => [(token, .positional)]

/-- Tokens as they are read, each with its part. -/
def reading (words : List String) : List (String × Role) := (group words).flatMap roles

theorem map_fst_roles (a : Argument) : a.roles.map Prod.fst = a.tokens := by
  cases a <;> simp [roles, tokens, Function.comp_def]

/-- Every token plays one part. -/
theorem map_fst_reading (words : List String) : (reading words).map Prod.fst = words := by
  rw [reading, List.map_flatMap, List.flatMap_congr fun a _ => map_fst_roles a,
    flatMap_tokens_group]

/-- Some arguments of a command, read from their tokens, are these arguments again. -/
theorem group_flatMap_of_sublist {words : List String} {kept : List Argument}
    (hKept : kept.Sublist (group words)) : group (kept.flatMap tokens) = kept :=
  group_flatMap_tokens ((wellFormed_group words).sublist hKept)

theorem reading_sublist {words : List String} {kept : List Argument}
    (hKept : kept.Sublist (group words)) :
    (reading (kept.flatMap tokens)).Sublist (reading words) := by
  rw [reading, group_flatMap_of_sublist hKept]
  exact hKept.flatMap roles

end Argument

/-- A view of some recorded tokens has these arguments of theirs, and each as it was. -/
structure Shows (recorded view : List String) (arguments : List Argument) : Prop where
  program : view.head? = recorded.head?
  /-- Read again, the tokens of the view are these arguments. No option has lost its value or found
  another one. -/
  arguments : Argument.group (view.drop 1) = arguments
  /-- No token plays another part than before. -/
  parts : (Argument.reading (view.drop 1)).Sublist (Argument.reading (recorded.drop 1))

namespace CommandView

variable {c : CompileCommand} {view : CommandView} {fs : FileSystem}

/-- Whichever arguments are left out, the others are shown as they were. -/
theorem shows_assemble (view : CommandView) {program : String} {rest : List String}
    {kept : List Argument} (hProgram : view.program = program)
    (hKept : kept.Sublist (Argument.group rest)) :
    Shows (program :: rest) (view.assemble kept) kept where
  program := congrArg some hProgram
  arguments := Argument.group_flatMap_of_sublist hKept
  parts := Argument.reading_sublist hKept

/-- A command without its output stays as it is when the output is left out. -/
theorem noOutput_of_tokens? {again : CompileCommand} (hAgain : again.tokens? = some view.noOutput)
    (hFormed : Argument.WellFormed view.arguments) :
    ∃ other, ofCommand again = .ok other ∧ other.noOutput = view.noOutput := by
  refine ⟨_, ofCommand_of_tokens? hAgain, ?_⟩
  have hGroup : Argument.group (view.withoutOutput.flatMap Argument.tokens) = view.withoutOutput :=
    Argument.group_flatMap_tokens (hFormed.filter _)
  have hStays : view.withoutOutput.filter (!·.isOutput) = view.withoutOutput := by
    simp [withoutOutput, List.filter_filter]
  calc view.assemble ((Argument.group (view.withoutOutput.flatMap Argument.tokens)).filter
          (!·.isOutput))
      = view.assemble view.withoutOutput := by rw [hGroup, hStays]
    _ = view.noOutput := rfl

/-- The views of a command: without its output, it has all arguments that do not name it; reduced
for the preprocessor, all but these, the compilations and the one argument that names the source. A
command made from the former view, by its tokens or by a line, is without its output already. -/
theorem views_keep_roles (c : CompileCommand) (fs : FileSystem) {program : String}
    {rest : List String} (hTokens : c.tokens? = some (program :: rest)) :
    ∃ view, ofCommand c = .ok view ∧
      Shows (program :: rest) view.noOutput ((Argument.group rest).filter (!·.isOutput)) ∧
      (∀ tokens, view.compilerOnly fs = .ok tokens → ∃ before source after,
        Argument.group rest = before ++ .positional source :: after ∧
        c.IsSource fs (.positional source) ∧ (∀ a ∈ before ++ after, ¬ c.IsSource fs a) ∧
        Shows (program :: rest) tokens ((before ++ after).filter fun a =>
          !a.isOutput && a ≠ .compileOnly)) ∧
      ∀ again : CompileCommand, again.tokens? = some view.noOutput →
        ∃ other, ofCommand again = .ok other ∧ other.noOutput = view.noOutput := by
  have hView := ofCommand_of_tokens? hTokens
  have hRecorded : c.recorded = Argument.group rest := by simp [CompileCommand.recorded, hTokens]
  refine ⟨_, hView, shows_assemble _ rfl List.filter_sublist, fun tokens hLeft => ?_,
    fun again hAgain => noOutput_of_tokens? hAgain (Argument.wellFormed_group rest)⟩
  obtain ⟨before, source, after, hSplit, hSource, hOthers, hShown, -⟩ :=
    (reduces_of_compilerOnly hView hLeft).tokens_eq
  rw [hRecorded] at hSplit
  refine ⟨before, source, after, hSplit, hSource, hOthers, ?_⟩
  have hKept : (before ++ after).Sublist (Argument.group rest) := by
    rw [hSplit]
    exact (List.sublist_cons_self _ _).append_left before
  rw [hShown, ← Argument.filter_stays]
  exact shows_assemble ⟨c, program, _⟩ rfl (List.filter_sublist.trans hKept)

theorem views_keep_roles_including :
    including.tokens? =
      some ["cc", "-c", "-include", "a.c", "-D", "-o", "-o", "a.o", "a.c", "-c"] ∧
    ∃ view, ofCommand including = .ok view ∧
      view.compilerOnly ⟨.sample, .sample "a.c"⟩ = .ok ["cc", "-include", "a.c", "-D", "-o"] ∧
      Shows ["cc", "-c", "-include", "a.c", "-D", "-o", "-o", "a.o", "a.c", "-c"] view.noOutput
        [.compileOnly, .option "-include" (some "a.c"), .option "-D" (some "-o"),
          .positional "a.c", .compileOnly] ∧
      Shows ["cc", "-c", "-include", "a.c", "-D", "-o", "-o", "a.o", "a.c", "-c"]
        ["cc", "-include", "a.c", "-D", "-o"]
        [.option "-include" (some "a.c"), .option "-D" (some "-o")] ∧
      ∃ again other, again.tokens? = some view.noOutput ∧ ofCommand again = .ok other ∧
        other.noOutput = view.noOutput := by
  obtain ⟨view, hView, hWithout, hReduced, hAgain⟩ :=
    views_keep_roles including ⟨.sample, .sample "a.c"⟩ rfl
  have hLeft := compilerOnly_including hView
  obtain ⟨before, source, after, -, -, -, hShown⟩ := hReduced _ hLeft
  have hRead : Argument.group ["-include", "a.c", "-D", "-o"] =
      [.option "-include" (some "a.c"), .option "-D" (some "-o")] := by decide +kernel
  obtain ⟨other, hOther, hSame⟩ := hAgain ⟨⟨"/work"⟩, ⟨"a.c"⟩, none, some view.noOutput⟩ rfl
  refine ⟨rfl, view, hView, hLeft, ?_, ?_, _, other, rfl, hOther, hSame⟩
  · convert hWithout using 1
    decide +kernel
  · rwa [← hShown.arguments, List.drop_one, List.tail_cons, hRead] at hShown

end CommandView

end CallbackWeave
