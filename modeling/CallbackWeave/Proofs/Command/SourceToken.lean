import CallbackWeave.Proofs.FileTree.Footprint
import CallbackWeave.Proofs.Pipeline.CallArguments
import CallbackWeave.Proofs.Pipeline.LoadedDatabase

/-!
The argument that names the source of a command. If there is exactly one, the view for the
preprocessor is the command without output, compilation and this argument, and nothing else is left
out of it: no option loses its value, whatever the value is spelled like. If there is none, or more
than one, the number of them is reported.
-/

namespace CallbackWeave

namespace Argument

/-- An option that is neither that of the output nor that of compilation, with the value that it
takes. -/
def isPlainOption : Argument → Bool
  | option _ _ => true
  | _ => false

/-- An argument that stays for the preprocessor unless it names the source: it gives no output,
whatever the value, and does not ask for compilation. -/
def Stays (a : Argument) : Prop := (∀ value, a ≠ .output value) ∧ a ≠ .compileOnly

@[simp] theorem not_stays_output (value : Option String) : ¬ (output value).Stays :=
  fun hStays => hStays.1 value rfl

@[simp] theorem not_stays_compileOnly : ¬ compileOnly.Stays := fun hStays => hStays.2 rfl

@[simp] theorem stays_option (flag : String) (value : Option String) : (option flag value).Stays :=
  ⟨nofun, nofun⟩

@[simp] theorem stays_positional (token : String) : (positional token).Stays := ⟨nofun, nofun⟩

instance : DecidablePred Stays
  | output value => .isFalse (not_stays_output value)
  | compileOnly => .isFalse not_stays_compileOnly
  | option flag value => .isTrue (stays_option flag value)
  | positional token => .isTrue (stays_positional token)

/-- The test that a view makes of its arguments is whether they stay. -/
theorem filter_stays (arguments : List Argument) :
    (arguments.filter fun a => !a.isOutput && a ≠ .compileOnly) = arguments.filter Stays := by
  refine List.filter_congr fun a _ => ?_
  cases a <;> rfl

/-- Without compilation, arguments have one token less for each time it is asked for. -/
theorem length_flatMap_tokens (arguments : List Argument) :
    ((arguments.filter (!·.isOutput)).flatMap tokens).length =
      ((arguments.filter Stays).flatMap tokens).length + arguments.count .compileOnly := by
  induction arguments with
  | nil => rfl
  | cons a rest ih =>
      cases a with
      | output _ =>
          rw [List.filter_cons_of_neg (by simp [isOutput]), List.filter_cons_of_neg (by simp),
            List.count_cons_of_ne (by simp), ih]
      | compileOnly =>
          rw [List.filter_cons_of_pos rfl, List.filter_cons_of_neg (by simp), List.count_cons_self,
            List.flatMap_cons, List.length_append, ih, tokens, List.length_singleton]
          omega
      | option _ _ | positional _ =>
          rw [List.filter_cons_of_pos rfl, List.filter_cons_of_pos (by simp),
            List.count_cons_of_ne (by simp), List.flatMap_cons, List.flatMap_cons,
            List.length_append, List.length_append, ih, Nat.add_assoc]

end Argument

namespace CompileCommand

/-- Something is where a path leads, and the source path of the command leads there too. -/
def LeadsToSource (c : CompileCommand) (fs : FileSystem) (p : Path) : Prop :=
  ∃ place, fs.canonical? p = some place ∧ fs.canonical? c.sourcePath = some place

/-- An argument names the source of its command: it is no option and no value of one, its last name
is that of the source path, and as seen from the directory of the command it is the same file. -/
def IsSource (c : CompileCommand) (fs : FileSystem) (a : Argument) : Prop :=
  ∃ token, a = .positional token ∧ (⟨token⟩ : Path).fileName? = c.sourcePath.fileName? ∧
    c.LeadsToSource fs (c.directory.resolveIn ⟨token⟩)

end CompileCommand

namespace CommandView

variable {c : CompileCommand} {view : CommandView} {fs : FileSystem}

/-- The test that a view makes of an argument is whether it names the source. -/
theorem namesSource_iff (hView : view.command = c) (a : Argument) :
    view.namesSource fs a = true ↔ c.IsSource fs a := by
  subst hView
  unfold CompileCommand.IsSource CompileCommand.LeadsToSource
  cases a with
  | positional token => simp [namesSource, FileSystem.sameFile_iff]
  | _ => simp [namesSource]

end CommandView

namespace CompileCommand

instance (c : CompileCommand) (fs : FileSystem) : DecidablePred (c.IsSource fs) := fun a =>
  decidable_of_iff ((⟨c, "", []⟩ : CommandView).namesSource fs a = true)
    (CommandView.namesSource_iff rfl a)

/-- The number of arguments that name the source of a command. -/
def sourceCount (c : CompileCommand) (fs : FileSystem) : Nat :=
  c.recorded.countP (c.IsSource fs)

/-- What is left of a command for the preprocessor, if one of its arguments names the source. -/
structure Reduces (c : CompileCommand) (fs : FileSystem) (program : String)
    (noOutput tokens : List String) : Prop where
  /-- The program comes first, and in order all arguments but the outputs, the compilations and the
  one that names the source. Read again, the tokens are these arguments. -/
  tokens_eq : ∃ before token after, c.recorded = before ++ .positional token :: after ∧
    c.IsSource fs (.positional token) ∧ (∀ a ∈ before ++ after, ¬ c.IsSource fs a) ∧
    tokens = program :: ((before ++ after).filter Argument.Stays).flatMap Argument.tokens ∧
    Argument.group (tokens.drop 1) = (before ++ after).filter Argument.Stays
  length_eq : tokens.length + c.recorded.count .compileOnly + 1 = noOutput.length
  /-- No other option is lost, nor the value of one. -/
  options : (Argument.group (tokens.drop 1)).filter Argument.isPlainOption =
    c.recorded.filter Argument.isPlainOption

end CompileCommand

namespace CommandView

variable {c : CompileCommand} {view : CommandView} {fs : FileSystem}

/-- What a view counts are the arguments that name the source of its command. -/
theorem candidates_eq (hView : ofCommand c = .ok view) : view.candidates fs = c.sourceCount fs := by
  rw [candidates, ← List.countP_eq_length_filter, arguments_of_ofCommand hView,
    CompileCommand.sourceCount]
  refine List.countP_congr fun a _ => ?_
  rw [namesSource_iff (command_of_ofCommand hView), decide_eq_true_iff]

/-- A view for the preprocessor has all of its command that it should have. -/
theorem reduces_of_compilerOnly (hView : ofCommand c = .ok view) {tokens : List String}
    (hTokens : view.compilerOnly fs = .ok tokens) :
    c.Reduces fs view.program view.noOutput tokens := by
  obtain ⟨before, token, after, hSplit, hSource, hOthers, hRest⟩ :=
    exists_split_of_compilerOnly hTokens
  rw [Argument.filter_stays] at hRest
  have hCommand := command_of_ofCommand hView
  have hRecorded := arguments_of_ofCommand hView
  have hProgram : tokens = view.program :: tokens.drop 1 := by
    unfold compilerOnly at hTokens
    split at hTokens
    · rw [← Except.ok.inj hTokens]
      rfl
    · cases hTokens
  have hFormed : Argument.WellFormed (before ++ after) := by
    refine (Argument.wellFormed_group ((c.tokens?.getD []).drop 1)).sublist ?_
    change (before ++ after).Sublist c.recorded
    rw [← hRecorded, hSplit]
    exact (List.sublist_cons_self _ _).append_left before
  have hGroup : Argument.group (tokens.drop 1) = (before ++ after).filter Argument.Stays := by
    rw [hRest, Argument.group_flatMap_tokens (hFormed.filter _)]
  constructor
  case tokens_eq =>
    refine ⟨before, token, after, hRecorded.symm.trans hSplit,
      (namesSource_iff hCommand _).mp hSource, fun a hMem hIs => ?_,
      by rw [← hRest]; exact hProgram, hGroup⟩
    exact Bool.false_ne_true ((hOthers a hMem).symm.trans ((namesSource_iff hCommand a).mpr hIs))
  case length_eq =>
    have hAll := Argument.length_flatMap_tokens c.recorded
    have hKept : ((c.recorded.filter Argument.Stays).flatMap Argument.tokens).length =
        (tokens.drop 1).length + 1 := by
      rw [hRest, ← hRecorded, hSplit, List.filter_append, List.filter_append,
        List.filter_cons_of_pos (by simp), List.flatMap_append, List.flatMap_cons,
        List.flatMap_append]
      simp only [List.length_append, Argument.tokens, List.length_singleton]
      omega
    rw [hProgram, noOutput, assemble, withoutOutput, hRecorded, List.length_cons, List.length_cons,
      hAll, hKept]
  case options =>
    have hOptions : ∀ a : Argument, (a.isPlainOption && decide a.Stays) = a.isPlainOption := by
      intro a
      cases a <;> rfl
    rw [hGroup, List.filter_filter, ← hRecorded, hSplit, List.filter_congr fun a _ => hOptions a,
      List.filter_append, List.filter_append]
    rfl

/-- The view of a command for the preprocessor: what it should have if exactly one argument names
the source, and otherwise a report of how many there are. -/
theorem compilerOnly_cases (c : CompileCommand) (fs : FileSystem) {program : String}
    {rest : List String} (hTokens : c.tokens? = some (program :: rest)) :
    ∃ view, ofCommand c = .ok view ∧
      ((c.sourceCount fs = 1 ∧ ∃ tokens, view.compilerOnly fs = .ok tokens ∧
          c.Reduces fs program view.noOutput tokens) ∨
        c.sourceCount fs ≠ 1 ∧
          view.compilerOnly fs = .error (.unmatchedSource c.sourcePath (c.sourceCount fs))) := by
  have hView := ofCommand_of_tokens? hTokens
  refine ⟨⟨c, program, Argument.group rest⟩, hView, ?_⟩
  by_cases hOne : c.sourceCount fs = 1
  · have hLeft : ∃ tokens, (⟨c, program, Argument.group rest⟩ : CommandView).compilerOnly fs =
        .ok tokens := by
      rw [compilerOnly, candidates_eq hView, if_pos hOne]
      exact ⟨_, rfl⟩
    obtain ⟨tokens, hLeft⟩ := hLeft
    exact Or.inl ⟨hOne, tokens, hLeft, reduces_of_compilerOnly hView hLeft⟩
  · refine Or.inr ⟨hOne, ?_⟩
    rw [compilerOnly, candidates_eq hView, if_neg hOne]

/-- A command in which the values of options are spelled like its source and like the option of its
output. -/
def including : CompileCommand :=
  ⟨⟨"/work"⟩, ⟨"a.c"⟩, none,
    some ["cc", "-c", "-include", "a.c", "-D", "-o", "-o", "a.o", "a.c", "-c"]⟩

theorem recorded_including : including.recorded = [.compileOnly, .option "-include" (some "a.c"),
    .option "-D" (some "-o"), .output (some "a.o"), .positional "a.c", .compileOnly] := by
  decide +kernel

/-- Only the token that is no value names the source. -/
theorem isSource_including :
    including.IsSource ⟨.sample, .sample "a.c"⟩ (.positional "a.c") := by
  have hName : (⟨"a.c"⟩ : Path).fileName? = including.sourcePath.fileName? := by decide +kernel
  exact ⟨"a.c", rfl, hName, _, FileSystem.canonical?_sample, FileSystem.canonical?_sample⟩

/-- The value that is spelled like the source is not counted. -/
theorem sourceCount_including : including.sourceCount ⟨.sample, .sample "a.c"⟩ = 1 := by
  have hOther : ∀ a : Argument, (∀ token, a ≠ .positional token) →
      ¬ including.IsSource ⟨.sample, .sample "a.c"⟩ a := by
    rintro a hKind ⟨token, hToken, -⟩
    exact hKind token hToken
  rw [CompileCommand.sourceCount, recorded_including]
  simp [isSource_including, hOther]

/-- The values stay with their options, and the source is left out where it stands for itself. -/
theorem compilerOnly_including (hView : ofCommand including = .ok view) :
    view.compilerOnly ⟨.sample, .sample "a.c"⟩ = .ok ["cc", "-include", "a.c", "-D", "-o"] := by
  have hSource := (namesSource_iff (command_of_ofCommand hView) _).mpr isSource_including
  have hOption : ∀ flag value,
      view.namesSource ⟨.sample, .sample "a.c"⟩ (.option flag value) = false := fun _ _ => rfl
  have hArguments := (arguments_of_ofCommand hView).trans recorded_including
  rw [compilerOnly, candidates_eq hView, if_pos sourceCount_including, assemble, hArguments]
  obtain rfl := Except.ok.inj ((ofCommand_of_tokens? (c := including) rfl).symm.trans hView)
  simp [forPreprocessor, Argument.isOutput, Argument.tokens, hSource, hOption]

theorem compilerOnly_cases_including :
    including.tokens? =
      some ["cc", "-c", "-include", "a.c", "-D", "-o", "-o", "a.o", "a.c", "-c"] ∧
    including.sourceCount ⟨.sample, .sample "a.c"⟩ = 1 ∧
    ∃ view, ofCommand including = .ok view ∧
      view.compilerOnly ⟨.sample, .sample "a.c"⟩ = .ok ["cc", "-include", "a.c", "-D", "-o"] ∧
      including.Reduces ⟨.sample, .sample "a.c"⟩ "cc" view.noOutput
        ["cc", "-include", "a.c", "-D", "-o"] := by
  refine ⟨rfl, sourceCount_including, ?_⟩
  obtain ⟨view, hView, ⟨-, tokens, hLeft, hReduced⟩ | ⟨hOther, -⟩⟩ :=
    compilerOnly_cases including ⟨.sample, .sample "a.c"⟩ rfl
  · have hGiven := compilerOnly_including hView
    obtain rfl := Except.ok.inj (hLeft.symm.trans hGiven)
    exact ⟨view, hView, hGiven, hReduced⟩
  · exact absurd sourceCount_including hOther

end CommandView

end CallbackWeave
