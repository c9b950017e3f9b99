import CallbackWeave.Argument
import CallbackWeave.CompileCommand.Basic
import CallbackWeave.Failure
import CallbackWeave.FileTree.FileSystem

/-!
Views of a compile command: the command as recorded, without its output, and reduced to what a
preprocessor needs. Each view begins with the program.
-/

namespace CallbackWeave

/-- A compile command that has been taken apart. -/
structure CommandView where
  command : CompileCommand
  program : String
  arguments : List Argument
deriving DecidableEq, Repr

namespace CommandView

/-- Takes a command apart. -/
def ofCommand (c : CompileCommand) : Except Failure CommandView :=
  match c.tokens? with
  | none => .error (.malformedDatabase c.file (.command .unbalanced))
  | some [] => .error (.malformedDatabase c.file (.command .empty))
  | some (program :: rest) => .ok ⟨c, program, Argument.group rest⟩

theorem command_of_ofCommand {c : CompileCommand} {view : CommandView}
    (hView : ofCommand c = .ok view) : view.command = c := by
  unfold ofCommand at hView
  split at hView
  · cases hView
  · cases hView
  · rw [← Except.ok.inj hView]

theorem ofCommand_of_tokens? {c : CompileCommand} {program : String} {rest : List String}
    (hTokens : c.tokens? = some (program :: rest)) :
    ofCommand c = .ok ⟨c, program, Argument.group rest⟩ := by
  simp [ofCommand, hTokens]

/-- The tokens of the program and of some arguments. -/
def assemble (v : CommandView) (arguments : List Argument) : List String :=
  v.program :: arguments.flatMap Argument.tokens

/-- The command as recorded. -/
def raw (v : CommandView) : List String := v.assemble v.arguments

/-- The arguments that do not name the output. -/
def withoutOutput (v : CommandView) : List Argument := v.arguments.filter (!·.isOutput)

/-- The command without its output. -/
def noOutput (v : CommandView) : List String := v.assemble v.withoutOutput

/-- Whether an argument names the source file: it is no option and no value, its last name is that
of the source, and as seen from the directory of the command it leads to the same file. -/
def namesSource (v : CommandView) (fs : FileSystem) : Argument → Bool
  | .positional token =>
    (⟨token⟩ : Path).fileName? = v.command.sourcePath.fileName?
      && fs.sameFile (v.command.directory.resolveIn ⟨token⟩) v.command.sourcePath
  | _ => false

/-- The number of arguments that name the source file. -/
def candidates (v : CommandView) (fs : FileSystem) : Nat :=
  (v.arguments.filter (v.namesSource fs)).length

/-- Whether an argument stays for the preprocessor. -/
def forPreprocessor (v : CommandView) (fs : FileSystem) (a : Argument) : Bool :=
  !a.isOutput && a ≠ .compileOnly && !v.namesSource fs a

/-- The command without output, compilation and source, if exactly one argument names the
source. -/
def compilerOnly (v : CommandView) (fs : FileSystem) : Except Failure (List String) :=
  if v.candidates fs = 1 then .ok (v.assemble (v.arguments.filter (v.forPreprocessor fs)))
  else .error (.unmatchedSource v.command.sourcePath (v.candidates fs))

/-- What is left for the preprocessor depends on the files only by which arguments name the
source. -/
theorem compilerOnly_eq_of_namesSource_eq {v : CommandView} {fs other : FileSystem}
    (hNames : v.namesSource fs = v.namesSource other) :
    v.compilerOnly fs = v.compilerOnly other := by
  have hStays : v.forPreprocessor fs = v.forPreprocessor other := by
    funext a
    rw [forPreprocessor, forPreprocessor, hNames]
  rw [compilerOnly, compilerOnly, candidates, candidates, hNames, hStays]

end CommandView

end CallbackWeave
