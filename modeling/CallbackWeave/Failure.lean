import CallbackWeave.IoError
import CallbackWeave.Path.Basic
import CallbackWeave.Stage

/-!
Causes for which an operation of the library ends without a result, and how each is worded.
-/

namespace CallbackWeave

/-- Why a recorded command gives no program to run. -/
inductive CommandFault where
  /-- The command line has a quote or an escape that is never closed. -/
  | unbalanced
  /-- There is no token at all. -/
  | empty
deriving DecidableEq, Repr

/-- What is wrong with a database of compile commands. -/
inductive DatabaseFault where
  /-- The text is no JSON list of commands. -/
  | unreadable (explanation : String)
  /-- The command at an index cannot be run. -/
  | entry (index : Nat) (fault : CommandFault)
  /-- A command taken by itself cannot be run. -/
  | command (fault : CommandFault)
  /-- Any other cause, given by its text. -/
  | stated (text : String)
deriving DecidableEq, Repr

/-- The wording of what is wrong with a database. -/
def DatabaseFault.message : DatabaseFault → String
  | unreadable explanation => explanation
  | entry index .unbalanced => "entry " ++ toString index ++ ": unbalanced quoting in command"
  | entry index .empty => "entry " ++ toString index ++ ": no command or arguments"
  | command .unbalanced => "unbalanced quoting in command"
  | command .empty => "empty command"
  | stated text => text

/-- What is wrong with the settings of a run. -/
inductive SettingsFault where
  /-- There is no command that produces preprocessed text. -/
  | noCommand
  /-- The settings file does not hold settings. -/
  | unreadable (path : Path) (explanation : String)
  /-- Any other cause, given by its text. -/
  | stated (text : String)
deriving DecidableEq, Repr

/-- The wording of what is wrong with settings. -/
def SettingsFault.message : SettingsFault → String
  | noCommand => "no preprocessor command given"
  | unreadable path explanation => path.text ++ ": " ++ explanation
  | stated text => text

/-- Why an operation ended without a result. -/
inductive Failure where
  /-- A tool is not in the directory of the tools. -/
  | toolNotFound (tool : String) (directory : Path)
  | malformedDatabase (path : Path) (fault : DatabaseFault)
  /-- A process ended without success; it has no code if a signal ended it. -/
  | subprocess (stage : Stage) (unit : Path) (code : Option Int)
  /-- The number of tokens that name the source of a unit is not one. -/
  | unmatchedSource (file : Path) (candidates : Nat)
  /-- A process could not be started. -/
  | spawn (program : Path) (cause : IoError)
  | pathIo (path : Path) (cause : IoError)
  | io (cause : IoError)
  | settings (fault : SettingsFault)
deriving DecidableEq, Repr

namespace Failure

/-- How a process that ended without success is described. -/
def describeCode : Option Int → String
  | some code => "exit code " ++ toString code
  | none => "terminated by signal"

/-- The text of a failure. -/
def message : Failure → String
  | toolNotFound tool directory => "tool `" ++ tool ++ "` not found in " ++ directory.text
  | malformedDatabase path fault =>
    "malformed compile database " ++ path.text ++ ": " ++ fault.message
  | subprocess stage unit code =>
    stage.text ++ " stage failed for " ++ unit.text ++ ": " ++ describeCode code
  | unmatchedSource file candidates =>
    "cannot identify the source token for " ++ file.text ++ " (" ++ toString candidates
      ++ " candidates)"
  | spawn program cause => "failed to start " ++ program.text ++ ": " ++ cause.message
  | pathIo path cause => "IO error at " ++ path.text ++ ": " ++ cause.message
  | io cause => "IO error: " ++ cause.message
  | settings fault => "Configuration error: " ++ fault.message

/-- The refusal of the operating system behind a failure, if there is one. -/
def cause? : Failure → Option IoError
  | spawn _ cause => some cause
  | pathIo _ cause => some cause
  | io cause => some cause
  | _ => none

end Failure

end CallbackWeave
