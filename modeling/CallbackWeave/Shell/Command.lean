import CallbackWeave.Host.Octets

/-!
The commands of a shell and the words in them, as they are before anything is expanded.
-/

namespace CallbackWeave.Shell

/-- What is made of the value of a parameter. -/
inductive Operation where
  | value
  /-- The number of its octets. -/
  | length
  /-- The word instead of a parameter that is unset, or empty if `colon` says so. -/
  | default (colon : Bool)
  /-- The same, and the parameter is set to the word. -/
  | assign (colon : Bool)
  /-- The script ends if the parameter is unset, and the word says why. -/
  | demand (colon : Bool)
  /-- The word instead of a parameter that is set. -/
  | alternative (colon : Bool)
  /-- The value without a part that matches the word as a pattern. -/
  | trim (atFront longest : Bool)
  /-- Something that no shell understands. -/
  | unknown
deriving DecidableEq, Repr

/-- What a redirection does with a file. -/
inductive RedirectionKind where
  | read
  | write
  /-- Writes even where the shell has been told not to write over files. -/
  | overwrite
  | append
  | both
  /-- The word is the number of an open file, or a hyphen to close one. -/
  | duplicate
  /-- The word is the content itself. -/
  | document
deriving DecidableEq, Repr

mutual

/-- A part of a word. `quoted` says that it stands in double quotes. -/
inductive Part where
  | plain (text : Octets)
  | literal (text : Octets)
  | parameter (name : Octets) (operation : Operation) (word : List Part) (quoted : Bool)
  /-- The output of a command. -/
  | output (body : Command) (quoted : Bool)
  | arithmetic (expression : List Part) (quoted : Bool)

/-- A change of an input or an output. -/
inductive Redirection where
  | mk (number : Nat) (kind : RedirectionKind) (target : List Part)

/-- A branch of a choice among patterns. -/
inductive Branch where
  | mk (patterns : List (List Part)) (body : Command)

/-- A command. -/
inductive Command where
  /-- Assigns to variables, or runs a program or a built-in command. -/
  | simple (line : Nat) (assignments : List (Octets × List Part)) (words : List (List Part))
      (redirections : List Redirection)
  | sequence (commands : List Command)
  /-- Runs the second command if the first succeeds. -/
  | both (first second : Command)
  /-- Runs the second command if the first fails. -/
  | either (first second : Command)
  | negate (body : Command)
  /-- Gives the output of each command to the next as its input. -/
  | pipe (commands : List Command)
  /-- Runs a command without waiting for it. -/
  | background (body : Command)
  /-- Runs a command whose changes of the shell itself are forgotten. -/
  | subshell (body : Command)
  | choose (condition yes no : Command)
  /-- Repeats a command while a condition succeeds, or until it does. -/
  | repeats (inverted : Bool) (condition body : Command)
  | each (name : Octets) (words : List (List Part)) (body : Command)
  | matching (subject : List Part) (branches : List Branch)
  | define (name : Octets) (body : Command)
  | redirect (body : Command) (redirections : List Redirection)

end

/-- A word before its expansion. -/
abbrev Word := List Part

instance : Inhabited Command := ⟨.sequence []⟩

end CallbackWeave.Shell
