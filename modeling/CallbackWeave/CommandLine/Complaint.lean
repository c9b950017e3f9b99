import CallbackWeave.Failure

/-!
How a program that gives up explains itself: what it was about to do, and below that the causes,
each the cause of the one before it.
-/

namespace CallbackWeave

/-- An explanation with its causes. -/
structure Complaint where
  text : String
  causes : List String
deriving DecidableEq, Repr

namespace Complaint

/-- A failure and what is behind it, as causes. -/
def causesOf (failure : Failure) : List String :=
  failure.message :: failure.cause?.toList.map IoError.message

/-- The complaint of a failure in something that was under way. -/
def during (activity : String) (failure : Failure) : Complaint := ⟨activity, causesOf failure⟩

/-- A text all of whose lines but the first are set in. -/
def setIn (width : Nat) (text : String) : String :=
  String.ofList (text.toList.flatMap fun c =>
    if c = '\n' then '\n' :: List.replicate width ' ' else [c])

/-- One of several causes, with its number. -/
def numbered (index : Nat) (cause : String) : String :=
  let number := toString index
  String.ofList (List.replicate (5 - number.length) ' ') ++ number ++ ": " ++ setIn 7 cause ++ "\n"

/-- Several causes, the first of which has the given number. -/
def numberedFrom (index : Nat) : List String → String
  | [] => ""
  | cause :: rest => numbered index cause ++ numberedFrom (index + 1) rest

/-- The report of a complaint. -/
def report (c : Complaint) : String :=
  "Error: " ++ c.text ++ "\n" ++
    match c.causes with
    | [] => ""
    | [cause] => "\nCaused by:\n    " ++ setIn 4 cause ++ "\n"
    | causes => "\nCaused by:\n" ++ numberedFrom 0 causes

end Complaint

end CallbackWeave
