import CallbackWeave.Host.Octets

/-!
Programs that go through records. A program has rules: an action is carried out for each record that a
pattern selects. Expressions and statements are trees; what a name stands for is known only when the
program runs.
-/

namespace CallbackWeave.Awk

/-- An operation on numbers. -/
inductive Arithmetic where
  | add
  | subtract
  | multiply
  | divide
  | remainder
  | power
deriving DecidableEq, Repr

/-- A comparison. -/
inductive Comparison where
  | less
  | atMost
  | equal
  | unequal
  | atLeast
  | greater
deriving DecidableEq, Repr

/-- Where a line is read. -/
inductive LineSource where
  | records
  | file
  | command
deriving DecidableEq, Repr

/-- An expression. -/
inductive Expr where
  | number (value : Float)
  | text (value : Octets)
  /-- A regular expression, as it is written. -/
  | regex (text : Octets)
  | named (name : Octets)
  | field (index : Expr)
  | element (array : Octets) (index : List Expr)
  /-- An assignment, with an operation or without. -/
  | assign (target : Expr) (operation : Option Arithmetic) (value : Expr)
  | choose (condition yes no : Expr)
  | either (first second : Expr)
  | both (first second : Expr)
  | not (e : Expr)
  | isKey (index : List Expr) (array : Octets)
  | fits (e pattern : Expr)
  | compute (operation : Arithmetic) (first second : Expr)
  | compare (comparison : Comparison) (first second : Expr)
  | join (first second : Expr)
  | negate (e : Expr)
  | plain (e : Expr)
  /-- Counts up or down, with the value before or after. -/
  | count (target : Expr) (up : Bool) (after : Bool)
  | call (name : Octets) (arguments : List Expr)
  | builtin (name : Octets) (arguments : List Expr)
  /-- Reads a line from what an expression names. -/
  | takeLine (source : LineSource) (from? : Option Expr) (target : Option Expr)
  /-- An expression in parentheses. -/
  | group (e : Expr)
deriving Repr, Inhabited

/-- Whether something can be assigned to an expression. -/
def Expr.isTarget : Expr → Bool
  | named _ | field _ | element _ _ => true
  | _ => false

/-- Where output goes. -/
inductive Sink where
  | write
  | append
  | command
deriving DecidableEq, Repr

/-- A statement. -/
inductive Statement where
  | block (body : List Statement)
  | choose (condition : Expr) (yes : Statement) (no : Option Statement)
  /-- A loop: what comes first, its condition, and what comes behind each turn. -/
  | loop (first : Option Statement) (condition : Option Expr) (next : Option Statement)
      (body : Statement)
  /-- A loop that has its condition at the end. -/
  | again (body : Statement) (condition : Expr)
  | eachKey (name array : Octets) (body : Statement)
  | leave
  | goOn
  | nextRecord
  | nextFile
  | exit (status : Option Expr)
  | answer (value : Option Expr)
  | delete (array : Octets) (index : List Expr)
  | print (formatted : Bool) (arguments : List Expr) (sink : Option (Sink × Expr))
  | run (e : Expr)
deriving Repr, Inhabited

/-- When a rule is carried out. -/
inductive Moment where
  | begin
  | ending
  | always
  | at (pattern : Expr)
  | range (first last : Expr)
deriving Repr

/-- A rule; without an action it prints the record. -/
structure Rule where
  moment : Moment
  action : Option (List Statement)
deriving Repr

/-- A function. -/
structure Function where
  parameters : List Octets
  body : List Statement
deriving Repr

/-- A program. -/
structure Program where
  rules : List Rule
  functions : List (Octets × Function)
deriving Repr

end CallbackWeave.Awk
