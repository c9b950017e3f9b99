import CallbackWeave.Regex.Basic

/-!
Programs that edit a text line by line. A program is a list of instructions, each with the lines at
which it is carried out. Blocks and labels are instructions of their own, so that a jump is the place of
an instruction.
-/

namespace CallbackWeave.Editor

/-- What is looked for. -/
structure Target where
  regex : Regex
  foldsCase : Bool
  /-- Whether lines begin and end inside the text too. -/
  hasLines : Bool
deriving Repr

/-- A line that is meant. -/
inductive Address where
  | line (number : Nat)
  /-- A line and each further one at a distance. -/
  | every (first step : Nat)
  | last
  /-- A line in which something is found; nothing stands for what was looked for last. -/
  | fits (target : Option Target)
deriving Repr

/-- Where a range of lines ends. -/
inductive Bound where
  | address (a : Address)
  /-- So many lines behind the first one. -/
  | distance (count : Nat)
  /-- At a line whose number can be divided. -/
  | multiple (divisor : Nat)
deriving Repr

/-- The lines at which an instruction is carried out. -/
inductive Reach where
  | all
  | one (address : Address)
  | range (first : Address) (last : Bound)
deriving Repr

/-- How letters are written. -/
inductive LetterCase where
  | kept
  | upper
  | lower
deriving DecidableEq, Repr

/-- A part of what is put in the place of something found. -/
inductive Part where
  | text (text : Octets)
  /-- What a group was found to be; the group zero is all that was found. -/
  | group (number : Nat)
  /-- From here on letters are written so. -/
  | letters (case : LetterCase)
  /-- The next letter is written so. -/
  | letter (case : LetterCase)
deriving Repr

/-- The putting of something in the place of something found. -/
structure Substitution where
  target : Option Target
  parts : List Part
  /-- The first place at which it is done. -/
  nth : Nat
  everywhere : Bool
  prints : Bool
  /-- Whether the result is carried out as a command. -/
  runs : Bool
  file : Option Octets
deriving Repr

/-- When a jump is made. -/
inductive Condition where
  | always
  | ifReplaced
  | unlessReplaced
deriving DecidableEq, Repr

/-- What an instruction does. -/
inductive Action where
  | openBlock
  | closeBlock
  | label (name : Octets)
  | jump (condition : Condition) (label : Octets)
  | append (text : Octets)
  | insert (text : Octets)
  | change (text : Octets)
  | delete
  | deleteFirst
  /-- Carries out a command, or the line as a command. -/
  | command (text : Octets)
  | showName
  | showNumber
  /-- Shows the line with escapes, broken at a width. -/
  | showPlainly (width : Option Nat)
  | get
  | getMore
  | hold
  | holdMore
  | exchange
  | next
  | nextMore
  | print
  | printFirst
  | quit (status : Nat)
  | quitSilently (status : Nat)
  | readFile (name : Octets)
  | readLine (name : Octets)
  | writeFile (name : Octets)
  | writeFirst (name : Octets)
  | substitute (s : Substitution)
  | translate (pairs : List (Char × Char))
  | clear
  | nothing
deriving Repr

/-- An instruction. -/
structure Instruction where
  reach : Reach
  /-- Whether it is carried out at all other lines instead. -/
  negated : Bool
  action : Action
deriving Repr

/-- A program. -/
abbrev Program := Array Instruction

namespace Program

/-- The place behind the end of the block that is open at a place. `depth` is the number of further
open blocks, and `fuel` the number of instructions from there on. -/
def behindBlock (p : Program) : Nat → Nat → Nat → Nat
  | 0, _, i => i
  | fuel + 1, depth, i =>
    match p[i]?.map Instruction.action, depth with
    | some .openBlock, depth => behindBlock p fuel (depth + 1) (i + 1)
    | some .closeBlock, 0 => i + 1
    | some .closeBlock, depth + 1 => behindBlock p fuel depth (i + 1)
    | _, depth => behindBlock p fuel depth (i + 1)

/-- The place of a label; the end of the program has none. -/
def placeOf? (p : Program) (name : Octets) : Option Nat :=
  if name.isEmpty then some p.size
  else
    p.findIdx? fun i =>
      match i.action with
      | .label l => l = name
      | _ => false

/-- A label to which there is a jump and that is nowhere. -/
def missingLabel? (p : Program) : Option Octets :=
  p.toList.findSome? fun i =>
    match i.action with
    | .jump _ name => if (p.placeOf? name).isNone then some name else none
    | _ => none

/-- The files to which something is written. -/
def writtenFiles (p : Program) : List Octets :=
  p.toList.filterMap fun i =>
    match i.action with
    | .writeFile name => some name
    | .writeFirst name => some name
    | .substitute s => s.file
    | _ => none

end Program

end CallbackWeave.Editor
