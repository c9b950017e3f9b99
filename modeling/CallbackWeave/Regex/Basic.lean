import CallbackWeave.Host.Octets
import CallbackWeave.Text.CharacterClass

/-!
Regular expressions with groups. An expression finds the leftmost part of a text that it fits, and of
those that begin there the longest one; within that the parts that come first are as long as they can be.
`Regex.ends` gives all ends of a fit from a given beginning, the farthest one first.
-/

namespace CallbackWeave

/-- A place between characters. -/
inductive Place where
  | lineStart
  | lineEnd
  | textStart
  | textEnd
  | wordStart
  | wordEnd
  /-- The start or the end of a word, or neither. -/
  | wordEdge
  | noWordEdge
deriving DecidableEq, Repr

/-- A regular expression. -/
inductive Regex where
  | empty
  | one (c : Char)
  /-- Any character. Where lines count, no line feed is meant by this and by negated brackets. -/
  | any
  | choice (negated : Bool) (members : List Text.Member)
  | both (first second : Regex)
  | either (first second : Regex)
  /-- A number of repetitions, at least `least` and at most `most`. -/
  | times (least : Nat) (most : Option Nat) (body : Regex)
  | group (number : Nat) (body : Regex)
  /-- What a group was found to be. -/
  | again (number : Nat)
  | place (kind : Place)
deriving Repr, Inhabited

/-- The text in which something is looked for. -/
structure Subject where
  text : Array Char
  /-- Whether large and small letters are the same. -/
  foldsCase : Bool
  /-- Whether lines begin and end at line feeds inside the text. -/
  hasLines : Bool
  /-- Whether the text begins a line. -/
  startsLine : Bool

/-- What has been found: where it ends, and where its groups begin and end. -/
structure Found where
  stop : Nat
  groups : List (Nat × Nat × Nat)
deriving Repr

namespace Subject

/-- A character that counts as part of a word. -/
def isWordChar (c : Char) : Bool := c.isAlphanum || c = '_'

/-- Whether a character of a word stands at an index. -/
def hasWordAt (s : Subject) (i : Nat) : Bool := s.text[i]?.any isWordChar

/-- Whether a place is at an index. -/
def isAt (s : Subject) (place : Place) (i : Nat) : Bool :=
  let before := i > 0 && s.hasWordAt (i - 1)
  let after := s.hasWordAt i
  match place with
  | .lineStart =>
    if i = 0 then s.startsLine else s.hasLines && s.text[i - 1]? = some '\n'
  | .lineEnd => i = s.text.size || s.hasLines && s.text[i]? = some '\n'
  | .textStart => i = 0
  | .textEnd => i = s.text.size
  | .wordStart => !before && after
  | .wordEnd => before && !after
  | .wordEdge => before != after
  | .noWordEdge => before == after

/-- A character as it is compared. -/
def folded (s : Subject) (c : Char) : Char := if s.foldsCase then c.toLower else c

/-- Whether brackets stand for a character. -/
def isChosen (s : Subject) (members : List Text.Member) (c : Char) : Bool :=
  members.any (·.holds c)
    || s.foldsCase && (members.any (·.holds c.toLower) || members.any (·.holds c.toUpper))

/-- Whether the characters from one index on are those from another on. -/
def repeats (s : Subject) (i j : Nat) : Nat → Bool
  | 0 => true
  | count + 1 =>
    (match s.text[i]?, s.text[j]? with
      | some a, some b => s.folded a = s.folded b
      | _, _ => false) && repeats s (i + 1) (j + 1) count

end Subject

namespace Found

/-- Results in order, the farthest one first; of those with one end only the first is kept. -/
def tidy : List Found → List Found
  | [] => []
  | [only] => [only]
  | several =>
    let sorted := several.mergeSort fun a b => b.stop ≤ a.stop
    (sorted.foldl (fun kept f =>
      match kept with
      | last :: _ => if last.stop = f.stop then kept else f :: kept
      | [] => [f]) []).reverse

/-- All results of repeating a step, from those that are new. `fuel` bounds the repetitions. -/
def closure (step : Found → List Found) : Nat → List Found → List Found → List Found
  | 0, _, seen => seen
  | _, [], seen => seen
  | fuel + 1, fresh, seen =>
    let isNew (f : Found) : Bool := seen.all fun g => g.stop ≠ f.stop
    let next := (tidy (fresh.flatMap step)).filter isNew
    closure step fuel next (seen ++ next)

/-- The results of repeating a step a number of times. -/
def repeated (step : Found → List Found) : Nat → List Found → List Found
  | 0, results => results
  | n + 1, results => if results.isEmpty then [] else repeated step n (tidy (results.flatMap step))

/-- The results of repeating a step at most a number of times. -/
def upTo (step : Found → List Found) : Nat → List Found → List Found
  | 0, results => results
  | n + 1, results =>
    if results.isEmpty then [] else upTo step n (tidy (results.flatMap step)) ++ results

end Found

namespace Regex

/-- All fits from where something has been found up to now, the farthest one first. -/
def ends (s : Subject) : Regex → Found → List Found
  | empty, f => [f]
  | one c, f =>
    match s.text[f.stop]? with
    | some d => if d = c || s.folded d = s.folded c then [{ f with stop := f.stop + 1 }] else []
    | none => []
  | any, f =>
    match s.text[f.stop]? with
    | some c => if s.hasLines && c = '\n' then [] else [{ f with stop := f.stop + 1 }]
    | none => []
  | choice negated members, f =>
    match s.text[f.stop]? with
    | some c =>
      if s.isChosen members c != negated && !(s.hasLines && negated && c = '\n') then [{ f with stop := f.stop + 1 }] else []
    | none => []
  | both first second, f => Found.tidy ((ends s first f).flatMap (ends s second))
  | either first second, f => Found.tidy (ends s first f ++ ends s second f)
  | times least most body, f =>
    let start := Found.repeated (ends s body) least [f]
    match most with
    | some most => Found.tidy (Found.upTo (ends s body) (most - least) start)
    | none => Found.tidy (Found.closure (ends s body) (s.text.size + 1) start start)
  | group number body, f =>
    (ends s body f).map fun g =>
      { g with groups := (number, f.stop, g.stop) :: g.groups.filter (·.1 ≠ number) }
  | again number, f =>
    match f.groups.lookup number with
    | some (start, stop) =>
      if s.repeats start f.stop (stop - start) then [{ f with stop := f.stop + (stop - start) }] else []
    | none => []
  | place kind, f => if s.isAt kind f.stop then [f] else []

/-- The first fit that begins at an index or behind it: where it begins, and what was found. `count` is
the number of places at which it may begin. -/
def searchFrom (r : Regex) (s : Subject) : Nat → Nat → Option (Nat × Found)
  | 0, _ => none
  | count + 1, i =>
    match r.ends s ⟨i, []⟩ with
    | best :: _ => some (i, best)
    | [] => searchFrom r s count (i + 1)

/-- The first fit in a text that begins at an index or behind it. -/
def search (r : Regex) (s : Subject) (start : Nat) : Option (Nat × Found) :=
  searchFrom r s (s.text.size + 1 - start) start

/-- The number of groups. -/
def groupCount : Regex → Nat
  | both first second | either first second => max first.groupCount second.groupCount
  | times _ _ body => body.groupCount
  | group number body => max number body.groupCount
  | _ => 0

end Regex

/-- The part of a text between two indices. -/
def Subject.slice (s : Subject) (start stop : Nat) : Octets := (s.text.extract start stop).toList

/-- A text in which something is looked for, with the usual rules. -/
def Subject.ofText (text : Octets) (foldsCase : Bool) : Subject := ⟨text.toArray, foldsCase, false, true⟩

/-- What a group was found to be; the group zero is all that was found. -/
def Found.groupText (f : Found) (s : Subject) (start number : Nat) : Octets :=
  if number = 0 then s.slice start f.stop
  else
    match f.groups.lookup number with
    | some (first, last) => s.slice first last
    | none => []

end CallbackWeave
