import CallbackWeave.Filter.Boundary
import CallbackWeave.Filter.LineMarker

/-!
Elision of foreign text. A walk over the lines of preprocessed text keeps the number of open files
from the outermost foreign one on. Entering a foreign file from project text gives one include
line, and everything up to the return from that file is left out; other lines of the project are
kept byte for byte, and no marker is.
-/

namespace CallbackWeave.Elision

/-- The include line that stands for a foreign file; a pseudo-header has none. -/
def includeLine? (b : Boundary) (marker : LineMarker) : Option Bytes :=
  if b.isPseudoHeader marker.file then none
  else if marker.flags.systemHeader then some (Utf8.encode ("#include <" ++ marker.file ++ ">"))
  else some (Utf8.encode ("#include \"" ++ marker.file ++ "\""))

/-- The depth after a marker, and the line that it gives. -/
def onMarker (b : Boundary) (fs : FileSystem) (depth : Nat) (marker : LineMarker) :
    Nat × Option Bytes :=
  if marker.flags.enterFile then
    if depth > 0 then (depth + 1, none)
    else if b.isForeign fs marker.file then (1, includeLine? b marker)
    else (depth, none)
  else if marker.flags.returnToPrevious then (depth - 1, none)
  else (depth, none)

/-- The depth after a line, and the line that it gives. -/
def step (b : Boundary) (fs : FileSystem) (depth : Nat) (line : Bytes) : Nat × Option Bytes :=
  match LineMarker.ofLine? line with
  | some marker => onMarker b fs depth marker
  | none => (depth, if depth > 0 then none else some line)

/-- What a walk gives: the lines that are left, and the depth at its end. -/
structure Result where
  lines : List Bytes
  depth : Nat
deriving DecidableEq, Repr

/-- The walk over lines from a depth on. -/
def filterFrom (b : Boundary) (fs : FileSystem) (depth : Nat) : List Bytes → Result
  | [] => ⟨[], depth⟩
  | line :: rest =>
    let (next, given) := step b fs depth line
    let result := filterFrom b fs next rest
    ⟨given.toList ++ result.lines, result.depth⟩

/-- The walk over lines. -/
def filter (b : Boundary) (fs : FileSystem) (lines : List Bytes) : Result :=
  filterFrom b fs 0 lines

def lineFeed : UInt8 := 0x0A
def carriageReturn : UInt8 := 0x0D

/-- A sequence without its last element, if that is the given one. -/
def dropEnd (last : UInt8) (bytes : Bytes) : Bytes :=
  if bytes.getLast? = some last then bytes.dropLast else bytes

/-- The lines of some bytes. Each is ended by a line feed, before which a carriage return is
dropped; the last one may lack its end. -/
def splitLines (bytes : Bytes) : List Bytes :=
  if bytes.isEmpty then []
  else ((dropEnd lineFeed bytes).splitOn lineFeed).map (dropEnd carriageReturn)

/-- Lines as bytes, each ended by a line feed. -/
def write (lines : List Bytes) : Bytes := lines.flatMap (· ++ [lineFeed])

/-- The walk over the lines of some bytes. -/
def filterBytes (b : Boundary) (fs : FileSystem) (bytes : Bytes) : Result :=
  filter b fs (splitLines bytes)

end CallbackWeave.Elision
