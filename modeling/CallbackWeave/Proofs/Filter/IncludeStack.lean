import CallbackWeave.Filter.Elision
import Mathlib.Data.List.TakeWhile

/-!
The walk over preprocessed text beside a machine that keeps every open file. The walk keeps a
number only: it forgets the project files that are open and passes over their returns. The main
statement says that this loses nothing. After any lines the number is that of the open files from
the outermost foreign one on, and the lines that are left are those that the machine leaves.
-/

namespace CallbackWeave.Elision

/-- The open files after one line more, outermost first. A marker with both flags opens a file,
and a return to text that nothing has opened closes none. -/
def track (files : List String) (line : Bytes) : List String :=
  match LineMarker.ofLine? line with
  | none => files
  | some marker =>
    if marker.flags.enterFile then files ++ [marker.file]
    else if marker.flags.returnToPrevious then files.dropLast
    else files

/-- The files that are open after some lines. -/
def openFiles (lines : List Bytes) : List String := lines.foldl track []

/-- No open file is foreign. -/
def AllProject (b : Boundary) (fs : FileSystem) (files : List String) : Prop :=
  ∀ file ∈ files, b.isForeign fs file = false

instance (b : Boundary) (fs : FileSystem) (files : List String) :
    Decidable (AllProject b fs files) :=
  inferInstanceAs (Decidable (∀ file ∈ files, b.isForeign fs file = false))

/-- The number of open files from the outermost foreign one up to the last one opened. -/
def foreignDepth (b : Boundary) (fs : FileSystem) (files : List String) : Nat :=
  (files.dropWhile fun file => !b.isForeign fs file).length

/-- The include line of a marker, in the form that its flags ask for. -/
def directive (marker : LineMarker) : Bytes :=
  Utf8.encode (if marker.flags.systemHeader then "#include <" ++ marker.file ++ ">"
    else "#include \"" ++ marker.file ++ "\"")

/-- What a line gives while some files are open. Ordinary text stands for itself as long as no open
file is foreign; a marker gives a line only where it opens the outermost foreign file, unless that
is a pseudo-header. -/
def emission (b : Boundary) (fs : FileSystem) (files : List String) (line : Bytes) :
    Option Bytes :=
  match LineMarker.ofLine? line with
  | none => if AllProject b fs files then some line else none
  | some marker =>
    if AllProject b fs files ∧ marker.flags.enterFile = true ∧ b.isForeign fs marker.file = true
        ∧ b.isPseudoHeader marker.file = false then some (directive marker)
    else none

/-- What some lines give, in order, while the open files are kept. -/
def emissions (b : Boundary) (fs : FileSystem) (files : List String) : List Bytes → List Bytes
  | [] => []
  | line :: rest => (emission b fs files line).toList ++ emissions b fs (track files line) rest

section Depth

variable (b : Boundary) (fs : FileSystem) (files : List String)

theorem foreignDepth_eq_zero_iff : foreignDepth b fs files = 0 ↔ AllProject b fs files := by
  simp [foreignDepth, AllProject, List.dropWhile_eq_nil_iff]

/-- Opening a file counts if it is foreign or a foreign one is open. -/
theorem foreignDepth_append (file : String) :
    foreignDepth b fs (files ++ [file]) =
      if AllProject b fs files then if b.isForeign fs file then 1 else 0
      else foreignDepth b fs files + 1 := by
  by_cases hFiles : AllProject b fs files
  · have hNone : files.dropWhile (fun file => !b.isForeign fs file) = [] := by
      simpa [AllProject, List.dropWhile_eq_nil_iff] using hFiles
    cases hFile : b.isForeign fs file <;>
      simp [foreignDepth, List.dropWhile_append, hNone, hFiles, hFile]
  · have hSome : files.dropWhile (fun file => !b.isForeign fs file) ≠ [] := by
      simpa [AllProject, List.dropWhile_eq_nil_iff] using hFiles
    simp [foreignDepth, List.dropWhile_append, hSome, hFiles]

/-- Closing the last file opened takes one off; at depth zero it is a project file, and there is
nothing to take off. -/
theorem foreignDepth_dropLast :
    foreignDepth b fs files.dropLast = foreignDepth b fs files - 1 := by
  rcases List.eq_nil_or_concat files with rfl | ⟨outer, file, rfl⟩
  · rfl
  · rw [List.concat_eq_append, List.dropLast_concat, foreignDepth_append]
    by_cases hOuter : AllProject b fs outer
    · rw [(foreignDepth_eq_zero_iff b fs outer).mpr hOuter]
      cases b.isForeign fs file <;> simp [hOuter]
    · simp [hOuter]

end Depth

/-- The include line of the walk, as the machine words it. -/
theorem includeLine?_eq (b : Boundary) (marker : LineMarker) :
    includeLine? b marker =
      if b.isPseudoHeader marker.file = false then some (directive marker) else none := by
  cases hPseudo : b.isPseudoHeader marker.file <;> cases hSystem : marker.flags.systemHeader <;>
    simp [includeLine?, directive, hPseudo, hSystem]

/-- One marker: the depth follows the open files, and the same line is given. -/
theorem onMarker_foreignDepth (b : Boundary) (fs : FileSystem) (files : List String)
    (line : Bytes) (marker : LineMarker) (hMarker : LineMarker.ofLine? line = some marker) :
    onMarker b fs (foreignDepth b fs files) marker =
      (foreignDepth b fs (track files line), emission b fs files line) := by
  have hZero := foreignDepth_eq_zero_iff b fs files
  cases hEnter : marker.flags.enterFile with
  | true =>
      simp only [onMarker, track, emission, hMarker, hEnter, if_true, foreignDepth_append]
      by_cases hFiles : AllProject b fs files
      · cases hForeign : b.isForeign fs marker.file <;>
          simp [hZero.mpr hFiles, hFiles, includeLine?_eq]
      · have hPositive : foreignDepth b fs files > 0 :=
          Nat.pos_of_ne_zero fun hNone => hFiles (hZero.mp hNone)
        simp [hFiles, hPositive]
  | false =>
      cases hReturn : marker.flags.returnToPrevious <;>
        simp [onMarker, track, emission, hMarker, hEnter, hReturn, foreignDepth_dropLast]

/-- One line: the depth follows the open files, and the same line is given. -/
theorem step_foreignDepth (b : Boundary) (fs : FileSystem) (files : List String) (line : Bytes) :
    step b fs (foreignDepth b fs files) line =
      (foreignDepth b fs (track files line), emission b fs files line) := by
  cases hMarker : LineMarker.ofLine? line with
  | some marker =>
      simpa only [step, hMarker] using onMarker_foreignDepth b fs files line marker hMarker
  | none =>
      have hZero := foreignDepth_eq_zero_iff b fs files
      by_cases hFiles : AllProject b fs files
      · simp [step, track, emission, hMarker, hFiles, hZero.mpr hFiles]
      · have hPositive : foreignDepth b fs files > 0 :=
          Nat.pos_of_ne_zero fun hNone => hFiles (hZero.mp hNone)
        simp [step, track, emission, hMarker, hFiles, hPositive]

/-- All lines, from any files that are open when the walk begins. -/
theorem filterFrom_foreignDepth (b : Boundary) (fs : FileSystem) (files : List String)
    (lines : List Bytes) :
    filterFrom b fs (foreignDepth b fs files) lines =
      ⟨emissions b fs files lines, foreignDepth b fs (lines.foldl track files)⟩ := by
  induction lines generalizing files with
  | nil => rfl
  | cons line rest ih =>
      simp only [filterFrom, step_foreignDepth, ih, emissions, List.foldl_cons]

/-- What lines give is what the first of them give, and then what the others give while the files
are open that the first have left open. -/
theorem emissions_append (b : Boundary) (fs : FileSystem) (files : List String)
    (before after : List Bytes) :
    emissions b fs files (before ++ after) =
      emissions b fs files before ++ emissions b fs (before.foldl track files) after := by
  induction before generalizing files with
  | nil => rfl
  | cons line rest ih => simp [emissions, ih]

/-- The walk and the machine agree after every stretch of lines: on the depth there, on all that has
been given until then, and on all that is still to come. -/
theorem filter_refines_openFiles (b : Boundary) (fs : FileSystem) (before after : List Bytes) :
    filter b fs before = ⟨emissions b fs [] before, foreignDepth b fs (openFiles before)⟩ ∧
      filterFrom b fs (filter b fs before).depth after =
        ⟨emissions b fs (openFiles before) after,
          foreignDepth b fs (openFiles (before ++ after))⟩ ∧
      (filter b fs (before ++ after)).lines =
        emissions b fs [] before ++ emissions b fs (openFiles before) after := by
  have hFilter : ∀ lines, filter b fs lines =
      ⟨emissions b fs [] lines, foreignDepth b fs (openFiles lines)⟩ := fun lines =>
    filterFrom_foreignDepth b fs [] lines
  refine ⟨hFilter before, ?_, ?_⟩
  · rw [hFilter before, filterFrom_foreignDepth, openFiles, openFiles, List.foldl_append]
  · rw [hFilter (before ++ after)]
    exact emissions_append b fs [] before after

end CallbackWeave.Elision
