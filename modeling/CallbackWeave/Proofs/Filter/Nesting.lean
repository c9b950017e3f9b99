import CallbackWeave.Proofs.Filter.IncludeStack

/-!
Well-nested text. A forest says which file includes which: its nodes are lines of text, markers that
neither enter nor leave a file, and includes with all that stands between the marker that enters a
file and the one that returns from it. The main statement says that the walk over the lines of a
forest gives what the project sees of it, and ends where it began.
-/

namespace CallbackWeave.Elision

/-- A line of ordinary text. -/
structure TextLine where
  bytes : Bytes
  ordinary : LineMarker.ofLine? bytes = none

/-- A line that is read as a marker. -/
structure MarkerLine where
  bytes : Bytes
  marker : LineMarker
  reads : LineMarker.ofLine? bytes = some marker

/-- A marker that neither enters a file nor returns to one. -/
structure NeutralLine extends MarkerLine where
  stays : marker.flags.enterFile = false ∧ marker.flags.returnToPrevious = false

/-- A marker that enters a file. -/
structure EnteringLine extends MarkerLine where
  enters : marker.flags.enterFile = true

/-- A marker that returns to the file before and enters none. -/
structure ReturningLine extends MarkerLine where
  returns : marker.flags.enterFile = false ∧ marker.flags.returnToPrevious = true

/-- Text in which every file that is entered is left again. -/
inductive Forest where
  | nil
  | text (line : TextLine) (rest : Forest)
  | neutral (line : NeutralLine) (rest : Forest)
  | included (opening : EnteringLine) (body : Forest) (closing : ReturningLine) (rest : Forest)

namespace Forest

/-- The lines of a forest, in order. -/
def lines : Forest → List Bytes
  | nil => []
  | text line rest => line.bytes :: rest.lines
  | neutral line rest => line.bytes :: rest.lines
  | included opening body closing rest =>
    opening.bytes :: body.lines ++ closing.bytes :: rest.lines

/-- What the project sees of a forest: its text, with the include line of a foreign file in the
place of all that the file brings. Pseudo-headers are not seen at all. -/
def projectView (b : Boundary) (fs : FileSystem) : Forest → List Bytes
  | nil => []
  | text line rest => line.bytes :: rest.projectView b fs
  | neutral _ rest => rest.projectView b fs
  | included opening body _ rest =>
    (if b.isForeign fs opening.marker.file then
      if b.isPseudoHeader opening.marker.file then [] else [directive opening.marker]
    else body.projectView b fs) ++ rest.projectView b fs

/-- A forest without what foreign files bring. -/
def withoutForeign (b : Boundary) (fs : FileSystem) : Forest → Forest
  | nil => nil
  | text line rest => text line (rest.withoutForeign b fs)
  | neutral line rest => neutral line (rest.withoutForeign b fs)
  | included opening body closing rest =>
    included opening
      (if b.isForeign fs opening.marker.file then nil else body.withoutForeign b fs) closing
      (rest.withoutForeign b fs)

/-- Nothing of what a foreign file brings is seen. -/
theorem projectView_withoutForeign (b : Boundary) (fs : FileSystem) (forest : Forest) :
    (forest.withoutForeign b fs).projectView b fs = forest.projectView b fs := by
  induction forest with
  | nil => rfl
  | text line rest ih => simp only [withoutForeign, projectView, ih]
  | neutral line rest ih => simp only [withoutForeign, projectView, ih]
  | included opening body closing rest ihBody ihRest =>
      cases hForeign : b.isForeign fs opening.marker.file <;>
        simp [withoutForeign, projectView, hForeign, ihBody, ihRest]

end Forest

section Walk

variable (b : Boundary) (fs : FileSystem)

/-- A walk goes on from the depth at which its first part has ended. -/
theorem filterFrom_append (depth : Nat) (before after : List Bytes) :
    filterFrom b fs depth (before ++ after) =
      ⟨(filterFrom b fs depth before).lines ++
          (filterFrom b fs (filterFrom b fs depth before).depth after).lines,
        (filterFrom b fs (filterFrom b fs depth before).depth after).depth⟩ := by
  induction before generalizing depth with
  | nil => rfl
  | cons line rest ih => simp only [List.cons_append, filterFrom, ih, List.append_assoc]

theorem step_text (depth : Nat) (line : TextLine) :
    step b fs depth line.bytes = (depth, if depth > 0 then none else some line.bytes) := by
  simp only [step, line.ordinary]

theorem step_neutral (depth : Nat) (line : NeutralLine) :
    step b fs depth line.bytes = (depth, none) := by
  simp [step, line.reads, onMarker, line.stays]

theorem step_entering (depth : Nat) (line : EnteringLine) :
    step b fs depth line.bytes =
      if depth > 0 then (depth + 1, none)
      else if b.isForeign fs line.marker.file then (1, includeLine? b line.marker)
      else (depth, none) := by
  simp only [step, line.reads, onMarker, line.enters, if_true]

theorem step_returning (depth : Nat) (line : ReturningLine) :
    step b fs depth line.bytes = (depth - 1, none) := by
  simp [step, line.reads, onMarker, line.returns]

/-- Below a foreign file a forest gives nothing, and the walk comes back to the same depth. -/
theorem filterFrom_lines_hidden (forest : Forest) (depth : Nat) :
    filterFrom b fs (depth + 1) forest.lines = ⟨[], depth + 1⟩ := by
  induction forest generalizing depth with
  | nil => rfl
  | text line rest ih =>
      simp only [Forest.lines, filterFrom, step_text, ih]
      simp
  | neutral line rest ih =>
      simp only [Forest.lines, filterFrom, step_neutral, ih]
      simp
  | included opening body closing rest ihBody ihRest =>
      have hEnter : step b fs (depth + 1) opening.bytes = (depth + 2, none) := by
        simp [step_entering]
      have hReturn : step b fs (depth + 2) closing.bytes = (depth + 1, none) := by
        simp [step_returning]
      simp only [Forest.lines, List.cons_append, filterFrom, hEnter, filterFrom_append, ihBody,
        hReturn, ihRest]
      simp

/-- In project text a forest gives what the project sees of it, and the walk stays there. -/
theorem filterFrom_lines_visible (forest : Forest) :
    filterFrom b fs 0 forest.lines = ⟨forest.projectView b fs, 0⟩ := by
  induction forest with
  | nil => rfl
  | text line rest ih =>
      simp only [Forest.lines, Forest.projectView, filterFrom, step_text, ih]
      simp
  | neutral line rest ih =>
      simp only [Forest.lines, Forest.projectView, filterFrom, step_neutral, ih]
      simp
  | included opening body closing rest ihBody ihRest =>
      cases hForeign : b.isForeign fs opening.marker.file with
      | true =>
          have hEnter : step b fs 0 opening.bytes = (1, includeLine? b opening.marker) := by
            simp [step_entering, hForeign]
          have hHidden := filterFrom_lines_hidden b fs body 0
          have hReturn : step b fs 1 closing.bytes = (0, none) := step_returning b fs 1 closing
          simp only [Forest.lines, Forest.projectView, List.cons_append, filterFrom, hEnter,
            filterFrom_append, hHidden, hReturn, ihRest, hForeign, if_true, includeLine?_eq]
          cases hPseudo : b.isPseudoHeader opening.marker.file <;> simp
      | false =>
          -- The returning marker finds nothing to return from, and changes nothing.
          have hEnter : step b fs 0 opening.bytes = (0, none) := by
            simp [step_entering, hForeign]
          have hReturn : step b fs 0 closing.bytes = (0, none) := step_returning b fs 0 closing
          simp only [Forest.lines, Forest.projectView, List.cons_append, filterFrom, hEnter,
            filterFrom_append, ihBody, hReturn, ihRest, hForeign]
          simp

end Walk

/-- The walk over well-nested text gives what the project sees of it and ends in project text. Two
texts that differ only in what foreign files bring come to the same. -/
theorem filter_lines_eq_projectView (b : Boundary) (fs : FileSystem) (forest : Forest) :
    filter b fs forest.lines = ⟨forest.projectView b fs, 0⟩ ∧
      ∀ other : Forest, other.withoutForeign b fs = forest.withoutForeign b fs →
        filter b fs other.lines = filter b fs forest.lines := by
  have hFilter : ∀ forest : Forest, filter b fs forest.lines = ⟨forest.projectView b fs, 0⟩ :=
    filterFrom_lines_visible b fs
  refine ⟨hFilter forest, fun other hSame => ?_⟩
  have hView : other.projectView b fs = forest.projectView b fs := by
    rw [← other.projectView_withoutForeign, hSame, forest.projectView_withoutForeign]
  rw [hFilter other, hFilter forest, hView]

/-- Text of a source that includes another one, which includes a system header. The header brings
some text. -/
def Forest.sample (brought : Forest) : Forest :=
  .neutral ⟨⟨Utf8.encode "# 1 \"a.c\"", ⟨1, "a.c", .ofNumbers []⟩, by decide +kernel⟩, by decide⟩ <|
  .included ⟨⟨Utf8.encode "# 1 \"b.c\" 1", ⟨1, "b.c", .ofNumbers [1]⟩, by decide +kernel⟩, rfl⟩
    (.text ⟨Utf8.encode "int b;", by decide +kernel⟩ <|
      .included
        ⟨⟨Utf8.encode "# 1 \"x.h\" 1 3", ⟨1, "x.h", .ofNumbers [1, 3]⟩, by decide +kernel⟩, rfl⟩
        brought
        ⟨⟨Utf8.encode "# 3 \"b.c\" 2", ⟨3, "b.c", .ofNumbers [2]⟩, by decide +kernel⟩, by decide⟩
        .nil)
    ⟨⟨Utf8.encode "# 2 \"a.c\" 2", ⟨2, "a.c", .ofNumbers [2]⟩, by decide +kernel⟩, by decide⟩ <|
  .text ⟨Utf8.encode "int a;", by decide +kernel⟩ .nil

/-- A source that a foreign file includes is as foreign as what includes it. -/
theorem filter_lines_eq_projectView_sample :
    let b : Boundary := .ofSettings ⟨"/p"⟩ .standard
    let fs : FileSystem := ⟨⟨[], []⟩, .empty⟩
    let brought : Forest :=
      .included ⟨⟨Utf8.encode "# 1 \"y.c\" 1", ⟨1, "y.c", .ofNumbers [1]⟩, by decide +kernel⟩, rfl⟩
        (.text ⟨Utf8.encode "long y;", by decide +kernel⟩ .nil)
        ⟨⟨Utf8.encode "# 2 \"x.h\" 2", ⟨2, "x.h", .ofNumbers [2]⟩, by decide +kernel⟩, by decide⟩
        .nil
    (Forest.sample .nil).withoutForeign b fs = (Forest.sample brought).withoutForeign b fs ∧
      filter b fs (Forest.sample brought).lines =
        ⟨[Utf8.encode "int b;", Utf8.encode "#include <x.h>", Utf8.encode "int a;"], 0⟩ ∧
      filter b fs (Forest.sample .nil).lines = filter b fs (Forest.sample brought).lines := by
  intro b fs brought
  have hSource : b.isForeign fs "b.c" = false := by decide +kernel
  have hHeader : b.isForeign fs "x.h" = true := by decide +kernel
  have hSame : (Forest.sample .nil).withoutForeign b fs =
      (Forest.sample brought).withoutForeign b fs := by
    simp [Forest.sample, Forest.withoutForeign, hSource, hHeader]
  obtain ⟨hView, hOther⟩ := filter_lines_eq_projectView b fs (Forest.sample brought)
  exact ⟨hSame, hView.trans (by decide +kernel), hOther _ hSame⟩

end CallbackWeave.Elision
