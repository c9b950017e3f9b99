import CallbackWeave.Proofs.Filter.LineEnds
import CallbackWeave.Proofs.Filter.Output

/-!
The walk over its own output. What it has left holds no marker, so that a walk over these lines
changes nothing, even one under another boundary. Between two walks the lines are written and read,
however, and reading drops a carriage return at the end of each. The main statement on that says
that this is all that can happen: the second walk changes nothing exactly if no line that the first
one has left ends in a carriage return.
-/

namespace CallbackWeave.Elision

variable {b : Boundary} {fs : FileSystem}

/-- What a walk leaves holds no marker, and every walk leaves that as it is, under whatever boundary
and whatever files there are. Conversely, all lines without a marker are left by a walk. -/
theorem filter_fixes_output (b : Boundary) (fs : FileSystem) :
    (∀ lines, ∀ text : MarkerText, text.bytes ∉ (filter b fs lines).lines) ∧
    (∀ lines, ∀ (other : Boundary) (elsewhere : FileSystem),
      filter other elsewhere (filter b fs lines).lines = ⟨(filter b fs lines).lines, 0⟩) ∧
    ∀ given, (∃ lines, (filter b fs lines).lines = given) ↔
      ∀ text : MarkerText, text.bytes ∉ given := by
  have hFree : ∀ lines, ∀ text : MarkerText, text.bytes ∉ (filter b fs lines).lines := by
    intro lines text hMem
    exact LineMarker.ofLine?_eq_none_iff.mp (ofLine?_of_mem_filterFrom hMem) text rfl
  refine ⟨hFree, fun lines other elsewhere => ?_, fun given => ⟨?_, fun hGiven => ⟨given, ?_⟩⟩⟩
  · exact filter_of_ordinary fun line hLine => ofLine?_of_mem_filterFrom hLine
  · rintro ⟨lines, rfl⟩
    exact hFree lines
  · have hOrdinary : ∀ line ∈ given, LineMarker.ofLine? line = none := by
      intro line hLine
      rw [LineMarker.ofLine?_eq_none_iff]
      rintro text rfl
      exact hGiven text hLine
    rw [filter_of_ordinary hOrdinary]

theorem lineFeed_notMem_of_mem_filterBytes {bytes line : Bytes}
    (hLine : line ∈ (filterBytes b fs bytes).lines) : lineFeed ∉ line := by
  obtain ⟨source, hSource, hGives⟩ := exists_of_mem_filterFrom hLine
  exact hGives.lineFeed_notMem (lineFeed_notMem_of_mem_splitLines hSource)

/-- The second walk goes over the lines that the first one has left, each without a carriage return
at its end. -/
theorem filterBytes_write (bytes : Bytes) :
    filterBytes b fs (write (filterBytes b fs bytes).lines) =
      filter b fs ((filterBytes b fs bytes).lines.map (dropEnd carriageReturn)) := by
  rw [filterBytes, splitLines_write fun line => lineFeed_notMem_of_mem_filterBytes]

/-- A line that is left as another one ended by a carriage return cannot come from the latter
without its end. -/
theorem Gives.getLast?_ne {line : Bytes} (hGives : Gives (dropEnd carriageReturn line) line) :
    line.getLast? ≠ some carriageReturn := by
  intro hLast
  generalize hSource : dropEnd carriageReturn line = source at hGives
  cases hGives with
  | itself => exact dropEnd_ne_of_getLast? hLast hSource
  | collapsed marker => exact getLast?_directive_ne marker hLast

/-- Where a walk over shortened lines leaves all lines as they were, none has been shortened. Each
line has to give one, so that the lines correspond one by one. -/
theorem getLast?_ne_of_filterFrom_map {depth : Nat} {lines : List Bytes}
    (hSame : (filterFrom b fs depth (lines.map (dropEnd carriageReturn))).lines = lines) :
    ∀ line ∈ lines, line.getLast? ≠ some carriageReturn := by
  induction lines generalizing depth with
  | nil => exact List.forall_mem_nil _
  | cons line rest ih =>
      rw [List.map_cons, filterFrom] at hSame
      cases hGiven : (step b fs depth (dropEnd carriageReturn line)).2 with
      | none =>
          -- One line fewer is too few for all of them to be left.
          have hLength := length_filterFrom_le b fs
            (step b fs depth (dropEnd carriageReturn line)).1
            (rest.map (dropEnd carriageReturn))
          have hCount := congrArg List.length hSame
          simp only [hGiven, Option.toList_none, List.nil_append, List.length_cons,
            List.length_map] at hLength hCount
          omega
      | some given =>
          -- The first line that is left can only be the one that this line gives.
          simp only [hGiven, Option.toList_some, List.singleton_append, List.cons.injEq] at hSame
          obtain ⟨rfl, hRest⟩ := hSame
          exact List.forall_mem_cons.mpr ⟨(gives_of_step hGiven).getLast?_ne, ih hRest⟩

/-- Where no line that is left ends in a carriage return, a second walk changes nothing. -/
theorem filterBytes_write_eq {bytes : Bytes}
    (hEnds : ∀ line ∈ (filterBytes b fs bytes).lines, line.getLast? ≠ some carriageReturn) :
    filterBytes b fs (write (filterBytes b fs bytes).lines) =
      ⟨(filterBytes b fs bytes).lines, 0⟩ := by
  have hKept : (filterBytes b fs bytes).lines.map (dropEnd carriageReturn) =
      (filterBytes b fs bytes).lines := by
    conv_rhs => rw [← List.map_id (filterBytes b fs bytes).lines]
    exact List.map_congr_left fun line hLine => dropEnd_of_getLast?_ne (hEnds line hLine)
  rw [filterBytes_write, hKept]
  exact filter_of_ordinary fun line hLine => ofLine?_of_mem_filterFrom hLine

/-- Text whose lines end in one carriage return at most is written so that a second walk changes
nothing. -/
theorem filterBytes_write_of_single_returns {bytes : Bytes}
    (hLines : ∀ line ∈ splitLines bytes, line.getLast? ≠ some carriageReturn) :
    filterBytes b fs (write (filterBytes b fs bytes).lines) =
      ⟨(filterBytes b fs bytes).lines, 0⟩ := by
  refine filterBytes_write_eq fun line hLine => ?_
  obtain ⟨source, hSource, hGives⟩ := exists_of_mem_filterFrom hLine
  cases hGives with
  | itself => exact hLines line hSource
  | collapsed marker => exact getLast?_directive_ne marker

/-- A walk over what another one has written gives the same again exactly if no line that has been
written ends in a carriage return. -/
theorem filterBytes_write_eq_iff (b : Boundary) (fs : FileSystem) (bytes : Bytes) :
    let first := filterBytes b fs bytes
    let again := filterBytes b fs (write first.lines)
    (again.lines = first.lines ∧ again.depth = 0 ∧ write again.lines = write first.lines) ↔
      ∀ line ∈ first.lines, line.getLast? ≠ some carriageReturn := by
  intro first again
  constructor
  · rintro ⟨hLines, -, -⟩
    have hAgain : again = filter b fs (first.lines.map (dropEnd carriageReturn)) :=
      filterBytes_write bytes
    rw [hAgain] at hLines
    exact getLast?_ne_of_filterFrom_map hLines
  · intro hEnds
    have hSame : again = ⟨first.lines, 0⟩ := filterBytes_write_eq hEnds
    simp [hSame]

/-- A line that ends in two carriage returns loses one each time it is read. Without both it can be
a marker: here it becomes one when it is read again, and the text after it is lost. -/
theorem filterBytes_write_ne_of_double_return :
    let b : Boundary := .ofSettings ⟨"/p"⟩ .standard
    let fs : FileSystem := ⟨⟨[], []⟩, .empty⟩
    let first := filterBytes b fs (Utf8.encode "# 1 \"x.h\" 1\r\r\nint a;\n")
    let again := filterBytes b fs (write first.lines)
    first = ⟨[Utf8.encode "# 1 \"x.h\" 1\r", Utf8.encode "int a;"], 0⟩ ∧
      again = ⟨[Utf8.encode "#include \"x.h\""], 1⟩ ∧
      ¬ (again.lines = first.lines ∧ again.depth = 0 ∧
        write again.lines = write first.lines) := by
  decide +kernel

end CallbackWeave.Elision
