import CallbackWeave.Filter.Elision
import CallbackWeave.Proofs.Text.Splitting

/-!
Lines and the bytes that spell them. Each line is followed by a line feed, with or without a
carriage return before it, and the last line may lack its end. The main statement says that the
lines are read from their bytes whatever ends have been chosen, so that a walk over text does not
depend on them. A line that itself ends in a carriage return is not promised anything: reading drops
that as a part of the end.
-/

namespace CallbackWeave.Elision

section Ends

variable {last : UInt8} {bytes : Bytes}

theorem dropEnd_sublist (last : UInt8) (bytes : Bytes) : (dropEnd last bytes).Sublist bytes := by
  unfold dropEnd
  split_ifs
  · exact List.dropLast_sublist bytes
  · exact List.Sublist.refl bytes

theorem dropEnd_append (last : UInt8) (bytes : Bytes) : dropEnd last (bytes ++ [last]) = bytes := by
  simp [dropEnd]

theorem dropEnd_of_getLast?_ne (hLast : bytes.getLast? ≠ some last) : dropEnd last bytes = bytes :=
  if_neg hLast

theorem dropEnd_of_notMem (hFree : last ∉ bytes) : dropEnd last bytes = bytes :=
  dropEnd_of_getLast?_ne fun hLast => hFree (List.mem_of_getLast? hLast)

/-- What stands at the end does not depend on what is before it, as long as something is there. -/
theorem dropEnd_append_of_ne_nil (front : Bytes) (hSome : bytes ≠ []) :
    dropEnd last (front ++ bytes) = front ++ dropEnd last bytes := by
  unfold dropEnd
  rw [List.getLast?_append_of_ne_nil _ hSome, List.dropLast_append_of_ne_nil hSome]
  split_ifs <;> rfl

/-- Dropping an end is seen. -/
theorem dropEnd_ne_of_getLast? (hLast : bytes.getLast? = some last) : dropEnd last bytes ≠ bytes := by
  have hSome : bytes ≠ [] := fun hNone => by simp [hNone] at hLast
  intro hSame
  have hLength : bytes.dropLast.length = bytes.length := by
    rw [dropEnd, if_pos hLast] at hSame
    exact congrArg List.length hSame
  have hPositive := List.length_pos_iff.mpr hSome
  rw [List.length_dropLast] at hLength
  omega

end Ends

section Lines

variable {line bytes : Bytes}

/-- Lines that are read hold no line feed. -/
theorem lineFeed_notMem_of_mem_splitLines (hLine : line ∈ splitLines bytes) : lineFeed ∉ line := by
  unfold splitLines at hLine
  split_ifs at hLine
  · cases hLine
  · obtain ⟨stretch, hStretch, rfl⟩ := List.mem_map.mp hLine
    exact fun hMem => Text.notMem_of_mem_splitOn hStretch ((dropEnd_sublist _ _).subset hMem)

/-- The first line is what stands before the first line feed. -/
theorem splitLines_cons (hFree : lineFeed ∉ line) (bytes : Bytes) :
    splitLines (line ++ lineFeed :: bytes) = dropEnd carriageReturn line :: splitLines bytes := by
  rcases eq_or_ne bytes [] with rfl | hSome
  · rw [splitLines, if_neg (by simp), dropEnd_append, List.splitOn_eq_singleton hFree]
    rfl
  · have hBody : dropEnd lineFeed (line ++ lineFeed :: bytes) =
        line ++ lineFeed :: dropEnd lineFeed bytes := by
      rw [List.append_cons, dropEnd_append_of_ne_nil _ hSome, ← List.append_cons]
    rw [splitLines, if_neg (by simp), hBody, List.splitOn_append_cons_self_of_not_mem hFree,
      List.map_cons, splitLines, if_neg (by simpa using hSome)]

/-- Bytes without a line feed are one line, unless there are none. -/
theorem splitLines_singleton (hFree : lineFeed ∉ line) (hSome : line ≠ []) :
    splitLines line = [dropEnd carriageReturn line] := by
  rw [splitLines, if_neg (by simpa using hSome), dropEnd_of_notMem hFree,
    List.splitOn_eq_singleton hFree]
  rfl

theorem write_cons (line : Bytes) (rest : List Bytes) :
    write (line :: rest) = line ++ lineFeed :: write rest := by
  simp [write]

/-- Written lines are found again when they are read, each without a carriage return at its
end. -/
theorem splitLines_write {lines : List Bytes} (hLines : ∀ line ∈ lines, lineFeed ∉ line) :
    splitLines (write lines) = lines.map (dropEnd carriageReturn) := by
  induction lines with
  | nil => rfl
  | cons line rest ih =>
      obtain ⟨hFirst, hRest⟩ := List.forall_mem_cons.mp hLines
      rw [write_cons, splitLines_cons hFirst, ih hRest, List.map_cons]

end Lines

/-- What may stand behind a line. -/
inductive LineEnd where
  | feed
  | returnAndFeed

def LineEnd.bytes : LineEnd → Bytes
  | feed => [lineFeed]
  | returnAndFeed => [carriageReturn, lineFeed]

/-- A line that is told from its end. -/
structure IsPlain (line : Bytes) : Prop where
  lineFeed_notMem : lineFeed ∉ line
  getLast?_ne : line.getLast? ≠ some carriageReturn

/-- Lines and bytes that spell them. Only the last line may lack its end, and not if it is empty. -/
inductive Spells : List Bytes → Bytes → Prop
  | nil : Spells [] []
  | unended {line : Bytes} (hSome : line ≠ []) : Spells [line] line
  | ended (line : Bytes) (ending : LineEnd) {rest : List Bytes} {bytes : Bytes}
      (hRest : Spells rest bytes) : Spells (line :: rest) (line ++ ending.bytes ++ bytes)

theorem spells_write (lines : List Bytes) : Spells lines (write lines) := by
  induction lines with
  | nil => exact .nil
  | cons line rest ih =>
      have hFirst := Spells.ended line .feed ih
      rwa [LineEnd.bytes, List.append_assoc, List.singleton_append, ← write_cons] at hFirst

/-- A line is read without its end, whichever end it has. -/
theorem splitLines_ended {line : Bytes} (hPlain : IsPlain line) (ending : LineEnd)
    (bytes : Bytes) : splitLines (line ++ ending.bytes ++ bytes) = line :: splitLines bytes := by
  cases ending with
  | feed =>
      rw [LineEnd.bytes, List.append_assoc, List.singleton_append,
        splitLines_cons hPlain.lineFeed_notMem, dropEnd_of_getLast?_ne hPlain.getLast?_ne]
  | returnAndFeed =>
      have hFree : lineFeed ∉ line ++ [carriageReturn] := by
        rw [List.mem_append, not_or]
        exact ⟨hPlain.lineFeed_notMem, by decide⟩
      have hBytes : line ++ LineEnd.returnAndFeed.bytes ++ bytes =
          line ++ [carriageReturn] ++ lineFeed :: bytes := by
        simp [LineEnd.bytes]
      rw [hBytes, splitLines_cons hFree, dropEnd_append]

theorem Spells.splitLines_eq {lines : List Bytes} {bytes : Bytes} (hSpells : Spells lines bytes)
    (hLines : ∀ line ∈ lines, IsPlain line) : splitLines bytes = lines := by
  induction hSpells with
  | nil => rfl
  | unended hSome =>
      have hPlain := hLines _ List.mem_cons_self
      rw [splitLines_singleton hPlain.lineFeed_notMem hSome,
        dropEnd_of_getLast?_ne hPlain.getLast?_ne]
  | ended line ending _ ih =>
      obtain ⟨hFirst, hRest⟩ := List.forall_mem_cons.mp hLines
      rw [splitLines_ended hFirst, ih hRest]

/-- Plain lines are read from all bytes that spell them, in particular from those that writing gives,
and a walk gives the same over all of these bytes. -/
theorem splitLines_recovers {lines : List Bytes} (hLines : ∀ line ∈ lines, IsPlain line) :
    (∀ bytes, Spells lines bytes → splitLines bytes = lines) ∧
    splitLines (write lines) = lines ∧
    ∀ (b : Boundary) (fs : FileSystem) (bytes other : Bytes), Spells lines bytes →
      Spells lines other → filterBytes b fs bytes = filterBytes b fs other := by
  refine ⟨fun bytes hBytes => hBytes.splitLines_eq hLines,
    (spells_write lines).splitLines_eq hLines, ?_⟩
  intro b fs bytes other hBytes hOther
  rw [filterBytes, filterBytes, hBytes.splitLines_eq hLines, hOther.splitLines_eq hLines]

/-- A marker, an empty line, a line with a carriage return inside, and one that lacks its end. -/
def mixedLines : List Bytes :=
  ["# 1 \"x.h\" 1", "", "int\ra;", "int b;"].map Utf8.encode

theorem splitLines_recovers_mixed :
    let bytes := Utf8.encode "# 1 \"x.h\" 1\r\n\nint\ra;\r\nint b;"
    let other := Utf8.encode "# 1 \"x.h\" 1\n\r\nint\ra;\nint b;\n"
    (∀ line ∈ mixedLines, IsPlain line) ∧ Spells mixedLines bytes ∧ Spells mixedLines other ∧
      splitLines bytes = mixedLines ∧ splitLines (write mixedLines) = mixedLines ∧
      ∀ (b : Boundary) (fs : FileSystem), filterBytes b fs bytes = filterBytes b fs other := by
  intro bytes other
  have hLines : ∀ line ∈ mixedLines, IsPlain line := by
    have hDecided : ∀ line ∈ mixedLines,
        lineFeed ∉ line ∧ line.getLast? ≠ some carriageReturn := by
      decide +kernel
    exact fun line hMem => ⟨(hDecided line hMem).1, (hDecided line hMem).2⟩
  have hBytes : Spells mixedLines bytes :=
    .ended _ .returnAndFeed (.ended _ .feed (.ended _ .returnAndFeed
      (.unended (by decide +kernel))))
  have hOther : Spells mixedLines other :=
    .ended _ .feed (.ended _ .returnAndFeed (.ended _ .feed (.ended _ .feed .nil)))
  obtain ⟨hRead, hWritten, hWalk⟩ := splitLines_recovers hLines
  exact ⟨hLines, hBytes, hOther, hRead bytes hBytes, hWritten,
    fun b fs => hWalk b fs bytes other hBytes hOther⟩

end CallbackWeave.Elision
