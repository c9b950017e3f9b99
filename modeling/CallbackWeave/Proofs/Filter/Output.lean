import CallbackWeave.Proofs.Filter.IncludeStack
import CallbackWeave.Proofs.Filter.MarkerGrammar

/-!
What the walk over preprocessed text gives. Each line is an ordinary one of the text or the include
line of one of its markers. So none of them is a marker, and none holds a line feed unless the text
does.
-/

namespace CallbackWeave

namespace LineMarker

/-- The name of a file is read from bytes of the line. -/
theorem exists_name_of_ofLine? {line : Bytes} {marker : LineMarker}
    (hLine : ofLine? line = some marker) :
    ∃ name ⊆ line, marker.file = Utf8.decodeLossy name := by
  obtain ⟨text, rfl, hDescribes⟩ := MarkerText.exists_of_ofLine? hLine
  refine ⟨text.name, fun byte hName => ?_, ?_⟩
  · rw [text.bytes_eq]
    simp [hName]
  · exact (String.toList_inj.mp (Utf8.decodes_iff.mp hDescribes.file)).symm

/-- A line is no marker if it has the form of none. -/
theorem ofLine?_eq_none_iff {line : Bytes} :
    ofLine? line = none ↔ ∀ text : MarkerText, text.bytes ≠ line := by
  constructor
  · rintro hLine text rfl
    obtain ⟨marker, hMarker, -⟩ := text.exists_describes
    rw [hLine] at hMarker
    cases hMarker
  · intro hLine
    rw [Option.eq_none_iff_forall_ne_some]
    intro marker hMarker
    obtain ⟨text, hText, -⟩ := MarkerText.exists_of_ofLine? hMarker
    exact hLine text hText

/-- A marker begins with a number sign and a space. -/
theorem ofLine?_eq_none_of_second {bytes : Bytes} (hSecond : bytes[1]? ≠ some space) :
    ofLine? bytes = none := by
  rw [ofLine?_eq_none_iff]
  rintro text rfl
  rw [text.bytes_eq] at hSecond
  exact hSecond rfl

end LineMarker

namespace Elision

variable {b : Boundary} {fs : FileSystem}

/-- What stands before the name of the file in an include line, in either form. -/
def openings : List Bytes := [Utf8.encode "#include <", Utf8.encode "#include \""]

/-- What stands behind the name. -/
def closings : List Bytes := [Utf8.encode ">", Utf8.encode "\""]

/-- An include line as bytes: a front, the name of the file, and a delimiter. -/
theorem exists_parts_of_directive (marker : LineMarker) :
    ∃ opening ∈ openings, ∃ closing ∈ closings,
      directive marker = opening ++ Utf8.encode marker.file ++ closing := by
  unfold directive
  split
  · exact ⟨_, List.mem_cons_self, _, List.mem_cons_self, by simp only [Utf8.encode_append]⟩
  · exact ⟨_, List.mem_cons_of_mem _ List.mem_cons_self, _,
      List.mem_cons_of_mem _ List.mem_cons_self, by simp only [Utf8.encode_append]⟩

/-- An include line is no marker, whatever the name of the file is. -/
theorem ofLine?_directive (marker : LineMarker) : LineMarker.ofLine? (directive marker) = none := by
  obtain ⟨opening, hOpening, closing, -, hDirective⟩ := exists_parts_of_directive marker
  have hFront : ∀ opening ∈ openings, 1 < opening.length ∧
      opening[1]? ≠ some LineMarker.space := by
    decide +kernel
  obtain ⟨hLength, hSecond⟩ := hFront opening hOpening
  refine LineMarker.ofLine?_eq_none_of_second ?_
  rwa [hDirective, List.append_assoc, List.getElem?_append_left hLength]

/-- An include line ends in a delimiter. -/
theorem getLast?_directive_ne (marker : LineMarker) :
    (directive marker).getLast? ≠ some carriageReturn := by
  obtain ⟨opening, -, closing, hClosing, hDirective⟩ := exists_parts_of_directive marker
  have hLast : ∀ closing ∈ closings, closing ≠ [] ∧
      closing.getLast? ≠ some carriageReturn := by
    decide +kernel
  obtain ⟨hSome, hOther⟩ := hLast closing hClosing
  rwa [hDirective, List.getLast?_append_of_ne_nil _ hSome]

/-- An include line made from a line without line feeds holds none. -/
theorem lineFeed_notMem_directive {line : Bytes} {marker : LineMarker}
    (hLine : LineMarker.ofLine? line = some marker) (hFree : lineFeed ∉ line) :
    lineFeed ∉ directive marker := by
  obtain ⟨opening, hOpening, closing, hClosing, hDirective⟩ := exists_parts_of_directive marker
  obtain ⟨name, hName, hFile⟩ := LineMarker.exists_name_of_ofLine? hLine
  have hEnds : (∀ opening ∈ openings, lineFeed ∉ opening) ∧
      ∀ closing ∈ closings, lineFeed ∉ closing := by
    decide +kernel
  have hReplacement : lineFeed ∉ String.utf8EncodeChar '\uFFFD' := by decide +kernel
  rw [hDirective, hFile]
  intro hMem
  rcases List.mem_append.mp hMem with hFront | hLast
  · rcases List.mem_append.mp hFront with hFirst | hFileName
    · exact hEnds.1 opening hOpening hFirst
    · rcases Utf8.mem_of_mem_encode_decodeLossy hFileName with hFound | hReplaced
      · exact hFree (hName hFound)
      · exact hReplacement hReplaced
  · exact hEnds.2 closing hClosing hLast

/-- What a line can give: itself, if it is ordinary text, or the include line of its marker. -/
inductive Gives (line : Bytes) : Bytes → Prop
  | itself (hText : LineMarker.ofLine? line = none) : Gives line line
  | collapsed (marker : LineMarker) (hMarker : LineMarker.ofLine? line = some marker) :
      Gives line (directive marker)

theorem onMarker_eq_some {depth : Nat} {marker : LineMarker} {given : Bytes}
    (hGiven : (onMarker b fs depth marker).2 = some given) : given = directive marker := by
  unfold onMarker at hGiven
  split_ifs at hGiven
  rw [includeLine?_eq] at hGiven
  split_ifs at hGiven
  exact (Option.some.inj hGiven).symm

theorem gives_of_step {depth : Nat} {line given : Bytes}
    (hGiven : (step b fs depth line).2 = some given) : Gives line given := by
  cases hLine : LineMarker.ofLine? line with
  | some marker =>
      simp only [step, hLine] at hGiven
      rw [onMarker_eq_some hGiven]
      exact .collapsed marker hLine
  | none =>
      simp only [step, hLine] at hGiven
      split_ifs at hGiven
      rw [← Option.some.inj hGiven]
      exact .itself hLine

/-- Every line that is left comes from a line of the text. -/
theorem exists_of_mem_filterFrom {depth : Nat} {lines : List Bytes} {given : Bytes}
    (hGiven : given ∈ (filterFrom b fs depth lines).lines) : ∃ line ∈ lines, Gives line given := by
  induction lines generalizing depth with
  | nil => cases hGiven
  | cons line rest ih =>
      rcases List.mem_append.mp hGiven with hFirst | hRest
      · exact ⟨line, List.mem_cons_self, gives_of_step (Option.mem_toList.mp hFirst)⟩
      · obtain ⟨found, hFound, hGives⟩ := ih hRest
        exact ⟨found, List.mem_cons_of_mem _ hFound, hGives⟩

theorem Gives.ofLine?_eq_none {line given : Bytes} (hGives : Gives line given) :
    LineMarker.ofLine? given = none := by
  cases hGives with
  | itself hText => exact hText
  | collapsed marker => exact ofLine?_directive marker

/-- No line that is left is a marker. -/
theorem ofLine?_of_mem_filterFrom {depth : Nat} {lines : List Bytes} {given : Bytes}
    (hGiven : given ∈ (filterFrom b fs depth lines).lines) : LineMarker.ofLine? given = none := by
  obtain ⟨_, -, hGives⟩ := exists_of_mem_filterFrom hGiven
  exact hGives.ofLine?_eq_none

theorem Gives.lineFeed_notMem {line given : Bytes} (hGives : Gives line given)
    (hFree : lineFeed ∉ line) : lineFeed ∉ given := by
  cases hGives with
  | itself => exact hFree
  | collapsed marker hMarker => exact lineFeed_notMem_directive hMarker hFree

/-- A line gives one line at most. -/
theorem length_filterFrom_le (b : Boundary) (fs : FileSystem) (depth : Nat) (lines : List Bytes) :
    (filterFrom b fs depth lines).lines.length ≤ lines.length := by
  induction lines generalizing depth with
  | nil => exact Nat.le_refl 0
  | cons line rest ih =>
      have hFirst : (step b fs depth line).2.toList.length ≤ 1 := Option.length_toList_le
      have hRest := ih (step b fs depth line).1
      simp only [filterFrom, List.length_append, List.length_cons]
      omega

/-- Ordinary text is left as it is. -/
theorem filter_of_ordinary {lines : List Bytes}
    (hLines : ∀ line ∈ lines, LineMarker.ofLine? line = none) :
    filter b fs lines = ⟨lines, 0⟩ := by
  unfold filter
  induction lines with
  | nil => rfl
  | cons line rest ih =>
      obtain ⟨hLine, hRest⟩ := List.forall_mem_cons.mp hLines
      simp [filterFrom, step, hLine, ih hRest]

end Elision

end CallbackWeave
