import CallbackWeave.Proofs.Filter.Output
import CallbackWeave.Proofs.Filter.Revealing

/-!
What a foreign file is collapsed to. An include line has one of two forms, and between its
delimiters stands the name that its marker gives, read as text and written again. So it keeps the
bytes of a name that is UTF-8, and two such names never collapse to one line. In any other name each
stretch that is not UTF-8 has been replaced, and two of these may come to the same.
-/

namespace CallbackWeave

/-- The form of an include line. -/
inductive IncludeForm where
  | angled
  | quoted
deriving DecidableEq

namespace IncludeForm

/-- What stands before the name, with the delimiter that opens it. -/
def opening : IncludeForm → Bytes
  | angled => Utf8.encode "#include <"
  | quoted => Utf8.encode "#include \""

/-- The delimiter behind the name. -/
def closing : IncludeForm → Bytes
  | angled => Utf8.encode ">"
  | quoted => Utf8.encode "\""

/-- The include line of a name. -/
def line (form : IncludeForm) (name : Bytes) : Bytes := form.opening ++ name ++ form.closing

/-- The delimiter at its end tells the form of a line. -/
theorem getLast?_line (form : IncludeForm) (name : Bytes) :
    (form.line name).getLast? = some (match form with | angled => 0x3E | quoted => 0x22) := by
  have hClosing : Utf8.encode ">" = [0x3E] ∧ Utf8.encode "\"" = [0x22] := by decide +kernel
  cases form with
  | angled => rw [line, closing, hClosing.1, List.getLast?_concat]
  | quoted => rw [line, closing, hClosing.2, List.getLast?_concat]

theorem line_inj {form other : IncludeForm} {name last : Bytes} :
    form.line name = other.line last ↔ form = other ∧ name = last := by
  constructor
  · intro hSame
    have hEnd := congrArg List.getLast? hSame
    rw [getLast?_line, getLast?_line] at hEnd
    obtain rfl : form = other := by
      cases form <;> cases other <;> first | rfl | (absurd hEnd; decide)
    simpa [line] using hSame
  · rintro ⟨rfl, rfl⟩
    rfl

end IncludeForm

/-- The form that the flags of a marker ask for. -/
def MarkerText.form (text : MarkerText) : IncludeForm :=
  if ∃ flag ∈ text.flags, LineMarker.value flag = 3 then .angled else .quoted

namespace Elision

/-- The line at a position is a marker, and a line is given for it. -/
structure CollapsesAt (b : Boundary) (fs : FileSystem) (lines : List Bytes) (i : Nat)
    (text : MarkerText) (given : Bytes) : Prop where
  marker : lines[i]? = some text.bytes
  given : givenAt b fs lines i = some given

theorem directive_eq_line {text : MarkerText} {marker : LineMarker}
    (hDescribes : text.Describes marker) :
    directive marker = text.form.line (Utf8.encode (Utf8.decodeLossy text.name)) := by
  have hFile : Utf8.decodeLossy text.name = marker.file :=
    String.toList_inj.mp (Utf8.decodes_iff.mp hDescribes.file)
  have hSystem := hDescribes.systemHeader
  rw [hFile, directive]
  cases hFlag : marker.flags.systemHeader with
  | true =>
      have hForm : text.form = .angled := if_pos (hSystem.mp hFlag)
      simp [hForm, IncludeForm.line, IncludeForm.opening, IncludeForm.closing, Utf8.encode_append]
  | false =>
      have hForm : text.form = .quoted := if_neg fun hAsked => by simp [hSystem.mpr hAsked] at hFlag
      simp [hForm, IncludeForm.line, IncludeForm.opening, IncludeForm.closing, Utf8.encode_append]

/-- Only a marker that leaves project text gives a line. -/
theorem opens_of_onMarker {b : Boundary} {fs : FileSystem} {depth : Nat} {marker : LineMarker}
    {given : Bytes} (hGiven : (onMarker b fs depth marker).2 = some given) :
    depth = 0 ∧ (onMarker b fs depth marker).1 = 1 := by
  unfold onMarker at hGiven ⊢
  split_ifs at hGiven ⊢ with hEnter hInside hForeign
  exact ⟨Nat.eq_zero_of_not_pos hInside, rfl⟩

theorem depth_take_succ (b : Boundary) (fs : FileSystem) {lines : List Bytes} {i : Nat}
    {line : Bytes} (hLine : lines[i]? = some line) :
    (filter b fs (lines.take (i + 1))).depth =
      (step b fs (filter b fs (lines.take i)).depth line).1 := by
  rw [List.take_add_one, hLine, Option.toList_some, filter, filterFrom_append]
  rfl

namespace CollapsesAt

variable {b : Boundary} {fs : FileSystem} {lines : List Bytes} {i j : Nat}
  {text other : MarkerText} {given again : Bytes}

/-- What is given stands for a region that begins here. -/
theorem opens (h : CollapsesAt b fs lines i text given) :
    (filter b fs (lines.take i)).depth = 0 ∧ (filter b fs (lines.take (i + 1))).depth = 1 := by
  obtain ⟨marker, hMarker, -⟩ := text.exists_describes
  have hGiven := h.given
  rw [givenAt, h.marker, Option.bind_some, step, hMarker] at hGiven
  rw [depth_take_succ b fs h.marker, step, hMarker]
  exact opens_of_onMarker hGiven

theorem given_eq (h : CollapsesAt b fs lines i text given) :
    given = text.form.line (Utf8.encode (Utf8.decodeLossy text.name)) := by
  obtain ⟨marker, hMarker, hDescribes⟩ := text.exists_describes
  have hGiven := h.given
  rw [givenAt, h.marker, Option.bind_some, step, hMarker] at hGiven
  rw [onMarker_eq_some hGiven, directive_eq_line hDescribes]

theorem given_eq_iff (h : CollapsesAt b fs lines i text given) :
    given = text.form.line text.name ↔ text.name.toByteArray.IsValidUTF8 := by
  rw [h.given_eq, IncludeForm.line_inj, Utf8.encode_decodeLossy_eq_iff]
  exact and_iff_right rfl

/-- Two regions collapse to one line exactly if their names are read as one text. -/
theorem same_iff (h : CollapsesAt b fs lines i text given)
    (hOther : CollapsesAt b fs lines j other again) :
    given = again ↔ text.form = other.form ∧
      Utf8.decodeLossy text.name = Utf8.decodeLossy other.name := by
  rw [h.given_eq, hOther.given_eq, IncludeForm.line_inj, Utf8.encode_injective.eq_iff]

end CollapsesAt

/-- A line that is left is a line of text, or it stands for a region. -/
theorem mem_or_collapsesAt {b : Boundary} {fs : FileSystem} {lines : List Bytes} {given : Bytes}
    (hGiven : given ∈ (filter b fs lines).lines) :
    (given ∈ lines ∧ LineMarker.ofLine? given = none) ∨
      ∃ i text, CollapsesAt b fs lines i text given := by
  rw [filter_lines_eq_givenAt] at hGiven
  obtain ⟨i, -, hAt⟩ := List.mem_filterMap.mp hGiven
  obtain ⟨line, hLine, hStep⟩ := Option.bind_eq_some_iff.mp hAt
  cases gives_of_step hStep with
  | itself hText => exact Or.inl ⟨List.mem_of_getElem? hLine, hText⟩
  | collapsed marker hMarker =>
      obtain ⟨text, rfl, -⟩ := MarkerText.exists_of_ofLine? hMarker
      exact Or.inr ⟨i, text, hLine, hAt⟩

/-- Each line that a walk makes itself stands where a region begins, and between its delimiters it
has the name of the marker there as read from its bytes: these bytes themselves exactly if they are
UTF-8. So two regions with different names collapse to different lines if both names are UTF-8, and
to one line only if they are read as one text. -/
theorem collapsed_name (b : Boundary) (fs : FileSystem) (lines : List Bytes) :
    (∀ given ∈ (filter b fs lines).lines, (given ∈ lines ∧ LineMarker.ofLine? given = none) ∨
      ∃ i text, CollapsesAt b fs lines i text given) ∧
    (∀ i text given, CollapsesAt b fs lines i text given →
      (filter b fs (lines.take i)).depth = 0 ∧ (filter b fs (lines.take (i + 1))).depth = 1 ∧
      (∃ chars, Utf8.Decodes text.name chars ∧
        given = text.form.line (Utf8.encodeChars chars)) ∧
      (given = text.form.line text.name ↔ text.name.toByteArray.IsValidUTF8)) ∧
    ∀ i text given j other again, CollapsesAt b fs lines i text given →
      CollapsesAt b fs lines j other again →
      (given = again ↔ text.form = other.form ∧
        Utf8.decodeLossy text.name = Utf8.decodeLossy other.name) ∧
      (text.name.toByteArray.IsValidUTF8 → other.name.toByteArray.IsValidUTF8 →
        text.name ≠ other.name → given ≠ again) := by
  refine ⟨fun given => mem_or_collapsesAt, fun i text given hCollapses => ?_, ?_⟩
  · obtain ⟨hBefore, hAfter⟩ := hCollapses.opens
    exact ⟨hBefore, hAfter, ⟨_, Utf8.decodes_decodeLossy _, hCollapses.given_eq⟩,
      hCollapses.given_eq_iff⟩
  · intro i text given j other again hCollapses hOther
    refine ⟨hCollapses.same_iff hOther, fun hValid hOtherValid hNames hSame => hNames ?_⟩
    have hRead := congrArg Utf8.encode ((hCollapses.same_iff hOther).mp hSame).2
    rwa [Utf8.encode_decodeLossy_eq_iff.mpr hValid,
      Utf8.encode_decodeLossy_eq_iff.mpr hOtherValid] at hRead

theorem isNumeral_one : LineMarker.IsNumeral [0x31] := ⟨by simp, by decide +kernel⟩

/-- The marker that enters a file of some name. -/
def entrance (name : Bytes) (hSome : name ≠ []) (hFree : LineMarker.quote ∉ name) : MarkerText where
  number := [0x31]
  name := name
  flags := [[0x31]]
  number_isNumeral := isNumeral_one
  name_ne_nil := hSome
  quote_notMem := hFree
  flags_isNumeral := by
    intro flag hFlag
    rw [List.mem_singleton.mp hFlag]
    exact isNumeral_one

/-- A source that enters two files. -/
def enteringBoth (first second : MarkerText) : List Bytes :=
  [first.bytes, Utf8.encode "int x;", Utf8.encode "# 2 \"a.c\" 2", second.bytes,
    Utf8.encode "# 3 \"a.c\" 2"]

/-- Two names of which one differs from the other by an accent. -/
def accented : MarkerText := entrance (Utf8.encode "\u00E9.h") (by decide +kernel) (by decide +kernel)

def unaccented : MarkerText := entrance (Utf8.encode "e.h") (by decide +kernel) (by decide +kernel)

theorem collapsed_name_accented :
    let b : Boundary := .ofSettings ⟨"/p"⟩ .standard
    let fs : FileSystem := ⟨⟨[], []⟩, .empty⟩
    let lines := enteringBoth accented unaccented
    let given := Utf8.encode "#include \"\u00E9.h\""
    let again := Utf8.encode "#include \"e.h\""
    given ∈ (filter b fs lines).lines ∧ CollapsesAt b fs lines 0 accented given ∧
      CollapsesAt b fs lines 3 unaccented again ∧
      accented.name.toByteArray.IsValidUTF8 ∧ unaccented.name.toByteArray.IsValidUTF8 ∧
      accented.name ≠ unaccented.name ∧
      given = accented.form.line accented.name ∧ given ≠ again := by
  intro b fs lines given again
  have hFirst : CollapsesAt b fs lines 0 accented given := ⟨rfl, by decide +kernel⟩
  have hSecond : CollapsesAt b fs lines 3 unaccented again := ⟨rfl, by decide +kernel⟩
  have hValid : accented.name.toByteArray.IsValidUTF8 := ⟨"\u00E9.h".toList, rfl⟩
  have hOtherValid : unaccented.name.toByteArray.IsValidUTF8 := ⟨"e.h".toList, rfl⟩
  have hNames : accented.name ≠ unaccented.name := by decide +kernel
  obtain ⟨-, hKept, hApart⟩ := collapsed_name b fs lines
  exact ⟨by decide +kernel, hFirst, hSecond, hValid, hOtherValid, hNames,
    (hKept 0 accented given hFirst).2.2.2.mpr hValid,
    (hApart 0 accented given 3 unaccented again hFirst hSecond).2 hValid hOtherValid hNames⟩

/-- Two names that begin with a byte with which no character begins. -/
def brokenName : MarkerText := entrance [0xFF, 0x2E, 0x68] (by decide) (by decide)

def otherBrokenName : MarkerText := entrance [0xFE, 0x2E, 0x68] (by decide) (by decide)

/-- A name that is no UTF-8 is not kept, and two regions with different names of that kind collapse
to one line. -/
theorem collapsed_name_not_kept :
    let b : Boundary := .ofSettings ⟨"/p"⟩ .standard
    let fs : FileSystem := ⟨⟨[], []⟩, .empty⟩
    let lines := enteringBoth brokenName otherBrokenName
    let given := Utf8.encode "#include \"\uFFFD.h\""
    CollapsesAt b fs lines 0 brokenName given ∧ CollapsesAt b fs lines 3 otherBrokenName given ∧
      brokenName.name ≠ otherBrokenName.name ∧ brokenName.form = otherBrokenName.form ∧
      ¬ (∀ i text given, CollapsesAt b fs lines i text given →
        given = text.form.line text.name) ∧
      ¬ ∀ i text given j other again, CollapsesAt b fs lines i text given →
        CollapsesAt b fs lines j other again → text.name ≠ other.name →
          text.form = other.form → given ≠ again := by
  intro b fs lines given
  have hFirst : CollapsesAt b fs lines 0 brokenName given := ⟨rfl, by decide +kernel⟩
  have hSecond : CollapsesAt b fs lines 3 otherBrokenName given := ⟨rfl, by decide +kernel⟩
  have hNames : brokenName.name ≠ otherBrokenName.name := by decide
  have hLost : given ≠ brokenName.form.line brokenName.name := by decide +kernel
  refine ⟨hFirst, hSecond, hNames, rfl, fun hAll => hLost (hAll 0 brokenName given hFirst), ?_⟩
  exact fun hAll => hAll 0 brokenName given 3 otherBrokenName given hFirst hSecond hNames rfl rfl

end Elision

end CallbackWeave
