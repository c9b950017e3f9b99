import CallbackWeave.ListFile
import CallbackWeave.Proofs.Text.Splitting
import CallbackWeave.Proofs.Text.Trimming

/-!
The texts that spell a list of entries. A line bears one entry between blanks, or it is blank and
bears none; lines end in a line feed, with or without a carriage return before it, and the last one
may lack its end. The main statement says that a text is read as the entries that it spells and as
no others, so that reading goes on from line to line and loses nothing. A reader that drops the
carriage return with the end of the line gets the same entries.
-/

namespace CallbackWeave

namespace Text

/-- What can be an entry of a list: something on one line that neither begins nor ends with a
blank. -/
structure IsEntry (entry : List Char) : Prop where
  nonempty : entry ≠ []
  feed_notMem : '\n' ∉ entry
  trimmed : IsTrimmed entry

/-- Blanks that do not end a line. -/
structure IsMargin (margin : List Char) : Prop where
  blank : IsBlank margin
  feed_notMem : '\n' ∉ margin

instance (entry : List Char) : Decidable (IsEntry entry) :=
  decidable_of_iff (entry ≠ [] ∧ '\n' ∉ entry ∧ IsTrimmed entry)
    ⟨fun h => ⟨h.1, h.2.1, h.2.2⟩, fun h => ⟨h.nonempty, h.feed_notMem, h.trimmed⟩⟩

instance (margin : List Char) : Decidable (IsMargin margin) :=
  decidable_of_iff (IsBlank margin ∧ '\n' ∉ margin)
    ⟨fun h => ⟨h.1, h.2⟩, fun h => ⟨h.blank, h.feed_notMem⟩⟩

/-- What ends a line. -/
def lineEnds : List (List Char) := [['\n'], ['\r', '\n']]

/-- A line without its end, and the entries that it bears. -/
inductive Bears : List Char → List (List Char) → Prop
  | blank {line : List Char} (all : IsMargin line) : Bears line []
  | entry {front back : List Char} (before : IsMargin front) (entry : List Char)
      (after : IsMargin back) : Bears (front ++ entry ++ back) [entry]

/-- Entries and a text that spells them. The last line, and no other, may lack its end. -/
inductive Spells : List (List Char) → List Char → Prop
  | unended {line : List Char} {last : List (List Char)} (bears : Bears line last) :
      Spells last line
  | ended {line ending rest : List Char} {first others : List (List Char)}
      (bears : Bears line first) (ends : ending ∈ lineEnds) (spells : Spells others rest) :
      Spells (first ++ others) (line ++ ending ++ rest)

variable {line text : List Char}

/-- What stands before a line feed and what stands behind it are read apart. -/
theorem entries_append (front back : List Char) :
    entries (front ++ '\n' :: back) = entries front ++ entries back := by
  simp [entries, lines, List.splitOn_append_cons_self]

theorem entries_of_feed_notMem (hLine : '\n' ∉ line) :
    entries line = [trim line].filter (!·.isEmpty) := by
  rw [entries, lines, List.splitOn_eq_singleton hLine, List.map_singleton]

section Bearing

variable {borne : List (List Char)}

theorem Bears.feed_notMem (hBears : Bears line borne) (hBorne : ∀ entry ∈ borne, IsEntry entry) :
    '\n' ∉ line := by
  cases hBears with
  | blank all => exact all.feed_notMem
  | entry before entry after =>
      have hEntry := (hBorne entry List.mem_cons_self).feed_notMem
      simp [before.feed_notMem, hEntry, after.feed_notMem]

/-- What a line bears is read from it, and blanks behind it do not matter. -/
theorem Bears.entries_eq (hBears : Bears line borne) (hBorne : ∀ entry ∈ borne, IsEntry entry)
    {margin : List Char} (hMargin : IsMargin margin) : entries (line ++ margin) = borne := by
  have hFeed : '\n' ∉ line ++ margin := by simp [hBears.feed_notMem hBorne, hMargin.feed_notMem]
  rw [entries_of_feed_notMem hFeed]
  cases hBears with
  | blank all => simp [trim_of_isBlank (all.blank.append hMargin.blank)]
  | @entry front back before entry after =>
      have hEntry := hBorne entry List.mem_cons_self
      rw [List.append_assoc, trim_surrounded before.blank hEntry.trimmed
        (after.blank.append hMargin.blank)]
      simp [hEntry.nonempty]

/-- Whatever stands on a line, the line bears what is read from it. -/
theorem bears_entries (hLine : '\n' ∉ line) : Bears line (entries line) := by
  obtain ⟨front, back, hSplit, hFront, hBack, -⟩ := exists_surrounding line
  rw [entries_of_feed_notMem hLine]
  generalize trim line = entry at hSplit
  subst hSplit
  simp only [List.mem_append, not_or] at hLine
  obtain ⟨⟨hFrontFeed, -⟩, hBackFeed⟩ := hLine
  rcases eq_or_ne entry [] with rfl | hSome
  · refine .blank ⟨?_, ?_⟩
    · simpa using hFront.append hBack
    · simp [hFrontFeed, hBackFeed]
  · have hKept : [entry].filter (!·.isEmpty) = [entry] := by simp [hSome]
    rw [hKept]
    exact .entry ⟨hFront, hFrontFeed⟩ entry ⟨hBack, hBackFeed⟩

end Bearing

theorem isEntry_of_mem_entries {entry : List Char} (hMem : entry ∈ entries text) :
    IsEntry entry := by
  obtain ⟨hLines, hSome⟩ := List.mem_filter.mp hMem
  obtain ⟨line, hLine, rfl⟩ := List.mem_map.mp hLines
  obtain ⟨front, back, hSplit, -, -, hTrimmed⟩ := exists_surrounding line
  refine ⟨by simpa using hSome, fun hFeed => notMem_of_mem_splitOn hLine ?_, hTrimmed⟩
  rw [hSplit]
  exact List.mem_append_left _ (List.mem_append_right _ hFeed)

/-- A text is read as the entries that it spells. -/
theorem Spells.entries_eq {spelled : List (List Char)} (hSpells : Spells spelled text)
    (hSpelled : ∀ entry ∈ spelled, IsEntry entry) : entries text = spelled := by
  induction hSpells with
  | unended bears =>
      have hNone : IsMargin [] := by decide
      simpa using bears.entries_eq hSpelled hNone
  | @ended line ending rest first others bears ends _ ih =>
      obtain ⟨hFirst, hOthers⟩ := List.forall_mem_append.mp hSpelled
      -- A carriage return before the line feed is one more blank behind the entry.
      obtain ⟨margin, hMargin, rfl⟩ : ∃ margin, IsMargin margin ∧ ending = margin ++ ['\n'] := by
        rcases List.mem_pair.mp ends with rfl | rfl
        · exact ⟨[], by decide, rfl⟩
        · exact ⟨['\r'], by decide, rfl⟩
      have hText : line ++ (margin ++ ['\n']) ++ rest = (line ++ margin) ++ '\n' :: rest := by simp
      rw [hText, entries_append, bears.entries_eq hFirst hMargin, ih hOthers]

/-- Each text spells the entries that are read from it. -/
theorem spells_entries (text : List Char) : Spells (entries text) text := by
  by_cases hFeed : '\n' ∈ text
  · obtain ⟨line, rest, hSplit, hLine⟩ := List.eq_append_cons_of_mem hFeed
    have hShorter : rest.length < text.length := by
      rw [hSplit, List.length_append, List.length_cons]
      omega
    have hText : text = line ++ ['\n'] ++ rest := by simp [hSplit]
    have hRead : entries text = entries line ++ entries rest := by rw [hSplit, entries_append]
    rw [hRead, hText]
    exact .ended (bears_entries hLine) List.mem_cons_self (spells_entries rest)
  · exact .unended (bears_entries hFeed)
termination_by text.length

section Ends

/-- A line without the carriage return at its end. -/
def dropReturn (line : List Char) : List Char :=
  if line.getLast? = some '\r' then line.dropLast else line

/-- The lines of a text without their ends, for a reader that takes a carriage return before a line
feed as a part of the end and sees no line behind the last line feed. -/
def endedLines (text : List Char) : List (List Char) :=
  (lines text).dropLast.map dropReturn ++ (lines text).getLast?.toList.filter (!·.isEmpty)

theorem trim_dropReturn (line : List Char) : trim (dropReturn line) = trim line := by
  unfold dropReturn
  split_ifs with hLast
  · obtain ⟨front, rfl⟩ := List.getLast?_eq_some_iff.mp hLast
    have hNone : IsBlank [] := by decide
    have hReturn : IsBlank ['\r'] := by decide
    simpa using (trim_append hNone hReturn front).symm
  · rfl

/-- Both ways of reading lines give the same entries: trimming takes the carriage returns as blanks,
and the empty line at the end bears no entry. -/
theorem entries_eq_endedLines (text : List Char) :
    entries text = ((endedLines text).map trim).filter (!·.isEmpty) := by
  obtain ⟨front, last, hLines⟩ : ∃ front last, lines text = front ++ [last] :=
    (List.eq_nil_or_concat' _).resolve_left (List.splitOn_ne_nil '\n' text)
  have hFront : (front.map dropReturn).map trim = front.map trim := by
    rw [List.map_map]
    exact List.map_congr_left fun line _ => trim_dropReturn line
  have hLast : (([last].filter (!·.isEmpty)).map trim).filter (!·.isEmpty) =
      ([last].map trim).filter (!·.isEmpty) := by
    cases last with
    | nil => rfl
    | cons c rest => rfl
  rw [entries, endedLines, hLines, List.dropLast_concat, List.getLast?_concat, Option.toList_some,
    List.map_append, List.map_append, List.filter_append, List.filter_append, hFront, hLast]

end Ends

end Text

namespace ListFile

/-- A list file is read line by line and without loss. What is read from two texts, one on the lines
behind the other, is what is read from each; an entry is never empty, stands on one line and has no
blank at its ends; and just the texts that spell some entries are read as these, whatever blanks
stand around the entries, whichever way the lines end and wherever blank lines are put. -/
theorem ofText_line_by_line :
    (∀ a b : String, ofText (a ++ "\n" ++ b) = ofText a ++ ofText b) ∧
    (∀ text : String, ∀ entry ∈ ofText text, Text.IsEntry entry.toList) ∧
    ∀ entries : List String, (∀ entry ∈ entries, Text.IsEntry entry.toList) →
      ∀ text : String,
        Text.Spells (entries.map String.toList) text.toList ↔ ofText text = entries := by
  have hMap : ∀ entries : List String, (entries.map String.toList).map String.ofList = entries := by
    intro entries
    simp
  refine ⟨fun a b => ?_, fun text entry hMem => ?_, fun entries hEntries text => ?_⟩
  · have hText : (a ++ "\n" ++ b).toList = a.toList ++ '\n' :: b.toList := by simp
    rw [ofText, hText, Text.entries_append, List.map_append, ofText, ofText]
  · obtain ⟨s, hRead, rfl⟩ := List.mem_map.mp hMem
    rw [String.toList_ofList]
    exact Text.isEntry_of_mem_entries hRead
  · constructor
    · intro hSpells
      have hSpelled : ∀ s ∈ entries.map String.toList, Text.IsEntry s :=
        List.forall_mem_map.mpr hEntries
      rw [ofText, hSpells.entries_eq hSpelled, hMap]
    · rintro rfl
      have hRead : (ofText text).map String.toList = Text.entries text.toList := by simp [ofText]
      rw [hRead]
      exact Text.spells_entries text.toList

/-- A text that spells two names, with blanks, blank lines and both ends of lines. -/
def spelledText : String := "\n\t on_open \r\n \r\r\n\u00a0on close\u3000\n\x0b"

theorem ofText_line_by_line_spelled :
    (∀ entry ∈ ["on_open", "on close"], Text.IsEntry entry.toList) ∧
    Text.Spells (["on_open", "on close"].map String.toList) spelledText.toList ∧
    ofText spelledText = ["on_open", "on close"] := by
  have hEntries : ∀ entry ∈ ["on_open", "on close"], Text.IsEntry entry.toList := by
    decide +kernel
  have hFeed : ['\n'] ∈ Text.lineEnds := by decide
  have hReturn : ['\r', '\n'] ∈ Text.lineEnds := by decide
  have hText : spelledText.toList = [] ++ ['\n'] ++
      (['\t', ' '] ++ "on_open".toList ++ [' '] ++ ['\r', '\n'] ++
        ([' ', '\r'] ++ ['\r', '\n'] ++
          (['\u00a0'] ++ "on close".toList ++ ['\u3000'] ++ ['\n'] ++ ['\x0b']))) := by
    decide +kernel
  have hSpells : Text.Spells (["on_open", "on close"].map String.toList) spelledText.toList := by
    have hLast := Text.Spells.unended (.blank (by decide : Text.IsMargin ['\x0b']))
    have hSecond := Text.Spells.ended (.entry (by decide : Text.IsMargin ['\u00a0'])
      "on close".toList (by decide : Text.IsMargin ['\u3000'])) hFeed hLast
    have hBlank := Text.Spells.ended (.blank (by decide : Text.IsMargin [' ', '\r'])) hReturn
      hSecond
    have hFirst := Text.Spells.ended (.entry (by decide : Text.IsMargin ['\t', ' '])
      "on_open".toList (by decide : Text.IsMargin [' '])) hReturn hBlank
    rw [hText]
    exact Text.Spells.ended (.blank (by decide : Text.IsMargin [])) hFeed hFirst
  exact ⟨hEntries, hSpells, (ofText_line_by_line.2.2 _ hEntries _).mp hSpells⟩

end ListFile

end CallbackWeave
