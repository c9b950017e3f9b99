import CallbackWeave.CompileDatabase
import CallbackWeave.Proofs.Command.Members

/-!
Databases in JSON. A list of commands is written and read back as it was, and a list that has been
read is a database if each of its commands stands for a program at least. Otherwise the first one
that does not is named, with what it lacks.
-/

namespace CallbackWeave

namespace CompileCommand

/-- The tokens that a command stands for: those that it lists, even beside a line, and otherwise
those of its line. -/
inductive Resolves (c : CompileCommand) : List String → Prop
  | listed {tokens : List String} (listed : c.arguments = some tokens) : Resolves c tokens
  | split {line : String} {tokens : List String} (unlisted : c.arguments = none)
      (line_eq : c.command = some line) (words : Text.shellWords? line = some tokens) :
      Resolves c tokens
  | nothing (unlisted : c.arguments = none) (no_line : c.command = none) : Resolves c []

/-- A command stands for a program, with its arguments. -/
def Runs (c : CompileCommand) : Prop := ∃ program rest, c.Resolves (program :: rest)

/-- What keeps a command from standing for a program. -/
inductive Lacks (c : CompileCommand) : CommandFault → Prop
  | close {line : String} (unlisted : c.arguments = none) (line_eq : c.command = some line)
      (unbalanced : Text.shellWords? line = none) : Lacks c .unbalanced
  | tokens (empty : c.Resolves []) : Lacks c .empty

/-- The tokens that a command resolves to are those that the program finds. -/
theorem resolves_iff {c : CompileCommand} {tokens : List String} :
    c.Resolves tokens ↔ c.tokens? = some tokens := by
  constructor
  · rintro (hListed | ⟨hUnlisted, hLine, hWords⟩ | ⟨hUnlisted, hNone⟩)
    · simp [tokens?, hListed]
    · simp [tokens?, hUnlisted, hLine, hWords]
    · simp [tokens?, hUnlisted, hNone]
  · intro hTokens
    unfold tokens? at hTokens
    split at hTokens
    next hListed => exact .listed (hListed.trans hTokens)
    next hUnlisted hLine => exact .split hUnlisted hLine hTokens
    next hUnlisted hNone =>
      obtain rfl := Option.some.inj hTokens
      exact .nothing hUnlisted hNone

end CompileCommand

/-- How the fault of an entry is worded. -/
def CommandFault.wording : CommandFault → String
  | unbalanced => "unbalanced quoting in command"
  | empty => "no command or arguments"

namespace CompileDatabase

open Json

/-- A command stands for a program just if no fault is found in it. -/
theorem commandFault?_eq_none_iff {c : CompileCommand} : commandFault? c = none ↔ c.Runs := by
  constructor
  · intro hNone
    unfold commandFault? at hNone
    split at hNone
    next => cases hNone
    next => cases hNone
    next program rest hTokens => exact ⟨program, rest, CompileCommand.resolves_iff.mpr hTokens⟩
  · rintro ⟨program, rest, hResolves⟩
    rw [commandFault?, CompileCommand.resolves_iff.mp hResolves]

/-- A fault is found only in a command that has it. -/
theorem lacks_of_commandFault? {c : CompileCommand} {fault : CommandFault}
    (hFault : commandFault? c = some fault) : c.Lacks fault := by
  unfold commandFault? at hFault
  split at hFault
  next hNone =>
    obtain rfl := Option.some.inj hFault
    unfold CompileCommand.tokens? at hNone
    split at hNone
    next => cases hNone
    next hUnlisted hLine => exact .close hUnlisted hLine hNone
    next => cases hNone
  next hEmpty =>
    obtain rfl := Option.some.inj hFault
    exact .tokens (CompileCommand.resolves_iff.mpr hEmpty)
  next => cases hFault

/-- Either no command has a fault, or the first one that has one is named by its place. -/
theorem firstFault?_cases (index : Nat) (commands : List CompileCommand) :
    (∀ c ∈ commands, commandFault? c = none) ∧ firstFault? index commands = none ∨
    ∃ before c after fault, commands = before ++ c :: after ∧
      (∀ e ∈ before, commandFault? e = none) ∧ commandFault? c = some fault ∧
      firstFault? index commands = some (.entry (index + before.length) fault) := by
  induction commands generalizing index with
  | nil => exact .inl ⟨by simp, rfl⟩
  | cons c commands ih =>
      cases hFault : commandFault? c with
      | some fault =>
          exact .inr ⟨[], c, commands, fault, rfl, by simp, hFault, by simp [firstFault?, hFault]⟩
      | none =>
          rcases ih (index + 1) with
            ⟨hAll, hNone⟩ | ⟨before, other, after, fault, rfl, hBefore, hOther, hSome⟩
          · refine .inl ⟨List.forall_mem_cons.mpr ⟨hFault, hAll⟩, ?_⟩
            simp [firstFault?, hFault, hNone]
          · refine .inr ⟨c :: before, other, after, fault, rfl,
              List.forall_mem_cons.mpr ⟨hFault, hBefore⟩, hOther, ?_⟩
            simp [firstFault?, hFault, hSome, Nat.add_comm, Nat.add_left_comm]

/-- Objects that record commands are read as these commands. -/
theorem readAll_records {commands : List CompileCommand}
    {entries : List (List (String × List Char))}
    (hRecords : List.Forall₂ CompileCommand.Records commands entries) :
    readAll (readList CompileCommand.read) (writeList (entries.map writeObject)) =
      .ok commands := by
  apply readAll_of_reads
  apply Reads.list
  induction hRecords with
  | nil => exact .nil
  | cons hRecord _ ih => exact .cons hRecord.reads ih

/-- A written command is an object that records it. -/
theorem writeAll_eq (commands : List CompileCommand) :
    CompileCommand.writeAll commands =
      writeList ((commands.map CompileCommand.members).map writeObject) := by
  rw [List.map_map]
  rfl

/-- Commands are recorded by their own members, in the order in which they are written. -/
theorem forall₂_records_members (commands : List CompileCommand) :
    List.Forall₂ CompileCommand.Records commands (commands.map CompileCommand.members) := by
  induction commands with
  | nil => exact .nil
  | cons c commands ih => exact .cons c.records_members ih

/-- A text that is read as commands which all run gives the database of these commands. -/
theorem ofText_of_runs (path : Path) {text : String} {commands : List CompileCommand}
    (hRead : readAll (readList CompileCommand.read) text.toList = .ok commands)
    (hRuns : ∀ c ∈ commands, c.Runs) : ofText path text = .ok ⟨commands⟩ := by
  rcases firstFault?_cases 0 commands with ⟨-, hNone⟩ | ⟨before, c, after, fault, rfl, -, hFault, -⟩
  · simp only [ofText, hRead, hNone]
  · have hNone := commandFault?_eq_none_iff.mpr (hRuns c (by simp))
    cases hNone.symm.trans hFault

/-- The message of a faulty entry names the file, the index of the entry and the fault. -/
theorem message_entry (path : Path) (index : Nat) (fault : CommandFault) :
    (Failure.malformedDatabase path (.entry index fault)).message =
      "malformed compile database " ++ path.text ++ ": entry " ++ toString index ++ ": " ++
        fault.wording := by
  have hUnbalanced : ": unbalanced quoting in command" =
      ": " ++ CommandFault.unbalanced.wording := by decide +kernel
  have hEmpty : ": no command or arguments" = ": " ++ CommandFault.empty.wording := by
    decide +kernel
  have hFault : (DatabaseFault.entry index fault).message =
      "entry " ++ toString index ++ (": " ++ fault.wording) := by
    cases fault with
    | unbalanced => rw [DatabaseFault.message, hUnbalanced]
    | empty => rw [DatabaseFault.message, hEmpty]
  have hEntry : ": entry " = ": " ++ "entry " := by decide +kernel
  -- The literal in front is kept opaque: comparing it character by character does not end.
  generalize hFront : "malformed compile database " ++ path.text = front
  have hMessage : (Failure.malformedDatabase path (.entry index fault)).message =
      front ++ ": " ++ ("entry " ++ toString index ++ (": " ++ fault.wording)) := by
    rw [← hFront, ← hFault]
    rfl
  rw [hMessage, hEntry]
  simp only [String.append_assoc]

/-- A list of commands each of which stands for a program comes back from its JSON as it was, in
whatever order the members of the objects are and whatever else stands among them. And of any text
that holds a list of commands, a database is made if each of them stands for a program; if not, the
first one that does not is named by its place, with what it lacks. -/
theorem ofText_entries (path : Path) :
    (∀ commands : List CompileCommand, (∀ c ∈ commands, c.Runs) →
      ofText path (String.ofList (CompileCommand.writeAll commands)) = .ok ⟨commands⟩ ∧
      ∀ entries, List.Forall₂ CompileCommand.Records commands entries →
        ofText path (String.ofList (writeList (entries.map writeObject))) = .ok ⟨commands⟩) ∧
    ∀ (text : String) (commands : List CompileCommand),
      readAll (readList CompileCommand.read) text.toList = .ok commands →
      ((∀ c ∈ commands, c.Runs) → ofText path text = .ok ⟨commands⟩) ∧
      ((¬ ∀ c ∈ commands, c.Runs) →
        ∃ before c after fault, commands = before ++ c :: after ∧ (∀ e ∈ before, e.Runs) ∧
          ¬ c.Runs ∧ c.Lacks fault ∧
          ofText path text = .error (.malformedDatabase path (.entry before.length fault)) ∧
          (Failure.malformedDatabase path (.entry before.length fault)).message =
            "malformed compile database " ++ path.text ++ ": entry " ++ toString before.length ++
              ": " ++ fault.wording) := by
  constructor
  · intro commands hRuns
    have hEntries : ∀ entries, List.Forall₂ CompileCommand.Records commands entries →
        ofText path (String.ofList (writeList (entries.map writeObject))) = .ok ⟨commands⟩ := by
      intro entries hRecords
      refine ofText_of_runs path ?_ hRuns
      rw [String.toList_ofList]
      exact readAll_records hRecords
    refine ⟨?_, hEntries⟩
    rw [writeAll_eq]
    exact hEntries _ (forall₂_records_members commands)
  · intro text commands hRead
    refine ⟨ofText_of_runs path hRead, fun hSome => ?_⟩
    rcases firstFault?_cases 0 commands with
      ⟨hAll, -⟩ | ⟨before, c, after, fault, hCommands, hBefore, hFault, hFirst⟩
    · exact absurd (fun c hMem => commandFault?_eq_none_iff.mp (hAll c hMem)) hSome
    · have hStopped : ¬ c.Runs := by
        rw [← commandFault?_eq_none_iff, hFault]
        simp
      refine ⟨before, c, after, fault, hCommands,
        fun e hMem => commandFault?_eq_none_iff.mp (hBefore e hMem), hStopped,
        lacks_of_commandFault? hFault, ?_, message_entry path before.length fault⟩
      rw [Nat.zero_add] at hFirst
      simp only [ofText, hRead, hFirst]

/-- Two commands: one lists its tokens, with a quote among them and beside a line that is never
closed, and one has a line only. -/
def quoted : List CompileCommand :=
  [⟨⟨"/work"⟩, ⟨"a.c"⟩, some "cc 'a.c", some ["cc", "-DX=\"\n\"", "a.c"]⟩,
    ⟨⟨"/work"⟩, ⟨"b.c"⟩, some "cc '-DX=1 2' b.c", none⟩]

/-- Objects that record them, with further members and in another order. -/
def quotedEntries : List (List (String × List Char)) :=
  [[("file", writeString "a.c"), ("output", writeString "a.o"),
      ("arguments", writeList (["cc", "-DX=\"\n\"", "a.c"].map writeString)),
      ("command", writeString "cc 'a.c"), ("directory", writeString "/work"),
      ("tags", writeObject [("hosts", writeList [])])],
    CompileCommand.members ⟨⟨"/work"⟩, ⟨"b.c"⟩, some "cc '-DX=1 2' b.c", none⟩]

/-- Two commands that have a line only, of which the second one is never closed. -/
def unclosed : List CompileCommand :=
  [⟨⟨"/work"⟩, ⟨"b.c"⟩, some "cc b.c", none⟩, ⟨⟨"/work"⟩, ⟨"a.c"⟩, some "cc 'a.c", none⟩]

/-- A text that holds them as lists. -/
def unclosedText : String :=
  "[[\"/work\", \"b.c\", \"cc b.c\"], [\"/work\", \"a.c\", \"cc 'a.c\"]]"

theorem runs_quoted : ∀ c ∈ quoted, c.Runs := by
  have hListed : CompileCommand.Runs
      ⟨⟨"/work"⟩, ⟨"a.c"⟩, some "cc 'a.c", some ["cc", "-DX=\"\n\"", "a.c"]⟩ :=
    ⟨"cc", _, .listed rfl⟩
  have hSplit : CompileCommand.Runs ⟨⟨"/work"⟩, ⟨"b.c"⟩, some "cc '-DX=1 2' b.c", none⟩ :=
    ⟨"cc", ["-DX=1 2", "b.c"], .split rfl rfl (by decide +kernel)⟩
  simp [quoted, hListed, hSplit]

theorem records_quoted : List.Forall₂ CompileCommand.Records quoted quotedEntries := by
  have hTags : IsValue (writeObject [("hosts", writeList [])]) :=
    .object (List.forall_mem_singleton.mpr (.list (by simp)))
  refine .cons ⟨[("output", writeString "a.o"), ("tags", writeObject [("hosts", writeList [])])],
    ?_, ?_⟩ (.cons (CompileCommand.records_members _) .nil)
  · decide +kernel
  · rw [List.forall_mem_cons, List.forall_mem_singleton]
    refine ⟨⟨?_, .text "a.o"⟩, ⟨?_, hTags⟩⟩ <;> (intro field; cases field <;> decide)

theorem not_runs_unclosed : ¬ ∀ c ∈ unclosed, c.Runs := by
  intro hRuns
  obtain ⟨program, rest, hResolves⟩ :=
    hRuns ⟨⟨"/work"⟩, ⟨"a.c"⟩, some "cc 'a.c", none⟩ (by simp [unclosed])
  rw [CompileCommand.resolves_iff] at hResolves
  have hNone : CompileCommand.tokens? ⟨⟨"/work"⟩, ⟨"a.c"⟩, some "cc 'a.c", none⟩ = none := by
    decide +kernel
  cases hNone.symm.trans hResolves

theorem readAll_unclosed :
    readAll (readList CompileCommand.read) unclosedText.toList = .ok unclosed := by
  rfl

theorem ofText_entries_quoted :
    ((∀ c ∈ quoted, c.Runs) ∧ List.Forall₂ CompileCommand.Records quoted quotedEntries ∧
      ofText ⟨"db.json"⟩ (String.ofList (CompileCommand.writeAll quoted)) = .ok ⟨quoted⟩ ∧
      ofText ⟨"db.json"⟩ (String.ofList (writeList (quotedEntries.map writeObject))) =
        .ok ⟨quoted⟩) ∧
    readAll (readList CompileCommand.read) unclosedText.toList = .ok unclosed ∧
    (¬ ∀ c ∈ unclosed, c.Runs) ∧
    ∃ before c after fault, unclosed = before ++ c :: after ∧ (∀ e ∈ before, e.Runs) ∧
      ¬ c.Runs ∧ c.Lacks fault ∧
      ofText ⟨"db.json"⟩ unclosedText =
        .error (.malformedDatabase ⟨"db.json"⟩ (.entry before.length fault)) ∧
      (Failure.malformedDatabase ⟨"db.json"⟩ (.entry before.length fault)).message =
        "malformed compile database " ++ "db.json" ++ ": entry " ++ toString before.length ++
          ": " ++ fault.wording := by
  obtain ⟨hWritten, hRead⟩ := ofText_entries ⟨"db.json"⟩
  obtain ⟨hPlain, hEntries⟩ := hWritten quoted runs_quoted
  exact ⟨⟨runs_quoted, records_quoted, hPlain, hEntries quotedEntries records_quoted⟩,
    readAll_unclosed, not_runs_unclosed,
    (hRead unclosedText unclosed readAll_unclosed).2 not_runs_unclosed⟩

end CompileDatabase

end CallbackWeave
