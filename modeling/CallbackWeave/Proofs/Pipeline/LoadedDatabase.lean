import CallbackWeave.Proofs.Command.Database
import CallbackWeave.Proofs.Pipeline.Protocol

/-!
Databases that have been read. Reading checks every command once, and what is checked is what the
pipeline relies on later: a command can be taken apart, and each of its views begins with its
program. A run over such a database has no complaint about a command of its own.
-/

namespace CallbackWeave

namespace CompileDatabase

theorem commandFault?_of_firstFault? {index : Nat} {commands : List CompileCommand}
    (hNone : firstFault? index commands = none) : ∀ c ∈ commands, commandFault? c = none := by
  rcases firstFault?_cases index commands with ⟨hAll, -⟩ | ⟨_, _, _, _, -, -, -, hSome⟩
  · exact hAll
  · cases hNone.symm.trans hSome

/-- No command of a database that has been read has a fault. -/
theorem commandFault?_of_ofText {path : Path} {text : String} {database : CompileDatabase}
    (hRead : ofText path text = .ok database) :
    ∀ c ∈ database.commands, commandFault? c = none := by
  unfold ofText at hRead
  split at hRead
  next => cases hRead
  next commands hCommands =>
    split at hRead
    next => cases hRead
    next hNone =>
      obtain rfl := Except.ok.inj hRead
      exact commandFault?_of_firstFault? hNone

theorem exists_tokens_of_commandFault? {c : CompileCommand} (hNone : commandFault? c = none) :
    ∃ program rest, c.tokens? = some (program :: rest) := by
  obtain ⟨program, rest, hResolves⟩ := commandFault?_eq_none_iff.mp hNone
  exact ⟨program, rest, CompileCommand.resolves_iff.mp hResolves⟩

end CompileDatabase

namespace CommandView

/-- Every view begins with the program. -/
theorem head?_assemble (view : CommandView) (arguments : List Argument) :
    (view.assemble arguments).head? = some view.program := rfl

theorem head?_of_compilerOnly {view : CommandView} {fs : FileSystem} {tokens : List String}
    (hTokens : view.compilerOnly fs = .ok tokens) : tokens.head? = some view.program := by
  unfold compilerOnly at hTokens
  split at hTokens
  next =>
    obtain rfl := Except.ok.inj hTokens
    exact head?_assemble view _
  next => cases hTokens

end CommandView

namespace Pipeline

variable {σ : Type} {p : Pipeline σ}

/-- A run that fails has broken off in the unit of one of its commands. -/
theorem Follows.exists_breaks {commands : List CompileCommand} {calls : List CallRecord}
    {failure : Failure} (h : p.Follows commands calls (.error failure)) :
    ∃ c ∈ commands, ∃ last, last <:+ calls ∧ p.Breaks c last failure := by
  generalize hResult : (.error failure : Except Failure Report) = result at h
  induction h with
  | finished report => cases hResult
  | @next c rest calls more result complete run ih =>
      obtain ⟨other, hOther, last, hLast, hBreaks⟩ := ih hResult
      exact ⟨other, List.mem_cons_of_mem _ hOther, last, hLast.trans (List.suffix_append _ _),
        hBreaks⟩
  | @stopped c rest calls cause broken =>
      obtain rfl := Except.error.inj hResult
      exact ⟨c, List.mem_cons_self, calls, List.suffix_rfl, broken⟩

/-- A unit whose command has no fault reports a malformed database only after its runner. -/
theorem Breaks.exists_malformed {c : CompileCommand} {calls : List CallRecord} {path : Path}
    {fault : DatabaseFault} (hCommand : CompileDatabase.commandFault? c = none)
    (h : p.Breaks c calls (.malformedDatabase path fault)) :
    ∃ call ∈ calls, call.result = .error (.malformedDatabase path fault) := by
  obtain ⟨-, annotated, stages, -, -, -, hBlames⟩ := h
  cases hBlames with
  | @runner earlier last _ result => exact ⟨last, by simp, result⟩
  | tokens fault_eq => cases hCommand.symm.trans fault_eq

end Pipeline

/-- The commands of a database that has been read can all be taken apart, and all their views begin
with their first token, so that there is a token to cut off whenever one is cut off. A run over the
database therefore ends with the report of a malformed database only if a call has come to just
that, whatever the restriction, the tree and the runner are. -/
theorem CompileDatabase.commands_usable {path : Path} {text : String} {database : CompileDatabase}
    (hRead : ofText path text = .ok database) :
    (∀ c ∈ database.commands, ∃ program rest view, c.tokens? = some (program :: rest) ∧
      CommandView.ofCommand c = .ok view ∧ view.raw.head? = some program ∧
      view.noOutput.head? = some program ∧
      ∀ fs tokens, view.compilerOnly fs = .ok tokens → tokens.head? = some program) ∧
    ∀ (σ : Type) (p : Pipeline σ) (tree : FileTree) (state : σ) (named : Path)
      (fault : DatabaseFault),
      (p.run database ⟨tree, state, []⟩).1 = .error (.malformedDatabase named fault) →
        ∃ call ∈ Happening.records (p.run database ⟨tree, state, []⟩).2.trace,
          call.result = .error (.malformedDatabase named fault) := by
  have hFaults := commandFault?_of_ofText hRead
  constructor
  · intro c hCommand
    obtain ⟨program, rest, hTokens⟩ := exists_tokens_of_commandFault? (hFaults c hCommand)
    refine ⟨program, rest, _, hTokens, CommandView.ofCommand_of_tokens? hTokens,
      CommandView.head?_assemble _ _, CommandView.head?_assemble _ _, fun fs tokens hView => ?_⟩
    exact CommandView.head?_of_compilerOnly hView
  · intro σ p tree state named fault hFailed
    obtain ⟨calls, hTrace, hFollows⟩ := p.follows_runFrom [] database.commands.length 1
      (.initial database.commands.length) database.commands ⟨tree, state, []⟩ rfl
    rw [← Pipeline.run, List.nil_append] at hTrace
    rw [← Pipeline.run, hFailed] at hFollows
    obtain ⟨c, hCommand, last, hLast, hBreaks⟩ := hFollows.exists_breaks
    obtain ⟨call, hCall, hResult⟩ := hBreaks.exists_malformed (hFaults c hCommand)
    rw [hTrace]
    exact ⟨call, hLast.subset hCall, hResult⟩

namespace CompileDatabase

/-- A text with two commands, which are written as lists: one has tokens, the other one a line. -/
def mixedText : String :=
  "[[\"/work\", \"a.c\", null, [\"cc\", \"-c\", \"a.c\"]]," ++
    " [\"/work\", \"b.c\", \"cc '-DX=1 2' b.c\"]]"

/-- The commands of that text. -/
def mixed : CompileDatabase :=
  ⟨[⟨⟨"/work"⟩, ⟨"a.c"⟩, none, some ["cc", "-c", "a.c"]⟩,
    ⟨⟨"/work"⟩, ⟨"b.c"⟩, some "cc '-DX=1 2' b.c", none⟩]⟩

theorem ofText_mixed : ofText ⟨"db.json"⟩ mixedText = .ok mixed := by rfl

theorem commands_usable_mixed :
    ofText ⟨"db.json"⟩ mixedText = .ok mixed ∧
    (∀ c ∈ mixed.commands, ∃ program rest view, c.tokens? = some (program :: rest) ∧
      CommandView.ofCommand c = .ok view ∧ view.raw.head? = some program ∧
      view.noOutput.head? = some program ∧
      ∀ fs tokens, view.compilerOnly fs = .ok tokens → tokens.head? = some program) ∧
    ∀ (σ : Type) (p : Pipeline σ) (tree : FileTree) (state : σ) (named : Path)
      (fault : DatabaseFault),
      (p.run mixed ⟨tree, state, []⟩).1 = .error (.malformedDatabase named fault) →
        ∃ call ∈ Happening.records (p.run mixed ⟨tree, state, []⟩).2.trace,
          call.result = .error (.malformedDatabase named fault) :=
  ⟨ofText_mixed, commands_usable ofText_mixed⟩

end CompileDatabase

end CallbackWeave
