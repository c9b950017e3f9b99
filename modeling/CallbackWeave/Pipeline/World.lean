import CallbackWeave.FileTree.FileSystem
import CallbackWeave.Pipeline.Invocation
import CallbackWeave.Pipeline.Report

/-!
What a run of the pipeline changes: the tree of files, the state of whoever runs the tools, and
the record of all calls and events in the order in which they happen. A runner is any function of
these, so that statements about runs hold for whatever the tools may do.
-/

namespace CallbackWeave

/-- Runs a call. It may change the tree and a state of its own; it fails only if the program could
not be run at all. -/
abbrev Runner (σ : Type) :=
  σ → Invocation → FileTree → Except Failure ExitStatus × σ × FileTree

/-- Something that happens in a run. -/
inductive Happening where
  /-- A program is called: what came of it, and the trees that it found and left. -/
  | call (invocation : Invocation) (result : Except Failure ExitStatus) (found left : FileTree)
  /-- A unit enters a stage. -/
  | event (event : Event)

/-- What a run changes. -/
structure World (σ : Type) where
  tree : FileTree
  state : σ
  /-- All that has happened, in order. -/
  trace : List Happening

/-- A part of a run: it ends with a result or a failure, and in a changed world either way. -/
abbrev Action (σ α : Type) := World σ → Except Failure α × World σ

namespace Action

/-- Ends with a result. -/
def pure {σ α : Type} (a : α) : Action σ α := fun w => (.ok a, w)

/-- Ends with a failure. -/
def fail {σ α : Type} (failure : Failure) : Action σ α := fun w => (.error failure, w)

/-- Ends with a result that may be a failure. -/
def ofExcept {σ α : Type} (result : Except Failure α) : Action σ α := fun w => (result, w)

/-- One part after another; a failure ends both. -/
def andThen {σ α β : Type} (first : Action σ α) (next : α → Action σ β) : Action σ β := fun w =>
  match first w with
  | (.ok a, w) => next a w
  | (.error failure, w) => (.error failure, w)

instance {σ : Type} : Monad (Action σ) where
  pure := Action.pure
  bind := Action.andThen

/-- Changes the tree, whatever the part before came to. -/
def followedBy {σ α : Type} (action : Action σ α) (change : FileTree → FileTree) : Action σ α :=
  fun w =>
    let (result, w) := action w
    (result, { w with tree := change w.tree })

/-- Changes the tree. -/
def change {σ : Type} (f : FileTree → FileTree) : Action σ Unit := fun w =>
  (.ok (), { w with tree := f w.tree })

/-- The tree as it is. -/
def tree {σ : Type} : Action σ FileTree := fun w => (.ok w.tree, w)

/-- Records an event. -/
def emit {σ : Type} (event : Event) : Action σ Unit := fun w =>
  (.ok (), { w with trace := w.trace ++ [.event event] })

/-- Calls a program and records the call. -/
def call {σ : Type} (run : Runner σ) (invocation : Invocation) : Action σ ExitStatus := fun w =>
  let (result, state, tree) := run w.state invocation w.tree
  (result, ⟨tree, state, w.trace ++ [.call invocation result w.tree tree]⟩)

end Action

namespace Happening

/-- The calls of a trace. -/
def calls (trace : List Happening) : List Invocation :=
  trace.filterMap fun
    | call invocation .. => some invocation
    | event _ => none

/-- The events of a trace. -/
def events (trace : List Happening) : List Event :=
  trace.filterMap fun
    | call .. => none
    | event e => some e

end Happening

end CallbackWeave
