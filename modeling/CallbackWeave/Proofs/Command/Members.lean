import CallbackWeave.CompileCommand.Json
import CallbackWeave.Proofs.Json.Values
import Mathlib.Data.List.Nodup

/-!
Commands are read back from objects. The members of a command may stand in any order, and members
of other keys may stand among them. What carries the walk over an object is that a draft always
holds just what the command has for the fields read so far, whichever these are.
-/

namespace CallbackWeave.CompileCommand

open Json

theorem Field.ofKey?_key (field : Field) : Field.ofKey? field.key = some field := by
  cases field <;> rfl

theorem Field.ofKey?_eq_none {key : String} (hForeign : ∀ field : Field, key ≠ field.key) :
    Field.ofKey? key = none := by
  rw [Field.ofKey?, List.find?_eq_none]
  intro field _
  simpa using (hForeign field).symm

/-- What is written for a field of a command, if the command has it. -/
def fieldText? (c : CompileCommand) : Field → Option (List Char)
  | .directory => some (writeString c.directory.text)
  | .file => some (writeString c.file.text)
  | .command => c.command.map writeString
  | .arguments => c.arguments.map fun tokens => writeList (tokens.map writeString)

/-- A member that may stand in an object of a command: one of its own, or one of no meaning. -/
inductive Offers (c : CompileCommand) : String × List Char → Prop
  | own {field : Field} {text : List Char} (given : c.fieldText? field = some text) :
      Offers c (field.key, text)
  | foreign {key : String} {text : List Char} (unknown : ∀ field : Field, key ≠ field.key)
      (value : IsValue text) : Offers c (key, text)

/-- The members of an object that records a command: all that the command has, in any order, and
any number of values under keys that are no field's. -/
def Records (c : CompileCommand) (entry : List (String × List Char)) : Prop :=
  ∃ others : List (String × List Char), entry.Perm (c.members ++ others) ∧
    ∀ m ∈ others, (∀ field : Field, m.1 ≠ field.key) ∧ IsValue m.2

/-- The fields among the keys of an object. -/
def fields (entry : List (String × List Char)) : List Field :=
  entry.filterMap fun m => Field.ofKey? m.1

/-- The draft of a command of which some fields have been read. -/
def draft (c : CompileCommand) (done : List Field) : Draft where
  directory := if .directory ∈ done then some c.directory else none
  file := if .file ∈ done then some c.file else none
  command := if .command ∈ done then some c.command else none
  arguments := if .arguments ∈ done then some c.arguments else none

theorem has_draft (c : CompileCommand) (done : List Field) (field : Field) :
    (c.draft done).has field = decide (field ∈ done) := by
  cases field <;> simp only [Draft.has, draft] <;> split_ifs <;> simp [*]

theorem reads_arguments (tokens : List String) :
    Reads (readList readToken) (writeList (tokens.map writeString)) tokens := by
  apply Reads.list
  induction tokens with
  | nil => exact .nil
  | cons token tokens ih => exact .cons (reads_readText _ token) ih

/-- Reading a field of a command adds it to the draft. -/
theorem readField_draft {c : CompileCommand} {field : Field} {text : List Char}
    (hGiven : c.fieldText? field = some text) (done : List Field) (rest : List Char) :
    (c.draft done).readField field (text ++ rest) = .ok (c.draft (field :: done), rest) := by
  cases field with
  | directory =>
      obtain rfl := Option.some.inj hGiven
      simp [Draft.readField, readPath, readText_writeString, Except.map, draft]
  | file =>
      obtain rfl := Option.some.inj hGiven
      simp [Draft.readField, readPath, readText_writeString, Except.map, draft]
  | command =>
      obtain ⟨line, hLine, rfl⟩ := Option.map_eq_some_iff.mp hGiven
      have hRead := (reads_readText "a string" line).optional (by simp [writeString])
      simp [Draft.readField, readToken, hRead.read, Except.map, draft, hLine]
  | arguments =>
      obtain ⟨tokens, hTokens, rfl⟩ := Option.map_eq_some_iff.mp hGiven
      have hRead := (reads_arguments tokens).optional (by simp [writeList])
      simp [Draft.readField, hRead.read, Except.map, draft, hTokens]

/-- A command of which all has been read is finished. -/
theorem finish_draft {c : CompileCommand} {done : List Field}
    (hAll : ∀ field, (c.fieldText? field).isSome → field ∈ done) :
    (c.draft done).finish = .ok c := by
  have hDirectory : Field.directory ∈ done := hAll .directory rfl
  have hFile : Field.file ∈ done := hAll .file rfl
  have hCommand : (c.draft done).command.getD none = c.command := by
    by_cases hRead : Field.command ∈ done
    · simp [draft, hRead]
    · have hNone := mt (hAll .command) hRead
      rw [fieldText?, Option.isSome_map, Option.not_isSome_iff_eq_none] at hNone
      simp [draft, hRead, hNone]
  have hArguments : (c.draft done).arguments.getD none = c.arguments := by
    by_cases hRead : Field.arguments ∈ done
    · simp [draft, hRead]
    · have hNone := mt (hAll .arguments) hRead
      rw [fieldText?, Option.isSome_map, Option.not_isSome_iff_eq_none] at hNone
      simp [draft, hRead, hNone]
  rw [Draft.finish, hCommand, hArguments]
  simp [draft, hDirectory, hFile]

/-- A member of the command is taken and goes into the draft. -/
theorem readMembers_own {c : CompileCommand} {field : Field} {text : List Char}
    (hGiven : c.fieldText? field = some text) {done : List Field} (hNew : field ∉ done)
    (fuel : Nat) (first : Bool) (rest : List Char) :
    readMembers (fuel + 1) first (c.draft done) (lead first (member (field.key, text)) ++ rest) =
      readMembers fuel false (c.draft (field :: done)) rest := by
  rw [readMembers, readKey_member, ok_bind]
  simp [Field.ofKey?_key, has_draft, hNew, readColon_colon, readField_draft hGiven]

/-- A member of no meaning is left out, whatever it holds. -/
theorem readMembers_foreign {key : String} {text : List Char}
    (hUnknown : ∀ field : Field, key ≠ field.key) (hValue : IsValue text) (d : Draft) (fuel : Nat)
    (first : Bool) {rest : List Char} (hRest : Delimited rest) :
    readMembers (fuel + 1) first d (lead first (member (key, text)) ++ rest) =
      readMembers fuel false d rest := by
  rw [readMembers, readKey_member, ok_bind]
  simp [Field.ofKey?_eq_none hUnknown, readColon_colon, skipValue_append hValue hRest]

/-- The members that are left are read into the draft of those before them, and what comes of it is
the command. -/
theorem readMembers_joined {c : CompileCommand} {entry : List (String × List Char)}
    (hOffers : ∀ m ∈ entry, c.Offers m) {done : List Field} (hOnce : (fields entry ++ done).Nodup)
    (hAll : ∀ field, (c.fieldText? field).isSome → field ∈ fields entry ++ done) (first : Bool)
    {fuel : Nat} (hFuel : entry.length < fuel) (rest : List Char) :
    readMembers fuel first (c.draft done) (joined first (entry.map member) ++ '}' :: rest) =
      .ok (c, rest) := by
  -- On the members that are left: each one of the command's own moves its field among those done.
  induction entry generalizing done first fuel with
  | nil =>
      obtain ⟨fuel, rfl⟩ := Nat.exists_eq_add_of_lt hFuel
      have hFinish : (c.draft done).finish = .ok c := finish_draft hAll
      simp [joined, readMembers, readKey, skipSpace_of_not_isSpace (c := '}') rfl, hFinish, Pure.pure,
        Except.pure]
  | cons m entry ih =>
      obtain ⟨left, rfl⟩ := Nat.exists_eq_add_of_lt hFuel
      rw [List.forall_mem_cons] at hOffers
      rw [List.map_cons, joined, List.append_assoc]
      cases hOffers.1 with
      | @own field text hGiven =>
          have hFields : fields ((field.key, text) :: entry) = field :: fields entry := by
            simp [fields, Field.ofKey?_key]
          rw [hFields, List.cons_append] at hOnce hAll
          have hNew : field ∉ done := fun hRead =>
            (List.nodup_cons.mp hOnce).1 (List.mem_append_right _ hRead)
          rw [readMembers_own hGiven hNew]
          have hLater : ∀ f, (c.fieldText? f).isSome → f ∈ fields entry ++ field :: done :=
            fun f hGiven => by simpa [or_left_comm] using hAll f hGiven
          exact ih hOffers.2 (List.nodup_middle.mpr hOnce) hLater false (by simp; omega)
      | @foreign key text hUnknown hValue =>
          have hFields : fields ((key, text) :: entry) = fields entry := by
            simp [fields, Field.ofKey?_eq_none hUnknown]
          rw [hFields] at hOnce hAll
          have hRest : Delimited (joined false (entry.map member) ++ '}' :: rest) :=
            delimited_joined _ .object rest
          rw [readMembers_foreign hUnknown hValue _ _ _ hRest]
          exact ih hOffers.2 hOnce hAll false (by simp; omega)

/-! ## Objects that record a command -/

/-- The members of a command, field by field. -/
theorem members_eq (c : CompileCommand) :
    c.members = [Field.directory, .file, .command, .arguments].filterMap fun field =>
      (c.fieldText? field).map fun text => (field.key, text) := by
  unfold members
  cases hCommand : c.command <;> cases hArguments : c.arguments <;>
    simp [fieldText?, hCommand, hArguments]

theorem fields_members (c : CompileCommand) :
    fields c.members = [Field.directory, .file, .command, .arguments].filter fun field =>
      (c.fieldText? field).isSome := by
  unfold members
  cases hCommand : c.command <;> cases hArguments : c.arguments <;>
    simp [fields, Field.ofKey?_key, fieldText?, hCommand, hArguments]

theorem Records.offers {c : CompileCommand} {entry : List (String × List Char)}
    (h : c.Records entry) : ∀ m ∈ entry, c.Offers m := by
  obtain ⟨others, hPerm, hOthers⟩ := h
  intro m hMem
  rcases List.mem_append.mp (hPerm.mem_iff.mp hMem) with hOwn | hOther
  · rw [members_eq, List.mem_filterMap] at hOwn
    obtain ⟨field, -, hField⟩ := hOwn
    obtain ⟨text, hGiven, rfl⟩ := Option.map_eq_some_iff.mp hField
    exact .own hGiven
  · obtain ⟨hUnknown, hValue⟩ := hOthers m hOther
    exact .foreign hUnknown hValue

/-- Each field of the command is read once, and no other field is. -/
theorem Records.fields_perm {c : CompileCommand} {entry : List (String × List Char)}
    (h : c.Records entry) : (fields entry).Perm (fields c.members) := by
  obtain ⟨others, hPerm, hOthers⟩ := h
  have hNone : fields others = [] := by
    rw [fields, List.filterMap_eq_nil_iff]
    exact fun m hMem => Field.ofKey?_eq_none (hOthers m hMem).1
  have hFields := hPerm.filterMap fun m => Field.ofKey? m.1
  rw [List.filterMap_append] at hFields
  change (fields entry).Perm (fields c.members ++ fields others) at hFields
  rwa [hNone, List.append_nil] at hFields

/-- An object that records a command is read as this command. -/
theorem Records.reads {c : CompileCommand} {entry : List (String × List Char)}
    (h : c.Records entry) : Reads CompileCommand.read (writeObject entry) c := by
  refine ⟨begins_writeObject entry, fun rest => ?_⟩
  have hPerm := h.fields_perm
  rw [fields_members] at hPerm
  have hOnce : (fields entry ++ []).Nodup := by
    rw [List.append_nil, hPerm.nodup_iff]
    exact List.Nodup.filter _ (by decide)
  have hAll : ∀ field, (c.fieldText? field).isSome → field ∈ fields entry ++ [] := by
    intro field hGiven
    rw [List.append_nil, hPerm.mem_iff, List.mem_filter]
    exact ⟨by cases field <;> simp, hGiven⟩
  have hPlace : entry.length ≤ (joined true (entry.map member)).length := by
    have hNonempty : ∀ text ∈ entry.map member, text ≠ [] :=
      List.forall_mem_map.mpr fun m _ => List.cons_ne_nil _ _
    simpa using length_le_joined hNonempty true
  have hOpen : writeObject entry ++ rest =
      '{' :: (joined true (entry.map member) ++ '}' :: rest) := by
    simp [writeObject_eq]
  have hEmpty : Draft.empty = c.draft [] := by simp [Draft.empty, draft]
  rw [CompileCommand.read, hOpen, skipSpace_of_not_isSpace rfl, hEmpty]
  exact readMembers_joined h.offers hOnce hAll true (by rw [List.length_append]; omega) rest

/-- The members of a command alone record it. -/
theorem records_members (c : CompileCommand) : c.Records c.members :=
  ⟨[], by simp, by simp⟩

end CallbackWeave.CompileCommand
