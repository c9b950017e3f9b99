import CallbackWeave.FileTree.Walk
import CallbackWeave.Path.Normal
import CallbackWeave.Proofs.Text.Splitting

/-!
Paths and the text that spells them. Names of directory entries are those stretches of a path that
are neither empty nor made of one or two points. Components written by `Path.ofComponents` are read
back, and a path is resolved by the steps that its components stand for.
-/

namespace CallbackWeave

/-- A name that an entry of a directory can have. -/
structure EntryName (s : String) : Prop where
  nonempty : s.toList ≠ []
  not_here : s.toList ≠ ['.']
  not_up : s.toList ≠ ['.', '.']
  no_separator : '/' ∉ s.toList

namespace EntryName

variable {s : String}

/-- A name of an entry is read as a component that is this name. -/
theorem component (h : EntryName s) : Component.ofStretch? s.toList = some (.name s) := by
  have hText : String.ofList s.toList = s := String.ofList_toList
  unfold Component.ofStretch?
  split
  · exact absurd ‹_› h.nonempty
  · exact absurd ‹_› h.not_here
  · exact absurd ‹_› h.not_up
  · rw [hText]

theorem step (h : EntryName s) : Step.ofStretch? s.toList = some (.into s) := by
  have hText : String.ofList s.toList = s := String.ofList_toList
  unfold Step.ofStretch?
  split
  · exact absurd ‹_› h.nonempty
  · exact absurd ‹_› h.not_here
  · exact absurd ‹_› h.not_up
  · rw [hText]

/-- A stretch that is read as a name is one, as long as it holds no separator. -/
theorem of_component {stretch : List Char} (hRead : Component.ofStretch? stretch = some (.name s))
    (hSeparator : '/' ∉ stretch) : EntryName s ∧ s.toList = stretch := by
  unfold Component.ofStretch? at hRead
  split at hRead
  · cases hRead
  · cases hRead
  · cases hRead
  · obtain rfl : String.ofList stretch = s := by simpa using hRead
    have hText : (String.ofList stretch).toList = stretch := String.toList_ofList
    refine ⟨⟨?_, ?_, ?_, ?_⟩, hText⟩ <;> rw [hText] <;> assumption

end EntryName

namespace Component

/-- A component that may stand anywhere in a path. -/
def IsInner : Component → Prop
  | root | here => False
  | up => True
  | name s => EntryName s

/-- What a component asks of a resolution. -/
def step : Component → Step
  | root | here => .here
  | up => .up
  | name s => .into s

namespace IsInner

variable {c : Component}

theorem text_ne_nil (h : c.IsInner) : c.text ≠ [] := by
  cases c with
  | root => cases h
  | here => cases h
  | up => decide
  | name s => exact h.nonempty

theorem text_ne_here (h : c.IsInner) : c.text ≠ ['.'] := by
  cases c with
  | root => cases h
  | here => cases h
  | up => decide
  | name s => exact h.not_here

/-- No separator stands within a component, so that a path falls into its components again. -/
theorem separator_notMem_text (h : c.IsInner) : '/' ∉ c.text := by
  cases c with
  | root => cases h
  | here => cases h
  | up => decide
  | name s => exact h.no_separator

/-- A component is read back from its text. -/
theorem ofStretch?_text (h : c.IsInner) : ofStretch? c.text = some c := by
  cases c with
  | root => cases h
  | here => cases h
  | up => rfl
  | name s => exact EntryName.component h

theorem step_ofStretch?_text (h : c.IsInner) : Step.ofStretch? c.text = some c.step := by
  cases c with
  | root => cases h
  | here => cases h
  | up => rfl
  | name s => exact EntryName.step h

end IsInner

/-- A component read from a stretch without separators is an inner one. -/
theorem isInner_of_ofStretch? {stretch : List Char} {c : Component}
    (hRead : ofStretch? stretch = some c) (hSeparator : '/' ∉ stretch) : c.IsInner := by
  cases c with
  | up => trivial
  | name s => exact (EntryName.of_component hRead hSeparator).1
  | root => unfold ofStretch? at hRead; split at hRead <;> cases hRead
  | here => unfold ofStretch? at hRead; split at hRead <;> cases hRead

/-- Components are read back from their texts, and none of them is left out. -/
theorem filterMap_ofStretch?_text {inner : List Component} (hInner : ∀ c ∈ inner, c.IsInner) :
    (inner.map text).filterMap ofStretch? = inner := by
  induction inner with
  | nil => rfl
  | cons c rest ih =>
      obtain ⟨hFirst, hRest⟩ := List.forall_mem_cons.mp hInner
      rw [List.map_cons, List.filterMap_cons_some hFirst.ofStretch?_text, ih hRest]

theorem filterMap_stepOfStretch?_text {inner : List Component} (hInner : ∀ c ∈ inner, c.IsInner) :
    (inner.map text).filterMap Step.ofStretch? = inner.map step := by
  induction inner with
  | nil => rfl
  | cons c rest ih =>
      obtain ⟨hFirst, hRest⟩ := List.forall_mem_cons.mp hInner
      rw [List.map_cons, List.filterMap_cons_some hFirst.step_ofStretch?_text, ih hRest,
        List.map_cons]

/-- Components without a root are joined by single separators. -/
theorem join_inner {inner : List Component} (hInner : ∀ c ∈ inner, c.IsInner) :
    join inner = List.intercalate ['/'] (inner.map text) := by
  cases inner with
  | nil => rfl
  | cons c rest =>
      cases c with
      | root => exact (hInner .root (by simp)).elim
      | _ => rfl

end Component

namespace Path

/-- The steps of a path up to a separator at its end. -/
def moves (p : Path) : List Step := p.stretches.filterMap Step.ofStretch?

theorem steps_eq (p : Path) :
    p.steps = p.moves ++ if p.endsInSeparator then [.within] else [] := rfl

/-- What the stretches of a path are read as are inner components. -/
theorem isInner_of_mem_filterMap {p : Path} {c : Component}
    (hMem : c ∈ p.stretches.filterMap Component.ofStretch?) : c.IsInner := by
  obtain ⟨stretch, hStretch, hRead⟩ := List.mem_filterMap.mp hMem
  exact Component.isInner_of_ofStretch? hRead (Text.notMem_of_mem_splitOn hStretch)

section Written

variable {inner : List Component} (hInner : ∀ c ∈ inner, c.IsInner)

include hInner

/-- A path made from components without a root is their texts with a separator between any two. -/
theorem text_ofComponents :
    (ofComponents inner).text.toList = List.intercalate ['/'] (inner.map Component.text) := by
  rw [ofComponents, String.toList_ofList, Component.join_inner hInner]

/-- A path made from components falls into their texts. -/
theorem stretches_ofComponents (hNonempty : inner ≠ []) :
    (ofComponents inner).stretches = inner.map Component.text := by
  rw [stretches, text_ofComponents hInner]
  refine List.splitOn_intercalate '/' ?_ (by simpa using hNonempty)
  intro stretch hStretch
  obtain ⟨c, hMem, rfl⟩ := List.mem_map.mp hStretch
  exact (hInner c hMem).separator_notMem_text

/-- With the root in front there is an empty stretch before the texts. -/
theorem stretches_ofComponents_root :
    (ofComponents (.root :: inner)).stretches =
      [] :: if inner = [] then [[]] else inner.map Component.text := by
  have hText : (ofComponents (.root :: inner)).text.toList =
      '/' :: (ofComponents inner).text.toList := by
    rw [text_ofComponents hInner, ofComponents, String.toList_ofList]
    rfl
  rw [stretches, hText, List.splitOn_cons_eq_if_modifyHead, if_pos (by simp)]
  congr 1
  split_ifs with hEmpty
  · subst hEmpty
    rfl
  · exact stretches_ofComponents hInner hEmpty

theorem head?_text_ofComponents : (ofComponents inner).text.toList.head? ≠ some '/' := by
  rw [text_ofComponents hInner]
  cases inner with
  | nil => simp
  | cons c rest =>
      have hFirst := hInner c List.mem_cons_self
      obtain ⟨first, others, hText⟩ := List.exists_cons_of_ne_nil hFirst.text_ne_nil
      have hSeparator : first ≠ '/' := by
        rintro rfl
        exact hFirst.separator_notMem_text (hText ▸ List.mem_cons_self)
      cases rest <;> simp [hText, hSeparator]

theorem isAbsolute_ofComponents : (ofComponents inner).isAbsolute = false := by
  simpa [isAbsolute] using head?_text_ofComponents hInner

omit hInner in
/-- A path made from components is absolute if the root is the first of them. -/
theorem isAbsolute_ofComponents_root : (ofComponents (.root :: inner)).isAbsolute = true := by
  simp [isAbsolute, ofComponents, String.toList_ofList, Component.join]

/-- Inner components that have been written are read back. -/
theorem components_ofComponents : (ofComponents inner).components = inner := by
  rw [components, isAbsolute_ofComponents hInner]
  by_cases hEmpty : inner = []
  · subst hEmpty
    rfl
  · rw [stretches_ofComponents hInner hEmpty, Component.filterMap_ofStretch?_text hInner]
    cases inner with
    | nil => exact absurd rfl hEmpty
    | cons c rest => simp [(hInner c List.mem_cons_self).text_ne_here]

/-- A path made from the root and other components has these components. -/
theorem components_ofComponents_root :
    (ofComponents (.root :: inner)).components = .root :: inner := by
  have hRest : (ofComponents (.root :: inner)).stretches.filterMap Component.ofStretch? =
      inner := by
    rw [stretches_ofComponents_root hInner, List.filterMap_cons_none rfl]
    split_ifs with hEmpty
    · subst hEmpty
      rfl
    · exact Component.filterMap_ofStretch?_text hInner
  simp [components, isAbsolute_ofComponents_root, hRest]

/-- A path made from components is resolved by one step for each. -/
theorem moves_ofComponents : (ofComponents inner).moves = inner.map Component.step := by
  by_cases hEmpty : inner = []
  · subst hEmpty
    rfl
  · rw [moves, stretches_ofComponents hInner hEmpty,
      Component.filterMap_stepOfStretch?_text hInner]

theorem moves_ofComponents_root :
    (ofComponents (.root :: inner)).moves = inner.map Component.step := by
  rw [moves, stretches_ofComponents_root hInner, List.filterMap_cons_none rfl]
  split_ifs with hEmpty
  · subst hEmpty
    rfl
  · exact Component.filterMap_stepOfStretch?_text hInner

end Written

theorem mem_intercalate {parts : List (List Char)} {x separator : Char} (hChar : x ≠ separator) :
    x ∈ List.intercalate [separator] parts ↔ ∃ part ∈ parts, x ∈ part := by
  induction parts with
  | nil => simp
  | cons first rest ih =>
      cases rest with
      | nil => simp
      | cons second others =>
          rw [List.intercalate_cons_cons]
          simp only [List.mem_append, List.mem_singleton, hChar, or_false, ih]
          simp

/-- A character that is no separator stands in a written path if it stands in a component. -/
theorem mem_text_ofComponents {components : List Component} {x : Char} (hChar : x ≠ '/') :
    x ∈ (ofComponents components).text.toList ↔ ∃ c ∈ components, x ∈ c.text := by
  rw [ofComponents, String.toList_ofList]
  unfold Component.join
  split
  · simp
  · simp [mem_intercalate hChar, Component.text, hChar]
  · simp [mem_intercalate hChar]

/-- A character that no separator and no mark of a step is stands in a path if it stands in one of
its names. -/
theorem mem_text_iff {p : Path} {x : Char} (hChar : x ≠ '/') (hMark : x ≠ '.') :
    x ∈ p.text.toList ↔
      ∃ s, .name s ∈ p.stretches.filterMap Component.ofStretch? ∧ x ∈ s.toList := by
  have hText : p.text.toList = List.intercalate ['/'] p.stretches :=
    (List.intercalate_splitOn '/').symm
  rw [hText, mem_intercalate hChar]
  constructor
  · rintro ⟨stretch, hStretch, hMem⟩
    refine ⟨String.ofList stretch, List.mem_filterMap.mpr ⟨stretch, hStretch, ?_⟩,
      by simpa using hMem⟩
    unfold Component.ofStretch?
    split
    · cases hMem
    · simp [hMark] at hMem
    · simp [hMark] at hMem
    · rfl
  · rintro ⟨s, hName, hMem⟩
    obtain ⟨stretch, hStretch, hRead⟩ := List.mem_filterMap.mp hName
    obtain ⟨-, hText⟩ := EntryName.of_component hRead (Text.notMem_of_mem_splitOn hStretch)
    exact ⟨stretch, hStretch, hText ▸ hMem⟩

end Path

end CallbackWeave
