import CallbackWeave.Argument

/-!
Grouping and writing of arguments. Grouping puts each token into one argument, and the arguments it
gives are well formed: each is of the kind of its first token, and a missing value is missing at the
end. From the tokens of well-formed arguments grouping gives these arguments again, so that no
argument changes its role when others are left out.
-/

namespace CallbackWeave.Argument

/-- An option whose value is the following token, without that token. -/
def Lacks : Argument → Prop
  | output none => True
  | option flag none => flag ∈ valueFlags
  | _ => False

/-- An argument of the kind that its first token has. -/
def Classified : Argument → Prop
  | output _ => True
  | compileOnly => True
  | option flag (some _) => flag ∈ valueFlags
  | option flag none => isOption flag = true ∧ flag ≠ "-o" ∧ flag ≠ "-c"
  | positional token => isOption token = false

/-- Arguments as a command can have them: none but the last lacks its value. -/
structure WellFormed (arguments : List Argument) : Prop where
  classified : ∀ a ∈ arguments, a.Classified
  complete : arguments.Pairwise fun a _ => ¬ a.Lacks

theorem isOption_of_mem_valueFlags :
    ∀ flag ∈ valueFlags, isOption flag = true ∧ flag ≠ "-o" ∧ flag ≠ "-c" := by decide

/-- The first argument of some tokens is the one whose tokens come first, unless it lacks a value
that follows. -/
theorem group_tokens_append {a : Argument} (hKind : a.Classified) {rest : List String}
    (hRest : rest = [] ∨ ¬ a.Lacks) : group (a.tokens ++ rest) = a :: group rest := by
  cases a with
  | output value =>
      cases value with
      | none =>
          obtain rfl : rest = [] := hRest.resolve_right (not_not_intro trivial)
          rfl
      | some value => simp [tokens, group]
  | compileOnly =>
      rw [tokens, List.singleton_append, group.eq_def]
      simp
  | option flag value =>
      cases value with
      | none =>
          obtain ⟨hOption, hOutput, hCompile⟩ := hKind
          rcases hRest with rfl | hSettled
          · by_cases hFlag : flag ∈ valueFlags <;> simp [tokens, group, *]
          · have hFlag : flag ∉ valueFlags := hSettled
            rw [tokens, Option.toList_none, List.singleton_append, group.eq_def]
            simp [hOption, hOutput, hCompile, hFlag]
      | some value =>
          have hFlag : flag ∈ valueFlags := hKind
          obtain ⟨-, hOutput, hCompile⟩ := isOption_of_mem_valueFlags flag hFlag
          simp [tokens, group, hOutput, hCompile, hFlag]
  | positional token =>
      have hToken : isOption token = false := hKind
      have hOutput : token ≠ "-o" := by
        rintro rfl
        exact absurd hToken (by decide)
      have hCompile : token ≠ "-c" := by
        rintro rfl
        exact absurd hToken (by decide)
      have hFlag : token ∉ valueFlags := fun hMem =>
        Bool.false_ne_true (hToken.symm.trans (isOption_of_mem_valueFlags token hMem).1)
      rw [tokens, List.singleton_append, group.eq_def]
      simp [hOutput, hCompile, hFlag, hToken]

/-- Every token goes into one argument, in order. -/
theorem flatMap_tokens_group (words : List String) : (group words).flatMap tokens = words := by
  fun_induction group words with
  | case1 => rfl
  | case2 => rfl
  | case3 value rest ih => simp [tokens, ih]
  | case4 rest hOutput ih => simp [tokens, ih]
  | case5 token hOutput hCompile hFlag => simp [tokens]
  | case6 token hOutput hCompile hFlag value rest ih => simp [tokens, ih]
  | case7 token rest hOutput hCompile hFlag hOption ih => simp [tokens, ih]
  | case8 token rest hOutput hCompile hFlag hOption ih => simp [tokens, ih]

namespace WellFormed

variable {arguments front back : List Argument} {a : Argument}

theorem nil : WellFormed [] := ⟨by simp, .nil⟩

theorem singleton (hKind : a.Classified) : WellFormed [a] := ⟨by simpa using hKind, by simp⟩

theorem cons_iff : WellFormed (a :: arguments) ↔
    a.Classified ∧ (arguments = [] ∨ ¬ a.Lacks) ∧ WellFormed arguments := by
  constructor
  · rintro ⟨hKinds, hComplete⟩
    obtain ⟨hKind, hOthers⟩ := List.forall_mem_cons.mp hKinds
    obtain ⟨hFirst, hRest⟩ := List.pairwise_cons.mp hComplete
    refine ⟨hKind, ?_, hOthers, hRest⟩
    rcases arguments with _ | ⟨b, others⟩
    · exact Or.inl rfl
    · exact Or.inr (hFirst b List.mem_cons_self)
  · rintro ⟨hKind, hFirst, hOthers, hRest⟩
    refine ⟨List.forall_mem_cons.mpr ⟨hKind, hOthers⟩,
      List.pairwise_cons.mpr ⟨fun b hMem => ?_, hRest⟩⟩
    exact hFirst.resolve_left (List.ne_nil_of_mem hMem)

/-- Arguments may be left out of a command. -/
theorem sublist (h : WellFormed arguments) (hLeft : front.Sublist arguments) : WellFormed front :=
  ⟨fun a hMem => h.classified a (hLeft.subset hMem), h.complete.sublist hLeft⟩

theorem filter (h : WellFormed arguments) (keep : Argument → Bool) :
    WellFormed (arguments.filter keep) :=
  h.sublist List.filter_sublist

/-- Arguments none of which lacks its value may be followed by others. -/
theorem append (hFront : WellFormed front) (hComplete : ∀ a ∈ front, ¬ a.Lacks)
    (hBack : WellFormed back) : WellFormed (front ++ back) := by
  refine ⟨fun a hMem => ?_, List.pairwise_append.mpr
    ⟨hFront.complete, hBack.complete, fun a hMem _ _ => hComplete a hMem⟩⟩
  exact (List.mem_append.mp hMem).elim (hFront.classified a) (hBack.classified a)

end WellFormed

theorem wellFormed_group (words : List String) : WellFormed (group words) := by
  fun_induction group words with
  | case1 => exact .nil
  | case2 => exact .singleton trivial
  | case3 value rest ih => exact WellFormed.cons_iff.mpr ⟨trivial, Or.inr id, ih⟩
  | case4 rest hOutput ih => exact WellFormed.cons_iff.mpr ⟨trivial, Or.inr id, ih⟩
  | case5 token hOutput hCompile hFlag =>
      exact .singleton (isOption_of_mem_valueFlags token hFlag)
  | case6 token hOutput hCompile hFlag value rest ih =>
      exact WellFormed.cons_iff.mpr ⟨hFlag, Or.inr id, ih⟩
  | case7 token rest hOutput hCompile hFlag hOption ih =>
      exact WellFormed.cons_iff.mpr ⟨⟨hOption, hOutput, hCompile⟩, Or.inr hFlag, ih⟩
  | case8 token rest hOutput hCompile hFlag hOption ih =>
      exact WellFormed.cons_iff.mpr ⟨by simpa [Classified] using hOption, Or.inr id, ih⟩

/-- The tokens of well-formed arguments are grouped into these arguments. -/
theorem group_flatMap_tokens {arguments : List Argument} (h : WellFormed arguments) :
    group (arguments.flatMap tokens) = arguments := by
  induction arguments with
  | nil => rfl
  | cons a rest ih =>
      obtain ⟨hKind, hFirst, hRest⟩ := WellFormed.cons_iff.mp h
      have hTokens : rest.flatMap tokens = [] ∨ ¬ a.Lacks :=
        hFirst.imp_left fun hNone => by rw [hNone]; rfl
      rw [List.flatMap_cons, group_tokens_append hKind hTokens, ih hRest]

end CallbackWeave.Argument
