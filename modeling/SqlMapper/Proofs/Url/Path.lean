import SqlMapper.Proofs.Text.Split
import SqlMapper.Proofs.Url.Percent
import SqlMapper.Url.Reader

/-!
# Paths read back

The path after a server, with its steps carried out, has no steps left to carry out. So it is read back
as it was written.

* `followSteps_cons`: what one step does to the steps before it.
* `PathSettled`: paths without steps to a parent.
* `settled_pathAfterServer`, `pathAfterServer_of_settled`: every path becomes settled, and stays as it is
  then.
-/

namespace SqlMapper.Url

open Percent (Free inPath)

/-- A step to a parent, or to the same place. -/
def IsDots (step : List Char) : Prop := plainDots step = ['.', '.'] ∨ plainDots step = ['.']

theorem not_isDots_nil : ¬ IsDots [] := by
  rintro (h | h)
  · cases h
  · cases h

variable {before steps : List (List Char)} {step s : List Char}

/-! ## Steps -/

/-- One step: it is kept, or it takes away the last one at most, but never the first of all. A step that
    is not kept leaves an empty one behind at the end. -/
theorem followSteps_cons (before : List (List Char)) (step : List Char) (rest : List (List Char)) :
    ∃ added kept, followSteps before (step :: rest) = followSteps (added ++ kept) rest ∧
      kept <:+ before ∧ (before ≠ [] → kept ≠ []) ∧
      (added = [step] ∧ ¬ IsDots step ∨ added = [[]] ∧ rest = [] ∨ added = [] ∧ rest ≠ []) := by
  have left : ∀ kept : List (List Char), ∃ added,
      (if rest.isEmpty then [] :: kept else kept) = added ++ kept ∧
        (added = [[]] ∧ rest = [] ∨ added = [] ∧ rest ≠ []) := by
    intro kept
    cases rest with
    | nil => exact ⟨[[]], rfl, .inl ⟨rfl, rfl⟩⟩
    | cons next rest => exact ⟨[], rfl, .inr ⟨rfl, List.cons_ne_nil _ _⟩⟩
  have stays : ∃ added kept, followSteps (if rest.isEmpty then [] :: before else before) rest =
        followSteps (added ++ kept) rest ∧ kept <:+ before ∧ (before ≠ [] → kept ≠ []) ∧
      (added = [step] ∧ ¬ IsDots step ∨ added = [[]] ∧ rest = [] ∨ added = [] ∧ rest ≠ []) := by
    obtain ⟨added, hadded, ends⟩ := left before
    exact ⟨added, before, by rw [hadded], List.suffix_refl _, id, .inr ends⟩
  simp only [followSteps]
  by_cases parent : plainDots step = ['.', '.']
  · rw [if_pos parent]
    split
    · next parent other more =>
      split
      · exact stays
      · obtain ⟨added, hadded, ends⟩ := left (other :: more)
        exact ⟨added, other :: more, by rw [hadded], List.suffix_cons _ _, fun _ => List.cons_ne_nil _ _,
          .inr ends⟩
    · exact stays
  rw [if_neg parent]
  by_cases same : plainDots step = ['.']
  · rw [if_pos same]
    exact stays
  · rw [if_neg same]
    exact ⟨[step], before, rfl, List.suffix_refl _, id, .inl ⟨rfl, by rintro (h | h) <;> contradiction⟩⟩

theorem followSteps_cons_of_not_isDots (h : ¬ IsDots step) (rest : List (List Char)) :
    followSteps before (step :: rest) = followSteps (step :: before) rest := by
  simp only [followSteps, if_neg fun parent => h (.inl parent), if_neg fun same => h (.inr same)]

/-- Without steps to a parent there is nothing to carry out. -/
theorem followSteps_of_not_isDots (h : ∀ step ∈ steps, ¬ IsDots step) :
    followSteps before steps = before.reverse ++ steps := by
  induction steps generalizing before with
  | nil => rw [followSteps, List.append_nil]
  | cons step steps ih =>
    obtain ⟨hstep, hsteps⟩ := List.forall_mem_cons.mp h
    rw [followSteps_cons_of_not_isDots hstep, ih hsteps]
    simp

/-- The steps that are left are some of those that were there, or empty; none leads to a parent. -/
theorem mem_followSteps (h : step ∈ followSteps before steps) :
    step ∈ before ∨ step = [] ∨ step ∈ steps ∧ ¬ IsDots step := by
  induction steps generalizing before with
  | nil => exact .inl (List.mem_reverse.mp h)
  | cons first steps ih =>
    obtain ⟨added, kept, heq, hkept, -, hadded⟩ := followSteps_cons before first steps
    rw [heq] at h
    rcases ih h with h | h | ⟨hmem, hdots⟩
    · rcases List.mem_append.mp h with h | h
      · rcases hadded with ⟨rfl, hdots⟩ | ⟨rfl, -⟩ | ⟨rfl, -⟩
        · obtain rfl := List.mem_singleton.mp h
          exact .inr (.inr ⟨List.mem_cons_self, hdots⟩)
        · exact .inr (.inl (List.mem_singleton.mp h))
        · cases h
      · exact .inl (hkept.subset h)
    · exact .inr (.inl h)
    · exact .inr (.inr ⟨List.mem_cons_of_mem _ hmem, hdots⟩)

/-- The first step stays where it is, and another one follows. -/
theorem exists_followSteps_cons (front : List (List Char)) (s : List Char) (hne : steps ≠ []) :
    ∃ rest, followSteps (front ++ [s]) steps = s :: rest ∧ rest ≠ [] := by
  induction steps generalizing front with
  | nil => exact absurd rfl hne
  | cons first steps ih =>
    obtain ⟨added, kept, heq, hkept, stays, hadded⟩ := followSteps_cons (front ++ [s]) first steps
    obtain hnil | ⟨front', rfl, -⟩ := List.suffix_concat_iff.mp hkept
    · exact absurd hnil (stays (by simp))
    rw [heq, ← List.append_assoc]
    cases steps with
    | cons next steps => exact ih (added ++ front') (List.cons_ne_nil _ _)
    | nil =>
      have hsome : added ≠ [] := by
        rcases hadded with ⟨rfl, -⟩ | ⟨rfl, -⟩ | ⟨-, hnil⟩
        · exact List.cons_ne_nil _ _
        · exact List.cons_ne_nil _ _
        · exact absurd rfl hnil
      exact ⟨front'.reverse ++ added.reverse, by simp [followSteps], by simp [hsome]⟩

/-! ## Paths -/

/-- A step as it is written, which leads to no parent. -/
structure Plain (step : List Char) : Prop where
  free : Free inPath step
  whole : '/' ∉ step
  forward : ¬ IsDots step

/-- A path after a server: nothing, or plain steps from the root. -/
inductive PathSettled : List Char → Prop
  | empty : PathSettled []
  | steps {steps : List (List Char)} (hne : steps ≠ []) (plain : ∀ step ∈ steps, Plain step) :
    PathSettled ('/' :: Text.joinWith ['/'] steps)

theorem plain_nil : Plain [] := ⟨Percent.free_nil, List.not_mem_nil, not_isDots_nil⟩

theorem joinWith_nil_cons (hne : steps ≠ []) :
    Text.joinWith ['/'] ([] :: steps) = '/' :: Text.joinWith ['/'] steps := by
  obtain ⟨step, rest, rfl⟩ := List.exists_cons_of_ne_nil hne
  rfl

/-- A settled path holds nothing that would end it, or would have to be encoded. -/
theorem PathSettled.free (h : PathSettled s) : Free inPath s := by
  cases h with
  | empty => exact Percent.free_nil
  | steps hne plain =>
    refine Percent.free_cons.mpr ⟨by decide, ?_⟩
    intro c hc
    rcases Text.mem_joinWith hc with rfl | ⟨step, hstep, hc⟩
    · decide
    · exact (plain step hstep).free c hc

theorem settled_normalizePath (s : List Char) : PathSettled (normalizePath false ('/' :: s)) := by
  have spares := Percent.spares_parts.2.2.2.1
  have split : Text.splitOn '/' (Percent.encode inPath ('/' :: s)) =
      [] :: Text.splitOn '/' (Percent.encode inPath s) := by
    rw [Percent.encode, List.flatMap_cons]
    exact if_pos rfl
  have first : followSteps [] ([] :: Text.splitOn '/' (Percent.encode inPath s)) =
      followSteps [[]] (Text.splitOn '/' (Percent.encode inPath s)) :=
    followSteps_cons_of_not_isDots not_isDots_nil _
  obtain ⟨rest, hrest, hne⟩ :=
    exists_followSteps_cons [] [] (Text.splitOn_ne_nil '/' (Percent.encode inPath s))
  rw [List.nil_append] at hrest
  show PathSettled (Text.joinWith ['/'] (followSteps [] (Text.splitOn '/' (Percent.encode inPath ('/' :: s)))))
  rw [split, first, hrest, joinWith_nil_cons hne]
  refine .steps hne fun step hstep => ?_
  have hmem : step ∈ followSteps [[]] (Text.splitOn '/' (Percent.encode inPath s)) :=
    hrest ▸ List.mem_cons_of_mem _ hstep
  rcases mem_followSteps hmem with h | h | ⟨h, forward⟩
  · rw [List.mem_singleton.mp h]
    exact plain_nil
  · rw [h]
    exact plain_nil
  · refine ⟨fun c hc => ?_, fun hslash => ?_, forward⟩
    · exact spares.free_encode s c (Text.mem_of_mem_splitOn h hc).1
    · exact (Text.mem_of_mem_splitOn h hslash).2 rfl

/-- Every path after a server becomes settled. -/
theorem settled_pathAfterServer (s : List Char) : PathSettled (pathAfterServer false s) := by
  cases s with
  | nil => exact .empty
  | cons c s =>
    show PathSettled (normalizePath false
      (if c = '/' ∨ (false = true ∧ c = '\\') then c :: s else '/' :: c :: s))
    split
    · next slash =>
      obtain rfl : c = '/' := by simpa using slash
      exact settled_normalizePath s
    · exact settled_normalizePath (c :: s)

/-- A settled path stays as it is. -/
theorem pathAfterServer_of_settled (h : PathSettled s) : pathAfterServer false s = s := by
  have free := h.free
  cases h with
  | empty => rfl
  | @steps steps hne plain =>
    have noSlash : ∀ step ∈ [] :: steps, '/' ∉ step :=
      List.forall_mem_cons.mpr ⟨List.not_mem_nil, fun step hstep => (plain step hstep).whole⟩
    have noDots : ∀ step ∈ [] :: steps, ¬ IsDots step :=
      List.forall_mem_cons.mpr ⟨not_isDots_nil, fun step hstep => (plain step hstep).forward⟩
    show Text.joinWith ['/'] (followSteps []
      (Text.splitOn '/' (Percent.encode inPath ('/' :: Text.joinWith ['/'] steps)))) = _
    rw [free.encode_eq, ← joinWith_nil_cons hne, Text.splitOn_joinWith (List.cons_ne_nil _ _) noSlash,
      followSteps_of_not_isDots noDots]
    rfl

end SqlMapper.Url
