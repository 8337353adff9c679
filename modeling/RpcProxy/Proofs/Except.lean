import Mathlib.Data.List.Forall2

/-!
# Outcomes of several steps

A computation that can fail succeeds if all of its steps do, and fails with the failure of the first
step that does.
-/

variable {ε δ α β γ ι : Type}

/-- In lists that are related one by one, every element has a partner. -/
theorem List.Forall₂.exists_of_mem {related : α → β → Prop} {left : List α} {right : List β}
    (all : List.Forall₂ related left right) {element : α} (member : element ∈ left) :
    ∃ partner ∈ right, related element partner := by
  induction all with
  | nil => simp at member
  | cons first _ induction =>
      rcases List.mem_cons.mp member with rfl | later
      · exact ⟨_, List.mem_cons_self, first⟩
      · obtain ⟨partner, inRight, here⟩ := induction later
        exact ⟨partner, List.mem_cons_of_mem _ inRight, here⟩

/-- Lists that are related one by one through a third list are related one by one. -/
theorem List.Forall₂.compose {first : α → β → Prop} {second : β → γ → Prop}
    {composed : α → γ → Prop} {left : List α} {middle : List β} {right : List γ}
    (leftMiddle : List.Forall₂ first left middle) (middleRight : List.Forall₂ second middle right)
    (step : ∀ start between finish, first start between → second between finish →
      composed start finish) : List.Forall₂ composed left right := by
  induction leftMiddle generalizing right with
  | nil =>
      cases middleRight
      exact .nil
  | cons here _ induction =>
      cases middleRight with
      | cons there later => exact .cons (step _ _ _ here there) (induction later)

/-- Whether the elements of a list differ in pairs shows in every list related to it one by one. -/
theorem List.Forall₂.pairwise_iff {related : α → β → Prop} {left : List α} {right : List β}
    {onLeft : α → α → Prop} {onRight : β → β → Prop} (all : List.Forall₂ related left right)
    (carries : ∀ {first second here there}, related first here → related second there →
      (onLeft first second ↔ onRight here there)) :
    left.Pairwise onLeft ↔ right.Pairwise onRight := by
  induction all with
  | nil => simp
  | @cons first here rest others head tail induction =>
      have apart : (∀ other ∈ rest, onLeft first other) ↔ ∀ other ∈ others, onRight here other := by
        constructor
        · intro differs there member
          obtain ⟨second, inRest, paired⟩ := tail.flip.exists_of_mem member
          exact (carries head paired).mp (differs second inRest)
        · intro differs second member
          obtain ⟨there, inOthers, paired⟩ := tail.exists_of_mem member
          exact (carries head paired).mpr (differs there inOthers)
      rw [List.pairwise_cons, List.pairwise_cons, apart, induction]

/-- Lists that are related one by one have equal views where related elements have. -/
theorem List.Forall₂.map_eq_map {related : α → β → Prop} {left : List α} {right : List β}
    {viewLeft : α → γ} {viewRight : β → γ} (all : List.Forall₂ related left right)
    (equal : ∀ element partner, related element partner → viewLeft element = viewRight partner) :
    left.map viewLeft = right.map viewRight := by
  induction all with
  | nil => rfl
  | cons here _ induction => rw [List.map_cons, List.map_cons, equal _ _ here, induction]

/-- Where every pair of partners has a third element to go with them, there is a list of these. -/
theorem List.Forall₂.exists_forall₂ {related : α → β → Prop} {onLeft : α → γ → Prop}
    {onRight : β → γ → Prop} {left : List α} {right : List β}
    (all : List.Forall₂ related left right)
    (third : ∀ element ∈ left, ∀ partner, related element partner →
      ∃ other, onLeft element other ∧ onRight partner other) :
    ∃ others, List.Forall₂ onLeft left others ∧ List.Forall₂ onRight right others := by
  induction all with
  | nil => exact ⟨[], .nil, .nil⟩
  | cons here _ induction =>
      rw [List.forall_mem_cons] at third
      obtain ⟨first, firstLeft, firstRight⟩ := third.1 _ here
      obtain ⟨later, laterLeft, laterRight⟩ := induction third.2
      exact ⟨first :: later, .cons firstLeft laterLeft, .cons firstRight laterRight⟩

namespace Except

@[simp] theorem throw_ne_ok {failure : ε} {result : α} :
    (throw failure : Except ε α) ≠ .ok result := by
  simp [throw, throwThe, MonadExceptOf.throw]

theorem bind_eq_ok_iff {first : Except ε α} {next : α → Except ε β} {result : β} :
    first >>= next = .ok result ↔ ∃ value, first = .ok value ∧ next value = .ok result := by
  cases first <;> simp [bind, Except.bind]

theorem bind_eq_error_iff {first : Except ε α} {next : α → Except ε β} {failure : ε} :
    first >>= next = .error failure ↔
      first = .error failure ∨ ∃ value, first = .ok value ∧ next value = .error failure := by
  cases first <;> simp [bind, Except.bind]

theorem map_eq_ok_iff {view : α → β} {outcome : Except ε α} {result : β} :
    outcome.map view = .ok result ↔ ∃ value, outcome = .ok value ∧ view value = result := by
  cases outcome <;> simp [Except.map]

theorem mapError_eq_ok_iff {view : ε → δ} {outcome : Except ε α} {result : α} :
    outcome.mapError view = .ok result ↔ outcome = .ok result := by
  cases outcome <;> simp [Except.mapError]

theorem mapError_eq_error_iff {view : ε → δ} {outcome : Except ε α} {failure : δ} :
    outcome.mapError view = .error failure ↔
      ∃ cause, outcome = .error cause ∧ view cause = failure := by
  cases outcome <;> simp [Except.mapError]

theorem toOption_eq_some_iff {outcome : Except ε α} {result : α} :
    outcome.toOption = some result ↔ outcome = .ok result := by
  cases outcome <;> simp [Except.toOption]

/-- A computation whose result can be checked. -/
theorem exists_eq_ok_and {outcome : Except ε α} {holds : α → Prop} [DecidablePred holds]
    (check : outcome.toOption.any (fun result => holds result) = true) :
    ∃ result, outcome = .ok result ∧ holds result := by
  obtain ⟨result, found, here⟩ := (Option.any_eq_true _ _).mp check
  exact ⟨result, toOption_eq_some_iff.mp found, of_decide_eq_true here⟩

/-- The results of a list of computations are what some of them results in. -/
theorem mem_iff_of_forall₂ {compute : α → Except ε β} {inputs : List α} {results : List β}
    (all : List.Forall₂ (fun input result => compute input = .ok result) inputs results)
    {result : β} : result ∈ results ↔ ∃ input ∈ inputs, compute input = .ok result := by
  induction all with
  | nil => simp
  | cons first _ induction => simp [induction, first, eq_comm]

/-- The first of a list of computations that fails does so with the given failure. -/
def FirstFailure (compute : α → Except ε β) (inputs : List α) (failure : ε) : Prop :=
  ∃ before input after, inputs = before ++ input :: after ∧ compute input = .error failure ∧
    ∀ earlier ∈ before, ∃ result, compute earlier = .ok result

variable {compute : α → Except ε β} {input : α} {inputs : List α} {results : List β} {failure : ε}

@[simp] theorem not_firstFailure_nil : ¬FirstFailure compute [] failure := by
  rintro ⟨before, input, after, split, _⟩
  simp at split

theorem firstFailure_cons_iff :
    FirstFailure compute (input :: inputs) failure ↔
      compute input = .error failure ∨
        (∃ result, compute input = .ok result) ∧ FirstFailure compute inputs failure := by
  constructor
  · rintro ⟨before, failing, after, split, fails, succeed⟩
    cases before with
    | nil =>
        obtain ⟨rfl, _⟩ := List.cons.inj split
        exact .inl fails
    | cons first before =>
        obtain ⟨rfl, later⟩ := List.cons.inj split
        rw [List.forall_mem_cons] at succeed
        exact .inr ⟨succeed.1, before, failing, after, later, fails, succeed.2⟩
  · rintro (fails | ⟨succeeds, before, failing, after, rfl, fails, succeed⟩)
    · exact ⟨[], input, inputs, rfl, fails, by simp⟩
    · exact ⟨input :: before, failing, after, rfl, fails,
        List.forall_mem_cons.mpr ⟨succeeds, succeed⟩⟩

theorem firstFailure_append_iff {others : List α} :
    FirstFailure compute (inputs ++ others) failure ↔
      FirstFailure compute inputs failure ∨
        (∀ input ∈ inputs, ∃ result, compute input = .ok result) ∧
          FirstFailure compute others failure := by
  induction inputs with
  | nil => simp
  | cons input inputs induction =>
      rw [List.cons_append, firstFailure_cons_iff, firstFailure_cons_iff, induction,
        List.forall_mem_cons, and_or_left, or_assoc, and_assoc]

theorem mapM_eq_ok_iff :
    inputs.mapM compute = .ok results ↔
      List.Forall₂ (fun input result => compute input = .ok result) inputs results := by
  induction inputs generalizing results with
  | nil => simp [pure, Except.pure, eq_comm]
  | cons input inputs induction =>
      simp only [List.mapM_cons, bind_eq_ok_iff, induction, pure, Except.pure, Except.ok.injEq,
        List.forall₂_cons_left_iff]
      constructor
      · rintro ⟨result, first, others, later, rfl⟩
        exact ⟨result, others, first, later, rfl⟩
      · rintro ⟨result, others, first, later, rfl⟩
        exact ⟨result, first, others, later, rfl⟩

theorem exists_mapM_eq_ok_iff :
    (∃ results, inputs.mapM compute = .ok results) ↔
      ∀ input ∈ inputs, ∃ result, compute input = .ok result := by
  simp only [mapM_eq_ok_iff]
  induction inputs with
  | nil => simp
  | cons input inputs induction =>
      rw [List.forall_mem_cons, ← induction]
      constructor
      · rintro ⟨_, _ | ⟨first, later⟩⟩
        exact ⟨⟨_, first⟩, _, later⟩
      · rintro ⟨⟨_, first⟩, _, later⟩
        exact ⟨_, .cons first later⟩

theorem mapM_eq_error_iff :
    inputs.mapM compute = .error failure ↔ FirstFailure compute inputs failure := by
  induction inputs with
  | nil => simp [pure, Except.pure]
  | cons input inputs induction =>
      rw [List.mapM_cons, bind_eq_error_iff, firstFailure_cons_iff, ← induction]
      refine or_congr_right ?_
      simp only [bind_eq_error_iff, pure, Except.pure, reduceCtorEq, and_false, exists_false,
        or_false]
      exact exists_and_right

/-- Two computations that fail with the same failure or have related results. -/
inductive Alike (related : α → β → Prop) : Except ε α → Except ε β → Prop
  | error {failure : ε} : Alike related (.error failure) (.error failure)
  | ok {left : α} {right : β} : related left right → Alike related (.ok left) (.ok right)

namespace Alike

variable {related : α → β → Prop} {results : γ → ι → Prop} {left : Except ε α} {right : Except ε β}

theorem bind {next : α → Except ε γ} {other : β → Except ε ι} (alike : Alike related left right)
    (continues : ∀ first second, related first second → Alike results (next first) (other second)) :
    Alike results (left >>= next) (right >>= other) := by
  cases alike with
  | error => exact .error
  | ok here => exact continues _ _ here

theorem mapError {view : ε → δ} (alike : Alike related left right) :
    Alike related (left.mapError view) (right.mapError view) := by
  cases alike with
  | error => exact .error
  | ok here => exact .ok here

theorem mapM {next : α → Except ε γ} {other : β → Except ε ι} {inputs : List α} {others : List β}
    (all : List.Forall₂ related inputs others)
    (continues : ∀ first second, related first second → Alike results (next first) (other second)) :
    Alike (List.Forall₂ results) (inputs.mapM next) (others.mapM other) := by
  induction all with
  | nil => exact .ok .nil
  | cons here _ induction =>
      rw [List.mapM_cons, List.mapM_cons]
      exact (continues _ _ here).bind fun _ _ first => induction.bind fun _ _ later =>
        .ok (.cons first later)

theorem eq {related : α → α → Prop} {left right : Except ε α} (alike : Alike related left right)
    (same : ∀ first second, related first second → first = second) : left = right := by
  cases alike with
  | error => rfl
  | ok here => rw [same _ _ here]

end Alike

end Except
