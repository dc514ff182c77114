/-
  Downlevel — when a pool is made, and when not.

  Workers may fail or panic, and a panic of the library ends with its worker.
  When the workers are asked one after the other, the first that failed decides
  that there is no pool, and the ones behind it are not asked.  So a failure is
  contained as long as no worker behind the first failed one panicked; a panic
  of such a worker breaks the making of the pool off.

  * `joined`: what asking the workers comes to;
  * `Contained`: no worker panicked behind one that failed;
  * `Pool.make_ending`: how the making of a pool ends, with every schedule and
    whatever the library does;
  * `Pool.make_two_panics`: two workers panic, and so does the making.
-/
import Downlevel.Legacy.Engines
import Downlevel.Proofs.Pool.Workers

namespace Downlevel

variable {E : Engines}

/-! ## Asking the workers -/

/-- What asking the workers in order comes to. -/
def joined : List (Worker E) → Ending (Except CompileError Unit)
  | [] => .returned (.ok ())
  | worker :: workers =>
    match worker.failure? with
    | none => joined workers
    | some e =>
      if workers.any Worker.hasPanicked then .panicked "a scoped thread panicked"
      else .returned (.error (.notStarted e))

theorem joinWorkers_apply {σ : Type} (workers : List (Worker E)) (s : σ) :
    (joinWorkers workers : Act (Event E) σ (Except CompileError Unit)) s =
      ⟨joined workers, s, []⟩ := by
  induction workers with
  | nil => rfl
  | cons worker workers ih =>
    rw [joinWorkers, joined]
    cases worker.failure? with
    | none => exact ih
    | some e => by_cases hpanicked : workers.any Worker.hasPanicked <;> simp [hpanicked]

theorem joined_of_failure {before after : List (Worker E)} {worker : Worker E} {e : EngineFailure}
    (hbefore : ∀ x ∈ before, x.failure? = none) (he : worker.failure? = some e) :
    joined (before ++ worker :: after) =
      if after.any Worker.hasPanicked then .panicked "a scoped thread panicked"
      else .returned (.error (.notStarted e)) := by
  induction before with
  | nil => simp [joined, he]
  | cons x before ih =>
    rw [List.cons_append, joined, hbefore x (by simp)]
    exact ih fun y hy => hbefore y (by simp [hy])

/-- Either no worker failed, or there is a first one that did. -/
theorem first_failure (workers : List (Worker E)) :
    (∀ x ∈ workers, x.failure? = none) ∨ ∃ before worker after e,
      workers = before ++ worker :: after ∧ (∀ x ∈ before, x.failure? = none) ∧
      worker.failure? = some e := by
  induction workers with
  | nil => exact .inl nofun
  | cons worker workers ih =>
    cases he : worker.failure? with
    | some e => exact .inr ⟨[], worker, workers, e, rfl, nofun, he⟩
    | none =>
      rcases ih with hall | ⟨before, x, after, e, rfl, hbefore, he'⟩
      · exact .inl (by simpa [he] using hall)
      · exact .inr ⟨worker :: before, x, after, e, rfl, by simpa [he] using hbefore, he'⟩

theorem joined_ok_iff {workers : List (Worker E)} :
    joined workers = .returned (.ok ()) ↔ ∀ x ∈ workers, x.failure? = none := by
  constructor
  · intro h
    rcases first_failure workers with hall | ⟨before, x, after, e, rfl, hbefore, he⟩
    · exact hall
    · rw [joined_of_failure hbefore he] at h
      split at h <;> cases h
  · intro h
    induction workers with
    | nil => rfl
    | cons x workers ih =>
      rw [joined, h x (by simp)]
      exact ih fun y hy => h y (by simp [hy])

/-- No worker panicked behind one that failed or panicked. -/
def Contained (workers : List (Worker E)) : Prop :=
  workers.Pairwise fun x y => x.failure?.isSome → ¬ y.hasPanicked

theorem joined_returned_iff {workers : List (Worker E)} :
    (∃ result, joined workers = .returned result) ↔ Contained workers := by
  induction workers with
  | nil => exact ⟨fun _ => .nil, fun _ => ⟨_, rfl⟩⟩
  | cons x workers ih =>
    rw [Contained, List.pairwise_cons, joined]
    cases he : x.failure? with
    | none =>
      rw [ih]
      exact ⟨fun h => ⟨nofun, h⟩, And.right⟩
    | some e =>
      by_cases hpanicked : workers.any Worker.hasPanicked
      · obtain ⟨y, hy, hpanic⟩ := List.any_eq_true.1 hpanicked
        simp only [hpanicked, if_true]
        exact ⟨nofun, fun h => absurd hpanic (h.1 y hy rfl)⟩
      · have hnone : ∀ y ∈ workers, ¬ y.hasPanicked := by simpa using hpanicked
        simp only [if_neg hpanicked]
        refine ⟨fun _ => ⟨fun y hy _ => hnone y hy, ?_⟩, fun _ => ⟨_, rfl⟩⟩
        exact List.pairwise_iff_getElem.2 fun _ _ _ hj _ _ => hnone _ (List.getElem_mem hj)

/-! ## Making a pool -/

namespace Pool

/-- The pool in which these compilers wait, if there is to be one. -/
def opened (channel : List (Compiler E)) (capacity : Nat) :
    Ending (Except CompileError Unit) → Ending (Except CompileError (Pool E))
  | .returned result => .returned (result.map fun _ => ⟨channel, capacity⟩)
  | .panicked text => .panicked text

/-- What is logged when all workers were asked. -/
def announced (capacity : Nat) : Ending (Except CompileError Unit) → List (Event E)
  | .returned (.ok _) => [.log (.poolReady capacity)]
  | _ => []

theorem make_run {size : Nat} {options : CompilerOptions E} {schedule : List Nat} {w : World E}
    {s : Filling E} {t : List (Event E)}
    (h : fill (max size 1) options schedule w = ⟨.returned s, s.world, t⟩) :
    make size options schedule w =
      ⟨opened s.channel (max size 1) (joined s.workers), s.world,
        t ++ announced (max size 1) (joined s.workers)⟩ := by
  have hjoin := joinWorkers_apply (E := E) s.workers s.world
  simp only [make]
  rw [Act.bind_of_returned h]
  rcases hjoined : joined s.workers with (e | ⟨⟩) | text <;> rw [hjoined] at hjoin
  · rw [Act.bind_of_returned hjoin]
    rfl
  · rw [Act.bind_of_returned hjoin]
    rfl
  · rw [Act.bind_of_panicked hjoin]
    rfl

theorem make_apply {size : Nat} {options : CompilerOptions E} {schedule : List Nat} {w : World E}
    {s : Filling E} {t : List (Event E)}
    (h : fill (max size 1) options schedule w = ⟨.returned s, s.world, t⟩) :
    (make size options schedule w).ending = opened s.channel (max size 1) (joined s.workers) :=
  congrArg Run.ending (make_run h)

theorem opened_ok_iff {channel : List (Compiler E)} {capacity : Nat}
    {ending : Ending (Except CompileError Unit)} :
    (∃ p, opened channel capacity ending = .returned (.ok p)) ↔ ending = .returned (.ok ()) := by
  rcases ending with (e | ⟨⟩) | text
  · exact ⟨nofun, nofun⟩
  · exact ⟨fun _ => rfl, fun _ => ⟨_, rfl⟩⟩
  · exact ⟨nofun, nofun⟩

theorem opened_returned_iff {channel : List (Compiler E)} {capacity : Nat}
    {ending : Ending (Except CompileError Unit)} :
    (∃ result, opened channel capacity ending = .returned result) ↔
      ∃ result, ending = .returned result := by
  cases ending with
  | returned result => exact ⟨fun _ => ⟨_, rfl⟩, fun _ => ⟨_, rfl⟩⟩
  | panicked text => exact ⟨nofun, nofun⟩

/-- How the making of a pool ends.  Each worker ends done or failed, and one
    fails exactly if the library does.  If none fails there is a pool; if one
    does, its failure is what is returned, but only as long as no worker behind
    the first failed one panicked. -/
theorem make_ending (size : Nat) (options : CompilerOptions E) (schedule : List Nat) (w : World E) :
    let run := make size options schedule w
    ∃ s t, fill (max size 1) options schedule w = ⟨.returned s, s.world, t⟩ ∧
      s.workers.length = max size 1 ∧
      (∀ x ∈ s.workers, x.isDone ↔ x.failure? = none) ∧
      s.workers.countP Worker.hasPanicked = t.countP Event.isStartPanic ∧
      ((∀ x ∈ s.workers, x.failure? = none) ↔
        (∃ bytecode, s.world.build = some (.ok bytecode)) ∧ ∀ x ∈ t, ¬ x.isStartFailure) ∧
      ((∃ p, run.ending = .returned (.ok p)) ↔ ∀ x ∈ s.workers, x.failure? = none) ∧
      ((∃ result, run.ending = .returned result) ↔ Contained s.workers) ∧
      ∀ before x after e, s.workers = before ++ x :: after → (∀ y ∈ before, y.failure? = none) →
        x.failure? = some e →
        run.ending = if after.any Worker.hasPanicked then .panicked "a scoped thread panicked"
          else .returned (.error (.notStarted e)) := by
  obtain ⟨s, t, hfill, hlength, haccounted, hleft⟩ := fill_runs (max size 1) options schedule w
  have hsome : s.workers ≠ [] := by
    intro h
    rw [h, List.length_nil] at hlength
    omega
  refine ⟨s, t, hfill, hlength, fun x hx => Worker.isDone_iff (hleft x hx), haccounted.panics,
    haccounted.failure?_eq_none_iff hsome hleft, ?_, ?_, ?_⟩
  · rw [make_apply hfill, opened_ok_iff, joined_ok_iff]
  · rw [make_apply hfill, opened_returned_iff, joined_returned_iff]
  · intro before x after e hworkers hbefore he
    rw [make_apply hfill, hworkers, joined_of_failure hbefore he]
    by_cases hpanicked : after.any Worker.hasPanicked
    · rw [if_pos hpanicked, if_pos hpanicked]
      rfl
    · rw [if_neg hpanicked, if_neg hpanicked]
      rfl

/-- Both workers of a pool panic.  The panic of the first one is a failure of
    the pool, but nobody asks the second one. -/
theorem make_two_panics :
    (make 2 .default [] (Legacy.freshWorld (.byRules false false)
      ⟨[], [some (.panic "boom"), some (.panic "boom")], []⟩)).ending =
      .panicked "a scoped thread panicked" := rfl

end Pool

end Downlevel
