/-
  Downlevel — how often a compile calls its engines.

  A text is parsed at most twice, and a compile tries at most two texts.  The
  bounds are shown for a parse, for an attempt and for a transform, and added
  up for a compile.

  * `ParseCourse.phase_eq`, `AttemptCourse.phase_cases`: what happens during a
    parse and an attempt;
  * `Bench.Course.fallback_iff`: when a compile falls back;
  * `Bench.Course.attempt_of_not_isFallback`: without a fallback nothing else
    happens;
  * `Bench.compile_calls`: the course of a compile and the bounds.
-/
import Downlevel.Proofs.Compile.Course

namespace Downlevel

variable {E : Engines}

/-! ## Parsing a text -/

namespace ParseCourse

variable {filename code : String} {desk : MapDesk E} {t : List (Event E)}
  {verdict : Except Rejection E.Ast} {map : Option Bytes}

theorem phase_eq (h : ParseCourse filename code desk t verdict map) :
    ∀ e ∈ t, e.phase = .parsing := by
  cases h with
  | plain =>
    intro e he
    simp only [List.mem_cons, List.not_mem_nil, or_false] at he
    rcases he with rfl | rfl <;> rfl
  | met _ hserves =>
    intro e he
    simp only [List.mem_cons, List.mem_append, List.not_mem_nil, or_false] at he
    rcases he with rfl | he | rfl
    · rfl
    · exact Event.phase_of_isRequest (hserves.isRequest e he)
    · rfl
  | repeated _ hserves =>
    intro e he
    simp only [List.mem_cons, List.mem_append, List.not_mem_nil, or_false] at he
    rcases he with rfl | he | rfl | rfl | rfl | rfl
    · rfl
    · exact Event.phase_of_isRequest (hserves.isRequest e he)
    all_goals rfl

/-- A text is parsed once, or twice if the host was refused a map. -/
theorem countP_isParse_le (h : ParseCourse filename code desk t verdict map) :
    t.countP Event.isParse ≤ 2 := by
  have hrequests {t : List (Event E)} {desk' : MapDesk E} (h : desk.Serves t desk') :
      t.countP Event.isParse = 0 := by
    rw [List.countP_eq_zero]
    intro e he hparse
    have hrequest := h.isRequest e he
    cases e <;> simp [Event.isParse, Event.isRequest] at hparse hrequest
  cases h with
  | plain => simp [List.countP_cons, Event.isParse]
  | met _ hserves => simp [List.countP_cons, List.countP_append, hrequests hserves, Event.isParse]
  | repeated _ hserves =>
    simp [List.countP_cons, List.countP_append, hrequests hserves, Event.isParse]

/-- Nothing is compiled during a parse. -/
theorem countP_isCompile (h : ParseCourse filename code desk t verdict map) :
    t.countP Event.isCompile = 0 := by
  refine countP_eq_zero_of_phase Event.phase_of_isCompile fun e he => ?_
  rw [h.phase_eq e he]
  exact Phase.noConfusion

end ParseCourse

/-! ## Trying a text -/

namespace AttemptCourse

variable {o : CompilerOptions E} {source filename : String} {entry : Bool} {map map' : Option Bytes}
  {t : List (Event E)} {result : AttemptResult E.Program} {e : Rejection}

theorem phase_cases (h : AttemptCourse o source filename entry map t result) :
    ∀ e ∈ t, e.phase = .parsing ∨ e.phase = .compiling := by
  cases h with
  | rejected hparse => exact fun e he => .inl (hparse.phase_eq e he)
  | refused hparse | accepted hparse =>
    intro e he
    rcases List.mem_append.1 he with he | he
    · exact .inl (hparse.phase_eq e he)
    · rw [List.mem_singleton.1 he]
      exact .inr rfl

theorem countP_isParse_le (h : AttemptCourse o source filename entry map t result) :
    t.countP Event.isParse ≤ 2 := by
  cases h with
  | rejected hparse => exact hparse.countP_isParse_le
  | refused hparse | accepted hparse =>
    have := hparse.countP_isParse_le
    simpa [List.countP_append, List.countP_cons, Event.isParse] using this

theorem countP_isCompile_le (h : AttemptCourse o source filename entry map t result) :
    t.countP Event.isCompile ≤ 1 := by
  cases h with
  | rejected hparse => simp [hparse.countP_isCompile]
  | refused hparse | accepted hparse =>
    simp [List.countP_append, List.countP_cons, hparse.countP_isCompile, Event.isCompile]

/-- The host compiles nothing that it rejected. -/
theorem countP_isCompile_rejected
    (h : AttemptCourse o source filename entry map t (.rejected e map')) :
    t.countP Event.isCompile = 0 := by
  cases h with
  | rejected hparse => exact hparse.countP_isCompile

/-- An attempt neither falls back nor transforms. -/
theorem countP_eq_zero (h : AttemptCourse o source filename entry map t result)
    {p : Event E → Bool} {phase : Phase} (hp : ∀ {e}, p e → e.phase = phase)
    (hparsing : .parsing ≠ phase) (hcompiling : .compiling ≠ phase) : t.countP p = 0 := by
  refine countP_eq_zero_of_phase hp fun e he => ?_
  rcases h.phase_cases e he with h | h
  · exact h ▸ hparsing
  · exact h ▸ hcompiling

theorem not_isFallback (h : AttemptCourse o source filename entry map t result) :
    ∀ e ∈ t, ¬ e.isFallback :=
  List.countP_eq_zero.1 (h.countP_eq_zero Event.phase_of_isFallback nofun nofun)

/-- An attempt leaves the library alone. -/
theorem not_isLibrary (h : AttemptCourse o source filename entry map t result) :
    ∀ e ∈ t, ¬ e.isLibrary :=
  List.countP_eq_zero.1 (h.countP_eq_zero Event.phase_of_isLibrary nofun nofun)

theorem not_isTransform (h : AttemptCourse o source filename entry map t result) :
    ∀ e ∈ t, ¬ e.isTransform :=
  List.countP_eq_zero.1 (h.countP_eq_zero Event.phase_of_isTransform nofun nofun)

end AttemptCourse

/-! ## Compiling a unit -/

theorem Request.Course.countP_eq_zero {r : Request} {t : List (Event E)}
    {ending : Ending (Except CompileError Transformed)} (h : r.Course t ending)
    {p : Event E → Bool} {phase : Phase} (hp : ∀ {e}, p e → e.phase = phase)
    (hphase : .transforming ≠ phase) : t.countP p = 0 :=
  countP_eq_zero_of_phase hp fun e he => h.phase_eq e he ▸ hphase

namespace Bench

variable {b b' : Bench E} {source filename : String} {entry : Bool} {t : List (Event E)}
  {ending : Ending (Except CompileError (CompiledUnit E.Program))}

namespace Course

/-- Without a fallback a compile is a single attempt, and the compiler is left
    as it was. -/
theorem attempt_of_not_isFallback (h : b.Course source filename entry t ending b')
    (hfallback : ∀ e ∈ t, ¬ e.isFallback) :
    ∃ result, b.compiler.options.Attempt source filename entry none b.world t result b'.world ∧
      b'.compiler = b.compiler := by
  have hnot {P : Prop} {first rest : List (Event E)} {e : Rejection}
      (h : ∀ x ∈ first ++ .log (.transforming filename .extended e) :: rest, ¬ x.isFallback) : P :=
    absurd rfl (h (.log (.transforming filename .extended e)) (by simp))
  cases h with
  | direct hfirst | base _ hfirst => exact ⟨_, hfirst, rfl⟩
  | panicked | failed | transformed | rejected => exact hnot hfallback

/-- A compile falls back exactly if the mode has a fallback and the host rejects the
    unit. -/
theorem fallback_iff (h : b.Course source filename entry t ending b') :
    (∃ e ∈ t, e.isFallback) ↔ b.compiler.options.mode = .extended ∧
      ∃ e map w first, b.compiler.options.attempt source filename entry none b.world =
        ⟨.returned (.rejected e map), w, first⟩ := by
  have halone {t w result} (hfirst : b.compiler.options.Attempt source filename entry none b.world
      t result w) : ¬ ∃ e ∈ t, e.isFallback := fun ⟨e, he, hfallback⟩ =>
    hfirst.course.not_isFallback e he hfallback
  cases h with
  | direct hfirst =>
    refine iff_of_false (halone hfirst) ?_
    rintro ⟨-, e, map, w, first, hrun⟩
    cases hfirst.run.symm.trans hrun
  | base hmode hfirst =>
    refine iff_of_false (halone hfirst) ?_
    rintro ⟨hmode', -⟩
    cases hmode.symm.trans hmode'
  | @panicked _ e _ _ _ _ _ hmode hfirst | @failed _ e _ _ _ _ _ hmode hfirst
  | @transformed _ e _ _ _ _ _ _ _ _ hmode hfirst
  | @rejected _ e _ _ _ _ _ _ _ _ _ hmode hfirst =>
    exact iff_of_true ⟨.log (.transforming filename .extended e), by simp, rfl⟩
      ⟨hmode, _, _, _, _, hfirst.run⟩

theorem not_isFallback_of_base (h : b.Course source filename entry t ending b')
    (hmode : b.compiler.options.mode = .base) : ∀ e ∈ t, ¬ e.isFallback := by
  intro e he hfallback
  obtain ⟨hmode', -⟩ := h.fallback_iff.1 ⟨e, he, hfallback⟩
  cases hmode.symm.trans hmode'

/-- In the base mode a compile is a single attempt. -/
theorem attempt_of_base (h : b.Course source filename entry t ending b')
    (hmode : b.compiler.options.mode = .base) :
    ∃ result, AttemptCourse b.compiler.options source filename entry none t result := by
  obtain ⟨result, hfirst, -⟩ := h.attempt_of_not_isFallback (h.not_isFallback_of_base hmode)
  exact ⟨result, hfirst.course⟩

/-- Where a compile falls back, the unit was rejected, and the transform of the
    source follows with the map in hand. -/
theorem fallback (h : b.Course source filename entry t ending b') :
    Throughout (fun before e after => e.isFallback → ∃ error map u rest answer, after = u ++ rest ∧
      AttemptCourse b.compiler.options source filename entry none before (.rejected error map) ∧
      Request.Course ⟨source, filename, b.compiler.options.loader.isSome, map⟩ u answer) t := by
  have hattempt {o : CompilerOptions E} {source map t result}
      (h : AttemptCourse o source filename entry map t result)
      {P : List (Event E) → List (Event E) → Prop} :
      Throughout (fun before e after => e.isFallback → P before after) t := by
    rintro before e after rfl hfallback
    exact absurd hfallback (h.not_isFallback e (by simp))
  rcases h.parts with
    ⟨result, hfirst⟩ | ⟨-, first, e, map, u, answer, second, rfl, hfirst, hu, hsecond⟩
  · exact hattempt hfirst
  · refine throughout_append.2 ⟨hattempt hfirst, throughout_cons.2 ⟨fun _ => ?_,
      throughout_append.2 ⟨?_, ?_⟩⟩⟩
    · exact ⟨e, map, u, second, answer, rfl, by simpa using hfirst, hu⟩
    · rintro before x after rfl hfallback
      have hphase := hu.phase_eq x (by simp)
      rw [Event.phase_of_isFallback hfallback] at hphase
      cases hphase
    · rcases hsecond with rfl | ⟨output, result, -, hsecond⟩
      · exact throughout_nil
      · exact hattempt hsecond

/-- What bounds every attempt bounds the second one, whether there is one or
    not. -/
theorem countP_second_le {o : CompilerOptions E} {answer : Ending (Except CompileError Transformed)}
    {second : List (Event E)} {p : Event E → Bool} {n : Nat}
    (h : second = [] ∨ ∃ output result, answer = .returned (.ok output) ∧
      AttemptCourse o output.code filename entry output.map second result)
    (hattempt : ∀ {source map t result}, AttemptCourse o source filename entry map t result →
      t.countP p ≤ n) : second.countP p ≤ n := by
  rcases h with rfl | ⟨output, result, -, hsecond⟩
  · exact Nat.zero_le n
  · exact hattempt hsecond

theorem countP_isParse_le (h : b.Course source filename entry t ending b') :
    t.countP Event.isParse ≤ 4 := by
  rcases h.parts with
    ⟨result, hfirst⟩ | ⟨-, first, e, map, u, answer, second, rfl, hfirst, hu, hsecond⟩
  · have := hfirst.countP_isParse_le
    omega
  · have hn := hfirst.countP_isParse_le
    have hu : u.countP Event.isParse = 0 := hu.countP_eq_zero Event.phase_of_isParse nofun
    have hsecond := countP_second_le hsecond fun h => h.countP_isParse_le
    simp only [List.countP_append, List.countP_cons, Event.isParse]
    simp; omega

theorem countP_isFallback_le (h : b.Course source filename entry t ending b') :
    t.countP Event.isFallback ≤ 1 := by
  have hattempt {o : CompilerOptions E} {source map t result}
      (h : AttemptCourse o source filename entry map t result) : t.countP Event.isFallback = 0 :=
    h.countP_eq_zero Event.phase_of_isFallback nofun nofun
  rcases h.parts with
    ⟨result, hfirst⟩ | ⟨-, first, e, map, u, answer, second, rfl, hfirst, hu, hsecond⟩
  · simp [hattempt hfirst]
  · have hu : u.countP Event.isFallback = 0 :=
      hu.countP_eq_zero Event.phase_of_isFallback nofun
    have hsecond := Nat.le_zero.1 (countP_second_le hsecond fun h => Nat.le_of_eq (hattempt h))
    simp [List.countP_append, List.countP_cons, hattempt hfirst, hu, hsecond, Event.isFallback]

theorem countP_isTransform_le (h : b.Course source filename entry t ending b') :
    t.countP Event.isTransform ≤ 1 := by
  have hattempt {o : CompilerOptions E} {source map t result}
      (h : AttemptCourse o source filename entry map t result) : t.countP Event.isTransform = 0 :=
    h.countP_eq_zero Event.phase_of_isTransform nofun nofun
  rcases h.parts with
    ⟨result, hfirst⟩ | ⟨-, first, e, map, u, answer, second, rfl, hfirst, hu, hsecond⟩
  · simp [hattempt hfirst]
  · have hu := hu.countP_isTransform_le
    have hsecond := Nat.le_zero.1 (countP_second_le hsecond fun h => Nat.le_of_eq (hattempt h))
    simp only [List.countP_append, List.countP_cons, hattempt hfirst, hsecond, Event.isTransform]
    simp; omega

theorem countP_isCompile_le (h : b.Course source filename entry t ending b') :
    t.countP Event.isCompile ≤ 1 := by
  rcases h.parts with
    ⟨result, hfirst⟩ | ⟨-, first, e, map, u, answer, second, rfl, hfirst, hu, hsecond⟩
  · exact hfirst.countP_isCompile_le
  · have hu : u.countP Event.isCompile = 0 :=
      hu.countP_eq_zero Event.phase_of_isCompile nofun
    have hsecond := countP_second_le hsecond fun h => h.countP_isCompile_le
    simp only [List.countP_append, List.countP_cons, hfirst.countP_isCompile_rejected, hu,
      Event.isCompile]
    simp; omega

end Course

/-- The calls of a compile.  They are those of the attempts and the one transform
    that `Course` puts together, and there is a fallback exactly if the mode has one
    and the host rejects the unit.  So there are at most four parses, one fallback
    with one call of a runtime, and one call to compile what was parsed.  Without
    a fallback, as always in the base mode, there are at most two parses, and
    neither the compiler nor anything but the host and the files is changed. -/
theorem compile_calls (source filename : String) (entry : Bool) (b : Bench E) :
    ∃ ending b' t, compile source filename entry b = ⟨ending, b', t⟩ ∧
      b.Course source filename entry t ending b' ∧
      ((∃ e ∈ t, e.isFallback) ↔ b.compiler.options.mode = .extended ∧
        ∃ e map w first, b.compiler.options.attempt source filename entry none b.world =
          ⟨.returned (.rejected e map), w, first⟩) ∧
      t.countP Event.isParse ≤ 4 ∧ t.countP Event.isFallback ≤ 1 ∧
      t.countP Event.isTransform ≤ 1 ∧ t.countP Event.isCompile ≤ 1 ∧
      (b.compiler.options.mode = .base → ∀ e ∈ t, ¬ e.isFallback) ∧
      ((∀ e ∈ t, ¬ e.isFallback) →
        t.countP Event.isParse ≤ 2 ∧ (∀ e ∈ t, e.phase = .parsing ∨ e.phase = .compiling) ∧
        b'.compiler = b.compiler ∧ b.world.HostOnly b'.world) := by
  obtain ⟨ending, b', t, hrun, hcourse⟩ := compile_course source filename entry b
  refine ⟨ending, b', t, hrun, hcourse, hcourse.fallback_iff, hcourse.countP_isParse_le,
    hcourse.countP_isFallback_le, hcourse.countP_isTransform_le, hcourse.countP_isCompile_le,
    hcourse.not_isFallback_of_base, fun hfallback => ?_⟩
  obtain ⟨result, hfirst, hcompiler⟩ := hcourse.attempt_of_not_isFallback hfallback
  exact ⟨hfirst.course.countP_isParse_le, hfirst.course.phase_cases, hcompiler, hfirst.hostOnly⟩

end Bench

end Downlevel
