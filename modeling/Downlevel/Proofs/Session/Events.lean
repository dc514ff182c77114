/-
  Downlevel — what happens during a step of a session.

  All that happens in a session is an answer of the library or no call of it, so what
  holds of both holds of whatever is done.  A call of a runtime comes from a compiler
  that has the transformer, or from a request to the transformer in a slot; starting
  something reaches no runtime.

  * `Session.Turn.emits`: what holds of all that happens;
  * `Bench.Used.reaches`: which transformer a compiler at work reaches.
-/
import Downlevel.Proofs.Session.History
import Downlevel.Proofs.Session.Retirement

namespace Downlevel

variable {E : Engines} {P : Event E → Prop} {t : List (Event E)}

/-! ## Whatever happens -/

section
variable (hP : StartsUp P)
include hP

theorem Filling.Stepped.emits {options : CompilerOptions E} {i : Nat} {s s' : Filling E}
    (h : Stepped options i s t s') : ∀ e ∈ t, P e := by
  cases h with
  | rests | sends | waits => exact List.forall_mem_nil P
  | builds _ h => exact (obtainBuild_emits hP).run_eq h
  | starts _ h => exact (startWith_emits hP _).run_eq h

theorem Filling.Runs.emits {options : CompilerOptions E} {schedule : List Nat} {s s' : Filling E}
    (h : Runs options schedule s t s') : ∀ e ∈ t, P e := by
  induction h with
  | rest => exact List.forall_mem_nil P
  | step hstep _ ih => exact List.forall_mem_append.2 ⟨hstep.emits hP, ih⟩

variable (hother : ∀ e : Event E, ¬ e.isLibrary → P e)
include hother

theorem Pool.make_emits (size : Nat) (options : CompilerOptions E) (schedule : List Nat) :
    Act.Emits P (make size options schedule) := by
  intro w
  obtain ⟨s, u, hfill, hfilled⟩ := fill_filled (max size 1) options schedule w
  rw [make_run hfill]
  refine List.forall_mem_append.2 ⟨hfilled.runs.emits hP, fun e he => ?_⟩
  exact hother e (not_isLibrary_of_mem_announced he)

theorem World.Called.emits {w w' : World E} (h : w.Called t w') : ∀ e ∈ t, P e := by
  cases h with
  | build h => exact (obtainBuild_emits hP).run_eq h
  | start h => exact (startTransformer_emits hP).run_eq h
  | share h => exact (sharedTransformer_emits hP).run_eq h
  | fill h => exact (Pool.make_emits hP hother _ _ _).run_eq h

end

/-- `P` holds of whatever the library answers, and of all that is no call of it. -/
structure Prevails (P : Event E → Prop) : Prop extends Transforms P where
  other (e) : ¬ e.isLibrary → P e

section
variable (hP : Prevails P)
include hP

theorem Bench.Used.emits {b b' : Bench E} (h : b.Used t b') : ∀ e ∈ t, P e := by
  cases h with
  | transforms h => exact (transform_emits hP.toTransforms _ _ _).run_eq h
  | @compiles source filename entry _ _ _ h =>
    have hattempt (source : String) (map : Option Bytes) :
        Act.Emits P (b.compiler.options.attempt source filename entry map) := by
      intro w
      obtain ⟨result, w', u, hrun, -, hcourse⟩ :=
        b.compiler.options.attempt_course source filename entry map w
      rw [hrun]
      exact fun e he => hP.other e (hcourse.not_isLibrary e he)
    have hall := compile_emits hP.toTransforms source filename entry hattempt
    rwa [h] at hall

namespace Session

variable {taken used : Place → Prop} {s s' : Session E}

theorem Course.emits (h : s.Course taken used t s') : ∀ e ∈ t, P e := by
  induction h with
  | trans _ _ ih ih' => exact List.forall_mem_append.2 ⟨ih, ih'⟩
  | called h => exact h.emits hP.toStartsUp hP.other
  | requested _ h => exact (Request.perform_emits hP.toTransforms _ _).run_eq h
  | prepared _ h => exact (Bench.transformer_emits hP.toStartsUp).run_eq h
  | works _ _ h => exact h.emits hP
  | started h => exact (World.Called.start h).emits hP.toStartsUp hP.other
  | shared h => exact (World.Called.share h).emits hP.toStartsUp hP.other
  | rest | created | createdWith | dropped => exact List.forall_mem_nil P

/-- What holds of the answers of the library, and of all that is no call of it, holds
    of whatever is done in a session. -/
theorem Turn.emits (h : s.Turn taken used t s') : ∀ e ∈ t, P e := by
  have haway (p : Pool E) : ∀ e ∈ p.turnedAway, P e := fun e he =>
    hP.other e (Pool.not_isLibrary_of_mem_turnedAway he)
  cases h with
  | course h => exact h.emits hP
  | emptied | acquired => exact List.forall_mem_nil P
  | failed _ h => exact h.emits hP.toStartsUp hP.other
  | filled _ h => exact (World.Called.fill h).emits hP.toStartsUp hP.other
  | @released name p => exact haway p
  | @worked p c p' result b job t _ _ _ _ h =>
    exact List.forall_mem_append.2 ⟨(Bench.Used.compiles h).emits hP, haway p'⟩
  | brokenOff _ _ _ _ h => exact (Bench.Used.compiles h).emits hP

end Session

end

/-! ## Calls of a runtime -/

variable {id : TransformerId} {x : Event E}

/-- To start something reaches no runtime. -/
theorem World.Called.not_reaches {w w' : World E} (h : w.Called t w') : ∀ x ∈ t, ¬ x.reaches id := by
  have hP : StartsUp fun x : Event E => ¬ x.reaches id := ⟨nofun, nofun, fun _ => nofun, fun _ _ => nofun⟩
  exact h.emits hP fun e he hreaches => he (Event.isLibrary_of_reaches hreaches)

/-- A request reaches the transformer that is to perform it and no other. -/
theorem Request.eq_of_reaches {r : Request} {id' : TransformerId} {w : World E}
    (hx : x ∈ (r.perform id' w).trace) (h : x.reaches id) : id = id' := by
  rcases r.perform_cases id' w with
    ⟨ending, hrun⟩ | ⟨runtime, runtime', outcome, library, rest, ending, -, hrest, hrun⟩ <;>
    rw [hrun] at hx
  · cases hx
  · rcases List.mem_append.1 hx with hx | hx
    · exact absurd (Event.isLibrary_of_reaches h) (not_isLibrary_of_mem_warnings hx)
    rcases List.mem_cons.1 hx with rfl | hx
    · exact (of_decide_eq_true h).symm
    · exact absurd (Event.isLibrary_of_reaches h) (hrest x hx)

namespace Bench

variable {b b' : Bench E}

theorem AttachCourse.id?_eq (h : b.AttachCourse t (.returned (.ok id)) b') :
    b'.compiler.attachment.id? = some id := by
  cases h with
  | held hid => exact hid
  | shared => rfl

theorem transform_eq_of_reaches {source filename : String} {inputMap : Option Bytes}
    {ending : Ending (Except CompileError Transformed)}
    (h : transform source filename inputMap b = ⟨ending, b', t⟩) (hx : x ∈ t)
    (hreaches : x.reaches id) : b'.compiler.attachment.id? = some id := by
  obtain ⟨started, b₁, u, hrun, hstart, -⟩ := transformer_cases b
  have hnot (hx : x ∈ u) : False := Event.not_reaches_of_isStartUp (hstart x hx) hreaches
  rcases started with (e | id') | text
  · rw [transform, Act.bind_of_returned hrun] at h
    cases h
    simp only [Act.pure_apply, List.append_nil] at hx
    exact absurd hx hnot
  · rw [transform_apply hrun] at h
    cases h
    rcases List.mem_append.1 hx with hx | hx
    · exact absurd hx hnot
    · obtain rfl := Request.eq_of_reaches hx hreaches
      exact (transformer_course hrun).id?_eq
  · rw [transform, Act.bind_of_panicked hrun] at h
    cases h
    exact absurd hx hnot

/-- A compiler at work reaches the transformer that it has then and no other. -/
theorem Used.reaches (h : b.Used t b') (hx : x ∈ t) (hreaches : x.reaches id) :
    b'.compiler.attachment.id? = some id := by
  have hlibrary := Event.isLibrary_of_reaches hreaches
  cases h with
  | transforms h => exact transform_eq_of_reaches h hx hreaches
  | compiles h =>
    cases compile_compiles h with
    | alone _ ht => exact absurd hlibrary (ht x hx)
    | through _ _ _ hfirst hu _ hsecond =>
      rcases List.mem_append.1 hx with hx | hx
      · exact absurd hlibrary (hfirst x hx)
      rcases List.mem_cons.1 hx with rfl | hx
      · cases hreaches
      rcases List.mem_append.1 hx with hx | hx
      · have hid := transform_eq_of_reaches hu hx hreaches
        exact hid
      · exact absurd hlibrary (hsecond x hx)

end Bench

end Downlevel
