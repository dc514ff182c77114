/-
  Downlevel — what a pool does to the library.

  The workers of a pool share the build with everybody else and start runtimes
  of their own.  Whatever the schedule, they keep to the ledger; if there is a
  build all are started with it, and if the build failed so does the pool.

  * `Filling.Informed`: what the workers know is so, and every run keeps it so
    (`Filling.Runs.informed`);
  * `Pool.Making` with `Pool.make_making`: what the making of a pool does to the
    world, and how it ends there.
-/
import Downlevel.Proofs.Compile.Keeping
import Downlevel.Proofs.Pool.Failure

namespace Downlevel

variable {E : Engines}

/-! ## What the workers know -/

/-- What a worker knows of the world is so. -/
def Worker.Informed (w : World E) (t : List (Event E)) : Worker E → Prop
  | built bytecode => w.build = some (.ok bytecode)
  | started id => id < w.transformers.length
  | failed e => w.build = some (.error e) ∨ ∃ bytecode, .start bytecode (.returned (.error e)) ∈ t
  | idle | done | panicked => True

theorem Worker.Informed.keeps {worker : Worker E} {w w' : World E} {t u : List (Event E)}
    (h : worker.Informed w t) (hkeeps : w.Keeps u w') : worker.Informed w' (t ++ u) := by
  cases worker with
  | idle | done | panicked => trivial
  | built bytecode => exact (hkeeps.build_eq h).1
  | started id => exact Nat.lt_of_lt_of_le h hkeeps.length_le
  | failed e =>
    rcases h with h | ⟨bytecode, h⟩
    · exact .inl (hkeeps.build_eq h).1
    · exact .inr ⟨bytecode, List.mem_append_left u h⟩

namespace Filling

/-- After the events `t` all workers know what is so, and the compilers in the
    channel have transformers of their own. -/
structure Informed (t : List (Event E)) (s : Filling E) : Prop where
  workers (worker) : worker ∈ s.workers → worker.Informed s.world t
  channel (c) : c ∈ s.channel → ∃ id < s.world.transformers.length, c.attachment = .own id

variable {options : CompilerOptions E} {i : Nat} {s s' : Filling E} {t earlier : List (Event E)}

theorem informed_begin (capacity : Nat) (w : World E) : Informed [] (begin capacity w) where
  workers worker h := by
    rw [List.eq_of_mem_replicate h]
    trivial
  channel c h := nomatch h

theorem Informed.turn (hs : Informed earlier s) {w : World E} {worker : Worker E}
    (hkeeps : s.world.Keeps t w) (hworker : worker.Informed w (earlier ++ t)) :
    Informed (earlier ++ t) { s with world := w, workers := s.workers.set i worker } where
  workers x hx := by
    rcases List.mem_or_eq_of_mem_set hx with hx | rfl
    · exact (hs.workers x hx).keeps hkeeps
    · exact hworker
  channel c hc := by
    obtain ⟨id, hid, hown⟩ := hs.channel c hc
    exact ⟨id, Nat.lt_of_lt_of_le hid hkeeps.length_le, hown⟩

theorem Stepped.informed (h : Stepped options i s t s') (hs : Informed earlier s) :
    s.world.Keeps t s'.world ∧ Informed (earlier ++ t) s' := by
  cases h with
  | rests | waits => exact ⟨.refl _, by simpa using hs⟩
  | @builds outcome w t hi hbuild =>
    have hcourse := obtainBuild_course hbuild
    refine ⟨hcourse.keeps, hs.turn hcourse.keeps ?_⟩
    rcases outcome with (e | bytecode) | text
    · exact .inl hcourse.build_eq
    · exact hcourse.build_eq
    · trivial
  | @starts bytecode outcome w t hi hstart =>
    have hcourse := startWith_course hstart
    have hkeeps := hcourse.keeps (hs.workers _ (List.mem_of_getElem? hi))
    refine ⟨hkeeps, hs.turn hkeeps ?_⟩
    cases hcourse with
    | started => simp [Worker.afterStart, Worker.Informed]
    | refused => exact .inr ⟨bytecode, by simp⟩
    | panicked => trivial
  | @sends id hi =>
    refine ⟨.refl _, ?_⟩
    have hdone : (Worker.done : Worker E).Informed s.world (earlier ++ []) := trivial
    have hturn := hs.turn (i := i) (.refl s.world) hdone
    refine ⟨hturn.workers, fun c hc => ?_⟩
    rcases List.mem_append.1 hc with hc | hc
    · exact hs.channel c hc
    · exact ⟨id, hs.workers _ (List.mem_of_getElem? hi), by rw [List.mem_singleton.1 hc]; rfl⟩

theorem Runs.informed {schedule : List Nat} (h : Runs options schedule s t s')
    (hs : Informed earlier s) : s.world.Keeps t s'.world ∧ Informed (earlier ++ t) s' := by
  induction h generalizing earlier with
  | rest => exact ⟨.refl _, by simpa using hs⟩
  | step hstep _ ih =>
    obtain ⟨hkeeps, hs₁⟩ := hstep.informed hs
    obtain ⟨hkeeps', hs'⟩ := ih hs₁
    exact ⟨hkeeps.trans hkeeps', by rw [← List.append_assoc]; exact hs'⟩

end Filling

/-! ## What is started -/

/-- Whether a worker is past the point where a runtime is started. -/
def Worker.hasTried (worker : Worker E) : Bool := worker.stepsLeft ≤ 1

namespace Filling

variable {options : CompilerOptions E} {i : Nat} {s s' : Filling E} {t earlier : List (Event E)}

/-- Unless the build fails or panics, each worker has a runtime started before it goes
    on. -/
theorem Stepped.countP_isStart (h : Stepped options i s t s')
    (herror : ∀ e, s'.world.build ≠ some (.error e)) (hpanic : ∀ text, .build (.panicked text) ∉ t) :
    s'.workers.countP Worker.hasTried = s.workers.countP Worker.hasTried + t.countP Event.isStart := by
  cases h with
  | rests | waits => simp
  | builds hi hobtain =>
    rcases obtainBuild_course hobtain with @⟨built, hbuild⟩ | @⟨built, _, _⟩ | @⟨text, _, _⟩
    · rcases built with e | bytecode
      · exact absurd hbuild (herror e)
      · exact countP_set_of_false hi rfl
    · rcases built with e | bytecode
      · exact absurd rfl (herror e)
      · exact countP_set_of_false hi rfl
    · exact absurd (by simp) (hpanic text)
  | starts hi hstart =>
    cases startWith_course hstart with
    | started | refused | panicked => exact countP_set_of_false hi rfl
  | sends hi => exact countP_set_of_eq hi rfl

theorem Runs.countP_isStart {schedule : List Nat} (h : Runs options schedule s t s')
    (hs : Informed earlier s) (herror : ∀ e, s'.world.build ≠ some (.error e))
    (hpanic : ∀ text, .build (.panicked text) ∉ t) :
    s'.workers.countP Worker.hasTried = s.workers.countP Worker.hasTried + t.countP Event.isStart := by
  induction h generalizing earlier with
  | rest => simp
  | step hstep hrest ih =>
    obtain ⟨-, hs₁⟩ := hstep.informed hs
    obtain ⟨hkeeps', -⟩ := hrest.informed hs₁
    rw [ih hs₁ herror fun text h => hpanic text (List.mem_append_right _ h),
      hstep.countP_isStart (fun e h => herror e (hkeeps'.build_eq h).1)
        fun text h => hpanic text (List.mem_append_left _ h),
      List.countP_append]
    omega

/-- If the build failed and nobody panicked, then its failure is what all workers
    met with. -/
theorem Accounted.failed (haccounted : Accounted t s) (hs : Informed t s)
    (hleft : ∀ worker ∈ s.workers, worker.stepsLeft = 0) {error : EngineFailure}
    (hbuild : s.world.build = some (.error error)) (hstart : ∀ x ∈ t, ¬ x.isStart)
    (hpanic : ∀ x ∈ t, ¬ x.isStartPanic) {worker : Worker E} (hworker : worker ∈ s.workers) :
    worker = .failed error := by
  have hfailure : worker.failure?.isSome := by
    rcases haccounted.unbuilt (fun bytecode h => absurd (hbuild.symm.trans h) nofun) worker hworker
      with rfl | h
    · exact absurd (hleft _ hworker) (by simp [Worker.stepsLeft])
    · exact h
  cases worker with
  | idle | built | started | done => cases hfailure
  | panicked =>
    have hpanics := haccounted.panics
    rw [List.countP_eq_zero.2 hpanic] at hpanics
    exact absurd rfl (List.countP_eq_zero.1 hpanics _ hworker)
  | failed e =>
    rcases hs.workers _ hworker with h | ⟨bytecode, h⟩
    · rw [hbuild] at h
      cases h
      rfl
    · exact absurd rfl (hstart _ h)

end Filling

/-- Nobody builds and no worker fails: so no worker is through. -/
theorem Filling.Accounted.exists_isBuild {s : Filling E} {w : World E} {t : List (Event E)}
    (haccounted : Filling.Accounted t s) (hs : Filling.Informed t s) (hkeeps : w.Keeps t s.world)
    (hleft : ∀ worker ∈ s.workers, worker.stepsLeft = 0) (hsome : s.workers ≠ [])
    (hbuild : w.build = none) : ∃ x ∈ t, x.isBuild := by
  refine Classical.byContradiction fun hnot => ?_
  have hnobuild : ∀ x ∈ t, ¬ x.isBuild := fun x hx h => hnot ⟨x, hx, h⟩
  have hunbuilt : ∀ built, s.world.build ≠ some built := by
    intro built h
    have hledger : (w.ledger.after t).build = some built := by rw [← hkeeps.2]; exact h
    rcases (Ledger.build_after hkeeps.1).1 hledger with h | h
    · exact absurd (hbuild.symm.trans h) nofun
    · exact hnobuild _ h rfl
  have hnostart : ∀ bytecode outcome, .start bytecode outcome ∉ t := by
    intro bytecode outcome h
    obtain ⟨before, after, rfl⟩ := List.append_of_mem h
    rcases Ledger.build_before_start hkeeps.1 before _ after rfl bytecode outcome rfl with h | h
    · exact absurd (hbuild.symm.trans h) nofun
    · exact hnobuild _ (List.mem_append_left _ h) rfl
  obtain ⟨worker, hworker⟩ := List.exists_mem_of_ne_nil _ hsome
  rcases haccounted.unbuilt (fun bytecode => hunbuilt _) worker hworker with rfl | hfailure
  · exact absurd (hleft _ hworker) (by simp [Worker.stepsLeft])
  cases worker with
  | idle | built | started | done => cases hfailure
  | failed e =>
    rcases hs.workers _ hworker with h | ⟨bytecode, h⟩
    · exact hunbuilt _ h
    · exact hnostart bytecode _ h
  | panicked =>
    have hpos : 0 < t.countP Event.isStartPanic := by
      rw [← haccounted.panics]
      exact List.countP_pos_iff.2 ⟨_, hworker, rfl⟩
    obtain ⟨x, hx, hpanic⟩ := List.countP_pos_iff.1 hpos
    rcases Event.isStartPanic_iff.1 hpanic with ⟨text, rfl⟩ | ⟨bytecode, text, rfl⟩
    · exact hnobuild _ hx rfl
    · exact hnostart _ _ hx

/-! ## Making a pool -/

namespace Pool

open Filling

/-- How the filling of a pool goes: `s` is how far it got when no worker has a step
    before it any more. -/
structure Filled (w : World E) (capacity : Nat) (options : CompilerOptions E) (schedule : List Nat)
    (t : List (Event E)) (s : Filling E) : Prop where
  runs : Runs options (schedule ++ inOrder capacity) (begin capacity w) t s
  length : s.workers.length = capacity
  stepsLeft (worker) : worker ∈ s.workers → worker.stepsLeft = 0
  accounted : Accounted t s
  informed : Informed t s
  keeps : w.Keeps t s.world

theorem fill_filled (capacity : Nat) (options : CompilerOptions E) (schedule : List Nat)
    (w : World E) :
    ∃ s t, fill capacity options schedule w = ⟨.returned s, s.world, t⟩ ∧
      Filled w capacity options schedule t s := by
  obtain ⟨s, t, hfill, hlength, haccounted, hleft⟩ := fill_runs capacity options schedule w
  have hruns : Runs options (schedule ++ inOrder capacity) (begin capacity w) t s := by
    obtain ⟨s', t', hfill', hruns⟩ := fill_follows capacity options schedule w
    rw [hfill] at hfill'
    cases hfill'
    exact hruns
  obtain ⟨hkeeps, hinformed⟩ := hruns.informed (informed_begin capacity w)
  exact ⟨s, t, hfill, hruns, hlength, hleft, haccounted, hinformed, hkeeps⟩

namespace Filled

variable {w : World E} {capacity : Nat} {options : CompilerOptions E} {schedule : List Nat}
  {t : List (Event E)} {s : Filling E}

theorem workers_ne_nil (h : Filled w capacity options schedule t s) (hpos : 0 < capacity) :
    s.workers ≠ [] := by
  intro hnil
  have hlength := h.length
  rw [hnil, List.length_nil] at hlength
  omega

/-- A runtime is started for each worker. -/
theorem countP_isStart (h : Filled w capacity options schedule t s)
    (herror : ∀ e, s.world.build ≠ some (.error e)) (hpanic : ∀ text, .build (.panicked text) ∉ t) :
    t.countP Event.isStart = capacity := by
  have hcount := h.runs.countP_isStart (informed_begin capacity w) herror hpanic
  have hall : s.workers.countP Worker.hasTried = s.workers.length :=
    List.countP_eq_length.2 fun x hx => by simp [Worker.hasTried, h.stepsLeft x hx]
  have hnone : (begin capacity w).workers.countP Worker.hasTried = 0 := by
    simp [begin, List.countP_replicate, Worker.hasTried, Worker.stepsLeft]
  have hlength := h.length
  omega

end Filled

theorem joined_of_failed {workers : List (Worker E)} {e : EngineFailure} (hsome : workers ≠ [])
    (h : ∀ x ∈ workers, x = .failed e) : joined workers = .returned (.error (.notStarted e)) := by
  obtain ⟨worker, others, rfl⟩ := List.exists_cons_of_ne_nil hsome
  obtain rfl := h worker (by simp)
  have hothers : others.any Worker.hasPanicked = false := by
    rw [List.any_eq_false]
    intro x hx
    rw [h x (by simp [hx])]
    nofun
  simp [joined, Worker.failure?, hothers]

theorem not_isLibrary_of_mem_announced {capacity : Nat} {ending : Ending (Except CompileError Unit)}
    {x : Event E} (h : x ∈ announced capacity ending) : ¬ x.isLibrary := by
  unfold announced at h
  split at h
  · rw [List.mem_singleton.1 h]
    nofun
  · cases h

/-- Whether there is a pool is no matter of the library. -/
theorem countP_append_announced {p : Event E → Bool} (hp : ∀ x, p x → x.isLibrary)
    {t : List (Event E)} {capacity : Nat} {ending : Ending (Except CompileError Unit)} :
    (t ++ announced capacity ending).countP p = t.countP p := by
  have hnone : (announced capacity ending : List (Event E)).countP p = 0 :=
    List.countP_eq_zero.2 fun x hx hpx => not_isLibrary_of_mem_announced hx (hp x hpx)
  rw [List.countP_append, hnone, Nat.add_zero]

/-- What the making of a pool does to the world, and how it ends there. -/
structure Making (w : World E) (capacity : Nat) (t : List (Event E))
    (ending : Ending (Except CompileError (Pool E))) (w' : World E) : Prop where
  keeps : w.Keeps t w'
  /-- The compilers of the pool have transformers of their own. -/
  owned (p c) : ending = .returned (.ok p) → c ∈ p.waiting →
    ∃ id < w'.transformers.length, c.attachment = .own id
  /-- With a build at hand a runtime is started for each of them. -/
  started (bytecode) : w.build = some (.ok bytecode) → t.countP Event.isStart = capacity
  builds : w.build = none → ∃ x ∈ t, x.isBuild
  /-- A failure of the build is the failure of the pool. -/
  failed (e) : w'.build = some (.error e) → (∀ x ∈ t, ¬ x.isStart) → (∀ x ∈ t, ¬ x.isStartPanic) →
    ending = .returned (.error (.notStarted e))

theorem make_making {size : Nat} {options : CompilerOptions E} {schedule : List Nat} {w w' : World E}
    {ending : Ending (Except CompileError (Pool E))} {t : List (Event E)}
    (h : make size options schedule w = ⟨ending, w', t⟩) :
    Making w (max size 1) t ending w' := by
  obtain ⟨s, u, hfill, hfilled⟩ := fill_filled (max size 1) options schedule w
  have hsome : s.workers ≠ [] := hfilled.workers_ne_nil (by omega)
  rw [make_run hfill] at h
  cases h
  have hfailed (e : EngineFailure) (hbuild : s.world.build = some (.error e))
      (hstart : ∀ x ∈ u, ¬ x.isStart) (hpanic : ∀ x ∈ u, ¬ x.isStartPanic) :
      joined s.workers = .returned (.error (.notStarted e)) :=
    joined_of_failed hsome fun x hx =>
      hfilled.accounted.failed hfilled.informed hfilled.stepsLeft hbuild hstart hpanic hx
  refine ⟨?keeps, ?owned, ?started, ?builds, ?failed⟩
  case keeps =>
    exact hfilled.keeps.trans (.of_ledger_eq rfl fun x hx => not_isLibrary_of_mem_announced hx)
  case owned =>
    intro p c hopened hc
    obtain hok := opened_ok_iff.1 ⟨p, hopened⟩
    rw [hok] at hopened
    cases hopened
    exact hfilled.informed.channel c hc
  case started =>
    intro bytecode hbuild
    obtain ⟨hbuilt, hnobuild⟩ := hfilled.keeps.build_eq hbuild
    rw [countP_append_announced fun x => Event.isLibrary_of_isStart]
    refine hfilled.countP_isStart (fun e herror => ?_) fun text hpanic => hnobuild _ hpanic rfl
    exact absurd (hbuilt.symm.trans herror) nofun
  case builds =>
    intro hbuild
    obtain ⟨x, hx, hbuilds⟩ := hfilled.accounted.exists_isBuild hfilled.informed hfilled.keeps
      hfilled.stepsLeft hsome hbuild
    exact ⟨x, List.mem_append_left _ hx, hbuilds⟩
  case failed =>
    intro e hbuild hstart hpanic
    rw [hfailed e hbuild (fun x hx => hstart x (List.mem_append_left _ hx))
      (fun x hx => hpanic x (List.mem_append_left _ hx))]
    rfl

end Pool

end Downlevel
