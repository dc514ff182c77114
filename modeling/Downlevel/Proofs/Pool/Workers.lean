/-
  Downlevel — the workers that fill a pool.

  The workers of a pool take their steps in an order that nobody knows.
  `Filling.Stepped` lists what one step can be, and `Filling.Runs` chains steps
  along a schedule; what holds of every step is carried from there to every
  schedule.

  * `Pool.fill_runs`: filling a pool is such a run, and with every schedule it
    ends with all workers done or failed;
  * `Filling.Accounted`: the channel and the workers agree with each other and
    with the calls of the library, and every run keeps it so
    (`Filling.Runs.accounted`).
-/
import Downlevel.Pool.Basic
import Downlevel.Proofs.World.Starting

namespace Downlevel

variable {E : Engines}

/-! ## Calls of the library -/

namespace Event

/-- The library panicked when it was built or was to start a runtime. -/
def isStartPanic : Event E → Bool
  | .build (.panicked _) | .start _ (.panicked _) => true
  | _ => false

theorem isStartPanic_iff {e : Event E} :
    e.isStartPanic ↔ (∃ text, e = .build (.panicked text)) ∨
      ∃ bytecode text, e = .start bytecode (.panicked text) := by
  unfold isStartPanic
  split <;> simp_all

/-- The library was not built, or did not start a runtime. -/
def isStartFailure : Event E → Bool
  | .build (.returned (.error _)) | .start _ (.returned (.error _)) => true
  | e => e.isStartPanic

end Event

/-! ## Steps -/

namespace Worker

/-- How many steps a worker has before it. -/
def stepsLeft : Worker E → Nat
  | idle => 3
  | built _ => 2
  | started _ => 1
  | done | failed _ | panicked => 0

/-- Whether the compiler of a worker is in the channel. -/
def isDone : Worker E → Bool
  | done => true
  | _ => false

theorem stepsLeft_afterBuild (outcome : Outcome E.Bytecode) :
    (afterBuild outcome).stepsLeft ≤ 2 := by
  unfold afterBuild
  split <;> simp [stepsLeft]

theorem stepsLeft_afterStart (outcome : Outcome TransformerId) :
    (afterStart outcome : Worker E).stepsLeft ≤ 1 := by
  unfold afterStart
  split <;> simp [stepsLeft]

/-- A worker with a step before it is not done and has not failed. -/
theorem of_stepsLeft_pos {worker : Worker E} (h : 0 < worker.stepsLeft) :
    worker.isDone = false ∧ worker.hasPanicked = false ∧ worker.failure? = none := by
  cases worker <;> simp [stepsLeft] at h <;> exact ⟨rfl, rfl, rfl⟩

/-- A worker without one is done unless it has failed. -/
theorem isDone_iff {worker : Worker E} (h : worker.stepsLeft = 0) :
    worker.isDone ↔ worker.failure? = none := by
  cases worker <;> simp [stepsLeft, isDone, failure?] at h ⊢

end Worker

namespace Filling

variable {options : CompilerOptions E} {i : Nat} {s s' : Filling E} {t : List (Event E)}

/-- What a step of worker `i` can be. -/
inductive Stepped (options : CompilerOptions E) (i : Nat) (s : Filling E) :
    List (Event E) → Filling E → Prop
  /-- There is no such worker, or it has no step before it. -/
  | rests : (∀ worker, s.workers[i]? = some worker → worker.stepsLeft = 0) →
      Stepped options i s [] s
  | builds {outcome w t} : s.workers[i]? = some .idle → obtainBuild s.world = ⟨outcome, w, t⟩ →
      Stepped options i s t
        { s with world := w, workers := s.workers.set i (.afterBuild outcome) }
  | starts {bytecode outcome w t} : s.workers[i]? = some (.built bytecode) →
      startWith bytecode s.world = ⟨outcome, w, t⟩ →
      Stepped options i s t
        { s with world := w, workers := s.workers.set i (.afterStart outcome) }
  | sends {id} : s.workers[i]? = some (.started id) → s.channel.length < s.workers.length →
      Stepped options i s []
        { s with
          channel := s.channel ++ [(Compiler.fresh options).owning id]
          workers := s.workers.set i .done }
  /-- The channel is full. -/
  | waits {id} : s.workers[i]? = some (.started id) → s.workers.length ≤ s.channel.length →
      Stepped options i s [] s

/-- A panic of the library ends the worker and goes no further. -/
theorem inWorld_apply {α : Type} {x : Act (Event E) (World E) α} {ending : Ending α}
    {w : World E} (h : x s.world = ⟨ending, w, t⟩) :
    inWorld x s = ⟨.returned ending, { s with world := w }, t⟩ := by
  rw [inWorld, Act.within_apply, Act.contain_apply, h]

theorem step_stepped (options : CompilerOptions E) (i : Nat) (s : Filling E) :
    ∃ s' t, step options i s = ⟨.returned (), s', t⟩ ∧ Stepped options i s t s' := by
  cases hworker : s.workers[i]? with
  | none => exact ⟨s, [], by simp [step, hworker], .rests (by simp [hworker])⟩
  | some worker =>
    cases worker with
    | idle =>
      rcases hbuild : obtainBuild s.world with ⟨outcome, w, t⟩
      refine ⟨_, t, ?_, .builds hworker hbuild⟩
      simp only [step, Act.get_bind_apply, hworker]
      rw [Act.bind_of_returned (inWorld_apply hbuild)]
      simp [place]
    | built bytecode =>
      rcases hstart : startWith bytecode s.world with ⟨outcome, w, t⟩
      refine ⟨_, t, ?_, .starts hworker hstart⟩
      simp only [step, Act.get_bind_apply, hworker]
      rw [Act.bind_of_returned (inWorld_apply hstart)]
      simp [place]
    | started id =>
      by_cases hroom : s.channel.length < s.workers.length
      · refine ⟨_, [], ?_, .sends hworker hroom⟩
        simp only [step, Act.get_bind_apply, hworker, send, if_pos hroom, Act.set_bind_apply]
        rfl
      · refine ⟨s, [], ?_, .waits hworker (Nat.le_of_not_lt hroom)⟩
        simp only [step, Act.get_bind_apply, hworker, send, if_neg hroom]
        rfl
    | done | failed | panicked =>
      refine ⟨s, [], by simp [step, hworker], .rests fun worker h => ?_⟩
      rw [hworker] at h
      cases h
      rfl

/-! ## Runs -/

/-- The steps of a schedule, one after the other. -/
inductive Runs (options : CompilerOptions E) :
    List Nat → Filling E → List (Event E) → Filling E → Prop
  | rest {s : Filling E} : Runs options [] s [] s
  | step {i : Nat} {schedule : List Nat} {s s₁ s' : Filling E} {t u : List (Event E)} :
      Stepped options i s t s₁ → Runs options schedule s₁ u s' →
      Runs options (i :: schedule) s (t ++ u) s'

theorem follow_runs (options : CompilerOptions E) (schedule : List Nat) (s : Filling E) :
    ∃ s' t, follow options schedule s = ⟨.returned (), s', t⟩ ∧ Runs options schedule s t s' := by
  induction schedule generalizing s with
  | nil => exact ⟨s, [], rfl, .rest⟩
  | cons i schedule ih =>
    obtain ⟨s₁, t, hstep, hstepped⟩ := step_stepped options i s
    obtain ⟨s', u, hrest, hruns⟩ := ih s₁
    refine ⟨s', t ++ u, ?_, .step hstepped hruns⟩
    rw [follow, Act.bind_of_returned hstep, hrest]

theorem Stepped.length_workers (h : Stepped options i s t s') :
    s'.workers.length = s.workers.length := by
  cases h <;> simp

theorem Runs.length_workers {schedule : List Nat} (h : Runs options schedule s t s') :
    s'.workers.length = s.workers.length := by
  induction h with
  | rest => rfl
  | step hstep _ ih => rw [ih, hstep.length_workers]

/-! ## Replacing a worker -/

section
variable {α : Type} {l : List α} {i : Nat} {a b : α}

theorem countP_set_of_false {p : α → Bool} (h : l[i]? = some a) (ha : p a = false) :
    (l.set i b).countP p = l.countP p + (p b).toNat := by
  obtain ⟨hi, rfl⟩ := List.getElem?_eq_some_iff.1 h
  rw [List.countP_set hi, ha]
  cases p b <;> simp

theorem countP_set_of_eq {p : α → Bool} (h : l[i]? = some a) (hb : p b = p a) :
    (l.set i b).countP p = l.countP p := by
  obtain ⟨hi, rfl⟩ := List.getElem?_eq_some_iff.1 h
  rw [List.countP_set hi, hb]
  by_cases hp : p l[i]
  · have hpos := List.countP_pos_iff.2 ⟨l[i], List.getElem_mem hi, hp⟩
    simp only [hp, if_true]
    omega
  · simp [hp]

theorem exists_mem_set {P : α → Prop} (h : l[i]? = some a) (ha : ¬ P a) (hl : ∃ x ∈ l, P x) :
    ∃ x ∈ l.set i b, P x := by
  obtain ⟨x, hx, hP⟩ := hl
  obtain ⟨j, hj⟩ := List.mem_iff_getElem?.1 hx
  have hij : i ≠ j := by
    rintro rfl
    rw [h] at hj
    cases hj
    exact ha hP
  refine ⟨x, List.mem_iff_getElem?.2 ⟨j, ?_⟩, hP⟩
  rw [List.getElem?_set_ne hij, hj]

theorem mem_set_self (h : l[i]? = some a) : b ∈ l.set i b := by
  obtain ⟨hi, -⟩ := List.getElem?_eq_some_iff.1 h
  exact List.mem_iff_getElem?.2 ⟨i, by rw [List.getElem?_set_self hi]⟩

end

/-! ## What the workers know -/

/-- A call of the library, made for a worker that is `worker` afterwards. -/
structure Turn (w : World E) (t : List (Event E)) (w' : World E) (worker : Worker E) : Prop where
  isDone : worker.isDone = false
  panics : worker.hasPanicked.toNat = t.countP Event.isStartPanic
  /-- A worker fails if the library fails, or is known to have failed, -/
  blamed : worker.failure?.isSome → (∃ e, w'.build = some (.error e)) ∨ ∃ x ∈ t, x.isStartFailure
  /-- and whenever it fails. -/
  felt : (∃ x ∈ t, x.isStartFailure) → worker.failure?.isSome
  unbuilt : (∀ bytecode, w'.build ≠ some (.ok bytecode)) → worker.failure?.isSome
  kept : ∀ built, w.build = some built → w'.build = some built

theorem turn_of_obtainBuild {w w' : World E} {outcome : Outcome E.Bytecode}
    (h : obtainBuild w = ⟨outcome, w', t⟩) : Turn w t w' (.afterBuild outcome) := by
  have kept : ∀ built, w.build = some built → w'.build = some built :=
    fun built hbuild => ((obtainBuild_course h).keeps.build_eq hbuild).1
  cases obtainBuild_course h with
  | @known built hbuild =>
    rcases built with e | bytecode
    · exact ⟨rfl, rfl, fun _ => .inl ⟨e, hbuild⟩, fun _ => rfl, fun _ => rfl, kept⟩
    · exact ⟨rfl, rfl, nofun, nofun, fun h => absurd hbuild (h bytecode), kept⟩
  | @built built library hnone =>
    rcases built with e | bytecode
    · exact ⟨rfl, rfl, fun _ => .inl ⟨e, rfl⟩, fun _ => rfl, fun _ => rfl, kept⟩
    · refine ⟨rfl, rfl, nofun, ?_, fun h => absurd rfl (h bytecode), kept⟩
      simp [Event.isStartFailure, Event.isStartPanic]
  | @panicked text library hnone =>
    refine ⟨rfl, rfl, fun _ => .inr ?_, fun _ => rfl, fun _ => rfl, kept⟩
    exact ⟨.build (.panicked text), by simp, rfl⟩

theorem turn_of_startWith {bytecode bytecode' : E.Bytecode} {w w' : World E}
    {outcome : Outcome TransformerId} (hbuild : w.build = some (.ok bytecode'))
    (h : startWith bytecode w = ⟨outcome, w', t⟩) : Turn w t w' (.afterStart outcome) := by
  have kept : ∀ built, w.build = some built → w'.build = some built :=
    fun built hbuilt => (startWith_course h).build_eq.trans hbuilt
  have unbuilt {P : Prop} (h : ∀ bytecode, w'.build ≠ some (.ok bytecode)) : P :=
    absurd (kept _ hbuild) (h bytecode')
  cases startWith_course h with
  | started =>
    refine ⟨rfl, rfl, nofun, ?_, unbuilt, kept⟩
    simp [Event.isStartFailure, Event.isStartPanic]
  | refused | panicked =>
    refine ⟨rfl, rfl, fun _ => .inr ?_, fun _ => rfl, unbuilt, kept⟩
    exact ⟨_, List.mem_singleton_self _, rfl⟩

/-- After the events `t` the channel and the workers agree with each other and
    with what the library did. -/
structure Accounted (t : List (Event E)) (s : Filling E) : Prop where
  /-- The channel holds a compiler for each worker that is done. -/
  sent : s.channel.length = s.workers.countP Worker.isDone
  panics : s.workers.countP Worker.hasPanicked = t.countP Event.isStartPanic
  blamed : (∃ worker ∈ s.workers, worker.failure?.isSome) →
    (∃ e, s.world.build = some (.error e)) ∨ ∃ x ∈ t, x.isStartFailure
  felt : (∃ x ∈ t, x.isStartFailure) → ∃ worker ∈ s.workers, worker.failure?.isSome
  /-- Without a build no worker gets any further. -/
  unbuilt : (∀ bytecode, s.world.build ≠ some (.ok bytecode)) →
    ∀ worker ∈ s.workers, worker = .idle ∨ worker.failure?.isSome

theorem accounted_begin (capacity : Nat) (w : World E) : Accounted [] (begin capacity w) := by
  have hidle : ∀ worker ∈ (begin capacity w).workers, worker = .idle :=
    fun worker h => List.eq_of_mem_replicate h
  refine ⟨?_, ?_, ?_, nofun, fun _ worker h => .inl (hidle worker h)⟩
  · simp [begin, List.countP_replicate, Worker.isDone]
  · simp [begin, List.countP_replicate, Worker.hasPanicked]
  · rintro ⟨worker, h, hfailure⟩
    rw [hidle worker h] at hfailure
    cases hfailure

/-- A worker that got any further got hold of a build. -/
theorem Accounted.exists_build {earlier : List (Event E)} (hs : Accounted earlier s)
    {worker : Worker E} (hworker : worker ∈ s.workers) (hidle : worker ≠ .idle)
    (hfailure : ¬ worker.failure?.isSome) : ∃ bytecode, s.world.build = some (.ok bytecode) := by
  have hunbuilt (h : ∀ bytecode, s.world.build ≠ some (.ok bytecode)) {P : Prop} : P := by
    rcases hs.unbuilt h worker hworker with h | h
    · exact absurd h hidle
    · exact absurd h hfailure
  rcases hbuild : s.world.build with _ | e | bytecode
  · exact hunbuilt fun bytecode h => by simp [hbuild] at h
  · exact hunbuilt fun bytecode h => by simp [hbuild] at h
  · exact ⟨bytecode, rfl⟩

/-- When no worker has a step before it any more, all are done exactly if the
    library was built and never failed. -/
theorem Accounted.failure?_eq_none_iff {earlier : List (Event E)} (hs : Accounted earlier s)
    (hsome : s.workers ≠ []) (hleft : ∀ worker ∈ s.workers, worker.stepsLeft = 0) :
    (∀ worker ∈ s.workers, worker.failure? = none) ↔
      (∃ bytecode, s.world.build = some (.ok bytecode)) ∧ ∀ x ∈ earlier, ¬ x.isStartFailure := by
  constructor
  · intro h
    refine ⟨?_, fun x hx hfailed => ?_⟩
    · obtain ⟨worker, hworker⟩ := List.exists_mem_of_ne_nil _ hsome
      refine hs.exists_build hworker ?_ (by simp [h worker hworker])
      rintro rfl
      exact absurd (hleft _ hworker) (by simp [Worker.stepsLeft])
    · obtain ⟨worker, hworker, hfailure⟩ := hs.felt ⟨x, hx, hfailed⟩
      simp [h worker hworker] at hfailure
  · rintro ⟨⟨bytecode, hbuild⟩, hnone⟩ worker hworker
    rw [← Option.not_isSome_iff_eq_none]
    intro hfailure
    rcases hs.blamed ⟨worker, hworker, hfailure⟩ with ⟨e, herror⟩ | ⟨x, hx, hfailed⟩
    · rw [hbuild] at herror
      cases herror
    · exact hnone x hx hfailed

/-- A call of the library for a worker keeps the accounts. -/
theorem Accounted.turn {earlier : List (Event E)} (hs : Accounted earlier s)
    {worker worker' : Worker E} (hi : s.workers[i]? = some worker)
    (hleft : 0 < worker.stepsLeft) {w : World E} (hturn : Turn s.world t w worker') :
    Accounted (earlier ++ t) { s with world := w, workers := s.workers.set i worker' } := by
  obtain ⟨hdone, hpanicked, hfailure⟩ := Worker.of_stepsLeft_pos hleft
  have hnot : ¬ worker.failure?.isSome := by simp [hfailure]
  refine ⟨?_, ?_, ?_, ?_, ?_⟩
  · rw [hs.sent, countP_set_of_false hi hdone, hturn.isDone]
    rfl
  · rw [countP_set_of_false hi hpanicked, hs.panics, hturn.panics, List.countP_append]
  · rintro ⟨x, hx, hx'⟩
    rcases List.mem_or_eq_of_mem_set hx with hx | rfl
    · rcases hs.blamed ⟨x, hx, hx'⟩ with ⟨e, hbuild⟩ | ⟨y, hy, hfailed⟩
      · exact .inl ⟨e, hturn.kept _ hbuild⟩
      · exact .inr ⟨y, List.mem_append_left t hy, hfailed⟩
    · rcases hturn.blamed hx' with hbuild | ⟨y, hy, hfailed⟩
      · exact .inl hbuild
      · exact .inr ⟨y, List.mem_append_right earlier hy, hfailed⟩
  · rintro ⟨x, hx, hfailed⟩
    rcases List.mem_append.1 hx with hx | hx
    · exact exists_mem_set hi hnot (hs.felt ⟨x, hx, hfailed⟩)
    · exact ⟨worker', mem_set_self hi, hturn.felt ⟨x, hx, hfailed⟩⟩
  · intro hbuild x hx
    rcases List.mem_or_eq_of_mem_set hx with hx | rfl
    · exact hs.unbuilt (fun bytecode h => hbuild bytecode (hturn.kept _ h)) x hx
    · exact .inr (hturn.unbuilt hbuild)

theorem Stepped.accounted (h : Stepped options i s t s') {earlier : List (Event E)}
    (hs : Accounted earlier s) : Accounted (earlier ++ t) s' := by
  cases h with
  | rests | waits => simpa using hs
  | builds hi hbuild => exact hs.turn hi (by simp [Worker.stepsLeft]) (turn_of_obtainBuild hbuild)
  | @starts bytecode _ _ _ hi hstart =>
    obtain ⟨bytecode', hbuild⟩ := hs.exists_build (List.mem_of_getElem? hi) nofun nofun
    exact hs.turn hi (by simp [Worker.stepsLeft]) (turn_of_startWith hbuild hstart)
  | @sends id hi =>
    rw [List.append_nil]
    have hnot : ¬ (Worker.started id : Worker E).failure?.isSome := nofun
    refine ⟨?_, ?_, ?_, fun h => exists_mem_set hi hnot (hs.felt h), ?_⟩
    · rw [countP_set_of_false hi rfl, List.length_append, hs.sent]
      rfl
    · rw [countP_set_of_false hi rfl, hs.panics]
      rfl
    · rintro ⟨x, hx, hx'⟩
      rcases List.mem_or_eq_of_mem_set hx with hx | rfl
      · exact hs.blamed ⟨x, hx, hx'⟩
      · cases hx'
    · intro hbuild
      rcases hs.unbuilt hbuild _ (List.mem_of_getElem? hi) with h | h
      · cases h
      · cases h

theorem Runs.accounted {schedule : List Nat} (h : Runs options schedule s t s')
    {earlier : List (Event E)} (hs : Accounted earlier s) : Accounted (earlier ++ t) s' := by
  induction h generalizing earlier with
  | rest => simpa using hs
  | step hstep _ ih =>
    rw [← List.append_assoc]
    exact ih (hstep.accounted hs)

/-! ## The end of a run -/

/-- How many steps worker `i` has before it. -/
def stepsLeft (s : Filling E) (i : Nat) : Nat := (s.workers[i]?.map Worker.stepsLeft).getD 0

theorem stepsLeft_eq {worker : Worker E} (h : s.workers[i]? = some worker) :
    s.stepsLeft i = worker.stepsLeft := by
  simp [stepsLeft, h]

/-- No other worker is kept from its steps. -/
theorem stepsLeft_set {worker worker' : Worker E} {w : World E} {channel : List (Compiler E)}
    (hi : s.workers[i]? = some worker) (h : worker'.stepsLeft < worker.stepsLeft) (j : Nat) :
    stepsLeft ⟨w, s.workers.set i worker', channel⟩ j + (if i = j then 1 else 0) ≤
      s.stepsLeft j := by
  obtain ⟨hlt, -⟩ := List.getElem?_eq_some_iff.1 hi
  by_cases hij : i = j
  · subst hij
    rw [if_pos rfl, stepsLeft_eq hi, stepsLeft_eq (List.getElem?_set_self hlt)]
    exact h
  · rw [if_neg hij, stepsLeft, stepsLeft, List.getElem?_set_ne hij]
    exact Nat.le_refl _

/-- A step of a worker is one step less before it. -/
theorem Stepped.stepsLeft_le (h : Stepped options i s t s') {earlier : List (Event E)}
    (hs : Accounted earlier s) (j : Nat) :
    s'.stepsLeft j ≤ s.stepsLeft j - if i = j then 1 else 0 := by
  have hset {worker worker' : Worker E} {w : World E} {channel : List (Compiler E)}
      (hi : s.workers[i]? = some worker) (h : worker'.stepsLeft < worker.stepsLeft) :
      stepsLeft ⟨w, s.workers.set i worker', channel⟩ j ≤ s.stepsLeft j - if i = j then 1 else 0 :=
    Nat.le_sub_of_add_le (stepsLeft_set hi h j)
  cases h with
  | rests hrests =>
    by_cases hij : i = j
    · subst hij
      have hzero : s.stepsLeft i = 0 := by
        cases hworker : s.workers[i]? with
        | none => simp [stepsLeft, hworker]
        | some worker => rw [stepsLeft_eq hworker, hrests worker hworker]
      omega
    · simp [hij]
  | builds hi => exact hset hi (Nat.lt_succ_of_le (Worker.stepsLeft_afterBuild _))
  | starts hi => exact hset hi (Nat.lt_succ_of_le (Worker.stepsLeft_afterStart _))
  | sends hi => exact hset hi (by simp [Worker.stepsLeft])
  | waits hi hfull =>
    -- the channel is full when all are done, and this worker is not
    have hall := List.countP_eq_length.1 (Nat.le_antisymm List.countP_le_length (hs.sent ▸ hfull))
    exact absurd (hall _ (List.mem_of_getElem? hi)) Bool.false_ne_true

theorem Runs.stepsLeft_le {schedule : List Nat} (h : Runs options schedule s t s')
    {earlier : List (Event E)} (hs : Accounted earlier s) (j : Nat) :
    s'.stepsLeft j ≤ s.stepsLeft j - schedule.count j := by
  induction h generalizing earlier with
  | rest => simp
  | @step i schedule s t s₁ u s' hstep _ ih =>
    have hrest := ih (hstep.accounted hs)
    have hfirst := hstep.stepsLeft_le hs j
    rw [List.count_cons]
    by_cases hij : i = j
    · simp [hij] at hfirst ⊢
      omega
    · simp [hij] at hfirst ⊢
      omega

theorem count_inOrder {n i : Nat} (hi : i < n) : 3 ≤ (inOrder n).count i := by
  induction n with
  | zero => cases hi
  | succ n ih =>
    have hlast : inOrder (n + 1) = inOrder n ++ [n, n, n] := by simp [inOrder, List.range_succ]
    rw [hlast, List.count_append]
    rcases Nat.lt_succ_iff_lt_or_eq.1 hi with hi | rfl
    · exact Nat.le_trans (ih hi) (Nat.le_add_right _ _)
    · simp

end Filling

open Filling in
/-- The workers that fill a pool follow the schedule and then take all steps that
    are left. -/
theorem Pool.fill_follows (capacity : Nat) (options : CompilerOptions E) (schedule : List Nat)
    (w : World E) :
    ∃ s t, fill capacity options schedule w = ⟨.returned s, s.world, t⟩ ∧
      Runs options (schedule ++ inOrder capacity) (begin capacity w) t s := by
  obtain ⟨s, t, hfollow, hruns⟩ :=
    follow_runs options (schedule ++ inOrder capacity) (begin capacity w)
  have hlength : (begin capacity w).workers.length = capacity := List.length_replicate
  have hcomplete : complete options schedule (begin capacity w) = ⟨.returned (), s, t⟩ := by
    simp only [complete, Act.get_bind_apply, hlength, hfollow]
  refine ⟨s, t, ?_, hruns⟩
  rw [fill, Act.within_apply, Act.bind_of_returned hcomplete]
  simp

open Filling in
/-- Filling a pool comes to an end with every schedule: then no worker has a
    step before it. -/
theorem Pool.fill_runs (capacity : Nat) (options : CompilerOptions E) (schedule : List Nat)
    (w : World E) :
    ∃ s t, fill capacity options schedule w = ⟨.returned s, s.world, t⟩ ∧
      s.workers.length = capacity ∧ Accounted t s ∧
      ∀ worker ∈ s.workers, worker.stepsLeft = 0 := by
  obtain ⟨s, t, hfill, hruns⟩ := fill_follows capacity options schedule w
  have hlength : (begin capacity w).workers.length = capacity := List.length_replicate
  refine ⟨s, t, hfill, hruns.length_workers.trans hlength, ?_, ?_⟩
  · simpa using hruns.accounted (accounted_begin capacity w)
  · intro worker hworker
    obtain ⟨i, hi⟩ := List.mem_iff_getElem?.1 hworker
    obtain ⟨hlt, -⟩ := List.getElem?_eq_some_iff.1 hi
    have hidle : (begin capacity w).workers[i]? = some .idle := by
      rw [hruns.length_workers, hlength] at hlt
      exact List.getElem?_replicate_of_lt hlt
    have hleft := hruns.stepsLeft_le (accounted_begin capacity w) i
    rw [stepsLeft_eq hi, stepsLeft_eq hidle, List.count_append] at hleft
    have hcount := count_inOrder (hruns.length_workers.trans hlength ▸ hlt)
    have hthree : (Worker.idle : Worker E).stepsLeft = 3 := rfl
    omega

end Downlevel
