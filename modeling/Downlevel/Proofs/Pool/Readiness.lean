/-
  Downlevel — a pool is ready when it is made.

  As long as the library does not panic, the making of a pool has one of three
  ends, with every schedule: the library was not built, and no runtime is
  started; or one is started for each compiler, all with the one build, and
  either some start failed or there is a full pool.

  * `World.buildEnding`: what becomes of the build is settled before the first
    worker asks for it;
  * `Filling.Apart`: the transformers that the workers start are new, and no two
    are the same;
  * `Filling.Accounted.room`: no worker ever finds the channel full;
  * `Pool.make_ready`: the making of a pool as a whole.
-/
import Downlevel.Proofs.Pool.Warming

namespace Downlevel

variable {E : Engines}

/-! ## The build -/

/-- How asking for the build ends. -/
def World.buildEnding (w : World E) : Outcome E.Bytecode :=
  match w.build with
  | some built => .returned built
  | none => (E.library.build w.library).1

theorem World.buildEnding_of_some {w : World E} {built : Except EngineFailure E.Bytecode}
    (h : w.build = some built) : w.buildEnding = .returned built := by
  simp only [buildEnding, h]

theorem obtainBuild_ending (w : World E) : (obtainBuild w).ending = w.buildEnding := by
  cases hbuild : w.build with
  | some built => simp [obtainBuild, World.buildEnding, hbuild]
  | none =>
    have hcall := callBuild_apply w
    simp only [obtainBuild, Act.get_bind_apply, hbuild, Act.emit_bind_apply, World.buildEnding]
    rcases houtcome : (E.library.build w.library).1 with built | text <;> rw [houtcome] at hcall
    · rw [Act.bind_of_returned hcall]
      rfl
    · rw [Act.bind_of_panicked hcall]

namespace Filling

variable {options : CompilerOptions E} {i : Nat} {w : World E} {s s' : Filling E}
  {t earlier : List (Event E)}

/-- Nothing was done in the world `w` yet, or its build is known. -/
def Settled (w : World E) (s : Filling E) : Prop :=
  s.world = w ∨ ∃ built, w.buildEnding = .returned built ∧ s.world.build = some built

theorem Stepped.settled (h : Stepped options i s t s') (hs : Informed earlier s)
    (hpanic : ∀ text, .build (.panicked text) ∉ t) (hsettled : Settled w s) : Settled w s' := by
  obtain ⟨hkeeps, -⟩ := h.informed hs
  rcases hsettled with rfl | ⟨built, hending, hbuild⟩
  · cases h with
    | rests | waits | sends => exact .inl rfl
    | @builds outcome w' t hi hobtain =>
      have hending := obtainBuild_ending s.world
      rw [hobtain] at hending
      cases obtainBuild_course hobtain with
      | known hbuild => exact .inl rfl
      | built => exact .inr ⟨_, hending.symm, rfl⟩
      | @panicked text => exact absurd (by simp) (hpanic text)
    | @starts bytecode outcome w' t hi hstart =>
      have hbuild : s.world.build = _ := hs.workers _ (List.mem_of_getElem? hi)
      exact .inr ⟨_, World.buildEnding_of_some hbuild, (hkeeps.build_eq hbuild).1⟩
  · exact .inr ⟨built, hending, (hkeeps.build_eq hbuild).1⟩

theorem Runs.settled {schedule : List Nat} (h : Runs options schedule s t s')
    (hs : Informed earlier s) (hpanic : ∀ text, .build (.panicked text) ∉ t)
    (hsettled : Settled w s) : Settled w s' := by
  induction h generalizing earlier with
  | rest => exact hsettled
  | step hstep _ ih =>
    obtain ⟨-, hs₁⟩ := hstep.informed hs
    refine ih hs₁ (fun text h => hpanic text (List.mem_append_right _ h)) ?_
    exact hstep.settled hs (fun text h => hpanic text (List.mem_append_left _ h)) hsettled

/-! ## The transformers -/

/-- The transformers that were started for the pool come behind the first `n`, and
    nobody got hold of another one's. -/
structure Apart (options : CompilerOptions E) (n : Nat) (s : Filling E) : Prop where
  sent (c) : c ∈ s.channel → ∃ id, n ≤ id ∧ id < s.world.transformers.length ∧
    c = (Compiler.fresh options).owning id
  started (i : Nat) (id) : s.workers[i]? = some (.started id) → n ≤ id ∧ id < s.world.transformers.length
  channel : s.channel.Pairwise fun c d => c.attachment ≠ d.attachment
  workers (i j : Nat) (id) : s.workers[i]? = some (.started id) →
    s.workers[j]? = some (.started id) → i = j
  between (c) (i : Nat) (id) : c ∈ s.channel → s.workers[i]? = some (.started id) → c.attachment ≠ .own id

theorem apart_begin (capacity : Nat) (w : World E) :
    Apart options w.transformers.length (begin capacity w) := by
  have hidle (i : Nat) (id : TransformerId) :
      (begin capacity w).workers[i]? ≠ some (.started id) := by
    intro h
    have hidle := List.eq_of_mem_replicate (List.mem_of_getElem? h)
    cases hidle
  exact ⟨nofun, fun i id h => absurd h (hidle i id), .nil, fun i j id h => absurd h (hidle i id), nofun⟩

/-- What a worker is in the end was it all along, or is what it is now. -/
theorem getElem?_set_cases {α : Type} {l : List α} {i j : Nat} {a b : α}
    (h : (l.set i a)[j]? = some b) : (i = j ∧ b = a) ∨ i ≠ j ∧ l[j]? = some b := by
  by_cases hij : i = j
  · subst hij
    obtain ⟨hlt, -⟩ := List.getElem?_eq_some_iff.1 h
    rw [List.getElem?_set_self (by simpa using hlt)] at h
    exact .inl ⟨rfl, by injection h with h; exact h.symm⟩
  · rw [List.getElem?_set_ne hij] at h
    exact .inr ⟨hij, h⟩

/-- A worker does what does not get it hold of a transformer. -/
theorem Apart.turn {n : Nat} (hs : Apart options n s) {w' : World E} {worker : Worker E}
    (hle : s.world.transformers.length ≤ w'.transformers.length)
    (hworker : ∀ id, worker ≠ .started id) :
    Apart options n { s with world := w', workers := s.workers.set i worker } := by
  have hcases {j : Nat} {id : TransformerId} (h : (s.workers.set i worker)[j]? = some (.started id)) :
      s.workers[j]? = some (.started id) := by
    rcases getElem?_set_cases h with ⟨-, hid⟩ | ⟨-, h⟩
    · exact absurd hid.symm (hworker id)
    · exact h
  refine ⟨fun c hc => ?_, fun j id h => ?_, hs.channel, fun j k id hj hk => ?_, fun c j id hc hj => ?_⟩
  · obtain ⟨id, hn, hid, hc⟩ := hs.sent c hc
    exact ⟨id, hn, Nat.lt_of_lt_of_le hid hle, hc⟩
  · obtain ⟨hn, hid⟩ := hs.started j id (hcases h)
    exact ⟨hn, Nat.lt_of_lt_of_le hid hle⟩
  · exact hs.workers j k id (hcases hj) (hcases hk)
  · exact hs.between c j id hc (hcases hj)

/-- A worker has a new transformer started. -/
theorem Apart.start {n : Nat} (hs : Apart options n s) (hn : n ≤ s.world.transformers.length)
    {w' : World E} (hlt : s.world.transformers.length < w'.transformers.length) :
    Apart options n
      { s with world := w', workers := s.workers.set i (.started s.world.transformers.length) } := by
  -- all others have transformers that were there before
  have hcases {j : Nat} {id : TransformerId}
      (h : (s.workers.set i (.started s.world.transformers.length))[j]? = some (.started id)) :
      (j = i ∧ id = s.world.transformers.length) ∨
        s.workers[j]? = some (.started id) ∧ id < s.world.transformers.length := by
    rcases getElem?_set_cases h with ⟨hij, hid⟩ | ⟨-, h⟩
    · exact .inl ⟨hij.symm, by injection hid⟩
    · exact .inr ⟨h, (hs.started j id h).2⟩
  refine ⟨fun c hc => ?_, fun j id h => ?_, hs.channel, fun j k id hj hk => ?_, fun c j id hc hj => ?_⟩
  · obtain ⟨id, hid, hid', hc⟩ := hs.sent c hc
    exact ⟨id, hid, Nat.lt_trans hid' hlt, hc⟩
  · rcases hcases h with ⟨-, rfl⟩ | ⟨h, hid⟩
    · exact ⟨hn, hlt⟩
    · exact ⟨(hs.started j id h).1, Nat.lt_trans hid hlt⟩
  · rcases hcases hj with ⟨rfl, hid⟩ | ⟨hj, hid⟩ <;> rcases hcases hk with ⟨rfl, hid'⟩ | ⟨hk, hid'⟩
    · rfl
    · exact absurd hid (Nat.ne_of_lt hid')
    · exact absurd hid' (Nat.ne_of_lt hid)
    · exact hs.workers j k id hj hk
  · rcases hcases hj with ⟨-, rfl⟩ | ⟨hj, -⟩
    · obtain ⟨id, -, hid, rfl⟩ := hs.sent c hc
      intro h
      injection h with h
      exact absurd h (Nat.ne_of_lt hid)
    · exact hs.between c j id hc hj

theorem Apart.send {n : Nat} (hs : Apart options n s) {id : TransformerId}
    (hi : s.workers[i]? = some (.started id)) :
    Apart options n
      { s with
        channel := s.channel ++ [(Compiler.fresh options).owning id]
        workers := s.workers.set i .done } := by
  have hturn : Apart options n { s with workers := s.workers.set i .done } :=
    hs.turn (Nat.le_refl _) nofun
  have hmem {c : Compiler E} (hc : c ∈ s.channel ++ [(Compiler.fresh options).owning id]) :
      c ∈ s.channel ∨ c = (Compiler.fresh options).owning id := by
    simpa using hc
  refine ⟨fun c hc => ?_, hturn.started, ?_, hturn.workers, fun c j id' hc hj => ?_⟩
  · rcases hmem hc with hc | rfl
    · exact hs.sent c hc
    · exact ⟨id, (hs.started i id hi).1, (hs.started i id hi).2, rfl⟩
  · rw [List.pairwise_append]
    refine ⟨hs.channel, List.pairwise_singleton _ _, fun c hc d hd => ?_⟩
    rw [List.mem_singleton.1 hd]
    exact hs.between c i id hc hi
  · rcases hmem hc with hc | rfl
    · exact hturn.between c j id' hc hj
    · -- worker `i` is done, so another one would have got hold of its transformer
      rcases getElem?_set_cases hj with ⟨-, h⟩ | ⟨hij, hj⟩
      · cases h
      · intro h
        injection h with h
        exact hij (hs.workers i j id hi (h ▸ hj))

theorem Stepped.apart {n : Nat} (h : Stepped options i s t s') (hs : Apart options n s)
    (hn : n ≤ s.world.transformers.length) : Apart options n s' := by
  cases h with
  | rests | waits => exact hs
  | @builds outcome w t hi hobtain =>
    refine hs.turn (obtainBuild_course hobtain).keeps.length_le fun id h => ?_
    unfold Worker.afterBuild at h
    split at h <;> cases h
  | @starts bytecode outcome w t hi hstart =>
    cases startWith_course hstart with
    | started => exact hs.start hn (by simp)
    | refused | panicked => exact hs.turn (Nat.le_refl _) nofun
  | sends hi => exact hs.send hi

theorem Runs.apart {n : Nat} {schedule : List Nat} (h : Runs options schedule s t s')
    (hinformed : Informed earlier s) (hs : Apart options n s)
    (hn : n ≤ s.world.transformers.length) : Apart options n s' := by
  induction h generalizing earlier with
  | rest => exact hs
  | step hstep _ ih =>
    obtain ⟨hkeeps, hinformed₁⟩ := hstep.informed hinformed
    exact ih hinformed₁ (hstep.apart hs hn) (Nat.le_trans hn hkeeps.length_le)

/-! ## The shared transformer -/

theorem Stepped.shared_eq (h : Stepped options i s t s') : s'.world.shared = s.world.shared := by
  cases h with
  | rests | waits | sends => rfl
  | builds _ h => exact (obtainBuild_course h).shared_eq
  | starts _ h => exact (startWith_course h).shared_eq

theorem Runs.shared_eq {schedule : List Nat} (h : Runs options schedule s t s') :
    s'.world.shared = s.world.shared := by
  induction h with
  | rest => rfl
  | step hstep _ ih => exact ih.trans hstep.shared_eq

/-! ## The channel -/

/-- A worker that has a compiler to send finds room in the channel. -/
theorem Accounted.room (hs : Accounted earlier s) {id : TransformerId}
    (hi : s.workers[i]? = some (.started id)) : s.channel.length < s.workers.length := by
  rw [hs.sent]
  refine Nat.lt_of_le_of_ne List.countP_le_length fun hall => ?_
  exact absurd (List.countP_eq_length.1 hall _ (List.mem_of_getElem? hi)) Bool.false_ne_true

end Filling

/-! ## Making a pool -/

/-- The library is built once if nobody did so before, and not at all if somebody did. -/
theorem World.Keeps.countP_isBuild {w w' : World E} {t : List (Event E)} (h : w.Keeps t w')
    (hpanic : ∀ x ∈ t, ¬ x.isStartPanic) (hbuilds : w.build = none → ∃ x ∈ t, x.isBuild) :
    t.countP Event.isBuild = if w.isBuilt then 0 else 1 := by
  rw [World.isBuilt]
  rcases hbuild : w.build with _ | built
  · have hreturned : t.countP Event.isBuild = t.countP Event.isBuilt := by
      refine List.countP_congr fun x hx => ⟨fun hxb => ?_, fun hxb => ?_⟩
      · obtain ⟨built | text, rfl⟩ := Event.isBuild_iff.1 hxb
        · rfl
        · exact absurd rfl (hpanic _ hx)
      · obtain ⟨built, rfl⟩ := Event.isBuilt_iff.1 hxb
        rfl
    obtain ⟨x, hx, hxb⟩ := hbuilds hbuild
    have hpos : 0 < t.countP Event.isBuild := List.countP_pos_iff.2 ⟨x, hx, hxb⟩
    have hle := Ledger.countP_isBuilt_le h.1
    simp only [Option.isSome_none, Bool.false_eq_true, if_false]
    omega
  · exact List.countP_eq_zero.2 (h.build_eq hbuild).2

namespace Pool

open Filling

/-- As long as no worker panicked, a failed one decides, or there is none. -/
theorem joined_of_not_panicked {workers : List (Worker E)} (h : ∀ x ∈ workers, ¬ x.hasPanicked) :
    (∃ e, .failed e ∈ workers ∧ joined workers = .returned (.error (.notStarted e))) ∨
      (∀ x ∈ workers, x.failure? = none) ∧ joined workers = .returned (.ok ()) := by
  rcases first_failure workers with hnone | ⟨before, x, after, e, rfl, hbefore, he⟩
  · exact .inr ⟨hnone, joined_ok_iff.2 hnone⟩
  have hx := h x (by simp)
  have hafter : after.any Worker.hasPanicked = false :=
    List.any_eq_false.2 fun y hy => h y (by simp [hy])
  cases x with
  | idle | built | started | done => cases he
  | panicked => exact absurd rfl hx
  | failed e' =>
    cases he
    refine .inl ⟨e, by simp, ?_⟩
    rw [joined_of_failure hbefore rfl, hafter]
    rfl

namespace Filled

variable {w : World E} {capacity : Nat} {options : CompilerOptions E} {schedule : List Nat}
  {t : List (Event E)} {s : Filling E}

theorem apart (h : Filled w capacity options schedule t s) :
    Apart options w.transformers.length s :=
  h.runs.apart (informed_begin capacity w) (apart_begin capacity w) (Nat.le_refl _)

theorem not_panicked (h : Filled w capacity options schedule t s)
    (hpanic : ∀ x ∈ t, ¬ x.isStartPanic) : ∀ x ∈ s.workers, ¬ x.hasPanicked := by
  rw [← List.countP_eq_zero, h.accounted.panics, List.countP_eq_zero]
  exact hpanic

/-- The build that is known in the end is the one that there was to be. -/
theorem exists_build (h : Filled w capacity options schedule t s) (hpos : 0 < capacity)
    (hpanic : ∀ x ∈ t, ¬ x.isStartPanic) :
    ∃ built, w.buildEnding = .returned built ∧ s.world.build = some built := by
  have hsettled : Settled w s := by
    refine h.runs.settled (informed_begin capacity w) (fun text hx => ?_) (.inl rfl)
    exact hpanic _ hx rfl
  rcases hsettled with hsame | hbuilt
  · cases hbuild : w.build with
    | some built => exact ⟨built, World.buildEnding_of_some hbuild, by rw [hsame, hbuild]⟩
    | none =>
      -- somebody had the library built, which is known since
      obtain ⟨x, hx, hxb⟩ := h.accounted.exists_isBuild h.informed h.keeps h.stepsLeft
        (h.workers_ne_nil hpos) hbuild
      obtain ⟨built | text, rfl⟩ := Event.isBuild_iff.1 hxb
      · have hafter := (Ledger.build_after h.keeps.1).2 (.inr hx)
        rw [← h.keeps.2, hsame] at hafter
        exact absurd (hbuild.symm.trans hafter) nofun
      · exact absurd rfl (hpanic _ hx)
  · exact hbuilt

/-- If all workers are done, their compilers are in the channel. -/
theorem length_channel (h : Filled w capacity options schedule t s)
    (hnone : ∀ x ∈ s.workers, x.failure? = none) : s.channel.length = capacity := by
  rw [h.accounted.sent, ← h.length, List.countP_eq_length]
  exact fun x hx => (Worker.isDone_iff (h.stepsLeft x hx)).2 (hnone x hx)

/-- With a build each start that failed is a worker that failed, and the first of those
    decides. -/
theorem joined_cases (h : Filled w capacity options schedule t s)
    (hpanic : ∀ x ∈ t, ¬ x.isStartPanic) (herror : ∀ e, s.world.build ≠ some (.error e)) :
    (∃ bytecode e, .start bytecode (.returned (.error e)) ∈ t ∧
      joined s.workers = .returned (.error (.notStarted e))) ∨
    (∀ bytecode e, .start bytecode (.returned (.error e)) ∉ t) ∧
      s.channel.length = capacity ∧ joined s.workers = .returned (.ok ()) := by
  rcases joined_of_not_panicked (h.not_panicked hpanic) with ⟨e, hfailed, hjoined⟩ | ⟨hnone, hjoined⟩
  · rcases h.informed.workers _ hfailed with hbuild | ⟨bytecode, hx⟩
    · exact absurd hbuild (herror e)
    · exact .inl ⟨bytecode, e, hx, hjoined⟩
  · refine .inr ⟨fun bytecode e hx => ?_, h.length_channel hnone, hjoined⟩
    obtain ⟨worker, hworker, hfailure⟩ := h.accounted.felt ⟨_, hx, rfl⟩
    rw [hnone worker hworker] at hfailure
    cases hfailure

end Filled

section
variable {size : Nat} {options : CompilerOptions E} {schedule : List Nat} {w w' : World E}
  {p : Pool E} {t : List (Event E)}

/-- A pool was made if no worker failed, and it is what the workers sent. -/
theorem make_filled (h : make size options schedule w = ⟨.returned (.ok p), w', t⟩) :
    ∃ s u, Filled w (max size 1) options schedule u s ∧ s.world = w' ∧
      p = ⟨s.channel, max size 1⟩ ∧ ∀ x ∈ s.workers, x.failure? = none := by
  obtain ⟨s, u, hfill, hfilled⟩ := fill_filled (max size 1) options schedule w
  rw [make_run hfill] at h
  have hjoined := opened_ok_iff.1 ⟨p, congrArg Run.ending h⟩
  rw [hjoined] at h
  cases h
  exact ⟨s, u, hfilled, rfl, rfl, joined_ok_iff.1 hjoined⟩

/-- A new pool is full. -/
theorem make_stock (h : make size options schedule w = ⟨.returned (.ok p), w', t⟩) :
    p.stock = ⟨max size 1, max size 1⟩ := by
  obtain ⟨s, u, hfilled, -, rfl, hnone⟩ := make_filled h
  rw [stock, hfilled.length_channel hnone]

/-- The compilers of a new pool have new transformers, no two of them the same. -/
theorem make_apart (h : make size options schedule w = ⟨.returned (.ok p), w', t⟩) :
    (∀ c ∈ p.waiting, ∃ id, w.transformers.length ≤ id ∧ id < w'.transformers.length ∧
      c = (Compiler.fresh options).owning id) ∧
    p.waiting.Pairwise fun c d => c.attachment ≠ d.attachment := by
  obtain ⟨s, u, hfilled, rfl, rfl, -⟩ := make_filled h
  exact ⟨hfilled.apart.sent, hfilled.apart.channel⟩

/-- Nobody asks for the shared transformer while a pool is made. -/
theorem make_shared (h : make size options schedule w = ⟨.returned (.ok p), w', t⟩) :
    w'.shared = w.shared := by
  obtain ⟨s, u, hfilled, rfl, -, -⟩ := make_filled h
  exact hfilled.runs.shared_eq

end

/-- Whatever steps were taken, a worker with a compiler to send is done after its next
    step. -/
theorem send_done (n : Nat) (options : CompilerOptions E) (w : World E) (steps : List Nat) {i : Nat}
    {id : TransformerId} :
    let s := ((Filling.follow options steps).run (.begin n w)).state
    s.workers[i]? = some (.started id) →
      s.channel.length < n ∧ ((Filling.step options i).run s).state.workers[i]? = some .done := by
  intro s hi
  obtain ⟨s', t, hfollow, hruns⟩ := follow_runs options steps (begin n w)
  obtain rfl : s = s' := congrArg Run.state hfollow
  have hlength : s.workers.length = n := hruns.length_workers.trans List.length_replicate
  have hroom := (hruns.accounted (accounted_begin n w)).room hi
  refine ⟨hlength ▸ hroom, ?_⟩
  obtain ⟨s', u, hstep, hstepped⟩ := step_stepped options i s
  rw [Act.run, hstep]
  cases hstepped with
  | rests hrests => exact absurd (hrests _ hi) (by simp [Worker.stepsLeft])
  | builds hi' | starts hi' => cases hi.symm.trans hi'
  | waits _ hfull => exact absurd hroom (Nat.not_lt_of_le hfull)
  | sends => exact List.getElem?_set_self (List.getElem?_eq_some_iff.1 hi).1

/-- The making of a pool as long as the library does not panic.  The build is what it
    would be for anybody who asked, and is made once unless it was known.  If it
    failed, so does the pool, and nothing is started.  If not, a runtime is started
    with it for each compiler, even if others are not started; one that was not is the
    failure of the pool, and if there is none the pool is full of compilers with new
    transformers, no two of them the same.  No worker ever waits for room. -/
theorem make_ready (size : Nat) (options : CompilerOptions E) (schedule : List Nat) (w : World E)
    (hpanic : ∀ x ∈ ((make size options schedule).run w).trace, ¬ x.isStartPanic) :
    let n := max size 1
    let run := (make size options schedule).run w
    (∃ built, w.buildEnding = .returned built ∧ run.state.build = some built ∧
      run.trace.countP Event.isBuild = (if w.isBuilt then 0 else 1) ∧
      (∀ e, built = .error e →
        run.ending = .returned (.error (.notStarted e)) ∧ ∀ x ∈ run.trace, ¬ x.isStart) ∧
      ∀ bytecode, built = .ok bytecode →
        run.trace.countP Event.isStart = n ∧
        (∀ bytecode' outcome, .start bytecode' outcome ∈ run.trace → bytecode' = bytecode) ∧
        ((∃ e, .start bytecode (.returned (.error e)) ∈ run.trace) →
          ∃ e, .start bytecode (.returned (.error e)) ∈ run.trace ∧
            run.ending = .returned (.error (.notStarted e))) ∧
        ((∀ e, .start bytecode (.returned (.error e)) ∉ run.trace) →
          ∃ p, run.ending = .returned (.ok p) ∧ p.stock = ⟨n, n⟩ ∧
            (p.waiting.Pairwise fun c d => c.attachment ≠ d.attachment) ∧
            ∀ c ∈ p.waiting, ∃ id, c = (Compiler.fresh options).owning id ∧
              w.transformers.length ≤ id ∧ id < run.state.transformers.length)) ∧
    ∀ steps i id,
      let s := ((Filling.follow options steps).run (.begin n w)).state
      s.workers[i]? = some (.started id) →
        s.channel.length < n ∧ ((Filling.step options i).run s).state.workers[i]? = some .done := by
  intro n run
  have hn : 0 < n := Nat.lt_of_lt_of_le Nat.zero_lt_one (Nat.le_max_right size 1)
  obtain ⟨s, t, hfill, hfilled⟩ := fill_filled n options schedule w
  have hrun : run = _ := make_run hfill
  have hmaking : Making w n run.trace run.ending run.state := make_making rfl
  have hpanic' : ∀ x ∈ t, ¬ x.isStartPanic := by
    intro x hx
    refine hpanic x ?_
    rw [show (make size options schedule).run w = run from rfl, hrun]
    exact List.mem_append_left _ hx
  obtain ⟨built, hending, hbuild⟩ := hfilled.exists_build hn hpanic'
  have hstate : run.state.build = some built := by rw [hrun, hbuild]
  refine ⟨⟨built, hending, hstate, hmaking.keeps.countP_isBuild hpanic hmaking.builds, ?_, ?_⟩, ?_⟩
  · rintro e rfl
    have hnone : ∀ x ∈ run.trace, ¬ x.isStart := by
      intro x hx hstart
      obtain ⟨bytecode, outcome, rfl⟩ := Event.isStart_iff.1 hstart
      exact absurd (hstate.symm.trans (hmaking.keeps.build_of_start hx)) nofun
    exact ⟨hmaking.failed e hstate hnone hpanic, hnone⟩
  · rintro bytecode rfl
    have herror : ∀ e, s.world.build ≠ some (.error e) := by
      intro e he
      exact absurd (hbuild.symm.trans he) nofun
    have hgiven : ∀ bytecode' outcome, .start bytecode' outcome ∈ run.trace →
        bytecode' = bytecode := by
      intro bytecode' outcome hx
      have hbuild' := hmaking.keeps.build_of_start hx
      cases hstate.symm.trans hbuild'
      rfl
    refine ⟨?_, hgiven, ?_⟩
    · rw [hrun, countP_append_announced fun x => Event.isLibrary_of_isStart]
      exact hfilled.countP_isStart herror fun text hx => hpanic' _ hx rfl
    have hmem {x : Event E} (hx : x.isLibrary) : x ∈ run.trace ↔ x ∈ t := by
      rw [hrun, List.mem_append]
      exact ⟨fun h => h.resolve_right fun h => not_isLibrary_of_mem_announced h hx, .inl⟩
    rcases hfilled.joined_cases hpanic' herror with
      ⟨bytecode', e, hx, hjoined⟩ | ⟨hnone, hchannel, hjoined⟩
    · have hx' := (hmem rfl).2 hx
      obtain rfl := hgiven _ _ hx'
      refine ⟨fun _ => ⟨e, hx', ?_⟩, fun hnone => absurd hx' (hnone e)⟩
      rw [hrun, hjoined]
      rfl
    · constructor
      · rintro ⟨e, hx⟩
        exact absurd ((hmem rfl).1 hx) (hnone bytecode e)
      · intro _
        refine ⟨⟨s.channel, n⟩, ?_, ?_, hfilled.apart.channel, ?_⟩
        · rw [hrun, hjoined]
          rfl
        · rw [stock, hchannel]
        · intro c hc
          obtain ⟨id, hle, hlt, rfl⟩ := hfilled.apart.sent c hc
          exact ⟨id, rfl, hle, by rw [hrun]; exact hlt⟩
  · intro steps i id
    exact send_done n options w steps

/-- Three workers in turn: the second start fails, and the third one is made nevertheless. -/
theorem make_ready_refused :
    let run := (make 3 .default [2, 0, 1, 2, 1]).run
      (Legacy.freshWorld (.byRules false false) ⟨[], [none, some (.fail "no memory")], []⟩)
    (∀ x ∈ run.trace, ¬ x.isStartPanic) ∧ run.trace.countP Event.isBuild = 1 ∧
      run.trace.countP Event.isStart = 3 ∧
      ∃ e, .start "build1" (.returned (.error e)) ∈ run.trace ∧
        run.ending = .returned (.error (.notStarted e)) := by
  intro run
  have hpanic : run.trace.any Event.isStartPanic = false := by decide +kernel
  obtain ⟨⟨built, hending, hstate, hbuilds, -, hbuilt⟩, -⟩ :=
    make_ready 3 .default [2, 0, 1, 2, 1] _ (List.any_eq_false.1 hpanic)
  obtain rfl : .ok "build1" = built := by cases hending; rfl
  obtain ⟨hstarts, hgiven, hfailed, -⟩ := hbuilt "build1" rfl
  have hrefused : run.trace.any (fun x => x.isStart && x.isStartFailure) = true := by decide +kernel
  obtain ⟨x, hx, hstart⟩ := List.any_eq_true.1 hrefused
  rw [Bool.and_eq_true] at hstart
  obtain ⟨bytecode, outcome, rfl⟩ := Event.isStart_iff.1 hstart.1
  obtain rfl := hgiven _ _ hx
  rcases outcome with (e | started) | text
  · exact ⟨List.any_eq_false.1 hpanic, hbuilds, hstarts, hfailed ⟨e, hx⟩⟩
  · cases hstart.2
  · exact absurd rfl (List.any_eq_false.1 hpanic _ hx)

end Pool

end Downlevel
