/-
  Downlevel — the history of a session.

  A history is what happened in a session since it began: `past` until the last
  reset and `t` since then.  It goes on with each step, and during the jobs that
  work side by side with each job; a reset that comes into effect closes an
  epoch and opens the next one.

  * `Session.History` with `History.exists_of_reachable`: every reachable session
    has one;
  * `History.epoch`: since the last reset everything kept to the ledger, and the
    session refers to what is there;
  * `History.retired_iff`, `History.pairwise_reaches`: what became of a
    transformer, resets or not.
-/
import Downlevel.Proofs.Session.Turns

namespace Downlevel.Session

variable {E : Engines}

/-! ## Histories -/

/-- What comes next in a session, which is a step or a job by the compiler in front
    of the pool: the places that it takes, what happens, and the session then. -/
inductive Next (s : Session E) : (Place → Prop) → List (Event E) → Session E → Prop
  | step {step} : s.Plain step →
      Next s (takes step) ((perform step).run s).trace ((perform step).run s).state
  | job {p c p'} (job : Job) : s.pool = some p → p.take? = some (c, p') →
      Next s (fun place => ∃ i, place = .queue i) (work p' c job { s with pool := some p' }).trace
        (work p' c job { s with pool := some p' }).state

/-- What happened in a session that began as `start`: first `past`, and then since
    the last reset `t`. -/
inductive History (start : Session E) : List (Event E) → List (Event E) → Session E → Prop
  | start : History start [] [] start
  | next {past t s taken u s'} : History start past t s → s.Next taken u s' →
      History start past (t ++ u) s'
  | reset {past t s} : History start past t s → s.CanReset →
      History start (past ++ t) [] { s with world := s.world.forget }

variable {start s s' : Session E} {past t u : List (Event E)}

theorem Next.turn {taken : Place → Prop} (h : s.Next taken u s') :
    ∃ used, s.Turn taken used u s' := by
  cases h with
  | step hplain => exact ⟨_, perform_turn hplain⟩
  | job job hp htake =>
    have hused : (fun place => place = Place.queue 0) (.queue 0) := rfl
    exact ⟨_, work_turn (fun i => ⟨i, rfl⟩) hused hp htake job⟩

theorem Next.keeps {taken : Place → Prop} (h : s.Next taken u s') : Keeps taken s u s' := by
  obtain ⟨used, hturn⟩ := h.turn
  exact hturn.keeps

theorem History.step (h : History start past t s) (step : Step E) (hplain : s.Plain step) :
    History start past (t ++ ((perform step).run s).trace) ((perform step).run s).state :=
  h.next (.step hplain)

/-- The jobs that work side by side come one after the other. -/
theorem History.workAll (h : History start past t s) (jobs : List Job) :
    History start past (t ++ (workAll jobs s).trace) (workAll jobs s).state := by
  induction jobs generalizing s t with
  | nil => simpa [Session.workAll] using h
  | cons job jobs ih =>
    cases hfront : s.pool.bind Pool.take? with
    | none =>
      have hrun : Session.workAll (job :: jobs) s = ⟨.returned none, s, []⟩ := by
        simp only [Session.workAll, Act.get_bind_apply, hfront, Act.pure_apply]
      rw [hrun]
      simpa using h
    | some front =>
      obtain ⟨c, p'⟩ := front
      obtain ⟨p, hp, htake⟩ := Option.bind_eq_some_iff.1 hfront
      have hjob := h.next (.job job hp htake)
      obtain ⟨result, s₁, u, hwork⟩ := work_returned p' c job { s with pool := some p' }
      rw [hwork] at hjob
      have hrest := ih hjob
      simp only [Session.workAll, Act.get_bind_apply, hfront, Act.modify_bind_apply]
      rw [Act.bind_of_returned hwork]
      rcases hrun : Session.workAll jobs s₁ with ⟨results | text, s', v⟩ <;> rw [hrun] at hrest
      · rw [Act.bind_of_returned hrun]
        cases results <;> simpa using hrest
      · rw [Act.bind_of_panicked hrun]
        simpa using hrest

theorem compileAll_state {p : Pool E} (hp : s.pool = some p) (jobs : List Job) :
    (compileAll jobs s).state = (Session.workAll jobs s).state := by
  simp only [compileAll, withPool, Act.get_bind_apply, hp]
  rcases hrun : Session.workAll jobs s with ⟨results | text, s', t⟩
  · have hcounted : counted (Session.workAll jobs) s = ⟨.returned (results, tally t), s', []⟩ := by
      simp [counted, hrun]
    rw [Act.bind_of_returned hcounted]
    cases results with
    | none => rfl
    | some results => cases hpool : s'.pool <;> simp [hpool]
  · have hcounted : counted (Session.workAll jobs) s = ⟨.panicked text, s', []⟩ := by
      simp [counted, hrun]
    rw [Act.bind_of_panicked hcounted]

theorem History.exists_of_reachable (h : Reachable start s) : ∃ past t, History start past t s := by
  induction h with
  | start => exact ⟨[], [], .start⟩
  | @step s _ step ih =>
    obtain ⟨past, t, h⟩ := ih
    cases step with
    | reset =>
      by_cases hreset : s.CanReset
      · rw [Act.run, reset_apply hreset]
        exact ⟨_, _, h.reset hreset⟩
      · have hplain : s.Plain .reset := hreset
        exact ⟨_, _, h.next (.step hplain)⟩
    | parallel jobs =>
      cases hp : s.pool with
      | none =>
        have hrun : perform (.parallel jobs) s = ⟨.returned .noSlot, s, []⟩ := by
          simp [perform, compileAll, withPool, hp]
        rw [Act.run, hrun]
        exact ⟨_, _, h⟩
      | some p =>
        have hstate : ((perform (.parallel jobs)).run s).state = (Session.workAll jobs s).state :=
          compileAll_state hp jobs
        rw [hstate]
        exact ⟨_, _, h.workAll jobs⟩
    | _ => exact ⟨_, _, h.next (.step trivial)⟩

/-! ## Epochs -/

/-- What is so since the last reset. -/
structure Epoch (t : List (Event E)) (s : Session E) : Prop where
  coherent : s.Coherent
  /-- At first there was no build and no shared transformer. -/
  began : ∃ w : World E, w.build = none ∧ w.shared = none ∧ w.Keeps t s.world

theorem Epoch.next (h : Epoch t s) {taken : Place → Prop} (hnext : s.Next taken u s') :
    Epoch (t ++ u) s' := by
  obtain ⟨w, hbuild, hshared, hkeeps⟩ := h.began
  exact ⟨hnext.keeps.coherent h.coherent, w, hbuild, hshared, hkeeps.trans hnext.keeps.world⟩

/-- A reset comes into effect only while there is no compiler. -/
theorem CanReset.not_holds (h : s.CanReset) (place : Place) (c : Compiler E) :
    ¬ s.Holds place c := by
  intro hc
  cases place with
  | slot name =>
    have hnone : s.compilers.find? name = none := by
      rw [Table.find?, h.2]
      rfl
    exact absurd (hnone.symm.trans hc) nofun
  | queue i =>
    obtain ⟨p, hp, -⟩ := hc
    exact absurd (h.1.symm.trans hp) nofun

theorem Coherent.forget (hs : s.Coherent) (hreset : s.CanReset) :
    Coherent { s with world := s.world.forget } where
  world := ⟨nofun, nofun, nofun⟩
  compilers place c hc := by
    refine absurd (?_ : s.Holds place c) (hreset.not_holds place c)
    cases place <;> exact hc
  transformers := hs.transformers

section
variable {host : E.HostState} {library : E.LibraryState} {files : E.FileState}

theorem History.epoch (h : History (fresh (World.fresh host library files)) past t s) :
    Epoch t s := by
  induction h with
  | start => exact ⟨coherent_fresh host library files, _, rfl, rfl, .refl _⟩
  | next _ hnext ih => exact ih.next hnext
  | reset _ hreset ih => exact ⟨ih.coherent.forget hreset, _, rfl, rfl, .refl _⟩

/-! ## Transformers -/

/-- A transformer is retired exactly if its runtime panicked, however long ago. -/
theorem History.retired_iff (h : History (fresh (World.fresh host library files)) past t s)
    (id : TransformerId) :
    s.world.transformers[id]? = some .retired ↔ ∃ e ∈ past ++ t, e.retires id := by
  induction h with
  | start => simp [fresh, World.fresh]
  | @next past t s taken u s' _ hnext ih =>
    obtain ⟨hadmits, hledger⟩ := hnext.keeps.world
    have hafter := Ledger.retired_after hadmits id
    rw [← hledger] at hafter
    refine hafter.trans ?_
    rw [← List.append_assoc]
    simp only [List.mem_append (s := past ++ t), or_and_right, exists_or]
    exact or_congr_left ih
  | reset _ _ ih => rw [List.append_nil]; exact ih

/-- Behind a panic of a runtime no call reaches it, however much later. -/
theorem History.pairwise_reaches (h : History (fresh (World.fresh host library files)) past t s)
    (id : TransformerId) : (past ++ t).Pairwise fun x y => x.retires id → ¬ y.reaches id := by
  induction h with
  | start => exact .nil
  | @next past t s taken u s' h hnext ih =>
    obtain ⟨hadmits, -⟩ := hnext.keeps.world
    rw [← List.append_assoc, List.pairwise_append]
    refine ⟨ih, Ledger.pairwise_reaches hadmits id, fun x hx y hy hretires => ?_⟩
    exact Ledger.not_reaches_of_retired hadmits ((h.retired_iff id).2 ⟨x, hx, hretires⟩) y hy
  | reset _ _ ih => rw [List.append_nil]; exact ih

end

end Downlevel.Session
