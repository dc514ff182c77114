/-
  Downlevel — the library is built once.

  Between two resets the library is built by whoever needs it first, and from
  then on everybody is told what that build returned, a success or a failure.
  A build that panics returned nothing: the next one who needs the library
  builds again.

  * `Epoch.build_eq_some_iff`, `Epoch.start_given`: an epoch and its build;
  * `History.build_once`: the build in every history.
-/
import Downlevel.Legacy.Engines
import Downlevel.Proofs.Session.Requests

namespace Downlevel.Session

variable {E : Engines} {s s' : Session E} {past t u : List (Event E)}

/-! ## Epochs -/

/-- The build is known exactly if it returned. -/
theorem Epoch.build_eq_some_iff (h : Epoch t s) {built : Except EngineFailure E.Bytecode} :
    s.world.build = some built ↔ .build (.returned built) ∈ t := by
  obtain ⟨w, hbuild, -, hadmits, hledger⟩ := h.began
  have hafter : s.world.ledger.build = some built ↔ _ := hledger ▸ Ledger.build_after hadmits
  refine hafter.trans ⟨fun h => ?_, .inr⟩
  rcases h with h | h
  · exact absurd (hbuild.symm.trans h) nofun
  · exact h

theorem Epoch.isBuilt_iff (h : Epoch t s) : s.world.isBuilt ↔ ∃ x ∈ t, x.isBuilt := by
  rw [World.isBuilt, Option.isSome_iff_exists]
  constructor
  · rintro ⟨built, hbuilt⟩
    exact ⟨_, h.build_eq_some_iff.1 hbuilt, rfl⟩
  · rintro ⟨x, hx, hbuilt⟩
    obtain ⟨built, rfl⟩ := Event.isBuilt_iff.1 hbuilt
    exact ⟨built, h.build_eq_some_iff.2 hx⟩

/-- Everything that is started is started with the build. -/
theorem Epoch.start_given (h : Epoch t s) :
    Throughout (fun before x _ => ∀ bytecode outcome, x = .start bytecode outcome →
      .build (.returned (.ok bytecode)) ∈ before) t := by
  obtain ⟨w, hbuild, -, hadmits, -⟩ := h.began
  refine (Ledger.build_before_start hadmits).mono fun before x _ hx bytecode outcome hstart => ?_
  rcases hx bytecode outcome hstart with h | h
  · exact absurd (hbuild.symm.trans h) nofun
  · exact h

/-- What is started is started with the build that is known in the end. -/
theorem Epoch.build_of_start (h : Epoch t s) {bytecode : E.Bytecode} {outcome : Outcome E.Runtime}
    (hstart : .start bytecode outcome ∈ t) : s.world.build = some (.ok bytecode) := by
  obtain ⟨w, -, -, hkeeps⟩ := h.began
  exact hkeeps.build_of_start hstart

theorem Epoch.not_isStart (h : Epoch t s) {e : EngineFailure}
    (hbuild : s.world.build = some (.error e)) : ∀ x ∈ t, ¬ x.isStart := by
  intro x hx hstart
  obtain ⟨bytecode, outcome, rfl⟩ := Event.isStart_iff.1 hstart
  exact absurd (hbuild.symm.trans (h.build_of_start hx)) nofun

/-! ## Histories -/

theorem Demands.plain {step : Step E} (h : s.Demands step) : s.Plain step := by
  cases step <;> trivial

variable {host : E.HostState} {library : E.LibraryState} {files : E.FileState}

/-- Since the last reset one build returned at most, and behind it nobody built.
    The world knows its result and nothing else, all starts were given it, and if it
    was a failure there were none.  Whoever needs the library builds it exactly if
    no build returned; once one did, whoever asks for it is told its result, and
    everybody fails who needs it if it is a failure.  A reset leaves of the library
    what there is in a new world. -/
theorem History.build_once (h : History (fresh (World.fresh host library files)) past t s) :
    (t.Pairwise fun x y => x.isBuilt → ¬ y.isBuild) ∧
    t.countP Event.isBuilt ≤ 1 ∧
    (∀ built, s.world.build = some built ↔ .build (.returned built) ∈ t) ∧
    (s.world.isBuilt ↔ ∃ x ∈ t, x.isBuilt) ∧
    Throughout (fun before x _ => ∀ bytecode outcome, x = .start bytecode outcome →
      .build (.returned (.ok bytecode)) ∈ before) t ∧
    (∀ e, .build (.returned (.error e)) ∈ t → ∀ x ∈ t, ¬ x.isStart) ∧
    (∀ step, s.Demands step →
      let r := (perform step).run s
      ((∃ x ∈ r.trace, x.isBuild) ↔ ¬ s.world.isBuilt) ∧
      (∀ bytecode, r.state.world.build = some (.ok bytecode) →
        (∀ bytecode' outcome, .start bytecode' outcome ∈ r.trace → bytecode' = bytecode) ∧
        (step = .build → r.ending = .returned (.build (.ok bytecode)))) ∧
      ∀ e, r.state.world.build = some (.error e) →
        (∀ x ∈ r.trace, ¬ x.isStart) ∧
        ((∀ text, .build (.panicked text) ∉ r.trace) →
          ∃ answer, r.ending = .returned answer ∧ answer.failure? = some (.notStarted e))) ∧
    (s.CanReset → (perform .reset).run s = ⟨.returned (.flag true),
      { s with world := { World.fresh s.world.host s.world.library s.world.files with
        transformers := s.world.transformers } }, []⟩) := by
  have hepoch := h.epoch
  obtain ⟨w, -, -, hkeeps⟩ := hepoch.began
  refine ⟨Ledger.pairwise_isBuild hkeeps.1, Ledger.countP_isBuilt_le hkeeps.1,
    fun built => hepoch.build_eq_some_iff, hepoch.isBuilt_iff, hepoch.start_given,
    fun e he => hepoch.not_isStart (hepoch.build_eq_some_iff.2 he), fun step hstep => ?_,
    fun hreset => reset_apply hreset⟩
  have hnext := Next.step hstep.plain
  have hepoch' := hepoch.next hnext
  have hserves := perform_serves hepoch.coherent hstep
  intro r
  refine ⟨⟨fun ⟨x, hx, hbuild⟩ hbuilt => ?_, fun hbuilt => ?_⟩, fun bytecode hbuild => ⟨?_, ?_⟩,
    fun e he => ?_⟩
  · obtain ⟨built, hbuilt⟩ := Option.isSome_iff_exists.1 hbuilt
    exact (hnext.keeps.world.build_eq hbuilt).2 x hx hbuild
  · exact hserves.builds (by simpa [World.isBuilt] using hbuilt)
  · intro bytecode' outcome hstart
    have hbuild' := hepoch'.build_of_start (List.mem_append_right t hstart)
    cases hbuild'.symm.trans hbuild
    rfl
  · rintro rfl
    rcases hrun : obtainBuild s.world with ⟨outcome, w', u⟩
    have hr : r = _ := perform_build_apply hrun
    rw [hr] at hbuild ⊢
    have hserves := (obtainBuild_course hrun)
    cases hserves with
    | known hknown =>
      cases hknown.symm.trans hbuild
      rfl
    | built =>
      cases hbuild
      rfl
    | panicked hnone => exact absurd (hnone.symm.trans hbuild) nofun
  · have hnone : ∀ x ∈ r.trace, ¬ x.isStart := fun x hx =>
      hepoch'.not_isStart he x (List.mem_append_right t hx)
    refine ⟨hnone, fun hpanic => hserves.refused e he hnone fun x hx hstart => ?_⟩
    rcases Event.isStartPanic_iff.1 hstart with ⟨text, rfl⟩ | ⟨bytecode, text, rfl⟩
    · exact hpanic _ hx
    · exact hnone _ hx rfl

/-- The first build panics and the second one returns; after a reset there is a third
    one, which is the one that counts. -/
theorem History.build_once_again :
    ∃ past t s, History
        (Legacy.freshSession (.byRules false false) ⟨[some (.panic "boom")], [], []⟩) past t s ∧
      past.countP Event.isBuild = 2 ∧ past.countP Event.isBuilt = 1 ∧
      t.countP Event.isBuilt ≤ 1 ∧ .build (.returned (.ok "build3")) ∈ t := by
  have h₀ : History (Legacy.freshSession (.byRules false false)
    ⟨[some (.panic "boom")], [], []⟩) [] [] _ := .start
  have h := (h₀.step .build trivial).step .build trivial
  have h' := (h.reset ⟨rfl, rfl⟩).step .build trivial
  obtain ⟨-, hcount, hknown, -⟩ := build_once h'
  exact ⟨_, _, _, h', rfl, rfl, hcount, (hknown _).1 rfl⟩

end Downlevel.Session
