/-
  Downlevel — who needs the build.

  The library is needed by whoever asks for the build itself, has a transformer
  started, asks for the shared transformer, uses a compiler that has none of its
  own, or makes a pool.  Each of them builds the library if nobody did, and is
  told of the failure if that fails.

  * `Session.Demands`: the steps that need the library;
  * `Session.perform_serves`: what each of them is told.
-/
import Downlevel.Proofs.Session.History

namespace Downlevel

variable {E : Engines}

/-! ## In the world -/

/-- Somebody in the world `w` needed the build and was told `outcome`. -/
structure World.Serves {α : Type} (w : World E) (t : List (Event E)) (outcome : Outcome α)
    (w' : World E) : Prop where
  builds : w.build = none → ∃ x ∈ t, x.isBuild
  refused (error) : w'.build = some (.error error) → outcome = .returned (.error error)

namespace World

variable {w w' : World E} {t : List (Event E)}

theorem BuildCourse.serves {outcome : Outcome E.Bytecode} (h : w.BuildCourse t outcome w') :
    w.Serves t outcome w' := by
  cases h with
  | known hbuild =>
    refine ⟨fun hnone => absurd (hbuild.symm.trans hnone) nofun, fun error herror => ?_⟩
    rw [hbuild] at herror
    cases herror
    rfl
  | built =>
    refine ⟨fun _ => ⟨_, List.mem_cons_of_mem _ (List.mem_singleton_self _), rfl⟩,
      fun error herror => ?_⟩
    cases herror
    rfl
  | panicked hnone =>
    exact ⟨fun _ => ⟨_, List.mem_cons_of_mem _ (List.mem_singleton_self _), rfl⟩,
      fun error herror => absurd (hnone.symm.trans herror) nofun⟩

theorem ReadyCourse.serves {outcome : Outcome TransformerId} (h : w.ReadyCourse t outcome w') :
    w.Serves t outcome w' := by
  cases h with
  | refused h =>
    refine ⟨h.serves.builds, fun error herror => ?_⟩
    cases h.serves.refused error herror
    rfl
  | panicked h =>
    refine ⟨h.serves.builds, fun error herror => ?_⟩
    cases h.serves.refused error herror
  | @built t bytecode w₁ u outcome w' h hstart =>
    refine ⟨fun hnone => ?_, fun error herror => ?_⟩
    · obtain ⟨x, hx, hbuild⟩ := h.serves.builds hnone
      exact ⟨x, List.mem_append_left _ hx, hbuild⟩
    · rw [hstart.build_eq, h.build_eq] at herror
      cases herror

theorem ShareCourse.serves {outcome : Outcome TransformerId} (hw : w.ledger.Coherent)
    (h : w.ShareCourse t outcome w') : w.Serves t outcome w' := by
  cases h with
  | @known started hshared =>
    refine ⟨fun hnone => absurd (hshared.symm.trans (hw.shared_eq_none hnone)) nofun,
      fun error herror => ?_⟩
    rcases started with error' | id
    · rcases hw.refused error' hshared with hbuild | ⟨bytecode, hbuild⟩
      · cases hbuild.symm.trans herror
        rfl
      · cases hbuild.symm.trans herror
    · obtain ⟨-, bytecode, hbuild⟩ := hw.started id hshared
      cases hbuild.symm.trans herror
  | tried _ hready =>
    refine ⟨fun hnone => ?_, hready.serves.refused⟩
    obtain ⟨x, hx, hbuild⟩ := hready.serves.builds hnone
    exact ⟨x, List.mem_cons_of_mem _ hx, hbuild⟩
  | panicked _ hready =>
    refine ⟨fun hnone => ?_, hready.serves.refused⟩
    obtain ⟨x, hx, hbuild⟩ := hready.serves.builds hnone
    exact ⟨x, List.mem_cons_of_mem _ hx, hbuild⟩

end World

/-! ## In a session -/

/-- The failure that a session answers. -/
def Answer.failure? : Answer E → Option CompileError
  | .compiled (.error e) | .transformed (.error e) | .prepared (.error e) | .same (.error e)
  | .build (.error e) | .filled (.error e) => some e
  | _ => none

namespace Session

variable {s s' : Session E} {t : List (Event E)}

/-- What somebody is told of an outcome. -/
def told {α : Type} : Outcome α → Ending (Except CompileError α)
  | .returned started => .returned (started.mapError .notStarted)
  | .panicked text => .panicked text

/-- What somebody is answered who asked for a transformer. -/
def prepared {α : Type} : Ending (Except CompileError α) → Ending (Answer E)
  | .returned started => .returned (.prepared (started.map fun _ => ()))
  | .panicked text => .panicked text

/-- What somebody is answered who asked for a pool. -/
def filled : Ending (Except CompileError (Pool E)) → Ending (Answer E)
  | .returned result => .returned (.filled (result.map Pool.stock))
  | .panicked text => .panicked text

theorem perform_build_apply {outcome : Outcome E.Bytecode} {w : World E}
    (h : obtainBuild s.world = ⟨outcome, w, t⟩) :
    perform .build s = ⟨match outcome with
      | .returned built => .returned (.build (built.mapError .notStarted))
      | .panicked text => .panicked text, { s with world := w }, t⟩ := by
  have hrun := inWorld_apply h
  rw [perform]
  rcases outcome with built | text
  · rw [Act.bind_of_returned hrun]
    simp
  · rw [Act.bind_of_panicked hrun]

/-- The slots after a transformer was to be started for one of them. -/
def withTransformer (s : Session E) (name : String) : Outcome TransformerId → Session E
  | .returned (.ok id) => { s with transformers := s.transformers.insert name id }
  | _ => s

theorem putTransformer_apply {x : Act (Event E) (World E) (Except EngineFailure TransformerId)}
    {outcome : Outcome TransformerId} {w : World E} (name : String)
    (h : x s.world = ⟨outcome, w, t⟩) :
    (do putTransformer name (← inWorld x) : Act (Event E) (Session E) (Answer E)) s =
      ⟨prepared (told outcome), withTransformer { s with world := w } name outcome, t⟩ := by
  have hrun := inWorld_apply h
  rcases outcome with (e | id) | text
  · rw [Act.bind_of_returned hrun, putTransformer, Act.pure_apply, List.append_nil]
    rfl
  · rw [Act.bind_of_returned hrun, putTransformer, Act.modify_bind_apply, Act.pure_apply,
      List.append_nil]
    rfl
  · rw [Act.bind_of_panicked hrun]
    rfl

theorem perform_prepare_apply {name : String} {c : Compiler E} (hc : s.Holds (.slot name) c)
    {ending : Ending (Except CompileError TransformerId)} {b : Bench E}
    (h : Bench.transformer ⟨c, s.world⟩ = ⟨ending, b, t⟩) :
    perform (.prepare name) s = ⟨prepared ending,
      { s with world := b.world, compilers := s.compilers.insert name b.compiler }, t⟩ := by
  have hrun : atBench name c _ s = _ := atBench_apply h
  rw [perform, withCompiler_apply hc]
  rcases ending with started | text
  · rw [Act.bind_of_returned hrun]
    simp [prepared]
  · rw [Act.bind_of_panicked hrun]
    rfl

theorem perform_pool_apply {size : Nat} {setup : Setup E} {schedule : List Nat}
    {options : CompilerOptions E} (hoptions : setup.options = .ok options)
    {ending : Ending (Except CompileError (Pool E))} {w : World E}
    (h : Pool.make size options schedule s.world = ⟨ending, w, t⟩) :
    perform (.pool size setup schedule) s = ⟨filled ending,
      { s with
        world := w
        pool := match ending with
          | .returned (.ok p) => some p
          | _ => none }, t⟩ := by
  have hrun : inWorld (Pool.make size options schedule) { s with pool := none } =
      ⟨ending, { s with world := w, pool := none }, t⟩ := inWorld_apply h
  simp only [perform, makePool, Act.modify_bind_apply, hoptions]
  rcases ending with (e | p) | text
  · rw [Act.bind_of_returned hrun]
    simp [filled, Except.map]
  · rw [Act.bind_of_returned hrun]
    simp [filled, Except.map]
  · rw [Act.bind_of_panicked hrun]
    rfl

/-- A pool that somebody asked for was made, and it is the pool of the session. -/
theorem make_of_filled {size : Nat} {setup : Setup E} {schedule : List Nat} {stock : Stock}
    (h : (perform (.pool size setup schedule)).run s = ⟨.returned (.filled (.ok stock)), s', t⟩) :
    ∃ options p w, Pool.make size options schedule s.world = ⟨.returned (.ok p), w, t⟩ ∧
      s' = { s with world := w, pool := some p } ∧ stock = p.stock := by
  rw [Act.run] at h
  cases hoptions : setup.options with
  | error unknown =>
    simp only [perform, makePool, Act.modify_bind_apply, hoptions, Act.pure_apply] at h
    cases h
  | ok options =>
    rcases hmake : Pool.make size options schedule s.world with ⟨(e | p) | text, w, u⟩ <;>
      rw [perform_pool_apply hoptions hmake] at h <;> cases h
    exact ⟨options, p, w, hmake, rfl, rfl⟩

/-- The step needs the library: whoever performs it asks for the build, has a
    transformer started, or uses the shared one. -/
def Demands (s : Session E) : Step E → Prop
  | .build | .transformer _ | .sharedTransformer _ => True
  | .prepare name => ∃ c id, s.Holds (.slot name) c ∧ c.attachment = .shared id
  | .pool _ setup _ => ∃ options, setup.options = .ok options
  | _ => False

/-- Somebody in the session needed the build, and this is what came of it. -/
structure Serves (s : Session E) (r : Run (Event E) (Session E) (Answer E)) : Prop where
  builds : s.world.build = none → ∃ x ∈ r.trace, x.isBuild
  /-- A failure of the build is answered, unless somebody who was before panicked. -/
  refused (error) : r.state.world.build = some (.error error) → (∀ x ∈ r.trace, ¬ x.isStart) →
    (∀ x ∈ r.trace, ¬ x.isStartPanic) →
    ∃ answer, r.ending = .returned answer ∧ answer.failure? = some (.notStarted error)

theorem withTransformer_world (name : String) (outcome : Outcome TransformerId) :
    (s.withTransformer name outcome).world = s.world := by
  unfold withTransformer
  split <;> rfl

theorem putTransformer_serves {x : Act (Event E) (World E) (Except EngineFailure TransformerId)}
    (name : String) {outcome : Outcome TransformerId} {w : World E}
    (hrun : x s.world = ⟨outcome, w, t⟩) (h : s.world.Serves t outcome w) :
    s.Serves ((do putTransformer name (← inWorld x) : Act (Event E) (Session E) (Answer E)) s) := by
  rw [putTransformer_apply name hrun]
  refine ⟨h.builds, fun error herror _ _ => ?_⟩
  dsimp only at herror
  rw [withTransformer_world] at herror
  obtain rfl := h.refused error herror
  exact ⟨_, rfl, rfl⟩

/-- Whoever needs the library has it built if nobody did, and is told of the failure
    if that fails. -/
theorem perform_serves (hs : s.Coherent) {step : Step E} (h : s.Demands step) :
    s.Serves ((perform step).run s) := by
  cases step with
  | build =>
    rcases hrun : obtainBuild s.world with ⟨outcome, w, t⟩
    have hserves := (obtainBuild_course hrun).serves
    rw [Act.run, perform_build_apply hrun]
    refine ⟨hserves.builds, fun error herror _ _ => ?_⟩
    obtain rfl := hserves.refused error herror
    exact ⟨_, rfl, rfl⟩
  | transformer name =>
    rcases hrun : startTransformer s.world with ⟨outcome, w, t⟩
    exact putTransformer_serves name hrun (startTransformer_course hrun).serves
  | sharedTransformer name =>
    rcases hrun : Downlevel.sharedTransformer s.world with ⟨outcome, w, t⟩
    exact putTransformer_serves name hrun ((sharedTransformer_course hrun).serves hs.world)
  | prepare name =>
    obtain ⟨c, id, hc, hattached⟩ := h
    rcases hrun : Bench.transformer ⟨c, s.world⟩ with ⟨ending, b, t⟩
    rw [Act.run, perform_prepare_apply hc hrun]
    have hfits := hs.compilers _ c hc
    cases Bench.transformer_course hrun with
    | @held id' hid =>
      -- the compiler holds the shared transformer, so there is a build
      rw [hattached] at hid hfits
      cases id with
      | none => cases hid
      | some id =>
        obtain ⟨-, bytecode, hbuild⟩ := hs.world.started id hfits
        refine ⟨fun hnone => ?_, fun error herror => ?_⟩
        · cases hbuild.symm.trans hnone
        · cases hbuild.symm.trans herror
    | shared _ hshare =>
      have hserves := hshare.serves hs.world
      refine ⟨hserves.builds, fun error herror => ?_⟩
      cases hserves.refused error herror
    | refused _ hshare =>
      have hserves := hshare.serves hs.world
      refine ⟨hserves.builds, fun error herror _ _ => ?_⟩
      cases hserves.refused error herror
      exact ⟨_, rfl, rfl⟩
    | panicked _ hshare =>
      have hserves := hshare.serves hs.world
      refine ⟨hserves.builds, fun error herror => ?_⟩
      cases hserves.refused error herror
  | pool size setup schedule =>
    obtain ⟨options, hoptions⟩ := h
    rcases hrun : Pool.make size options schedule s.world with ⟨ending, w, t⟩
    have hmaking := Pool.make_making hrun
    rw [Act.run, perform_pool_apply hoptions hrun]
    refine ⟨hmaking.builds, fun error herror hstart hpanic => ?_⟩
    obtain rfl := hmaking.failed error herror hstart hpanic
    exact ⟨_, rfl, rfl⟩
  | _ => exact absurd h id

end Session

end Downlevel
