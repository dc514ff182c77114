/-
  Downlevel — compiles that do not influence each other.

  With engines that follow the rules a unit compiles to the same whatever was done
  before, with this compiler, with others or with the world: nothing that one compile
  leaves behind is seen by another one.  Of the files it matters only what the loader
  of the compiler makes of them.

  * `CompilerOptions.SeesSame`: files that look the same to a loader;
  * `outcome`: what a unit compiles to with a compiler that was never used;
  * `compile_independent`: what it compiles to in every history.
-/
import Downlevel.Proofs.Compile.SideBySide
import Downlevel.Proofs.Legacy.Modes
import Downlevel.Proofs.Session.Reliable

namespace Downlevel

variable {E : Engines} {φ : Type}

/-! ## What a loader sees -/

/-- What a loader answers if it is asked for these paths one after the other. -/
def Loader.answers (find : Loader φ) : List String → φ → List (Except MapError Bytes)
  | [], _ => []
  | path :: paths, files => (find path files).1 :: answers find paths (find path files).2

/-- No questions to the loader tell these files apart. -/
def Loader.SeesSame (find : Loader φ) (files files' : φ) : Prop :=
  ∀ paths, find.answers paths files = find.answers paths files'

theorem Loader.blind_seesSame (find : Loader φ) : find.Blind find.SeesSame := by
  intro path files files' h
  have hasked (paths : List String) := List.cons.inj (h (path :: paths))
  exact ⟨(hasked []).1, fun paths => (hasked paths).2⟩

/-- The loader of the options, if there is one, does not tell these files apart. -/
def CompilerOptions.SeesSame (o : CompilerOptions E) (files files' : E.FileState) : Prop :=
  ∀ find, o.loader = some find → find.SeesSame files files'

/-- Any states of the host look alike, and files do that look the same to the loader of
    the options. -/
def Likeness.ofLoader (o : CompilerOptions E) : Likeness E := ⟨fun _ _ => True, o.SeesSame⟩

theorem Likeness.ofLoader_deceives (hhost : E.host.Steady) (o : CompilerOptions E) :
    (Likeness.ofLoader o).Deceives o where
  host := hhost
  loader find hfind path files files' h := by
    obtain ⟨hanswer, hafter⟩ := find.blind_seesSame path files files' (h find hfind)
    refine ⟨hanswer, fun find' hfind' => ?_⟩
    cases hfind.symm.trans hfind'
    exact hafter

namespace Legacy

variable {mapsFirst ignores : Bool}

/-! ## Outcomes -/

/-- What a unit compiles to with a compiler that was never used, in a world in which
    nothing was done. -/
def outcome (o : CompilerOptions (ruled φ mapsFirst ignores)) (files : φ) (job : Job) :
    Ending (Except CompileError (CompiledUnit Program)) :=
  (Bench.compile job.source job.filename job.entry (freshBench o files)).ending

section
variable {b : Bench (ruled φ mapsFirst ignores)}

/-- A compile in a sound world comes to an end without a panic. -/
theorem compile_returned (hb : b.Sound) (source filename : String) (entry : Bool) :
    ∃ result, (Bench.compile source filename entry b).ending = .returned result := by
  cases hrewrites : rewrites b.compiler.options.mode entry source with
  | false =>
    obtain ⟨_, _, _, _, hrun, -⟩ := compile_of_kept filename (kept_of_rewrites hrewrites)
    exact ⟨_, congrArg Run.ending hrun⟩
  | true =>
    obtain ⟨e, hcheck, hmode⟩ := rejected_of_rewrites hrewrites
    obtain ⟨_, _, _, _, _, hrun, -⟩ := compile_of_rewritten hb filename hcheck hmode
    exact ⟨_, congrArg Run.ending hrun⟩

/-- In sound worlds transforms with the same options come to the same. -/
theorem transform_ending {b' : Bench (ruled φ mapsFirst ignores)} (hb : b.Sound) (hb' : b'.Sound)
    (hoptions : b'.compiler.options = b.compiler.options) (source filename : String)
    (inputMap : Option Bytes) :
    (Bench.transform source filename inputMap b).ending =
      (Bench.transform source filename inputMap b').ending := by
  obtain ⟨_, _, _, _, hrun, -⟩ :=
    Bench.transform_of_follows library_follows source filename inputMap hb
  obtain ⟨_, _, _, _, hrun', -⟩ :=
    Bench.transform_of_follows library_follows source filename inputMap hb'
  rw [hrun, hrun', hoptions]

/-- A compile in a sound world comes to what it comes to in a fresh one. -/
theorem compile_outcome (hb : b.Sound) {files : φ}
    (hfiles : b.compiler.options.SeesSame b.world.files files) (job : Job) :
    (Bench.compile job.source job.filename job.entry b).ending =
      outcome b.compiler.options files job := by
  have hdeceives := Likeness.ofLoader_deceives (host_steady mapsFirst ignores) b.compiler.options
  have hfresh := freshBench_sound b.compiler.options files
  have hattempt {b : Bench (ruled φ mapsFirst ignores)} (hb : b.Sound) {e : Rejection}
      {map : Option Bytes} {w : World (ruled φ mapsFirst ignores)}
      {t : List (Event (ruled φ mapsFirst ignores))}
      (h : b.compiler.options.attempt job.source job.filename job.entry none b.world =
        ⟨.returned (.rejected e map), w, t⟩) : ({ b with world := w } : Bench _).Sound := by
    obtain ⟨_, _, _, hrun, hw, -⟩ :=
      b.compiler.options.attempt_course job.source job.filename job.entry none b.world
    cases h.symm.trans hrun
    exact hb.hostOnly hw
  refine Bench.compile_alike hdeceives rfl ⟨trivial, hfiles⟩ fun e map w w' t _ h h' => ?_
  exact transform_ending (hattempt hb h) (hattempt hfresh h') rfl job.source job.filename map

end

/-! ## Histories -/

open Session

/-- Compiles do not influence each other.  Whatever was done in a session, a unit
    compiles with the compiler at any place to what it compiles to with a compiler with
    the same options that was never used, in a fresh world; and the options of the
    compiler stay what they are.  So it does in a step of the session and in a job of
    the pool. -/
theorem compile_independent {host : HostState} {library : LibraryState} {files₀ files : φ}
    {past t : List (Event (ruled φ mapsFirst ignores))} {s : Session (ruled φ mapsFirst ignores)}
    (h : History (fresh (World.fresh host library files₀)) past t s) {place : Place}
    {c : Compiler (ruled φ mapsFirst ignores)} (hc : s.Holds place c)
    (hfiles : c.options.SeesSame s.world.files files) (job : Job) :
    ∃ result, outcome c.options files job = .returned result ∧
      (let run := (Bench.compile job.source job.filename job.entry).run ⟨c, s.world⟩
       run.ending = .returned result ∧ run.state.compiler.options = c.options) ∧
      (∀ name, place = .slot name →
        ((perform (.compile name job)).run s).ending = .returned (.compiled result)) ∧
      ∀ p p', s.pool = some p → p.take? = some (c, p') →
        (work p' c job { s with pool := some p' }).ending = .returned (.returned result) := by
  have hb : (⟨c, s.world⟩ : Bench _).Sound := h.bench_sound library_follows hc
  obtain ⟨result, hresult⟩ := compile_returned hb job.source job.filename job.entry
  have houtcome := compile_outcome hb hfiles job
  rcases hrun : Bench.compile job.source job.filename job.entry ⟨c, s.world⟩ with ⟨ending, b, u⟩
  rw [hrun] at hresult houtcome
  obtain rfl : ending = .returned result := hresult
  refine ⟨result, houtcome.symm, ?_, ?_, ?_⟩
  · rw [Act.run, hrun]
    exact ⟨rfl, ((Bench.compile_keeps ..).run_eq hrun).compiler.1⟩
  · rintro name rfl
    rw [Act.run, perform, withCompiler_apply hc, Act.bind_of_returned (atBench_apply hrun)]
    rfl
  · intro p p' hp htake
    rw [work_apply (s := { s with pool := some p' }) hrun]

/-- A compiler of a pool that was taken out, had a unit transformed and was given back
    does a job. -/
theorem compile_independent_recycled :
    let job : Job := ⟨"class B {}", "b.js", true⟩
    ∃ past t s c p p', History (freshSession (.byRules false false) .byRules) past t s ∧
      t.countP Event.isTransform = 1 ∧ s.pool = some p ∧ p.take? = some (c, p') ∧
      ∃ result, outcome c.options () job = .returned result ∧
        (work p' c job { s with pool := some p' }).ending = .returned (.returned result) := by
  intro job
  have h₀ : History (freshSession (.byRules false false) .byRules) [] [] _ := .start
  have h := (((h₀.step (.pool 1 ⟨none, none, false⟩ []) trivial).step (.acquire "a") trivial).step
    (.compile "a" ⟨"class A {}", "a.js", false⟩) trivial).step (.release "a") trivial
  obtain ⟨s, t, hs, hcount, hfront⟩ : ∃ s t, History
      (freshSession (.byRules false false) .byRules) [] t s ∧ t.countP Event.isTransform = 1 ∧
      (s.pool.bind Pool.take?).isSome := by
    refine ⟨_, _, h, ?_, ?_⟩
    · decide +kernel
    · decide +kernel
  obtain ⟨⟨c, p'⟩, hfront⟩ := Option.isSome_iff_exists.1 hfront
  obtain ⟨p, hp, htake⟩ := Option.bind_eq_some_iff.1 hfront
  have hc : s.Holds (.queue 0) c := ⟨p, hp, by rw [(Pool.waiting_of_take? htake).1]; rfl⟩
  have hfiles : c.options.SeesSame s.world.files () := fun _ _ _ => rfl
  obtain ⟨result, houtcome, -, -, hwork⟩ := compile_independent hs hc hfiles job
  exact ⟨[], t, s, c, p, p', hs, hcount, hp, htake, result, houtcome, hwork p p' hp htake⟩

end Legacy

end Downlevel
