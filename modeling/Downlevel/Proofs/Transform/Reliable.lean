/-
  Downlevel — transforms with a library that does not fail.

  `Library.Follows rule` says that a library always builds, always starts
  runtimes, and makes of every text what `rule` says.  A world is sound if its
  ledger shows no failure: no build or start was refused, and no transformer is
  retired.  Such a library keeps a sound world sound, so every transform in it
  succeeds, whatever was done in the world before.

  * `Ledger.Sound`, `World.Sound`, `Bench.Sound`, with `Bench.sound_fresh` for the start;
  * `Bench.transform_of_follows`: a transform yields what the rule says.
-/
import Downlevel.Proofs.Transform.Course
import Downlevel.Proofs.World.Ledger

namespace Downlevel

variable {E : Engines}

/-! ## Sound worlds -/

/-- No failure is known. -/
structure Ledger.Sound (l : Ledger E) : Prop where
  build (e) : l.build ≠ some (.error e)
  shared (started) : l.shared = some started → ∃ id < l.transformers.length, started = .ok id
  live (t) : t ∈ l.transformers → ∃ runtime, t = .live runtime

/-- Nothing has failed in this world. -/
abbrev World.Sound (w : World E) : Prop := w.ledger.Sound

/-- The transformer that a compiler got hold of. -/
def Attachment.id? : Attachment → Option TransformerId
  | own id => some id
  | shared id => id

/-- Nothing has failed in the world of the compiler, and it refers to a
    transformer of this world if to any. -/
structure Bench.Sound (b : Bench E) : Prop where
  world : b.world.Sound
  attached (id) : b.compiler.attachment.id? = some id → id < b.world.transformers.length

theorem World.sound_fresh (host : E.HostState) (library : E.LibraryState) (files : E.FileState) :
    (World.fresh host library files).Sound where
  build e := by simp [World.fresh, World.ledger]
  shared started h := by simp [World.fresh, World.ledger] at h
  live t ht := by simp [World.fresh, World.ledger] at ht

/-- A compiler that was never used, in a world in which nothing was built. -/
theorem Bench.sound_fresh (options : CompilerOptions E) (host : E.HostState)
    (library : E.LibraryState) (files : E.FileState) :
    (⟨.fresh options, .fresh host library files⟩ : Bench E).Sound where
  world := World.sound_fresh host library files
  attached id h := by simp [Compiler.fresh, Attachment.id?] at h

namespace World.Sound

variable {w : World E}

theorem lookup (hw : w.Sound) {id : TransformerId} (hid : id < w.transformers.length) :
    ∃ runtime, w.transformers[id]? = some (.live runtime) := by
  obtain ⟨runtime, hlive⟩ := hw.live _ (List.getElem_mem hid)
  exact ⟨runtime, by rw [List.getElem?_eq_getElem hid, hlive]⟩

end World.Sound

/-! ## Libraries that do not fail -/

/-- The library builds, starts runtimes, and makes of a text what `rule` says. -/
structure Library.Follows {σ Bytecode Runtime : Type} (lib : Library σ Bytecode Runtime)
    (rule : String → Json.Object → RawOutput) : Prop where
  build (s) : ∃ bytecode, (lib.build s).1 = .returned (.ok bytecode)
  start (bytecode s) : ∃ runtime, (lib.start bytecode s).1 = .returned (.ok runtime)
  transform (runtime source options s) :
    (lib.transform runtime source options s).1 = .returned (.ok (rule source options))

section
variable {rule : String → Json.Object → RawOutput} (hlib : E.library.Follows rule)
include hlib

theorem obtainBuild_of_follows {w : World E} (hw : w.Sound) :
    ∃ bytecode w' t, obtainBuild w = ⟨.returned (.ok bytecode), w', t⟩ ∧ w'.Sound ∧
      w'.transformers = w.transformers := by
  cases hbuild : w.build with
  | some built =>
    rcases built with e | bytecode
    · exact absurd hbuild (hw.build e)
    · exact ⟨bytecode, w, [], by simp [obtainBuild, hbuild], hw, rfl⟩
  | none =>
    obtain ⟨bytecode, hbytecode⟩ := hlib.build w.library
    have hcall := callBuild_apply w
    rw [hbytecode] at hcall
    have hrun : obtainBuild w = ⟨.returned (.ok bytecode),
        { w with library := (E.library.build w.library).2, build := some (.ok bytecode) },
        [.log .building, .build (.returned (.ok bytecode))]⟩ := by
      simp only [obtainBuild, Act.get_bind_apply, hbuild, Act.emit_bind_apply]
      rw [Act.bind_of_returned hcall]
      rfl
    exact ⟨bytecode, _, _, hrun, ⟨nofun, hw.shared, hw.live⟩, rfl⟩

theorem startWith_of_follows (bytecode : E.Bytecode) {w : World E} (hw : w.Sound) :
    ∃ id w' t, startWith bytecode w = ⟨.returned (.ok id), w', t⟩ ∧ w'.Sound ∧
      id < w'.transformers.length ∧ w.transformers.length ≤ w'.transformers.length := by
  obtain ⟨runtime, hruntime⟩ := hlib.start bytecode w.library
  have hcall := callStart_apply bytecode w
  rw [hruntime] at hcall
  -- the new transformer is the last one, so the numbers in use stay valid
  have hrun : startWith bytecode w = ⟨.returned (.ok w.transformers.length),
      { w with
        library := (E.library.start bytecode w.library).2
        transformers := w.transformers ++ [.live runtime] },
      [.start bytecode (.returned (.ok runtime))]⟩ := by
    rw [startWith, Act.bind_of_returned hcall]
    rfl
  refine ⟨w.transformers.length, _, _, hrun, ⟨hw.build, ?_, ?_⟩, by simp, by simp⟩
  · intro started hstarted
    obtain ⟨id, hid, rfl⟩ := hw.shared started hstarted
    exact ⟨id, by simpa [World.ledger] using Nat.lt_succ_of_lt hid, rfl⟩
  · intro t ht
    rcases List.mem_append.1 ht with ht | ht
    · exact hw.live t ht
    · exact ⟨runtime, List.mem_singleton.1 ht⟩

theorem sharedTransformer_of_follows {w : World E} (hw : w.Sound) :
    ∃ id w' t, sharedTransformer w = ⟨.returned (.ok id), w', t⟩ ∧ w'.Sound ∧
      id < w'.transformers.length ∧ w.transformers.length ≤ w'.transformers.length := by
  cases hshared : w.shared with
  | some started =>
    obtain ⟨id, hid, rfl⟩ := hw.shared started hshared
    exact ⟨id, w, [], by simp [sharedTransformer, hshared], hw, hid, Nat.le_refl _⟩
  | none =>
    obtain ⟨bytecode, w₁, t, hbuild, hw₁, hsame⟩ := obtainBuild_of_follows hlib hw
    obtain ⟨id, w₂, u, hstart, hw₂, hid, hle⟩ := startWith_of_follows hlib bytecode hw₁
    have hrun : startTransformer w = ⟨.returned (.ok id), w₂, t ++ u⟩ := by
      rw [startTransformer, Act.bind_of_returned hbuild]
      simp only [hstart]
    refine ⟨id, { w₂ with shared := some (.ok id) }, .log .startingShared :: (t ++ u), ?_,
      ⟨hw₂.build, ?_, hw₂.live⟩, hid, hsame ▸ hle⟩
    · simp only [sharedTransformer, Act.get_bind_apply, hshared, Act.emit_bind_apply]
      rw [Act.bind_of_returned hrun]
      simp
    · intro started h
      cases h
      exact ⟨id, hid, rfl⟩

/-- A live transformer performs every request and stays live. -/
theorem Request.perform_of_follows (r : Request) {id : TransformerId} {w : World E} (hw : w.Sound)
    (hid : id < w.transformers.length) :
    ∃ runtime w' u, r.perform id w =
        ⟨.returned (r.result (rule r.source r.options)), w', u⟩ ∧ w'.Sound ∧
      w'.transformers.length = w.transformers.length ∧
      .transform id r.source r.options runtime (.returned (.ok (rule r.source r.options))) ∈ u := by
  obtain ⟨earlier, hlive⟩ := hw.lookup hid
  have hanswer := hlib.transform earlier r.source r.options w.library
  rcases hcall : E.library.transform earlier r.source r.options w.library with
    ⟨outcome, runtime, library⟩
  rw [hcall] at hanswer
  dsimp only at hanswer
  subst hanswer
  have hrun := perform_of_live hlive hcall
  refine ⟨runtime, _, _, hrun, ⟨hw.build, ?_, ?_⟩, ?_, by simp⟩
  · intro started hstarted
    obtain ⟨id, hid, rfl⟩ := hw.shared started hstarted
    exact ⟨id, by simpa [World.ledger] using hid, rfl⟩
  · intro t ht
    rcases List.mem_or_eq_of_mem_set ht with ht | rfl
    · exact hw.live t ht
    · exact ⟨runtime, rfl⟩
  · simp

theorem Bench.transformer_of_follows {b : Bench E} (hb : b.Sound) :
    ∃ id b' t, transformer b = ⟨.returned (.ok id), b', t⟩ ∧ b'.Sound ∧
      b'.compiler.options = b.compiler.options ∧ id < b'.world.transformers.length := by
  obtain ⟨⟨options, attachment⟩, w⟩ := b
  rcases attachment with id | _ | id
  · exact ⟨id, _, [], rfl, hb, rfl, hb.attached id rfl⟩
  · obtain ⟨id, w', t, hrun, hw', hid, -⟩ := sharedTransformer_of_follows hlib hb.world
    have hworld := inWorld_apply (b := ⟨⟨options, .shared none⟩, w⟩) hrun
    refine ⟨id, ⟨⟨options, .shared (some id)⟩, w'⟩, t, ?_, ⟨hw', ?_⟩, rfl, hid⟩
    · simp only [transformer, Act.get_bind_apply]
      rw [Act.bind_of_returned hworld]
      simp
    · intro id' h
      cases h
      exact hid
  · exact ⟨id, _, [], rfl, hb, rfl, hb.attached id rfl⟩

/-- In a sound world every transform succeeds as the rule says, by one call
    of a runtime with the source as it stands. -/
theorem Bench.transform_of_follows (source filename : String) (inputMap : Option Bytes)
    {b : Bench E} (hb : b.Sound) :
    let r : Request := ⟨source, filename, b.compiler.options.loader.isSome, inputMap⟩
    ∃ id runtime b' u, transform source filename inputMap b =
        ⟨.returned (r.result (rule source r.options)), b', u⟩ ∧ b'.Sound ∧
      b'.compiler.options = b.compiler.options ∧
      .transform id source r.options runtime (.returned (.ok (rule source r.options))) ∈ u := by
  intro r
  obtain ⟨id, b₁, t, hrun, hb₁, hoptions, hid⟩ := transformer_of_follows hlib hb
  obtain ⟨runtime, w, u, hperform, hw, hlength, hmem⟩ :=
    r.perform_of_follows hlib hb₁.world hid
  refine ⟨id, runtime, { b₁ with world := w }, t ++ u, ?_, ⟨hw, ?_⟩, hoptions,
    List.mem_append_right _ hmem⟩
  · rw [transform, Act.bind_of_returned hrun]
    simp only [Act.get_bind_apply, hoptions]
    rw [inWorld_apply hperform]
  · intro id' h
    rw [hlength]
    exact hb₁.attached id' h

end

end Downlevel
