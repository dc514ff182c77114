/-
  Downlevel — compiles side by side.

  Two compilers with the same options, at work in two worlds that look alike to
  the host and to the loader, come to the same result unless the library answers
  one of them otherwise than the other.  It has no other way to make a
  difference, as it leaves the host and the files alone.

  * `World.LibraryOnly`: what a transform does to a world;
  * `Event.Obeys`: the library answered as a rule says;
  * `Bench.transform_obeys`: two transforms that are answered by one rule;
  * `Bench.compile_alike`: two compiles, as far as their transforms end alike.
-/
import Downlevel.Proofs.Compile.Alike
import Downlevel.Proofs.Compile.Keeping

namespace Downlevel

variable {E : Engines}

/-! ## What a transform leaves alone -/

namespace World

variable {w w₁ w' : World E} {t : List (Event E)}

/-- The host and the files are as they were. -/
def LibraryOnly (w w' : World E) : Prop := w'.host = w.host ∧ w'.files = w.files

theorem LibraryOnly.refl (w : World E) : w.LibraryOnly w := ⟨rfl, rfl⟩

theorem LibraryOnly.trans (h : w.LibraryOnly w₁) (h' : w₁.LibraryOnly w') : w.LibraryOnly w' :=
  ⟨h'.1.trans h.1, h'.2.trans h.2⟩

theorem BuildCourse.libraryOnly {outcome : Outcome E.Bytecode} (h : w.BuildCourse t outcome w') :
    w.LibraryOnly w' := by
  cases h with
  | known | built | panicked => exact ⟨rfl, rfl⟩

theorem StartCourse.libraryOnly {bytecode : E.Bytecode} {outcome : Outcome TransformerId}
    (h : w.StartCourse bytecode t outcome w') : w.LibraryOnly w' := by
  cases h with
  | started | refused | panicked => exact ⟨rfl, rfl⟩

theorem ReadyCourse.libraryOnly {outcome : Outcome TransformerId} (h : w.ReadyCourse t outcome w') :
    w.LibraryOnly w' := by
  cases h with
  | refused hbuild | panicked hbuild => exact hbuild.libraryOnly
  | built hbuild hstart => exact hbuild.libraryOnly.trans hstart.libraryOnly

theorem ShareCourse.libraryOnly {outcome : Outcome TransformerId} (h : w.ShareCourse t outcome w') :
    w.LibraryOnly w' := by
  cases h with
  | known => exact .refl w
  | tried _ hready | panicked _ hready => exact hready.libraryOnly

/-- Worlds that look alike still do after the library was at work. -/
theorem Alike.libraryOnly {l : Likeness E} {v v' : World E} (h : w.Alike l v)
    (hw : w.LibraryOnly w') (hv : v.LibraryOnly v') : w'.Alike l v' := by
  rw [World.Alike, hw.1, hw.2, hv.1, hv.2]
  exact h

end World

namespace Bench

theorem AttachCourse.libraryOnly {b b' : Bench E} {t : List (Event E)}
    {ending : Ending (Except CompileError TransformerId)} (h : b.AttachCourse t ending b') :
    b.world.LibraryOnly b'.world := by
  cases h with
  | held => exact .refl b.world
  | shared _ hshare | refused _ hshare | panicked _ hshare => exact hshare.libraryOnly

theorem transform_libraryOnly (source filename : String) (inputMap : Option Bytes) (b : Bench E) :
    b.world.LibraryOnly (transform source filename inputMap b).state.world := by
  rcases hattach : transformer b with ⟨(e | id) | text, b₁, t⟩ <;>
    have hworld := (transformer_course hattach).libraryOnly <;> rw [transform]
  · rw [Act.bind_of_returned hattach]
    exact hworld
  · rw [Act.bind_of_returned hattach]
    refine hworld.trans ?_
    simp only [Act.get_bind_apply]
    generalize (⟨source, filename, b₁.compiler.options.loader.isSome, inputMap⟩ : Request) = r
    rcases r.perform_cases id b₁.world with
      ⟨ending, hrun⟩ | ⟨runtime, runtime', outcome, library, rest, ending, hlive, hrest, hrun⟩
    · rw [inWorld_apply hrun]
      exact .refl b₁.world
    · rw [inWorld_apply hrun]
      exact ⟨rfl, rfl⟩
  · rw [Act.bind_of_panicked hattach]
    exact hworld

end Bench

/-! ## Transforms that are answered by one rule -/

/-- If the library was asked to transform a text, it answered as the rule says. -/
def Event.Obeys (rule : String → Json.Object → Outcome RawOutput) : Event E → Prop
  | .transform _ source options _ outcome => outcome = rule source options
  | _ => True

namespace Request

/-- How a request ends that a runtime answers. -/
def answered (r : Request) : Outcome RawOutput → Ending (Except CompileError Transformed)
  | .returned (.ok raw) => .returned (r.result raw)
  | .returned (.error e) => .returned (.error (.transformFailed r.filename e))
  | .panicked text => .panicked text

theorem perform_answered (r : Request) {id : TransformerId} {w : World E} {runtime : E.Runtime}
    (h : w.transformers[id]? = some (.live runtime)) :
    ∃ runtime' outcome, .transform id r.source r.options runtime' outcome ∈ (r.perform id w).trace ∧
      (r.perform id w).ending = r.answered outcome := by
  rcases hcall : E.library.transform runtime r.source r.options w.library with
    ⟨outcome, runtime', library⟩
  refine ⟨runtime', outcome, ?_⟩
  rw [perform_of_live h hcall]
  rcases outcome with (e | raw) | text
  · exact ⟨by simp, rfl⟩
  · exact ⟨by simp, rfl⟩
  · exact ⟨by simp, rfl⟩

/-- Two transformers that are live, or are not, answer a request alike if the library
    goes by one rule. -/
theorem perform_obeys {rule : String → Json.Object → Outcome RawOutput} {r : Request}
    {id id' : TransformerId} {w w' : World E}
    (hlive : (∃ runtime, w.transformers[id]? = some (.live runtime)) ↔
      ∃ runtime, w'.transformers[id']? = some (.live runtime))
    (h : ∀ x ∈ (r.perform id w).trace, x.Obeys rule)
    (h' : ∀ x ∈ (r.perform id' w').trace, x.Obeys rule) :
    (r.perform id w).ending = (r.perform id' w').ending := by
  by_cases hruntime : ∃ runtime, w.transformers[id]? = some (.live runtime)
  · obtain ⟨runtime, hruntime⟩ := hruntime
    obtain ⟨runtime', hruntime'⟩ := hlive.1 ⟨runtime, hruntime⟩
    obtain ⟨_, outcome, hx, hending⟩ := r.perform_answered hruntime
    obtain ⟨_, outcome', hx', hending'⟩ := r.perform_answered hruntime'
    have houtcome : outcome = rule r.source r.options := h _ hx
    have houtcome' : outcome' = rule r.source r.options := h' _ hx'
    rw [hending, hending', houtcome, houtcome']
  · rw [perform_of_not_live fun runtime hruntime' => hruntime ⟨runtime, hruntime'⟩,
      perform_of_not_live fun runtime hruntime' => hruntime (hlive.2 ⟨runtime, hruntime'⟩)]

end Request

namespace Bench

variable {b b' : Bench E}

/-- Two compilers have transformers that are both live or both not. -/
def Matched (b b' : Bench E) : Prop :=
  ∃ id id', b.compiler.attachment.id? = some id ∧ b'.compiler.attachment.id? = some id' ∧
    ((∃ runtime, b.world.transformers[id]? = some (.live runtime)) ↔
      ∃ runtime, b'.world.transformers[id']? = some (.live runtime))

theorem transform_of_id? {id : TransformerId} (hid : b.compiler.attachment.id? = some id)
    (source filename : String) (inputMap : Option Bytes) :
    transform source filename inputMap b =
      inWorld (Request.perform ⟨source, filename, b.compiler.options.loader.isSome, inputMap⟩ id)
        b := by
  rw [transform, Act.bind_of_returned (transformer_of_id? hid)]
  simp

/-- Two transforms that are answered by one rule end alike. -/
theorem transform_obeys {rule : String → Json.Object → Outcome RawOutput} (hmatched : b.Matched b')
    (hoptions : b'.compiler.options = b.compiler.options) {source filename : String}
    {inputMap : Option Bytes}
    (h : ∀ x ∈ (transform source filename inputMap b).trace, x.Obeys rule)
    (h' : ∀ x ∈ (transform source filename inputMap b').trace, x.Obeys rule) :
    (transform source filename inputMap b).ending =
      (transform source filename inputMap b').ending := by
  obtain ⟨id, id', hid, hid', hlive⟩ := hmatched
  rw [transform_of_id? hid] at h ⊢
  rw [transform_of_id? hid', hoptions] at h' ⊢
  exact Request.perform_obeys hlive h h'

/-! ## Compiles -/

section
variable {l : Likeness E} {source filename : String} {entry : Bool}

/-- Two compiles in worlds that look alike come to the same if their transforms do. -/
theorem compile_alike (hl : l.Deceives b.compiler.options)
    (hoptions : b'.compiler.options = b.compiler.options) (hworld : b.world.Alike l b'.world)
    (htransform : ∀ e map w w' t, b.compiler.options.mode = .extended →
      b.compiler.options.attempt source filename entry none b.world =
        ⟨.returned (.rejected e map), w, t⟩ →
      b'.compiler.options.attempt source filename entry none b'.world =
        ⟨.returned (.rejected e map), w', t⟩ →
      (transform source filename map { b with world := w }).ending =
        (transform source filename map { b' with world := w' }).ending) :
    (compile source filename entry b).ending = (compile source filename entry b').ending := by
  -- what one attempt comes to, the other one comes to
  have hattempt {source : String} {map : Option Bytes} {w w' v : World E} (hw : w.Alike l w')
      {result : AttemptResult E.Program} {t : List (Event E)}
      (h : b.compiler.options.attempt source filename entry map w = ⟨.returned result, v, t⟩) :
      ∃ v', b'.compiler.options.attempt source filename entry map w' = ⟨.returned result, v', t⟩ ∧
        v.Alike l v' := by
    have halike := CompilerOptions.attempt_respects hl source filename entry map w w' hw
    rw [h] at halike
    rcases hrun : b.compiler.options.attempt source filename entry map w' with ⟨ending, v', t'⟩
    rw [hrun] at halike
    obtain ⟨hending, htrace, hstate⟩ := halike
    cases hending
    cases htrace
    exact ⟨v', hoptions ▸ hrun, hstate⟩
  obtain ⟨first, v, t, hfirst, -, -⟩ :=
    b.compiler.options.attempt_course source filename entry none b.world
  obtain ⟨v', hfirst', hv⟩ := hattempt hworld hfirst
  rcases first with result | ⟨e, map⟩
  · rw [compile_of_decided hfirst, compile_of_decided hfirst']
  cases hmode : b.compiler.options.mode with
  | base =>
    have hmode' : b'.compiler.options.mode = .base := hoptions ▸ hmode
    rw [compile_of_base hmode hfirst, compile_of_base hmode' hfirst']
  | extended =>
    have hmode' : b'.compiler.options.mode = .extended := hoptions ▸ hmode
    have hsame := htransform e map v v' t hmode hfirst hfirst'
    obtain ⟨ending, b₁, u, hu, hoptions₁, -⟩ :=
      transform_course source filename map { b with world := v }
    obtain ⟨ending', b₁', u', hu', hoptions₁', -⟩ :=
      transform_course source filename map { b' with world := v' }
    have hworld₁ : b₁.world.Alike l b₁'.world := by
      have hlibrary := transform_libraryOnly source filename map { b with world := v }
      have hlibrary' := transform_libraryOnly source filename map { b' with world := v' }
      rw [hu] at hlibrary
      rw [hu'] at hlibrary'
      exact hv.libraryOnly hlibrary hlibrary'
    rw [hu, hu'] at hsame
    dsimp only at hsame
    subst hsame
    rcases ending with (error | output) | text
    · rw [compile_of_failed hmode hfirst hu, compile_of_failed hmode' hfirst' hu']
    · obtain ⟨second, w₂, v₂, hsecond, -, -⟩ :=
        b.compiler.options.attempt_course output.code filename entry output.map b₁.world
      obtain ⟨w₂', hsecond', -⟩ := hattempt hworld₁ hsecond
      rw [compile_of_transformed hmode hfirst hu (hoptions₁ ▸ hsecond),
        compile_of_transformed hmode' hfirst' hu' (hoptions₁' ▸ hsecond')]
    · rw [compile_of_panicked hmode hfirst hu, compile_of_panicked hmode' hfirst' hu']

/-- Two compiles whose transforms are answered by one rule end alike. -/
theorem compile_obeys {rule : String → Json.Object → Outcome RawOutput}
    (hl : l.Deceives b.compiler.options) (hoptions : b'.compiler.options = b.compiler.options)
    (hworld : b.world.Alike l b'.world) (hmatched : b.Matched b')
    (h : ∀ x ∈ (compile source filename entry b).trace, x.Obeys rule)
    (h' : ∀ x ∈ (compile source filename entry b').trace, x.Obeys rule) :
    (compile source filename entry b).ending = (compile source filename entry b').ending := by
  -- a transform of a compile is part of what happens during the compile
  have hpart {b : Bench E} (hmode : b.compiler.options.mode = .extended) {e : Rejection}
      {map : Option Bytes} {w : World E} {t : List (Event E)}
      (hfirst : b.compiler.options.attempt source filename entry none b.world =
        ⟨.returned (.rejected e map), w, t⟩) :
      ∀ x ∈ (transform source filename map { b with world := w }).trace,
        x ∈ (compile source filename entry b).trace := by
    obtain ⟨ending, b₁, u, hu, hoptions₁, -⟩ :=
      transform_course source filename map { b with world := w }
    intro x hx
    rw [hu] at hx
    rcases ending with (error | output) | text
    · rw [compile_of_failed hmode hfirst hu]
      exact List.mem_append_right _ (List.mem_cons_of_mem _ hx)
    · obtain ⟨second, w₂, v, hsecond, -, -⟩ :=
        b.compiler.options.attempt_course output.code filename entry output.map b₁.world
      rw [compile_of_transformed hmode hfirst hu (hoptions₁ ▸ hsecond)]
      exact List.mem_append_right _ (List.mem_cons_of_mem _ (List.mem_append_left _ hx))
    · rw [compile_of_panicked hmode hfirst hu]
      exact List.mem_append_right _ (List.mem_cons_of_mem _ hx)
  refine compile_alike hl hoptions hworld fun e map w w' t hmode hfirst hfirst' => ?_
  -- attempts leave the transformers alone
  have hledger {o : CompilerOptions E} {w w' : World E} {result : AttemptResult E.Program}
      (hrun : o.attempt source filename entry none w = ⟨.returned result, w', t⟩) :
      w'.transformers = w.transformers := by
    obtain ⟨result', w₁, t₁, hrun₁, hw, -⟩ := o.attempt_course source filename entry none w
    cases hrun.symm.trans hrun₁
    exact congrArg Ledger.transformers hw.ledger_eq
  have hmatched₁ : Matched { b with world := w } { b' with world := w' } := by
    obtain ⟨id, id', hid, hid', hlive⟩ := hmatched
    refine ⟨id, id', hid, hid', ?_⟩
    rw [hledger hfirst, hledger hfirst']
    exact hlive
  have hmode' : b'.compiler.options.mode = .extended := hoptions ▸ hmode
  exact transform_obeys hmatched₁ hoptions (fun x hx => h x (hpart hmode hfirst x hx))
    fun x hx => h' x (hpart hmode' hfirst' x hx)

end

end Bench

end Downlevel
