/-
  Downlevel — the courses of a start.

  Whoever needs a transformer first gets hold of the build and then has a
  runtime started; whoever needs the shared one does so only while there is
  none.  `BuildCourse`, `StartCourse`, `ReadyCourse` and `ShareCourse` list how
  that may go, with the world before and after, and each of them keeps to the
  ledger of the world (`World.Keeps`).
-/
import Downlevel.Proofs.Transform.Course
import Downlevel.Proofs.World.Ledger

namespace Downlevel

variable {E : Engines}

/-! ## Keeping to the ledger -/

/-- What happened in the world `w` was allowed there, and the world knows what was
    entered. -/
def World.Keeps (w : World E) (t : List (Event E)) (w' : World E) : Prop :=
  w.ledger.Admits t ∧ w'.ledger = w.ledger.after t

namespace World.Keeps

variable {w w₁ w' : World E} {t u : List (Event E)}

theorem of_ledger_eq (h : w'.ledger = w.ledger) (ht : ∀ e ∈ t, ¬ e.isLibrary) : w.Keeps t w' := by
  obtain ⟨hadmits, hafter⟩ := Ledger.after_of_not_isLibrary (l := w.ledger) ht
  exact ⟨hadmits, by rw [h, hafter]⟩

theorem refl (w : World E) : w.Keeps [] w := of_ledger_eq rfl nofun

theorem trans (h : w.Keeps t w₁) (h' : w₁.Keeps u w') : w.Keeps (t ++ u) w' := by
  refine ⟨Ledger.admits_append.2 ⟨h.1, h.2 ▸ h'.1⟩, ?_⟩
  rw [Ledger.after_append, ← h.2, h'.2]

theorem coherent (h : w.Keeps t w') (hw : w.ledger.Coherent) : w'.ledger.Coherent :=
  h.2 ▸ hw.after h.1

/-- A build that is known stays, and nobody builds again. -/
theorem build_eq (h : w.Keeps t w') {built : Except EngineFailure E.Bytecode}
    (hbuild : w.build = some built) : w'.build = some built ∧ ∀ e ∈ t, ¬ e.isBuild := by
  obtain ⟨hafter, hnone⟩ := Ledger.build_after_of_some h.1 (show w.ledger.build = _ from hbuild)
  rw [← h.2] at hafter
  exact ⟨hafter, hnone⟩

/-- What is started is started with the build that is known in the end. -/
theorem build_of_start (h : w.Keeps t w') {bytecode : E.Bytecode} {outcome : Outcome E.Runtime}
    (hstart : .start bytecode outcome ∈ t) : w'.build = some (.ok bytecode) := by
  obtain ⟨before, after, rfl⟩ := List.append_of_mem hstart
  have hbuilt := Ledger.build_before_start h.1 before _ after rfl bytecode outcome rfl
  rw [show w'.build = w'.ledger.build from rfl, h.2, Ledger.build_after h.1]
  exact hbuilt.imp id (List.mem_append_left _)

/-- A shared transformer that is known stays, and nobody starts it again. -/
theorem shared_eq (h : w.Keeps t w') (hw : w.ledger.Coherent)
    {started : Except EngineFailure TransformerId} (hshared : w.shared = some started) :
    w'.shared = some started ∧ ∀ e ∈ t, ¬ e.isSharing := by
  obtain ⟨hafter, -, hnone⟩ := hw.shared_after_of_some h.1 hshared
  rw [← h.2] at hafter
  exact ⟨hafter, hnone⟩

theorem length_le (h : w.Keeps t w') : w.transformers.length ≤ w'.transformers.length := by
  have hle := Ledger.length_transformers_le (l := w.ledger) (t := t)
  rw [← h.2] at hle
  exact hle

/-- A transformer that is not the shared one does not become it later. -/
theorem shared_ne (h : w.Keeps t w') {id : TransformerId} (hid : id < w.transformers.length)
    (hne : w.shared ≠ some (.ok id)) : w'.shared ≠ some (.ok id) := by
  intro hshared
  rw [show w'.shared = w'.ledger.shared from rfl, h.2] at hshared
  rcases Ledger.le_of_shared_after hshared with hbefore | hle
  · exact hne hbefore
  · exact absurd hid (Nat.not_lt.2 hle)

/-- A transformer that no call reaches stays what it is. -/
theorem getElem?_eq (h : w.Keeps t w') {id : TransformerId} (hid : id < w.transformers.length)
    (ht : ∀ e ∈ t, ¬ e.reaches id) : w'.transformers[id]? = w.transformers[id]? := by
  rw [show w'.transformers = w'.ledger.transformers from rfl, h.2]
  exact Ledger.getElem?_after hid ht

end World.Keeps

/-! ## Getting hold of the build -/

namespace World

/-- How getting hold of the build may go. -/
inductive BuildCourse (w : World E) : List (Event E) → Outcome E.Bytecode → World E → Prop
  | known {built} : w.build = some built → BuildCourse w [] (.returned built) w
  | built {built library} : w.build = none →
      BuildCourse w [.log .building, .build (.returned built)] (.returned built)
        { w with library := library, build := some built }
  | panicked {text library} : w.build = none →
      BuildCourse w [.log .building, .build (.panicked text)] (.panicked text)
        { w with library := library }

/-- How a start with a build may go. -/
inductive StartCourse (bytecode : E.Bytecode) (w : World E) :
    List (Event E) → Outcome TransformerId → World E → Prop
  | started {runtime library} :
      StartCourse bytecode w [.start bytecode (.returned (.ok runtime))]
        (.returned (.ok w.transformers.length))
        { w with library := library, transformers := w.transformers ++ [.live runtime] }
  | refused {e library} :
      StartCourse bytecode w [.start bytecode (.returned (.error e))] (.returned (.error e))
        { w with library := library }
  | panicked {text library} :
      StartCourse bytecode w [.start bytecode (.panicked text)] (.panicked text)
        { w with library := library }

/-- How a start may go. -/
inductive ReadyCourse (w : World E) : List (Event E) → Outcome TransformerId → World E → Prop
  /-- There is no build. -/
  | refused {t e w'} : BuildCourse w t (.returned (.error e)) w' →
      ReadyCourse w t (.returned (.error e)) w'
  | panicked {t text w'} : BuildCourse w t (.panicked text) w' →
      ReadyCourse w t (.panicked text) w'
  | built {t bytecode w₁ u outcome w'} : BuildCourse w t (.returned (.ok bytecode)) w₁ →
      StartCourse bytecode w₁ u outcome w' → ReadyCourse w (t ++ u) outcome w'

/-- How getting hold of the shared transformer may go. -/
inductive ShareCourse (w : World E) : List (Event E) → Outcome TransformerId → World E → Prop
  | known {started} : w.shared = some started → ShareCourse w [] (.returned started) w
  | tried {t started w'} : w.shared = none → ReadyCourse w t (.returned started) w' →
      ShareCourse w (.log .startingShared :: t) (.returned started)
        { w' with shared := some started }
  | panicked {t text w'} : w.shared = none → ReadyCourse w t (.panicked text) w' →
      ShareCourse w (.log .startingShared :: t) (.panicked text) w'

end World

section
variable {w w' : World E} {t : List (Event E)}

theorem obtainBuild_course {outcome : Outcome E.Bytecode} (h : obtainBuild w = ⟨outcome, w', t⟩) :
    w.BuildCourse t outcome w' := by
  cases hbuild : w.build with
  | some built =>
    simp only [obtainBuild, Act.get_bind_apply, hbuild, Act.pure_apply] at h
    cases h
    exact .known hbuild
  | none =>
    have hcall := callBuild_apply w
    simp only [obtainBuild, Act.get_bind_apply, hbuild, Act.emit_bind_apply] at h
    rcases houtcome : (E.library.build w.library).1 with built | text <;> rw [houtcome] at hcall
    · rw [Act.bind_of_returned hcall] at h
      cases h
      exact .built hbuild
    · rw [Act.bind_of_panicked hcall] at h
      cases h
      exact .panicked hbuild

theorem startWith_course {bytecode : E.Bytecode} {outcome : Outcome TransformerId}
    (h : startWith bytecode w = ⟨outcome, w', t⟩) : w.StartCourse bytecode t outcome w' := by
  have hcall := callStart_apply bytecode w
  rw [startWith] at h
  rcases houtcome : (E.library.start bytecode w.library).1 with (e | runtime) | text <;>
    rw [houtcome] at hcall
  · rw [Act.bind_of_returned hcall] at h
    cases h
    exact .refused
  · rw [Act.bind_of_returned hcall] at h
    cases h
    exact .started
  · rw [Act.bind_of_panicked hcall] at h
    cases h
    exact .panicked

theorem startTransformer_course {outcome : Outcome TransformerId}
    (h : startTransformer w = ⟨outcome, w', t⟩) : w.ReadyCourse t outcome w' := by
  rw [startTransformer] at h
  rcases hbuild : obtainBuild w with ⟨(e | bytecode) | text, w₁, t₁⟩
  · rw [Act.bind_of_returned hbuild] at h
    simp only [Act.pure_apply, List.append_nil] at h
    cases h
    exact .refused (obtainBuild_course hbuild)
  · rw [Act.bind_of_returned hbuild] at h
    cases h
    exact .built (obtainBuild_course hbuild) (startWith_course rfl)
  · rw [Act.bind_of_panicked hbuild] at h
    cases h
    exact .panicked (obtainBuild_course hbuild)

theorem sharedTransformer_course {outcome : Outcome TransformerId}
    (h : sharedTransformer w = ⟨outcome, w', t⟩) : w.ShareCourse t outcome w' := by
  cases hshared : w.shared with
  | some started =>
    simp only [sharedTransformer, Act.get_bind_apply, hshared, Act.pure_apply] at h
    cases h
    exact .known hshared
  | none =>
    simp only [sharedTransformer, Act.get_bind_apply, hshared, Act.emit_bind_apply] at h
    rcases hrun : startTransformer w with ⟨started | text, w₁, t₁⟩
    · rw [Act.bind_of_returned hrun] at h
      simp only [Act.modify_bind_apply, Act.pure_apply, List.append_nil] at h
      cases h
      exact .tried hshared (startTransformer_course hrun)
    · rw [Act.bind_of_panicked hrun] at h
      cases h
      exact .panicked hshared (startTransformer_course hrun)

end

namespace World

variable {w w' : World E} {t : List (Event E)}

theorem BuildCourse.keeps {outcome : Outcome E.Bytecode} (h : w.BuildCourse t outcome w') :
    w.Keeps t w' := by
  cases h with
  | known => exact .refl w
  | @built built library hnone =>
    rcases built with e | bytecode
    · exact ⟨⟨hnone, hnone, trivial⟩, rfl⟩
    · exact ⟨⟨hnone, hnone, trivial⟩, rfl⟩
  | panicked hnone => exact ⟨⟨hnone, hnone, trivial⟩, rfl⟩

theorem StartCourse.keeps {bytecode : E.Bytecode} {outcome : Outcome TransformerId}
    (hbuild : w.build = some (.ok bytecode)) (h : w.StartCourse bytecode t outcome w') :
    w.Keeps t w' := by
  cases h with
  | started | refused | panicked => exact ⟨⟨hbuild, trivial⟩, rfl⟩

/-- A start leaves the build alone. -/
theorem StartCourse.build_eq {bytecode : E.Bytecode} {outcome : Outcome TransformerId}
    (h : w.StartCourse bytecode t outcome w') : w'.build = w.build := by
  cases h <;> rfl

/-- A build that somebody got hold of is known. -/
theorem BuildCourse.build_eq {built : Except EngineFailure E.Bytecode}
    (h : w.BuildCourse t (.returned built) w') : w'.build = some built := by
  cases h with
  | known hbuild => exact hbuild
  | built => rfl

/-- Who wants a build that is known is told of it, and nothing is done. -/
theorem BuildCourse.of_some {outcome : Outcome E.Bytecode} (h : w.BuildCourse t outcome w')
    {built : Except EngineFailure E.Bytecode} (hbuild : w.build = some built) :
    outcome = .returned built ∧ t = [] ∧ w' = w := by
  cases h with
  | known hknown =>
    cases hbuild.symm.trans hknown
    exact ⟨rfl, rfl, rfl⟩
  | built hnone | panicked hnone => exact absurd (hbuild.symm.trans hnone) nofun

theorem ReadyCourse.keeps {outcome : Outcome TransformerId} (h : w.ReadyCourse t outcome w') :
    w.Keeps t w' := by
  cases h with
  | refused hbuild | panicked hbuild => exact hbuild.keeps
  | built hbuild hstart => exact hbuild.keeps.trans (hstart.keeps hbuild.build_eq)

/-- A transformer that was started is there. -/
theorem ReadyCourse.lt {id : TransformerId} (h : w.ReadyCourse t (.returned (.ok id)) w') :
    id < w'.transformers.length := by
  cases h with
  | built _ hstart =>
    cases hstart with
    | started => simp

/-- A transformer that was started is a new one. -/
theorem ReadyCourse.le {id : TransformerId} (h : w.ReadyCourse t (.returned (.ok id)) w') :
    w.transformers.length ≤ id := by
  cases h with
  | built hbuild hstart =>
    cases hstart with
    | started => cases hbuild <;> exact Nat.le_refl _

/-- After a failed build nothing is started. -/
theorem ReadyCourse.of_error {outcome : Outcome TransformerId} (h : w.ReadyCourse t outcome w')
    {error : EngineFailure} (hbuild : w.build = some (.error error)) :
    t = [] ∧ outcome = .returned (.error error) ∧ w' = w := by
  cases h with
  | refused h =>
    obtain ⟨⟨⟩, rfl, rfl⟩ := h.of_some hbuild
    exact ⟨rfl, rfl, rfl⟩
  | panicked h | built h => cases (h.of_some hbuild).1

/-- With a build at hand a transformer is started by a single call. -/
theorem ReadyCourse.of_built {outcome : Outcome TransformerId} (h : w.ReadyCourse t outcome w')
    {bytecode : E.Bytecode} (hbuild : w.build = some (.ok bytecode)) :
    w.StartCourse bytecode t outcome w' := by
  cases h with
  | refused h | panicked h => cases (h.of_some hbuild).1
  | built h hstart =>
    obtain ⟨⟨⟩, rfl, rfl⟩ := h.of_some hbuild
    exact hstart

/-- A start for the sake of the shared transformer settles it. -/
theorem ReadyCourse.settles {outcome : Outcome TransformerId} (h : w.ReadyCourse t outcome w')
    (hbuild : ∀ error, w.build ≠ some (.error error)) :
    let l : Ledger E := { w.ledger with sharing := true }
    l.Admits t ∧ l.after t = ({ w'.ledger with sharing := true } : Ledger E).settle outcome := by
  cases h with
  | refused h =>
    cases h with
    | known hknown => exact absurd hknown (hbuild _)
    | built hnone => exact ⟨⟨hnone, hnone, trivial⟩, rfl⟩
  | panicked h =>
    cases h with
    | panicked hnone => exact ⟨⟨hnone, hnone, trivial⟩, rfl⟩
  | built h hstart =>
    cases h with
    | known hknown => cases hstart <;> exact ⟨⟨hknown, trivial⟩, rfl⟩
    | built hnone => cases hstart <;> exact ⟨⟨hnone, hnone, rfl, trivial⟩, rfl⟩

theorem ledger_share {error : EngineFailure} (h : w.build = some (.error error)) :
    w.ledger.share = { w.ledger with shared := some (.error error) } := by
  simp [Ledger.share, ledger, h]

theorem ledger_share_of_ne (h : ∀ error, w.build ≠ some (.error error)) :
    w.ledger.share = { w.ledger with sharing := true } := by
  unfold Ledger.share
  split
  · next error hbuild => exact absurd hbuild (h error)
  · rfl

theorem ShareCourse.keeps {outcome : Outcome TransformerId} (h : w.ShareCourse t outcome w') :
    w.Keeps t w' := by
  have hcases : (∃ error, w.build = some (.error error)) ∨ ∀ error, w.build ≠ some (.error error) :=
    (Classical.em _).imp id fun h error herror => h ⟨error, herror⟩
  cases h with
  | known => exact .refl w
  | tried hnone hready =>
    rcases hcases with ⟨error, hbuild⟩ | hbuild
    · obtain ⟨rfl, houtcome, rfl⟩ := hready.of_error hbuild
      cases houtcome
      exact ⟨⟨hnone, trivial⟩, (ledger_share hbuild).symm⟩
    · obtain ⟨hadmits, hafter⟩ := hready.settles hbuild
      rw [← ledger_share_of_ne hbuild] at hadmits hafter
      exact ⟨⟨hnone, hadmits⟩, hafter.symm⟩
  | panicked hnone hready =>
    rcases hcases with ⟨error, hbuild⟩ | hbuild
    · obtain ⟨-, houtcome, -⟩ := hready.of_error hbuild
      cases houtcome
    · obtain ⟨hadmits, hafter⟩ := hready.settles hbuild
      rw [← ledger_share_of_ne hbuild] at hadmits hafter
      exact ⟨⟨hnone, hadmits⟩, hafter.symm⟩

end World

end Downlevel
