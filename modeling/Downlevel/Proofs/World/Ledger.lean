/-
  Downlevel — the ledger of the transform library.

  What a world knows of the transform library can be read off the record of
  what happened.  `Ledger` is this knowledge, `Ledger.enter` enters an event,
  and `Ledger.Allows` says what may happen: the library is built only while
  there is no build, a runtime is started only with the build there is, the
  shared transformer only while there is none, and a transform reaches only a
  runtime that is live.  `Ledger.Admits` carries this along a record.

  What follows holds of every record that is admitted, whoever made it:

  * `build_after`, `pairwise_isBuild`, `build_before_start`: one build, which
    all starts are given;
  * `Coherent.shared_after_of_some`, `Coherent.sharedStarts_eq`: one shared transformer;
  * `retired_after`, `pairwise_reaches`: a panic retires a runtime, and nothing
    else does.
-/
import Downlevel.Proofs.Events
import Downlevel.Transform.Perform

namespace Downlevel

variable {E : Engines}

/-! ## Kinds of events -/

namespace Event

/-- A build of the library returned, a success or a failure. -/
def isBuilt : Event E → Bool
  | .build (.returned _) => true
  | _ => false

/-- Somebody is about to start the shared transformer. -/
def isSharing : Event E → Bool
  | .log .startingShared => true
  | _ => false

/-- Whether the shared transformer is being started after an event, if `sharing`
    says whether it was before. -/
def sharingAfter (sharing : Bool) : Event E → Bool
  | .log .startingShared => true
  | .start .. | .build (.panicked _) | .build (.returned (.error _)) => false
  | _ => sharing

/-- A runtime was started. -/
def isStarted : Event E → Bool
  | .start _ (.returned (.ok _)) => true
  | _ => false

/-- A call reached the runtime of transformer `id`. -/
def reaches (id : TransformerId) : Event E → Bool
  | .transform id' .. => id' = id
  | _ => false

/-- The runtime of transformer `id` panicked. -/
def retires (id : TransformerId) : Event E → Bool
  | .transform id' _ _ _ (.panicked _) => id' = id
  | _ => false

theorem isBuilt_iff {e : Event E} : e.isBuilt ↔ ∃ built, e = .build (.returned built) := by
  unfold isBuilt
  split <;> simp_all

theorem isSharing_iff {e : Event E} : e.isSharing ↔ e = .log .startingShared := by
  unfold isSharing
  split <;> simp_all

theorem reaches_iff {id : TransformerId} {e : Event E} :
    e.reaches id ↔ ∃ source options runtime outcome,
      e = .transform id source options runtime outcome := by
  cases e <;> simp [reaches]

theorem retires_iff {id : TransformerId} {e : Event E} :
    e.retires id ↔ ∃ source options runtime text,
      e = .transform id source options runtime (.panicked text) := by
  unfold retires
  split <;> simp_all

/-- A runtime panics only when it is called. -/
theorem reaches_of_retires {id : TransformerId} {e : Event E} (h : e.retires id) : e.reaches id := by
  obtain ⟨source, options, runtime, text, rfl⟩ := retires_iff.1 h
  exact decide_eq_true rfl

/-- What an event can be for the transform library. -/
theorem library_cases (e : Event E) :
    ¬ e.isLibrary ∨ e = .log .building ∨ e = .log .startingShared ∨
      (∃ outcome, e = .build outcome) ∨ (∃ bytecode outcome, e = .start bytecode outcome) ∨
      ∃ id source options runtime outcome, e = .transform id source options runtime outcome := by
  cases e with
  | log entry => cases entry <;> simp [isLibrary, isStartUp, isTransform]
  | build | start | transform => simp
  | _ => simp [isLibrary, isStartUp, isTransform]

end Event

/-- How often the shared transformer is started; `sharing` says whether somebody is
    about to do so at first. -/
def sharedStarts : Bool → List (Event E) → Nat
  | _, [] => 0
  | sharing, e :: t => (sharing && e.isStarted).toNat + sharedStarts (e.sharingAfter sharing) t

/-! ## Ledgers -/

/-- What is known of the transform library. -/
structure Ledger (E : Engines) where
  build : Option (Except EngineFailure E.Bytecode)
  shared : Option (Except EngineFailure TransformerId)
  /-- The shared transformer is being started. -/
  sharing : Bool
  transformers : List (Transformer E.Runtime)

/-- The ledger of a world in which nobody is at work. -/
def World.ledger (w : World E) : Ledger E := ⟨w.build, w.shared, false, w.transformers⟩

namespace Ledger

/-- A start was tried.  It decides what the shared transformer is if it was
    tried for its sake; a panic decides nothing. -/
def settle (l : Ledger E) : Outcome TransformerId → Ledger E
  | .returned started =>
    if l.sharing then { l with shared := some started, sharing := false } else l
  | .panicked _ => { l with sharing := false }

/-- Somebody is about to start the shared transformer.  There is nothing to be
    done if the build is known to have failed. -/
def share (l : Ledger E) : Ledger E :=
  match l.build with
  | some (.error e) => { l with shared := some (.error e) }
  | _ => { l with sharing := true }

/-- Enters an event. -/
def enter (l : Ledger E) : Event E → Ledger E
  | .log .startingShared => l.share
  | .build (.returned (.ok bytecode)) => { l with build := some (.ok bytecode) }
  | .build (.returned (.error e)) => { l.settle (.returned (.error e)) with build := some (.error e) }
  | .build (.panicked text) => l.settle (.panicked text)
  | .start _ (.returned (.ok runtime)) =>
    { l.settle (.returned (.ok l.transformers.length)) with
      transformers := l.transformers ++ [.live runtime] }
  | .start _ (.returned (.error e)) => l.settle (.returned (.error e))
  | .start _ (.panicked text) => l.settle (.panicked text)
  | .transform id _ _ runtime outcome =>
    { l with transformers := l.transformers.set id (.after runtime outcome) }
  | _ => l

/-- What may happen. -/
def Allows (l : Ledger E) : Event E → Prop
  | .log .building | .build _ => l.build = none
  | .log .startingShared => l.shared = none
  | .start bytecode _ => l.build = some (.ok bytecode)
  | .transform id .. => ∃ runtime, l.transformers[id]? = some (.live runtime)
  | _ => True

/-- Whether the shared transformer is started by this event. -/
def opens (l : Ledger E) : Event E → Bool
  | .start _ (.returned (.ok _)) => l.sharing
  | _ => false

/-- The ledger after these events. -/
def after (l : Ledger E) (t : List (Event E)) : Ledger E := t.foldl enter l

/-- Each of these events may happen when it does. -/
def Admits (l : Ledger E) : List (Event E) → Prop
  | [] => True
  | e :: t => l.Allows e ∧ (l.enter e).Admits t

variable {l : Ledger E} {e : Event E} {t u : List (Event E)}

@[simp] theorem after_nil : l.after [] = l := rfl

@[simp] theorem after_cons : l.after (e :: t) = (l.enter e).after t := rfl

theorem after_append : l.after (t ++ u) = (l.after t).after u := List.foldl_append

@[simp] theorem admits_nil : l.Admits [] := trivial

@[simp] theorem admits_cons : l.Admits (e :: t) ↔ l.Allows e ∧ (l.enter e).Admits t := .rfl

theorem admits_append : l.Admits (t ++ u) ↔ l.Admits t ∧ (l.after t).Admits u := by
  induction t generalizing l with
  | nil => simp
  | cons e t ih => rw [List.cons_append, admits_cons, admits_cons, ih, after_cons, and_assoc]

/-- What is no call of the library may always happen, and is not entered. -/
theorem enter_of_not_isLibrary (h : ¬ e.isLibrary) : l.Allows e ∧ l.enter e = l := by
  match e with
  | .parse .. | .load .. | .map .. | .verdict _ | .compile .. => exact ⟨trivial, rfl⟩
  | .build _ | .start .. | .transform .. => exact absurd rfl h
  | .log entry =>
    cases entry with
    | building | startingShared => exact absurd rfl h
    | poolReady | transforming | transformed | mapMissing | inputMapIgnored | compilerDropped =>
      exact ⟨trivial, rfl⟩

theorem after_of_not_isLibrary (h : ∀ e ∈ t, ¬ e.isLibrary) : l.Admits t ∧ l.after t = l := by
  induction t with
  | nil => exact ⟨trivial, rfl⟩
  | cons e t ih =>
    obtain ⟨hallows, henter⟩ := enter_of_not_isLibrary (l := l) (h e (by simp))
    rw [admits_cons, after_cons, henter]
    have hrest := ih fun x hx => h x (List.mem_cons_of_mem e hx)
    exact ⟨⟨hallows, hrest.1⟩, hrest.2⟩

@[simp] theorem share_build : l.share.build = l.build := by
  unfold share
  split <;> rfl

@[simp] theorem share_transformers : l.share.transformers = l.transformers := by
  unfold share
  split <;> rfl

@[simp] theorem settle_build (outcome : Outcome TransformerId) :
    (l.settle outcome).build = l.build := by
  unfold settle
  split
  · split <;> rfl
  · rfl

@[simp] theorem settle_transformers (outcome : Outcome TransformerId) :
    (l.settle outcome).transformers = l.transformers := by
  unfold settle
  split
  · split <;> rfl
  · rfl

/-! ## The build -/

/-- Only a build that returns changes what is known of the build, and it does so
    only while nothing is known. -/
theorem build_enter (h : l.Allows e) :
    (∃ built, e = .build (.returned built) ∧ l.build = none ∧ (l.enter e).build = some built) ∨
      (¬ e.isBuilt ∧ (l.enter e).build = l.build) := by
  rcases e.library_cases with hother | rfl | rfl | ⟨outcome, rfl⟩ | ⟨bytecode, outcome, rfl⟩ |
    ⟨id, source, options, runtime, outcome, rfl⟩
  · refine .inr ⟨fun hbuilt => ?_, by rw [(enter_of_not_isLibrary hother).2]⟩
    obtain ⟨built, rfl⟩ := Event.isBuilt_iff.1 hbuilt
    exact hother rfl
  · exact .inr ⟨nofun, rfl⟩
  · exact .inr ⟨nofun, share_build⟩
  · rcases outcome with (e | bytecode) | text
    · exact .inl ⟨_, rfl, h, rfl⟩
    · exact .inl ⟨_, rfl, h, rfl⟩
    · exact .inr ⟨nofun, settle_build _⟩
  · refine .inr ⟨nofun, ?_⟩
    rcases outcome with (e | runtime) | text
    · exact settle_build _
    · exact settle_build _
    · exact settle_build _
  · exact .inr ⟨nofun, rfl⟩

/-- A build that is known stays as it is. -/
theorem build_after_of_some (h : l.Admits t) {built : Except EngineFailure E.Bytecode}
    (hbuild : l.build = some built) : (l.after t).build = some built ∧ ∀ e ∈ t, ¬ e.isBuild := by
  induction t generalizing l with
  | nil => exact ⟨hbuild, nofun⟩
  | cons e t ih =>
    obtain ⟨hallows, hrest⟩ := h
    have hnone : ¬ e.isBuild := by
      intro he
      obtain ⟨outcome, rfl⟩ := Event.isBuild_iff.1 he
      exact absurd (hbuild.symm.trans hallows) nofun
    rcases build_enter hallows with ⟨_, -, hunbuilt, -⟩ | ⟨-, hsame⟩
    · rw [hbuild] at hunbuilt
      cases hunbuilt
    · obtain ⟨hafter, hothers⟩ := ih hrest (hsame.trans hbuild)
      exact ⟨hafter, List.forall_mem_cons.2 ⟨hnone, hothers⟩⟩

/-- What is known of the build is what was known or what a build returned. -/
theorem build_after (h : l.Admits t) {built : Except EngineFailure E.Bytecode} :
    (l.after t).build = some built ↔
      l.build = some built ∨ .build (.returned built) ∈ t := by
  induction t generalizing l with
  | nil => simp
  | cons e t ih =>
    obtain ⟨hallows, hrest⟩ := h
    rcases build_enter hallows with ⟨built', rfl, hnone, hbuilt⟩ | ⟨hbuilt, hsame⟩
    · rw [after_cons, (build_after_of_some hrest hbuilt).1, hnone]
      have hothers := (build_after_of_some hrest hbuilt).2
      constructor
      · rintro ⟨⟩
        exact .inr (by simp)
      · rintro (h | h)
        · cases h
        rcases List.mem_cons.1 h with h | h
        · cases h
          rfl
        · exact absurd rfl (hothers _ h)
    · rw [after_cons, ih hrest, hsame, List.mem_cons]
      have hne : Event.build (.returned built) ≠ e := by
        rintro rfl
        exact hbuilt rfl
      simp [hne]

/-- Behind a build that returned there is no other build. -/
theorem pairwise_isBuild (h : l.Admits t) :
    t.Pairwise fun x y => x.isBuilt → ¬ y.isBuild := by
  induction t generalizing l with
  | nil => exact .nil
  | cons e t ih =>
    obtain ⟨hallows, hrest⟩ := h
    refine .cons (fun x hx he => ?_) (ih hrest)
    rcases build_enter hallows with ⟨_, -, -, hbuilt⟩ | ⟨hnot, -⟩
    · exact (build_after_of_some hrest hbuilt).2 x hx
    · exact absurd he hnot

/-- One build returns at most. -/
theorem countP_isBuilt_le (h : l.Admits t) : t.countP Event.isBuilt ≤ 1 := by
  induction t generalizing l with
  | nil => simp
  | cons e t ih =>
    rw [List.countP_cons]
    by_cases he : e.isBuilt
    · have hnone : t.countP Event.isBuilt = 0 := by
        rw [List.countP_eq_zero]
        intro x hx hbuilt
        obtain ⟨built, rfl⟩ := Event.isBuilt_iff.1 hbuilt
        exact List.rel_of_pairwise_cons (pairwise_isBuild h) hx he rfl
      rw [if_pos he]
      omega
    · rw [if_neg he]
      exact ih h.2

/-- All starts are given what the build returned. -/
theorem build_before_start (h : l.Admits t) :
    Throughout (fun before e _ => ∀ bytecode outcome, e = .start bytecode outcome →
      l.build = some (.ok bytecode) ∨ .build (.returned (.ok bytecode)) ∈ before) t := by
  rintro before e after rfl bytecode outcome rfl
  obtain ⟨hbefore, hstart⟩ := admits_append.1 h
  exact (build_after hbefore).1 hstart.1

/-! ## The shared transformer -/

/-- What is known of the shared transformer agrees with the rest. -/
structure Coherent (l : Ledger E) : Prop where
  started (id) : l.shared = some (.ok id) →
    id < l.transformers.length ∧ ∃ bytecode, l.build = some (.ok bytecode)
  refused (error) : l.shared = some (.error error) →
    l.build = some (.error error) ∨ ∃ bytecode, l.build = some (.ok bytecode)
  sharing : l.sharing → l.shared = none ∧ ∀ error, l.build ≠ some (.error error)

/-- Without a build there is no shared transformer. -/
theorem Coherent.shared_eq_none (hl : l.Coherent) (h : l.build = none) : l.shared = none := by
  rcases hshared : l.shared with _ | e | id
  · rfl
  · rcases hl.refused e hshared with h' | ⟨_, h'⟩ <;> rw [h] at h' <;> cases h'
  · obtain ⟨-, _, h'⟩ := hl.started id hshared
    rw [h] at h'
    cases h'

/-- A start of the shared transformer is settled while there is none. -/
theorem Coherent.settle_shared (hl : l.Coherent) (started : Except EngineFailure TransformerId) :
    (l.sharing = false ∧ l.settle (.returned started) = l) ∨
      (l.sharing = true ∧ l.shared = none ∧
        l.settle (.returned started) = { l with shared := some started, sharing := false }) := by
  cases hsharing : l.sharing with
  | false => exact .inl ⟨rfl, by simp [settle, hsharing]⟩
  | true => exact .inr ⟨rfl, (hl.sharing hsharing).1, by simp [settle, hsharing]⟩

theorem Coherent.share (hl : l.Coherent) (hnone : l.shared = none) : l.share.Coherent := by
  rcases hbuild : l.build with _ | error | bytecode
  · have hshare : l.share = { l with sharing := true } := by simp [Ledger.share, hbuild]
    rw [hshare]
    exact ⟨hl.started, hl.refused, fun _ => ⟨hnone, fun error he => by rw [hbuild] at he; cases he⟩⟩
  · have hshare : l.share = { l with shared := some (.error error) } := by
      simp [Ledger.share, hbuild]
    rw [hshare]
    refine ⟨nofun, ?_, fun hsharing => absurd hbuild ((hl.sharing hsharing).2 error)⟩
    rintro _ ⟨⟩
    exact .inl hbuild
  · have hshare : l.share = { l with sharing := true } := by simp [Ledger.share, hbuild]
    rw [hshare]
    exact ⟨hl.started, hl.refused, fun _ => ⟨hnone, fun error he => by rw [hbuild] at he; cases he⟩⟩

theorem Coherent.enter_build (hl : l.Coherent) (hbuild : l.build = none)
    (outcome : Outcome E.Bytecode) : (l.enter (.build outcome)).Coherent := by
  have hnone := hl.shared_eq_none hbuild
  rcases outcome with (error | bytecode) | text
  · show ({ l.settle (.returned (.error error)) with build := some (.error error) } :
      Ledger E).Coherent
    rcases hl.settle_shared (.error error) with ⟨hsharing, hsettle⟩ | ⟨-, -, hsettle⟩ <;>
      rw [hsettle]
    · exact ⟨fun id h => absurd (hnone.symm.trans h) nofun,
        fun error h => absurd (hnone.symm.trans h) nofun,
        fun h => absurd (hsharing.symm.trans h) nofun⟩
    · refine ⟨nofun, ?_, nofun⟩
      rintro _ ⟨⟩
      exact .inl rfl
  · exact ⟨fun id h => absurd (hnone.symm.trans h) nofun,
      fun error h => absurd (hnone.symm.trans h) nofun, fun _ => ⟨hnone, nofun⟩⟩
  · exact ⟨hl.started, hl.refused, nofun⟩

theorem Coherent.enter_start (hl : l.Coherent) {bytecode : E.Bytecode}
    (hbuild : l.build = some (.ok bytecode)) (outcome : Outcome E.Runtime) :
    (l.enter (.start bytecode outcome)).Coherent := by
  rcases outcome with (error | runtime) | text
  · show (l.settle (.returned (.error error))).Coherent
    rcases hl.settle_shared (.error error) with ⟨-, hsettle⟩ | ⟨-, -, hsettle⟩ <;> rw [hsettle]
    · exact hl
    · exact ⟨nofun, fun _ _ => .inr ⟨bytecode, hbuild⟩, nofun⟩
  · show ({ l.settle (.returned (.ok l.transformers.length)) with
      transformers := l.transformers ++ [.live runtime] } : Ledger E).Coherent
    rcases hl.settle_shared (.ok l.transformers.length) with ⟨-, hsettle⟩ | ⟨-, -, hsettle⟩ <;>
      rw [hsettle]
    · refine ⟨fun id hid => ?_, hl.refused, hl.sharing⟩
      obtain ⟨hlt, hbuilt⟩ := hl.started id hid
      exact ⟨by simpa using Nat.lt_succ_of_lt hlt, hbuilt⟩
    · -- the new transformer is the last one
      refine ⟨?_, nofun, nofun⟩
      rintro _ ⟨⟩
      exact ⟨by simp, bytecode, hbuild⟩
  · exact ⟨hl.started, hl.refused, nofun⟩

theorem Coherent.enter (hl : l.Coherent) (h : l.Allows e) : (l.enter e).Coherent := by
  rcases e.library_cases with hother | rfl | rfl | ⟨outcome, rfl⟩ | ⟨bytecode, outcome, rfl⟩ |
    ⟨id, source, options, runtime, outcome, rfl⟩
  · rw [(enter_of_not_isLibrary hother).2]
    exact hl
  · exact hl
  · exact hl.share h
  · exact hl.enter_build h outcome
  · exact hl.enter_start h outcome
  · refine ⟨fun id' hid => ?_, hl.refused, hl.sharing⟩
    obtain ⟨hlt, hbuilt⟩ := hl.started id' hid
    exact ⟨by simpa [Ledger.enter] using hlt, hbuilt⟩

theorem Coherent.after (hl : l.Coherent) (h : l.Admits t) : (l.after t).Coherent := by
  induction t generalizing l with
  | nil => exact hl
  | cons e t ih => exact ih (hl.enter h.1) h.2

/-- Only a start for its sake and a failure decide what the shared transformer is,
    and they do so only while it is not known. -/
theorem Coherent.shared_enter (hl : l.Coherent) (h : l.Allows e) :
    ((l.enter e).shared = l.shared ∧ l.opens e = false) ∨
      l.shared = none ∧ ((l.opens e = true ∧ ∃ id, (l.enter e).shared = some (.ok id)) ∨
        (l.opens e = false ∧ ∃ error, (l.enter e).shared = some (.error error))) := by
  rcases e.library_cases with hother | rfl | rfl | ⟨outcome, rfl⟩ | ⟨bytecode, outcome, rfl⟩ |
    ⟨id, source, options, runtime, outcome, rfl⟩
  · left
    rw [(enter_of_not_isLibrary hother).2]
    refine ⟨rfl, ?_⟩
    unfold opens
    split
    · exact absurd rfl hother
    · rfl
  · exact .inl ⟨rfl, rfl⟩
  · show (l.share.shared = _ ∧ _) ∨ _ ∧ ((_ ∧ _) ∨ (_ ∧ ∃ error, l.share.shared = _))
    unfold Ledger.share
    split
    · exact .inr ⟨h, .inr ⟨rfl, _, rfl⟩⟩
    · exact .inl ⟨rfl, rfl⟩
  · rcases outcome with (error | bytecode) | text
    · rcases hl.settle_shared (.error error) with ⟨-, hsettle⟩ | ⟨-, hnone, hsettle⟩
      · exact .inl ⟨(congrArg shared hsettle :), rfl⟩
      · exact .inr ⟨hnone, .inr ⟨rfl, error, (congrArg shared hsettle :)⟩⟩
    · exact .inl ⟨rfl, rfl⟩
    · exact .inl ⟨rfl, rfl⟩
  · rcases outcome with (error | runtime) | text
    · rcases hl.settle_shared (.error error) with ⟨-, hsettle⟩ | ⟨-, hnone, hsettle⟩
      · exact .inl ⟨(congrArg shared hsettle :), rfl⟩
      · exact .inr ⟨hnone, .inr ⟨rfl, error, (congrArg shared hsettle :)⟩⟩
    · rcases hl.settle_shared (.ok l.transformers.length) with
        ⟨hsharing, hsettle⟩ | ⟨hsharing, hnone, hsettle⟩
      · exact .inl ⟨(congrArg shared hsettle :), hsharing⟩
      · exact .inr ⟨hnone, .inl ⟨hsharing, _, (congrArg shared hsettle :)⟩⟩
    · exact .inl ⟨rfl, rfl⟩
  · exact .inl ⟨rfl, rfl⟩

/-- How often the shared transformer is started. -/
def sharedStarts (l : Ledger E) : List (Event E) → Nat
  | [] => 0
  | e :: t => (l.opens e).toNat + (l.enter e).sharedStarts t

/-- A shared transformer that is known stays as it is, and so does the failure to
    start it: nobody tries again. -/
theorem Coherent.shared_after_of_some (hl : l.Coherent) (h : l.Admits t)
    {started : Except EngineFailure TransformerId} (hshared : l.shared = some started) :
    (l.after t).shared = some started ∧ l.sharedStarts t = 0 ∧ ∀ e ∈ t, ¬ e.isSharing := by
  induction t generalizing l with
  | nil => exact ⟨hshared, rfl, nofun⟩
  | cons e t ih =>
    obtain ⟨hallows, hrest⟩ := h
    have hnot : ¬ e.isSharing := by
      intro he
      obtain rfl := Event.isSharing_iff.1 he
      exact absurd (hshared.symm.trans hallows) nofun
    rcases hl.shared_enter hallows with ⟨hsame, hopens⟩ | ⟨hnone, -⟩
    · obtain ⟨hafter, hstarts, hothers⟩ := ih (hl.enter hallows) hrest (hsame.trans hshared)
      refine ⟨hafter, ?_, List.forall_mem_cons.2 ⟨hnot, hothers⟩⟩
      rw [sharedStarts, hopens, hstarts]
      rfl
    · exact absurd (hshared.symm.trans hnone) nofun

/-- Whether there is a shared transformer. -/
def hasShared (l : Ledger E) : Bool :=
  match l.shared with
  | some (.ok _) => true
  | _ => false

/-- The shared transformer is started as often as there is one: once, or not at
    all. -/
theorem Coherent.sharedStarts_eq (hl : l.Coherent) (h : l.Admits t) (hnone : l.shared = none) :
    l.sharedStarts t = (l.after t).hasShared.toNat := by
  induction t generalizing l with
  | nil => simp [sharedStarts, hasShared, hnone]
  | cons e t ih =>
    obtain ⟨hallows, hrest⟩ := h
    have hl' := hl.enter hallows
    rw [sharedStarts, after_cons]
    rcases hl.shared_enter hallows with
      ⟨hsame, hopens⟩ | ⟨-, ⟨hopens, id, hshared⟩ | ⟨hopens, error, hshared⟩⟩ <;> rw [hopens]
    · simpa using ih hl' hrest (hsame.trans hnone)
    · obtain ⟨hafter, hstarts, -⟩ := hl'.shared_after_of_some hrest hshared
      rw [hstarts, hasShared, hafter]
      rfl
    · obtain ⟨hafter, hstarts, -⟩ := hl'.shared_after_of_some hrest hshared
      rw [hstarts, hasShared, hafter]
      rfl

/-- Whether the shared transformer is being started is known without a ledger, as far
    as it matters: after a failed build nothing is started. -/
def Knows (l : Ledger E) (sharing : Bool) : Prop :=
  sharing = l.sharing ∨ ∃ error, l.build = some (.error error)

theorem Knows.opens_eq {sharing : Bool} (hknows : l.Knows sharing) (h : l.Allows e) :
    (sharing && e.isStarted) = l.opens e := by
  unfold Event.isStarted opens
  split
  · next bytecode runtime =>
    rcases hknows with rfl | ⟨error, herror⟩
    · exact Bool.and_true _
    · exact absurd (herror.symm.trans h) nofun
  · exact Bool.and_false _

theorem Knows.enter {sharing : Bool} (hknows : l.Knows sharing) (h : l.Allows e) :
    (l.enter e).Knows (e.sharingAfter sharing) := by
  by_cases hfailed : ∃ error, l.build = some (.error error)
  · -- the failure stays, so the right side of `Knows` does
    obtain ⟨error, herror⟩ := hfailed
    rcases build_enter h with ⟨_, -, hnone, -⟩ | ⟨-, hsame⟩
    · exact absurd (herror.symm.trans hnone) nofun
    · exact .inr ⟨error, hsame.trans herror⟩
  obtain rfl : sharing = l.sharing := hknows.resolve_right hfailed
  have hsettled (outcome : Outcome TransformerId) : (l.settle outcome).sharing = false := by
    unfold settle
    split
    · split
      · rfl
      · next hnot => exact Bool.eq_false_iff.2 hnot
    · rfl
  rcases e.library_cases with hother | rfl | rfl | ⟨outcome, rfl⟩ | ⟨bytecode, outcome, rfl⟩ |
    ⟨id, source, options, runtime, outcome, rfl⟩
  · left
    rw [(enter_of_not_isLibrary hother).2]
    unfold Event.sharingAfter
    split <;> first | rfl | exact absurd rfl hother
  · exact .inl rfl
  · show l.share.Knows true
    unfold Ledger.share
    split
    · next error herror => exact .inr ⟨error, herror⟩
    · exact .inl rfl
  · rcases outcome with (error | bytecode) | text
    · exact .inr ⟨error, rfl⟩
    · exact .inl rfl
    · exact .inl (hsettled (.panicked text)).symm
  · rcases outcome with (error | runtime) | text
    · exact .inl (hsettled _).symm
    · exact .inl (hsettled (.returned (.ok l.transformers.length))).symm
    · exact .inl (hsettled (.panicked text)).symm
  · exact .inl rfl

theorem Knows.sharedStarts_eq {sharing : Bool} (hknows : l.Knows sharing) (h : l.Admits t) :
    Downlevel.sharedStarts sharing t = l.sharedStarts t := by
  induction t generalizing l sharing with
  | nil => rfl
  | cons e t ih =>
    rw [Downlevel.sharedStarts, sharedStarts, hknows.opens_eq h.1, ih (hknows.enter h.1) h.2]

/-! ## The transformers -/

/-- An event retires a transformer or leaves it as live or retired as it was. -/
theorem retired_enter (h : l.Allows e) (id : TransformerId) :
    (l.enter e).transformers[id]? = some .retired ↔
      l.transformers[id]? = some .retired ∨ e.retires id := by
  rcases e.library_cases with hother | rfl | rfl | ⟨outcome, rfl⟩ | ⟨bytecode, outcome, rfl⟩ |
    ⟨id', source, options, runtime, outcome, rfl⟩
  · have hnot : ¬ e.retires id := by
      intro he
      obtain ⟨source, options, runtime, text, rfl⟩ := Event.retires_iff.1 he
      exact hother rfl
    simp [(enter_of_not_isLibrary hother).2, hnot]
  · simp [enter, Event.retires]
  · simp [enter, Event.retires]
  · rcases outcome with (error | bytecode) | text <;> simp [enter, Event.retires]
  · rcases outcome with (error | runtime) | text
    · simp [enter, Event.retires]
    · simp only [enter, Event.retires, Bool.false_eq_true, or_false]
      rw [List.getElem?_append]
      split
      · rfl
      · next hge =>
        rw [List.getElem?_eq_none (Nat.le_of_not_lt hge)]
        cases id - l.transformers.length <;> simp
    · simp [enter, Event.retires]
  · obtain ⟨earlier, hlive⟩ := h
    obtain ⟨hlt, -⟩ := List.getElem?_eq_some_iff.1 hlive
    by_cases hid : id' = id
    · subst hid
      rw [hlive]
      cases outcome <;> simp [enter, Event.retires, Transformer.after, hlt]
    · have hnot : ¬ (Event.transform id' source options runtime outcome : Event E).retires id := by
        cases outcome <;> simp [Event.retires, hid]
      simp [enter, hid, hnot]

/-- No call reaches a runtime that panicked. -/
theorem not_reaches_of_retired (h : l.Admits t) {id : TransformerId}
    (hretired : l.transformers[id]? = some .retired) : ∀ e ∈ t, ¬ e.reaches id := by
  induction t generalizing l with
  | nil => nofun
  | cons e t ih =>
    obtain ⟨hallows, hrest⟩ := h
    refine List.forall_mem_cons.2 ⟨fun he => ?_, ?_⟩
    · obtain ⟨source, options, runtime', outcome, rfl⟩ := Event.reaches_iff.1 he
      obtain ⟨runtime, hlive⟩ := hallows
      rw [hretired] at hlive
      cases hlive
    · exact ih hrest ((retired_enter hallows id).2 (.inl hretired))

/-- A transformer is retired exactly if its runtime panicked. -/
theorem retired_after (h : l.Admits t) (id : TransformerId) :
    (l.after t).transformers[id]? = some .retired ↔
      l.transformers[id]? = some .retired ∨ ∃ e ∈ t, e.retires id := by
  induction t generalizing l with
  | nil => simp
  | cons e t ih =>
    rw [after_cons, ih h.2, retired_enter h.1]
    simp [or_assoc]

/-- Behind a panic of a runtime no call reaches it. -/
theorem pairwise_reaches (h : l.Admits t) (id : TransformerId) :
    t.Pairwise fun x y => x.retires id → ¬ y.reaches id := by
  induction t generalizing l with
  | nil => exact .nil
  | cons e t ih =>
    obtain ⟨hallows, hrest⟩ := h
    refine .cons (fun x hx he => ?_) (ih hrest)
    exact not_reaches_of_retired hrest ((retired_enter hallows id).2 (.inr he)) x hx

/-- The numbers in use stay valid. -/
theorem length_transformers_le : l.transformers.length ≤ (l.after t).transformers.length := by
  induction t generalizing l with
  | nil => exact Nat.le_refl _
  | cons e t ih =>
    refine Nat.le_trans ?_ ih
    rcases e.library_cases with hother | rfl | rfl | ⟨outcome, rfl⟩ | ⟨bytecode, outcome, rfl⟩ |
      ⟨id, source, options, runtime, outcome, rfl⟩
    · exact Nat.le_of_eq (by rw [(enter_of_not_isLibrary hother).2])
    · simp [enter]
    · simp [enter]
    · rcases outcome with (error | bytecode) | text <;> simp [enter]
    · rcases outcome with (error | runtime) | text <;> simp [enter]
    · simp [enter]

/-- An event makes no transformer the shared one that was there before. -/
theorem le_of_shared_enter {id : TransformerId} (h : (l.enter e).shared = some (.ok id)) :
    l.shared = some (.ok id) ∨ l.transformers.length ≤ id := by
  rcases e.library_cases with hother | rfl | rfl | ⟨outcome, rfl⟩ | ⟨bytecode, outcome, rfl⟩ |
    ⟨id', source, options, runtime, outcome, rfl⟩
  · rw [(enter_of_not_isLibrary hother).2] at h
    exact .inl h
  · exact .inl h
  · simp only [enter, share] at h
    split at h
    · cases h
    · exact .inl h
  · rcases outcome with (error | bytecode) | text
    · simp only [enter, settle] at h
      split at h
      · cases h
      · exact .inl h
    · exact .inl h
    · exact .inl h
  · rcases outcome with (error | runtime) | text
    · simp only [enter, settle] at h
      split at h
      · cases h
      · exact .inl h
    · simp only [enter, settle] at h
      split at h
      · cases h
        exact .inr (Nat.le_refl _)
      · exact .inl h
    · exact .inl h
  · exact .inl h

/-- What becomes the shared transformer is a new one. -/
theorem le_of_shared_after {id : TransformerId} (h : (l.after t).shared = some (.ok id)) :
    l.shared = some (.ok id) ∨ l.transformers.length ≤ id := by
  induction t generalizing l with
  | nil => exact .inl h
  | cons e t ih =>
    have hle : l.transformers.length ≤ (l.enter e).transformers.length :=
      length_transformers_le (t := [e])
    rcases ih h with hshared | hnew
    · exact le_of_shared_enter hshared
    · exact .inr (Nat.le_trans hle hnew)

/-- A transformer that no call reaches stays what it is. -/
theorem getElem?_after {id : TransformerId} (hid : id < l.transformers.length)
    (ht : ∀ e ∈ t, ¬ e.reaches id) : (l.after t).transformers[id]? = l.transformers[id]? := by
  induction t generalizing l with
  | nil => rfl
  | cons e t ih =>
    have hle : l.transformers.length ≤ (l.enter e).transformers.length :=
      length_transformers_le (t := [e])
    rw [after_cons, ih (Nat.lt_of_lt_of_le hid hle) fun x hx => ht x (List.mem_cons_of_mem e hx)]
    rcases e.library_cases with hother | rfl | rfl | ⟨outcome, rfl⟩ | ⟨bytecode, outcome, rfl⟩ |
      ⟨id', source, options, runtime, outcome, rfl⟩
    · rw [(enter_of_not_isLibrary hother).2]
    · rfl
    · simp [enter]
    · rcases outcome with (error | bytecode) | text <;> simp [enter]
    · rcases outcome with (error | runtime) | text
      · simp [enter]
      · exact List.getElem?_append_left hid
      · simp [enter]
    · have hne : id' ≠ id := by
        rintro rfl
        exact ht _ List.mem_cons_self (decide_eq_true rfl)
      exact List.getElem?_set_ne hne

end Ledger

end Downlevel
