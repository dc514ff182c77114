/-
  Downlevel — sessions with a library that does not fail.

  If the library does what it is called for, nothing is ever entered into the ledger
  but builds, starts and transforms that succeeded, and the world of a session stays
  sound, resets or not.

  * `Ledger.Sound.after`: a ledger into which no failure was entered;
  * `Session.History.sound`: sessions with a library that follows a rule.
-/
import Downlevel.Proofs.Session.Events

namespace Downlevel

variable {E : Engines}

/-! ## Ledgers without failures -/

/-- If the library was called, it did what it was called for. -/
def Event.Succeeds : Event E → Prop
  | .build outcome => ∃ bytecode, outcome = .returned (.ok bytecode)
  | .start _ outcome => ∃ runtime, outcome = .returned (.ok runtime)
  | .transform _ _ _ _ outcome => ∃ raw, outcome = .returned (.ok raw)
  | _ => True

theorem Library.Follows.prevails {rule : String → Json.Object → RawOutput}
    (hlib : E.library.Follows rule) : Prevails (Event.Succeeds (E := E)) where
  building := trivial
  startingShared := trivial
  build library := hlib.build library
  start bytecode library := hlib.start bytecode library
  transform id runtime source options library :=
    ⟨_, hlib.transform runtime source options library⟩
  log _ _ := trivial
  other e he := by
    cases e with
    | build | start | transform => exact absurd rfl he
    | _ => trivial

namespace Ledger

variable {l : Ledger E} {x : Event E} {t : List (Event E)}

theorem Sound.enter_start (hl : l.Sound) (bytecode : E.Bytecode) (runtime : E.Runtime) :
    (l.enter (.start bytecode (.returned (.ok runtime)))).Sound := by
  have hlive (t : Transformer E.Runtime) (ht : t ∈ l.transformers ++ [.live runtime]) :
      ∃ runtime, t = .live runtime := by
    rcases List.mem_append.1 ht with ht | ht
    · exact hl.live t ht
    · exact ⟨runtime, List.mem_singleton.1 ht⟩
  simp only [enter, settle]
  split
  · refine ⟨hl.build, fun started h => ?_, hlive⟩
    cases h
    exact ⟨_, by simp, rfl⟩
  · refine ⟨hl.build, fun started h => ?_, hlive⟩
    obtain ⟨id, hid, rfl⟩ := hl.shared started h
    exact ⟨id, by simpa using Nat.lt_succ_of_lt hid, rfl⟩

/-- A call that succeeds leaves no failure to be known. -/
theorem Sound.enter (hl : l.Sound) (hx : x.Succeeds) : (l.enter x).Sound := by
  rcases x.library_cases with hother | rfl | rfl | ⟨outcome, rfl⟩ | ⟨bytecode, outcome, rfl⟩ |
    ⟨id, source, options, runtime, outcome, rfl⟩
  · rw [(enter_of_not_isLibrary hother).2]
    exact hl
  · exact hl
  · simp only [Ledger.enter, Ledger.share]
    split
    · next e herror => exact absurd herror (hl.build e)
    · exact ⟨hl.build, hl.shared, hl.live⟩
  · obtain ⟨bytecode, rfl⟩ := hx
    refine ⟨fun e herror => ?_, hl.shared, hl.live⟩
    cases herror
  · obtain ⟨runtime, rfl⟩ := hx
    exact hl.enter_start bytecode runtime
  · obtain ⟨raw, rfl⟩ := hx
    refine ⟨hl.build, fun started h => ?_, fun t ht => ?_⟩
    · obtain ⟨id', hid', rfl⟩ := hl.shared started h
      exact ⟨id', by simpa [Ledger.enter] using hid', rfl⟩
    · rcases List.mem_or_eq_of_mem_set ht with ht | rfl
      · exact hl.live t ht
      · exact ⟨runtime, rfl⟩

theorem Sound.after (hl : l.Sound) (ht : ∀ x ∈ t, x.Succeeds) : (l.after t).Sound := by
  induction t generalizing l with
  | nil => exact hl
  | cons x t ih =>
    have hx := hl.enter (ht x (by simp))
    exact ih hx fun y hy => ht y (List.mem_cons_of_mem x hy)

end Ledger

/-- As long as the library does what it is called for, a sound world stays sound. -/
theorem World.Keeps.sound {w w' : World E} {t : List (Event E)} (h : w.Keeps t w') (hw : w.Sound)
    (ht : ∀ x ∈ t, x.Succeeds) : w'.Sound := by
  rw [Sound, h.2]
  exact hw.after ht

/-- Nothing has failed in a world that forgets its build. -/
theorem World.Sound.forget {w : World E} (hw : w.Sound) : w.forget.Sound :=
  ⟨nofun, nofun, hw.live⟩

/-! ## Histories -/

namespace Session

variable {rule : String → Json.Object → RawOutput} {host : E.HostState} {library : E.LibraryState}
  {files : E.FileState} {s : Session E} {past t : List (Event E)}

/-- With a library that does not fail nothing ever fails, whatever is done. -/
theorem History.sound (hlib : E.library.Follows rule)
    (h : History (fresh (World.fresh host library files)) past t s) : s.world.Sound := by
  induction h with
  | start => exact World.sound_fresh host library files
  | next _ hnext ih =>
    obtain ⟨used, hturn⟩ := hnext.turn
    exact hturn.keeps.world.sound ih (hturn.emits hlib.prevails)
  | reset _ _ ih => exact ih.forget

/-- A compiler that works in a session with such a library finds nothing failed. -/
theorem History.bench_sound (hlib : E.library.Follows rule)
    (h : History (fresh (World.fresh host library files)) past t s) {place : Place} {c : Compiler E}
    (hc : s.Holds place c) : (⟨c, s.world⟩ : Bench E).Sound where
  world := h.sound hlib
  attached _ hid := (h.epoch.coherent.compilers place c hc).lt h.epoch.coherent.world hid

end Session

end Downlevel
