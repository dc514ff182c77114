/-
  Downlevel — kinds of events, and where they stand in a trace.

  A trace is a list of events in the order in which they happened.  What a
  theorem says about a run it says about its trace: how many events of a kind
  there are, or what stands before and behind an event.

  * `Event.isRequest` and its companions tell the kinds apart, `Event.phase`
    what is under way when an event happens;
  * `Throughout P t` says that `P` holds of every event of `t` where it stands,
    with `throughout_append` to prove it piece by piece;
  * `Act.Emits P x` says that `P` holds of every event that an act causes,
    whatever state it starts in and however it ends;
  * `Act.Moves R x s` says that `R` relates `s`, what happens when an act runs
    from there, and the state that is left.
-/
import Downlevel.Engine.World

namespace Downlevel

variable {E : Engines}

/-! ## Kinds -/

namespace Event

/-- The host starts to parse a text. -/
def isParse : Event E → Bool
  | .parse .. => true
  | _ => false

/-- The host asks for a map: a loader's answer or the reply. -/
def isRequest : Event E → Bool
  | .load .. | .map .. => true
  | _ => false

/-- The host is told that there is no map. -/
def isRefusal : Event E → Bool
  | .map _ (.error _) => true
  | _ => false

/-- A parse is void, because the host was refused a map. -/
def isMapMissing : Event E → Bool
  | .log (.mapMissing ..) => true
  | _ => false

/-- The host compiled what it had parsed. -/
def isCompile : Event E → Bool
  | .compile .. => true
  | _ => false

/-- A runtime transformed a text. -/
def isTransform : Event E → Bool
  | .transform .. => true
  | _ => false

/-- A transformer is made ready: the library is built and a runtime started. -/
def isStartUp : Event E → Bool
  | .build .. | .start .. | .log .building | .log .startingShared => true
  | _ => false

/-- The library was called to be built. -/
def isBuild : Event E → Bool
  | .build _ => true
  | _ => false

/-- The library was called to start a runtime. -/
def isStart : Event E → Bool
  | .start .. => true
  | _ => false

theorem isBuild_iff {e : Event E} : e.isBuild ↔ ∃ outcome, e = .build outcome := by
  cases e <;> simp [isBuild]

theorem isStart_iff {e : Event E} : e.isStart ↔ ∃ bytecode outcome, e = .start bytecode outcome := by
  cases e <;> simp [isStart]

/-- The transform library is called, or about to be. -/
def isLibrary (e : Event E) : Bool := e.isStartUp || e.isTransform

theorem isLibrary_of_isStart {e : Event E} (h : e.isStart) : e.isLibrary := by
  obtain ⟨bytecode, outcome, rfl⟩ := isStart_iff.1 h
  rfl

/-- A text that the host rejected is to be transformed. -/
def isFallback : Event E → Bool
  | .log (.transforming ..) => true
  | _ => false

end Event

/-! ## Phases -/

/-- What is under way when something happens. -/
inductive Phase where
  /-- A text is parsed, or parsed again. -/
  | parsing
  /-- The host compiles what it parsed. -/
  | compiling
  /-- The compiler gives the text up and is about to transform it. -/
  | fallingBack
  /-- A transformer is made ready or works on a text. -/
  | transforming
  /-- Compilers are handed out or taken back. -/
  | pooling
  deriving DecidableEq

/-- The phase to which an event belongs. -/
def Event.phase : Event E → Phase
  | .parse .. | .load .. | .map .. | .verdict _ | .log (.mapMissing ..) => .parsing
  | .compile .. => .compiling
  | .log (.transforming ..) => .fallingBack
  | .build .. | .start .. | .transform .. | .log .building | .log .startingShared
  | .log (.inputMapIgnored ..) | .log (.transformed _) => .transforming
  | .log (.poolReady _) | .log (.compilerDropped _) => .pooling

namespace Event

variable {e : Event E}

theorem phase_of_isParse (h : e.isParse) : e.phase = .parsing := by
  unfold isParse at h
  split at h
  · rfl
  · cases h

theorem phase_of_isRequest (h : e.isRequest) : e.phase = .parsing := by
  unfold isRequest at h
  split at h <;> first | rfl | cases h

theorem phase_of_isMapMissing (h : e.isMapMissing) : e.phase = .parsing := by
  unfold isMapMissing at h
  split at h
  · rfl
  · cases h

theorem phase_of_isCompile (h : e.isCompile) : e.phase = .compiling := by
  unfold isCompile at h
  split at h
  · rfl
  · cases h

theorem phase_of_isTransform (h : e.isTransform) : e.phase = .transforming := by
  unfold isTransform at h
  split at h
  · rfl
  · cases h

theorem phase_of_isStartUp (h : e.isStartUp) : e.phase = .transforming := by
  unfold isStartUp at h
  split at h <;> first | rfl | cases h

theorem phase_of_isLibrary (h : e.isLibrary) : e.phase = .transforming := by
  rcases Bool.or_eq_true_iff.1 h with h | h
  · exact phase_of_isStartUp h
  · exact phase_of_isTransform h

theorem isLibrary_of_isStartUp (h : e.isStartUp) : e.isLibrary := by
  rw [isLibrary, h, Bool.true_or]

theorem phase_of_isFallback (h : e.isFallback) : e.phase = .fallingBack := by
  unfold isFallback at h
  split at h
  · rfl
  · cases h

end Event

/-- What belongs to another phase is not among these events. -/
theorem countP_eq_zero_of_phase {p : Event E → Bool} {phase : Phase} {t : List (Event E)}
    (hp : ∀ {e}, p e → e.phase = phase) (ht : ∀ e ∈ t, e.phase ≠ phase) : t.countP p = 0 := by
  rw [List.countP_eq_zero]
  intro e he h
  exact ht e he (hp h)

/-! ## Places -/

section
variable {ε : Type} {P Q : List ε → ε → List ε → Prop} {t u : List ε} {a : ε}

/-- `P` holds of every event of a trace, given what stands before it and what
    stands behind it. -/
def Throughout (P : List ε → ε → List ε → Prop) (t : List ε) : Prop :=
  ∀ before e after, t = before ++ e :: after → P before e after

theorem throughout_nil : Throughout P [] := fun before e after h => by simp at h

theorem throughout_append :
    Throughout P (t ++ u) ↔
      Throughout (fun before e after => P before e (after ++ u)) t ∧
        Throughout (fun before e after => P (t ++ before) e after) u := by
  constructor
  · refine fun h => ⟨fun before e after ht => ?_, fun before e after hu => ?_⟩
    · exact h before e (after ++ u) (by simp [ht])
    · exact h (t ++ before) e after (by simp [hu])
  · rintro ⟨ht, hu⟩ before e after h
    rcases List.append_eq_append_iff.1 h with ⟨before', rfl, hu'⟩ | ⟨after', ht', h'⟩
    · exact hu before' e after hu'
    · cases after' with
      | nil =>
        -- the event is the first one of `u`
        simp only [List.append_nil] at ht'
        subst ht'
        simpa using hu [] e after (by simpa using h'.symm)
      | cons e' after' =>
        simp only [List.cons_append, List.cons.injEq] at h'
        obtain ⟨rfl, rfl⟩ := h'
        exact ht before e after' ht'

theorem throughout_cons :
    Throughout P (a :: t) ↔
      P [] a t ∧ Throughout (fun before e after => P (a :: before) e after) t := by
  constructor
  · exact fun h => ⟨h [] a t rfl, fun before e after ht => h (a :: before) e after (by simp [ht])⟩
  · rintro ⟨ha, ht⟩ before e after h
    cases before with
    | nil =>
      simp only [List.nil_append, List.cons.injEq] at h
      obtain ⟨rfl, rfl⟩ := h
      exact ha
    | cons b before =>
      simp only [List.cons_append, List.cons.injEq] at h
      obtain ⟨rfl, h⟩ := h
      exact ht before e after h

theorem throughout_singleton : Throughout P [a] ↔ P [] a [] := by
  rw [throughout_cons]
  exact ⟨And.left, fun h => ⟨h, throughout_nil⟩⟩

/-- The event at a place, between those before it and those behind it. -/
theorem eq_take_append_drop {n : Nat} (h : t[n]? = some a) :
    t = t.take n ++ a :: t.drop (n + 1) := by
  obtain ⟨hn, rfl⟩ := List.getElem?_eq_some_iff.1 h
  rw [List.getElem_cons_drop hn, List.take_append_drop]

theorem Throughout.mono (h : Throughout P t)
    (imp : ∀ before e after, P before e after → Q before e after) : Throughout Q t :=
  fun before e after ht => imp before e after (h before e after ht)

end

/-! ## Acts -/

namespace Act

variable {ε σ τ α β : Type} {P : ε → Prop}

/-- `P` holds of every event that the act causes. -/
def Emits (P : ε → Prop) (x : Act ε σ α) : Prop := ∀ s, ∀ e ∈ (x s).trace, P e

theorem emits_pure (a : α) : Emits P (pure a : Act ε σ α) := fun s e he => by simp at he

theorem emits_emit {e : ε} (h : P e) : Emits P (emit e : Act ε σ Unit) :=
  fun s e' he => by simp at he; exact he ▸ h

theorem emits_get : Emits P (get : Act ε σ σ) := fun s e he => by simp at he

theorem emits_set (s : σ) : Emits P (set s : Act ε σ Unit) := fun _ e he => by cases he

theorem emits_modify (f : σ → σ) : Emits P (modify f : Act ε σ Unit) :=
  fun s e he => by simp at he

theorem emits_ofEnding (ending : Ending α) : Emits P (ofEnding ending : Act ε σ α) :=
  fun s e he => by cases ending <;> cases he

/-- What follows an act only has to be looked at for the values that the act
    can return. -/
theorem Emits.bind_of {x : Act ε σ α} {f : α → Act ε σ β} (hx : Emits P x)
    (hf : ∀ s a s' t, x s = ⟨.returned a, s', t⟩ → Emits P (f a)) : Emits P (x >>= f) := by
  intro s e he
  have hxs := hx s
  rcases hrun : x s with ⟨a | text, s', t⟩
  · rw [bind_of_returned hrun] at he
    rw [hrun] at hxs
    rcases List.mem_append.1 he with he | he
    · exact hxs e he
    · exact hf s a s' t hrun s' e he
  · rw [bind_of_panicked hrun] at he
    rw [hrun] at hxs
    exact hxs e he

theorem Emits.bind {x : Act ε σ α} {f : α → Act ε σ β} (hx : Emits P x) (hf : ∀ a, Emits P (f a)) :
    Emits P (x >>= f) :=
  hx.bind_of fun _ a _ _ _ => hf a

theorem Emits.run_eq {x : Act ε σ α} (hx : Emits P x) {s s' : σ} {ending : Ending α} {t : List ε}
    (h : x s = ⟨ending, s', t⟩) : ∀ e ∈ t, P e := by
  have hall := hx s
  rwa [h] at hall

/-- The run of the act from `s` is a move of `R`. -/
def Moves (R : σ → List ε → σ → Prop) (x : Act ε σ α) (s : σ) : Prop :=
  R s (x s).trace (x s).state

section
variable {R : σ → List ε → σ → Prop} {x : Act ε σ α} {f : α → Act ε σ β} {s : σ}

/-- Moves that can be joined are joined by a sequence of acts. -/
theorem Moves.bind (htrans : ∀ {s t s₁ u s'}, R s t s₁ → R s₁ u s' → R s (t ++ u) s')
    (hx : Moves R x s) (hf : ∀ a s' t, x s = ⟨.returned a, s', t⟩ → Moves R (f a) s') :
    Moves R (x >>= f) s := by
  unfold Moves at hx hf ⊢
  rcases hrun : x s with ⟨a | text, s', t⟩
  · rw [bind_of_returned hrun]
    rw [hrun] at hx
    exact htrans hx (hf a s' t hrun)
  · rw [bind_of_panicked hrun]
    rw [hrun] at hx
    exact hx

theorem Moves.run_eq (hmove : Moves R x s) {ending : Ending α} {s' : σ} {t : List ε}
    (h : x s = ⟨ending, s', t⟩) : R s t s' := by
  rw [Moves, h] at hmove
  exact hmove

theorem Moves.of_eq {ending : Ending α} {s' : σ} {t : List ε} (h : x s = ⟨ending, s', t⟩)
    (hmove : R s t s') : Moves R x s := by
  rw [Moves, h]
  exact hmove

end

theorem Emits.within {view : σ → τ} {put : τ → σ → σ} {x : Act ε τ α} (hx : Emits P x) :
    Emits P (within view put x) := fun s e he => hx (view s) e he

end Act

end Downlevel
