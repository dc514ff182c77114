/-
  Downlevel — the course of a transform.

  A compiler that is to transform a text first gets hold of its transformer,
  which may mean to build the library and to start a runtime, and then has it
  perform the request.  `Request.Course` lists how that may go, with the events
  in order and the ending: at each point the library may fail or panic.

  * `Bench.transform_course`: every transform takes such a course, and
    `Bench.Transformation` is the transform with its course;
  * `Request.Course.countP_isTransform_le`: a runtime is reached at most once;
  * `Bench.transform_emits`: what holds of the answers of the library and of what is
    logged holds of all that happens during a transform.
-/
import Downlevel.Compile.Compiler
import Downlevel.Proofs.Events

namespace Downlevel

variable {E : Engines}

/-! ## Calls of the library -/

theorem callBuild_apply (w : World E) :
    callBuild w = ⟨(E.library.build w.library).1,
      { w with library := (E.library.build w.library).2 },
      [.build (E.library.build w.library).1]⟩ := by
  simp only [callBuild, Act.get_bind_apply, Act.set_bind_apply, Act.emit_bind_apply]
  cases (E.library.build w.library).1 <;> rfl

theorem callStart_apply (bytecode : E.Bytecode) (w : World E) :
    callStart bytecode w = ⟨(E.library.start bytecode w.library).1,
      { w with library := (E.library.start bytecode w.library).2 },
      [.start bytecode (E.library.start bytecode w.library).1]⟩ := by
  simp only [callStart, Act.get_bind_apply, Act.set_bind_apply, Act.emit_bind_apply]
  cases (E.library.start bytecode w.library).1 <;> rfl

/-! ## Getting hold of a transformer -/

/-- `P` holds of whatever happens while a transformer is made ready. -/
structure StartsUp (P : Event E → Prop) : Prop where
  building : P (.log .building)
  startingShared : P (.log .startingShared)
  build (library : E.LibraryState) : P (.build (E.library.build library).1)
  start (bytecode : E.Bytecode) (library : E.LibraryState) :
    P (.start bytecode (E.library.start bytecode library).1)

theorem startsUp_isStartUp : StartsUp fun e : Event E => e.isStartUp :=
  ⟨rfl, rfl, fun _ => rfl, fun _ _ => rfl⟩

section
variable {P : Event E → Prop} (hP : StartsUp P)
include hP

open Act in
theorem obtainBuild_emits : Emits P obtainBuild := by
  refine emits_get.bind fun w => ?_
  split
  · exact emits_pure _
  · have hcall : Emits P callBuild := emits_get.bind fun w => (emits_set _).bind fun _ =>
      (emits_emit (hP.build w.library)).bind fun _ => emits_ofEnding _
    exact (emits_emit hP.building).bind fun _ => hcall.bind fun _ =>
      (emits_modify _).bind fun _ => emits_pure _

open Act in
theorem startWith_emits (bytecode : E.Bytecode) : Emits P (startWith bytecode) := by
  have hcall : Emits P (callStart bytecode) := emits_get.bind fun w => (emits_set _).bind fun _ =>
    (emits_emit (hP.start bytecode w.library)).bind fun _ => emits_ofEnding _
  refine hcall.bind fun started => ?_
  split
  · exact emits_pure _
  · exact (emits_get.bind fun _ => (emits_set _).bind fun _ => emits_pure _).bind
      fun _ => emits_pure _

open Act in
theorem startTransformer_emits : Emits P startTransformer := by
  refine (obtainBuild_emits hP).bind fun built => ?_
  split
  · exact emits_pure _
  · exact startWith_emits hP _

open Act in
theorem sharedTransformer_emits : Emits P sharedTransformer := by
  refine emits_get.bind fun w => ?_
  split
  · exact emits_pure _
  · exact (emits_emit hP.startingShared).bind fun _ => (startTransformer_emits hP).bind fun _ =>
      (emits_modify _).bind fun _ => emits_pure _

end

namespace Bench

/-- What is done in the world leaves the compiler alone. -/
theorem inWorld_apply {α : Type} {x : Act (Event E) (World E) α} {b : Bench E} {ending : Ending α}
    {w : World E} {t : List (Event E)} (h : x b.world = ⟨ending, w, t⟩) :
    inWorld x b = ⟨ending, { b with world := w }, t⟩ := by
  rw [inWorld, Act.within_apply, h]

/-- Getting hold of its transformer leaves the compiler's options alone, starts
    up the library at most, and fails only if nothing could be started. -/
theorem transformer_cases (b : Bench E) :
    ∃ ending b' t, transformer b = ⟨ending, b', t⟩ ∧ (∀ e ∈ t, e.isStartUp) ∧
      b'.compiler.options = b.compiler.options ∧
      ∀ error, ending = .returned (.error error) → ∃ e, error = .notStarted e := by
  obtain ⟨⟨options, attachment⟩, w⟩ := b
  rcases attachment with id | _ | id
  · exact ⟨_, _, _, rfl, by simp, rfl, by simp⟩
  · have hemits := sharedTransformer_emits startsUp_isStartUp w
    rcases hrun : sharedTransformer w with ⟨(e | id) | text, w', t⟩ <;> rw [hrun] at hemits <;>
      have hworld := inWorld_apply (b := ⟨⟨options, .shared none⟩, w⟩) hrun
    · refine ⟨.returned (.error (.notStarted e)), ⟨⟨options, .shared none⟩, w'⟩, t, ?_, hemits, rfl,
        fun _ h => ⟨e, by cases h; rfl⟩⟩
      simp only [transformer, Act.get_bind_apply]
      rw [Act.bind_of_returned hworld]
      simp
    · refine ⟨.returned (.ok id), ⟨⟨options, .shared (some id)⟩, w'⟩, t, ?_, hemits, rfl, by simp⟩
      simp only [transformer, Act.get_bind_apply]
      rw [Act.bind_of_returned hworld]
      simp
    · refine ⟨.panicked text, ⟨⟨options, .shared none⟩, w'⟩, t, ?_, hemits, rfl, by simp⟩
      simp only [transformer, Act.get_bind_apply]
      rw [Act.bind_of_panicked hworld]
  · exact ⟨_, _, _, rfl, by simp, rfl, by simp⟩

/-- So nothing else happens meanwhile. -/
theorem isStartUp_of_transformer {b b' : Bench E} {t : List (Event E)}
    {ending : Ending (Except CompileError TransformerId)} (h : transformer b = ⟨ending, b', t⟩) :
    ∀ e ∈ t, e.isStartUp := by
  obtain ⟨_, _, _, hrun, hstart, -⟩ := transformer_cases b
  cases h.symm.trans hrun
  exact hstart

end Bench

/-! ## Performing a request -/

namespace Request

/-- What is logged about the input map of a request. -/
def warnings (r : Request) : List (Event E) :=
  match r.decodedInput? with
  | some (.error fault) => [.log (.inputMapIgnored r.filename fault)]
  | _ => []

/-- The events of a transform that is to perform the request, and its ending.  It
    depends on what the compiler gets hold of, whether that is still live, and
    what its runtime answers. -/
inductive Course (r : Request) : List (Event E) → Ending (Except CompileError Transformed) → Prop
  /-- No transformer could be started. -/
  | notStarted {b b' : Bench E} {t e} :
      Bench.transformer b = ⟨.returned (.error (.notStarted e)), b', t⟩ →
      Course r t (.returned (.error (.notStarted e)))
  /-- The library panicked while a transformer was started. -/
  | brokenOff {b b' : Bench E} {t text} : Bench.transformer b = ⟨.panicked text, b', t⟩ →
      Course r t (.panicked text)
  /-- The transformer is retired, and its runtime is not reached. -/
  | retired {b b' : Bench E} {t id} : Bench.transformer b = ⟨.returned (.ok id), b', t⟩ →
      (∀ runtime, b'.world.transformers[id]? ≠ some (.live runtime)) →
      Course r t (.returned (.error (.transformFailed r.filename retiredError)))
  | failed {b b' : Bench E} {t id runtime e runtime' library} :
      Bench.transformer b = ⟨.returned (.ok id), b', t⟩ →
      b'.world.transformers[id]? = some (.live runtime) →
      E.library.transform runtime r.source r.options b'.world.library =
        (.returned (.error e), runtime', library) →
      Course r (t ++ (r.warnings ++
          [.transform id r.source r.options runtime' (.returned (.error e))]))
        (.returned (.error (.transformFailed r.filename e)))
  | panicked {b b' : Bench E} {t id runtime text runtime' library} :
      Bench.transformer b = ⟨.returned (.ok id), b', t⟩ →
      b'.world.transformers[id]? = some (.live runtime) →
      E.library.transform runtime r.source r.options b'.world.library =
        (.panicked text, runtime', library) →
      Course r (t ++ (r.warnings ++ [.transform id r.source r.options runtime' (.panicked text)]))
        (.panicked text)
  | answered {b b' : Bench E} {t id runtime raw runtime' library} :
      Bench.transformer b = ⟨.returned (.ok id), b', t⟩ →
      b'.world.transformers[id]? = some (.live runtime) →
      E.library.transform runtime r.source r.options b'.world.library =
        (.returned (.ok raw), runtime', library) →
      Course r (t ++ (r.warnings ++
          [.transform id r.source r.options runtime' (.returned (.ok raw)),
            .log (.transformed r.filename)]))
        (.returned (r.result raw))

theorem logInputMap_apply (r : Request) (w : World E) :
    r.logInputMap w = ⟨.returned (), w, r.warnings⟩ := by
  rcases h : r.decodedInput? with _ | fault | map <;> simp [logInputMap, warnings, h]

/-- A transformer that is not live does not perform anything. -/
theorem perform_of_not_live {r : Request} {id : TransformerId} {w : World E}
    (h : ∀ runtime, w.transformers[id]? ≠ some (.live runtime)) :
    r.perform id w = ⟨.returned (.error (.transformFailed r.filename retiredError)), w, []⟩ := by
  simp only [perform, Act.get_bind_apply, Act.pure_apply]

/-- A live one calls its runtime, and what becomes of that is what becomes of
    the request. -/
theorem perform_of_live {r : Request} {id : TransformerId} {w : World E} {runtime : E.Runtime}
    (h : w.transformers[id]? = some (.live runtime)) {outcome : Outcome RawOutput}
    {runtime' : E.Runtime} {library : E.LibraryState}
    (hcall : E.library.transform runtime r.source r.options w.library =
      (outcome, runtime', library)) :
    r.perform id w =
      let w' : World E := { w with
        library := library
        transformers := w.transformers.set id (.after runtime' outcome) }
      let called : Event E := .transform id r.source r.options runtime' outcome
      match outcome with
      | .returned (.ok raw) =>
        ⟨.returned (r.result raw), w', r.warnings ++ [called, .log (.transformed r.filename)]⟩
      | .returned (.error e) =>
        ⟨.returned (.error (.transformFailed r.filename e)), w', r.warnings ++ [called]⟩
      | .panicked text => ⟨.panicked text, w', r.warnings ++ [called]⟩ := by
  simp only [perform, Act.get_bind_apply, h]
  rw [Act.bind_of_returned (logInputMap_apply r w)]
  have hrun : callTransform id runtime r.source r.options w =
      ⟨outcome, { w with
          library := library
          transformers := w.transformers.set id (.after runtime' outcome) },
        [.transform id r.source r.options runtime' outcome]⟩ := by
    simp only [callTransform, Act.get_bind_apply, hcall, Act.set_bind_apply, Act.emit_bind_apply]
    cases outcome <;> rfl
  rcases outcome with (e | raw) | text
  · rw [Act.bind_of_returned hrun]
    simp
  · rw [Act.bind_of_returned hrun]
    simp
  · rw [Act.bind_of_panicked hrun]

/-- A request calls its runtime, or there is none to call. -/
theorem exists_call_or_not_live (r : Request) (id : TransformerId) (w : World E) :
    (∃ runtime outcome runtime' library, w.transformers[id]? = some (.live runtime) ∧
      E.library.transform runtime r.source r.options w.library = (outcome, runtime', library)) ∨
    ∀ runtime, w.transformers[id]? ≠ some (.live runtime) := by
  by_cases hlive : ∃ runtime, w.transformers[id]? = some (.live runtime)
  · obtain ⟨runtime, hlive⟩ := hlive
    exact .inl ⟨runtime, _, _, _, hlive, rfl⟩
  · exact .inr fun runtime h => hlive ⟨runtime, h⟩

/-- A compiler that has got hold of its transformer performs a request in one of
    these courses. -/
theorem perform_course (r : Request) {id : TransformerId} {b b' : Bench E} {t : List (Event E)}
    (hgot : Bench.transformer b = ⟨.returned (.ok id), b', t⟩) :
    ∃ ending w' u, r.perform id b'.world = ⟨ending, w', u⟩ ∧ r.Course (t ++ u) ending := by
  rcases r.exists_call_or_not_live id b'.world with
    ⟨runtime, outcome, runtime', library, hlive, hcall⟩ | hdead
  · have hrun := perform_of_live hlive hcall
    rcases outcome with (e | raw) | text
    · exact ⟨_, _, _, hrun, .failed hgot hlive hcall⟩
    · exact ⟨_, _, _, hrun, .answered hgot hlive hcall⟩
    · exact ⟨_, _, _, hrun, .panicked hgot hlive hcall⟩
  · exact ⟨_, b'.world, _, perform_of_not_live hdead, by simpa using .retired hgot hdead⟩

namespace Course

variable {r : Request} {t : List (Event E)} {ending : Ending (Except CompileError Transformed)}

theorem phase_eq (h : r.Course t ending) : ∀ e ∈ t, e.phase = .transforming := by
  have hstart {b b' : Bench E} {ending t} (h : Bench.transformer b = ⟨ending, b', t⟩) :
      ∀ e ∈ t, e.phase = .transforming :=
    fun e he => Event.phase_of_isStartUp (Bench.isStartUp_of_transformer h e he)
  have hwarnings : ∀ e ∈ (r.warnings : List (Event E)), e.phase = .transforming := by
    intro e he
    unfold warnings at he
    split at he
    · rw [List.mem_singleton.1 he]
      rfl
    · cases he
  cases h with
  | notStarted hgot | brokenOff hgot | retired hgot => exact hstart hgot
  | failed hgot | panicked hgot =>
    intro e he
    rcases List.mem_append.1 he with he | he
    · exact hstart hgot e he
    rcases List.mem_append.1 he with he | he
    · exact hwarnings e he
    · rw [List.mem_singleton.1 he]
      rfl
  | answered hgot =>
    intro e he
    rcases List.mem_append.1 he with he | he
    · exact hstart hgot e he
    rcases List.mem_append.1 he with he | he
    · exact hwarnings e he
    · simp only [List.mem_cons, List.not_mem_nil, or_false] at he
      rcases he with rfl | rfl <;> rfl

/-- A transform rejects no text. -/
theorem ne_rejected {error : CompileError} (h : r.Course t (.returned (.error error)))
    (filename : String) (e : Rejection) (code : String) : error ≠ .rejected filename e code := by
  rintro rfl
  generalize hending : Ending.returned (Except.error (CompileError.rejected filename e code)) =
    ending at h
  cases h with
  | notStarted | brokenOff | retired | failed | panicked => cases hending
  | @answered _ _ _ _ _ raw =>
    have hresult : r.result raw = .error (.rejected filename e code) := by
      injection hending with h
      exact h.symm
    unfold result at hresult
    split at hresult
    · split at hresult <;> cases hresult
    · cases hresult

/-- A runtime is reached at most once. -/
theorem countP_isTransform_le (h : r.Course t ending) : t.countP Event.isTransform ≤ 1 := by
  have hstart {b b' : Bench E} {ending t} (h : Bench.transformer b = ⟨ending, b', t⟩) :
      t.countP Event.isTransform = 0 := by
    rw [List.countP_eq_zero]
    intro e he htransform
    have := Bench.isStartUp_of_transformer h e he
    cases e <;> simp [Event.isStartUp, Event.isTransform] at this htransform
  have hwarnings : (r.warnings : List (Event E)).countP Event.isTransform = 0 := by
    unfold warnings
    split <;> rfl
  cases h with
  | notStarted hgot | brokenOff hgot | retired hgot => simp [hstart hgot]
  | failed hgot | panicked hgot | answered hgot =>
    simp [List.countP_append, List.countP_cons, hstart hgot, hwarnings, Event.isTransform]

end Course

end Request

namespace Bench

/-- The transform of a text by the compiler on the bench `b`: what happens, the
    answer, and the bench that is left.  A map is wanted exactly if the compiler
    has a loader. -/
structure Transformation (b : Bench E) (source filename : String) (inputMap : Option Bytes)
    (t : List (Event E)) (ending : Ending (Except CompileError Transformed)) (b' : Bench E) :
    Prop where
  run : transform source filename inputMap b = ⟨ending, b', t⟩
  options_eq : b'.compiler.options = b.compiler.options
  course :
    Request.Course ⟨source, filename, b.compiler.options.loader.isSome, inputMap⟩ t ending

/-- Every transform takes one of these courses. -/
theorem transform_course (source filename : String) (inputMap : Option Bytes) (b : Bench E) :
    ∃ ending b' t, b.Transformation source filename inputMap t ending b' := by
  obtain ⟨ending, b', t, hrun, -, hoptions, herror⟩ := transformer_cases b
  rcases ending with (e | id) | text
  · obtain ⟨e, rfl⟩ := herror _ rfl
    refine ⟨.returned (.error (.notStarted e)), b', t, ?_, hoptions, .notStarted hrun⟩
    rw [transform, Act.bind_of_returned hrun]
    simp
  · obtain ⟨ending, w, u, hperform, hcourse⟩ := Request.perform_course
      ⟨source, filename, b'.compiler.options.loader.isSome, inputMap⟩ hrun
    refine ⟨ending, { b' with world := w }, t ++ u, ?_, hoptions, hoptions ▸ hcourse⟩
    rw [transform, Act.bind_of_returned hrun]
    simp only [Act.get_bind_apply, inWorld_apply hperform]
  · refine ⟨.panicked text, b', t, ?_, hoptions, .brokenOff hrun⟩
    rw [transform, Act.bind_of_panicked hrun]

end Bench

/-! ## What happens during a transform -/

/-- `P` holds of whatever happens while a transformer is made ready and works on a
    text. -/
structure Transforms (P : Event E → Prop) : Prop extends StartsUp P where
  transform (id : TransformerId) (runtime : E.Runtime) (source : String) (options : Json.Object)
    (library : E.LibraryState) :
    P (.transform id source options (E.library.transform runtime source options library).2.1
      (E.library.transform runtime source options library).1)
  log (entry : LogEntry) : (Event.log entry : Event E).phase ≠ .pooling → P (.log entry)

section
variable {P : Event E → Prop}

open Act in
theorem Bench.transformer_emits (hP : StartsUp P) : Emits P transformer := by
  refine emits_get.bind fun b => ?_
  split
  · exact emits_pure _
  · exact emits_pure _
  · refine (sharedTransformer_emits hP).within.bind fun started => ?_
    split
    · exact emits_pure _
    · exact (emits_modify _).bind fun _ => emits_pure _

open Act in
theorem Request.perform_emits (hP : Transforms P) (r : Request) (id : TransformerId) :
    Emits P (r.perform id) := by
  have hlog : Emits P r.logInputMap := by
    unfold logInputMap
    split
    · exact emits_emit (hP.log _ nofun)
    · exact emits_pure _
  have hcall (runtime : E.Runtime) : Emits P (callTransform id runtime r.source r.options) :=
    emits_get.bind fun w => (emits_set _).bind fun _ =>
      (emits_emit (hP.transform id runtime r.source r.options w.library)).bind fun _ =>
        emits_ofEnding _
  refine emits_get.bind fun w => ?_
  split
  · refine hlog.bind fun _ => (hcall _).bind fun answer => ?_
    split
    · exact emits_pure _
    · have hdone : P (.log (.transformed r.filename)) := hP.log _ nofun
      exact (emits_emit hdone).bind fun _ => emits_pure _
  · exact emits_pure _

open Act in
theorem Bench.transform_emits (hP : Transforms P) (source filename : String)
    (inputMap : Option Bytes) : Emits P (transform source filename inputMap) := by
  refine (transformer_emits hP.toStartsUp).bind fun got => ?_
  split
  · exact emits_pure _
  · exact emits_get.bind fun b => (Request.perform_emits hP _ _).within

end

end Downlevel
