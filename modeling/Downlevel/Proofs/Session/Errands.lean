/-
  Downlevel — what a compiler with a transformer of its own is asked to do.

  The compiler that has transformer `k` to itself is asked to compile units and to
  transform texts, wherever it is.  A session asks it in some of its steps and jobs;
  whatever else is done leaves its runtime alone.

  * `Task`, `Errand`: what a compiler is asked to do, and which one is asked;
  * `Bench.Warm`: a compiler for which nothing has to be started;
  * `Session.Asks`, `Session.Employs`: what the compiler is asked in a run;
  * `Employs.retired_iff`: its runtime is lost only by an errand of its own.
-/
import Downlevel.Proofs.Compile.SideBySide
import Downlevel.Proofs.Session.Private
import Downlevel.Proofs.Session.Requests

namespace Downlevel

variable {E : Engines} {k : TransformerId}

/-! ## Answers -/

/-- The ending of something that is answered. -/
def Ending.map {α β : Type} (f : α → β) : Ending α → Ending β
  | .returned a => .returned (f a)
  | .panicked text => .panicked text

theorem Ending.map_panicked_iff {α β : Type} {f : α → β} {ending : Ending α} {text : String} :
    ending.map f = .panicked text ↔ ending = .panicked text := by
  cases ending <;> simp [map]

theorem Act.answered_apply {ε σ α β : Type} (x : Act ε σ α) (f : α → β) (s : σ) :
    (do return f (← x) : Act ε σ β) s = ⟨(x s).ending.map f, (x s).state, (x s).trace⟩ := by
  rcases h : x s with ⟨a | text, s', t⟩
  · rw [bind_of_returned h]
    simp [Ending.map]
  · rw [bind_of_panicked h]
    rfl

/-! ## Tasks -/

/-- What a compiler is asked to do with a text. -/
inductive Task where
  | compile (job : Job)
  | transform (source filename : String) (inputMap : Option Bytes)

namespace Task

/-- A compiler does what it is asked. -/
def perform : Task → Act (Event E) (Bench E) (Answer E)
  | compile job => do
    return .compiled (← Bench.compile job.source job.filename job.entry)
  | transform source filename inputMap => do
    return .transformed (← Bench.transform source filename inputMap)

/-- The step that asks the compiler in a slot. -/
def step (name : String) : Task → Step E
  | compile job => .compile name job
  | transform source filename inputMap => .transform name source filename inputMap

theorem perform_compile_apply (job : Job) (b : Bench E) :
    let run := Bench.compile job.source job.filename job.entry b
    (compile job).perform b = ⟨run.ending.map .compiled, run.state, run.trace⟩ :=
  Act.answered_apply ..

theorem perform_transform_apply (source filename : String) (inputMap : Option Bytes) (b : Bench E) :
    let run := Bench.transform source filename inputMap b
    (transform source filename inputMap).perform b =
      ⟨run.ending.map .transformed, run.state, run.trace⟩ :=
  Act.answered_apply ..

theorem perform_used (task : Task) (b : Bench E) :
    b.Used (task.perform b).trace (task.perform b).state := by
  cases task with
  | compile job =>
    rw [perform_compile_apply]
    exact .compiles rfl
  | transform source filename inputMap =>
    rw [perform_transform_apply]
    exact .transforms rfl

end Task

namespace Bench

variable {b : Bench E}

section
variable (hid : b.compiler.attachment.id? = some k)
include hid

/-- A transform panics if the runtime does, which is lost then. -/
theorem transform_retired_iff (hk : k < b.world.transformers.length) (source filename : String)
    (inputMap : Option Bytes) :
    (transform source filename inputMap b).state.world.transformers[k]? = some .retired ↔
      b.world.transformers[k]? = some .retired ∨
        ∃ text, (transform source filename inputMap b).ending = .panicked text := by
  obtain ⟨-, -, hretired, -⟩ := Request.perform_of_lt
    (r := ⟨source, filename, b.compiler.options.loader.isSome, inputMap⟩) hk
  rw [transform_of_id? hid]
  exact hretired

theorem compile_retired_iff (hk : k < b.world.transformers.length) (source filename : String)
    (entry : Bool) :
    (compile source filename entry b).state.world.transformers[k]? = some .retired ↔
      b.world.transformers[k]? = some .retired ∨
        ∃ text, (compile source filename entry b).ending = .panicked text := by
  have hhost {w w' : World E} (h : w.HostOnly w') : w'.transformers = w.transformers :=
    congrArg Ledger.transformers h.ledger_eq
  rcases hrun : compile source filename entry b with ⟨ending, b', t⟩
  cases compile_compiles hrun with
  | alone hw => simp [hhost hw]
  | @through _ e map w answer b₁ u _ w₂ _ _ _ hw _ hu hw₂ _ _ hpanicked =>
    have hsame := hhost hw
    have htransform := transform_retired_iff (b := { b with world := w }) hid
      (show k < w.transformers.length by rw [hsame]; exact hk) source filename map
    rw [hu] at htransform
    simp only [hhost hw₂, hpanicked]
    rw [← hsame]
    exact htransform

/-- A transformer that was started answers, if only that it failed. -/
theorem transform_ne_notStarted (source filename : String) (inputMap : Option Bytes)
    (e : EngineFailure) :
    (transform source filename inputMap b).ending ≠ .returned (.error (.notStarted e)) := by
  rw [transform_of_id? hid]
  generalize (⟨source, filename, b.compiler.options.loader.isSome, inputMap⟩ : Request) = r
  show (r.perform k b.world).ending ≠ _
  by_cases hlive : ∃ runtime, b.world.transformers[k]? = some (.live runtime)
  · obtain ⟨runtime, hlive⟩ := hlive
    obtain ⟨_, outcome, -, hending⟩ := r.perform_answered hlive
    rw [hending]
    rcases outcome with (e' | raw) | text
    · nofun
    · simp only [Request.answered, Request.result]
      split
      · split <;> nofun
      · nofun
    · nofun
  · rw [Request.perform_of_not_live fun runtime h => hlive ⟨runtime, h⟩]
    nofun

theorem compile_ne_notStarted (source filename : String) (entry : Bool) (e : EngineFailure) :
    (compile source filename entry b).ending ≠ .returned (.error (.notStarted e)) := by
  rcases hrun : compile source filename entry b with ⟨ending, b', t⟩
  cases compile_compiles hrun with
  | @alone _ result _ _ _ hne =>
    intro h
    cases h
    exact hne e rfl
  | @through _ _ map w answer _ _ _ _ _ _ _ _ _ hu _ _ hne _ =>
    intro h
    have hanswer := hne e h
    have htransform := transform_ne_notStarted (b := { b with world := w }) hid source filename map e
    rw [hu] at htransform
    exact htransform hanswer

end

/-- The compiler has transformer `k`: nothing has to be built or started for it, whatever
    it is asked, and it reaches no other. -/
structure Warm (k : TransformerId) (b : Bench E) : Prop where
  prepared : transformer b = ⟨.returned (.ok k), b, []⟩
  startUp (task : Task) : ∀ x ∈ (task.perform b).trace, ¬ x.isStartUp
  reaches (task : Task) (id : TransformerId) : ∀ x ∈ (task.perform b).trace, x.reaches id → id = k
  started (task : Task) (answer : Answer E) (e : EngineFailure) :
    (task.perform b).ending = .returned answer → answer.failure? ≠ some (.notStarted e)

/-- Whoever is answered what a compiler came to is told its failure and no other. -/
theorem failure?_ne {α : Type} {answer : Except CompileError α → Answer E}
    (hanswer : ∀ result error, (answer result).failure? = some error → result = .error error)
    {ending : Ending (Except CompileError α)} {error : CompileError}
    (hne : ending ≠ .returned (.error error)) {a : Answer E}
    (h : ending.map answer = .returned a) : a.failure? ≠ some error := by
  rcases ending with result | text
  · cases h
    intro hfailure
    obtain rfl := hanswer result error hfailure
    exact hne rfl
  · cases h

/-- A compiler that has its transformer is warm. -/
theorem warm_of_id? (hid : b.compiler.attachment.id? = some k) : b.Warm k := by
  have hspares (task : Task) : b.Spares (task.perform b).trace (task.perform b).state := by
    cases task with
    | compile job =>
      rw [Task.perform_compile_apply]
      exact compile_spares hid ..
    | transform source filename inputMap =>
      rw [Task.perform_transform_apply]
      exact transform_spares hid ..
  refine ⟨transformer_of_id? hid, fun task => (hspares task).events, ?reaches, ?started⟩
  case reaches =>
    intro task id x hx hreaches
    have hid' := (task.perform_used b).reaches hx hreaches
    rw [(hspares task).compiler, hid] at hid'
    exact (Option.some.inj hid').symm
  case started =>
    intro task a e ha
    cases task with
    | compile job =>
      rw [Task.perform_compile_apply] at ha
      refine failure?_ne ?_ (compile_ne_notStarted hid _ _ _ e) ha
      rintro (e | unit) error ⟨⟩
      rfl
    | transform source filename inputMap =>
      rw [Task.perform_transform_apply] at ha
      refine failure?_ne ?_ (transform_ne_notStarted hid _ _ _ e) ha
      rintro (e | output) error ⟨⟩
      rfl

end Bench

/-! ## Errands -/

/-- A task, and the compiler that is asked, in the world in which it is. -/
structure Errand (E : Engines) where
  task : Task
  bench : Bench E

namespace Errand

/-- How the errand is done. -/
def run (e : Errand E) : Run (Event E) (Bench E) (Answer E) := e.task.perform.run e.bench

/-- A runtime panics over it. -/
def Panics (e : Errand E) : Prop := ∃ text, e.run.ending = .panicked text

/-- The runtime of a compiler is lost if it panics. -/
theorem retired_iff {e : Errand E} (hid : e.bench.compiler.attachment.id? = some k)
    (hk : k < e.bench.world.transformers.length) :
    e.run.state.world.transformers[k]? = some .retired ↔
      e.bench.world.transformers[k]? = some .retired ∨ e.Panics := by
  obtain ⟨task, b⟩ := e
  cases task with
  | compile job =>
    simp only [Panics, run, Act.run, Task.perform_compile_apply, Ending.map_panicked_iff]
    exact Bench.compile_retired_iff hid hk ..
  | transform source filename inputMap =>
    simp only [Panics, run, Act.run, Task.perform_transform_apply, Ending.map_panicked_iff]
    exact Bench.transform_retired_iff hid hk ..

end Errand

/-! ## In a session -/

namespace Session

variable {s s₀ s' : Session E} {t : List (Event E)} {place : Place} {c : Compiler E}
  {es log : List (Errand E)}

/-- What is asked of the compiler that was given transformer `k` if `c` is asked. -/
def entrusted (s : Session E) (k : TransformerId) (c : Compiler E) (task : Task) :
    List (Errand E) :=
  if c.attachment = .own k then [⟨task, ⟨c, s.world⟩⟩] else []

/-- What a step asks of the compiler that was given transformer `k`. -/
def errands (s : Session E) (k : TransformerId) : Step E → List (Errand E)
  | .compile name job =>
    (s.compilers.find? name).toList.flatMap fun c => s.entrusted k c (.compile job)
  | .transform name source filename inputMap =>
    (s.compilers.find? name).toList.flatMap fun c =>
      s.entrusted k c (.transform source filename inputMap)
  | _ => []

/-- Something is done, in which the compiler that was given transformer `k` is asked the
    `errands`: a step, a job by the compiler in front of the pool, or a reset. -/
inductive Asks (s : Session E) (k : TransformerId) :
    List (Errand E) → List (Event E) → Session E → Prop
  | step {step} : s.Plain step →
      Asks s k (s.errands k step) ((perform step).run s).trace ((perform step).run s).state
  | job {p c p'} (job : Job) : s.pool = some p → p.take? = some (c, p') →
      Asks s k (s.entrusted k c (.compile job))
        (work p' c job { s with pool := some p' }).trace
        (work p' c job { s with pool := some p' }).state
  | reset : s.CanReset → Asks s k [] [] { s with world := s.world.forget }

/-- Between the sessions `s₀` and `s` the compiler that was given transformer `k` was
    asked the errands `log`, one after the other. -/
inductive Employs (s₀ : Session E) (k : TransformerId) : List (Errand E) → Session E → Prop
  | start : Employs s₀ k [] s₀
  | next {log es : List (Errand E)} {s s' : Session E} {t : List (Event E)} :
      Employs s₀ k log s → s.Asks k es t s' → Employs s₀ k (log ++ es) s'

theorem errands_step {name : String} (hc : s.Holds (.slot name) c) (task : Task) :
    s.errands k (task.step name) = s.entrusted k c task := by
  have hfind : s.compilers.find? name = some c := hc
  cases task <;> simp [errands, Task.step, hfind]

/-- The compiler in a slot does what it is asked, and this is what the session answers. -/
theorem perform_step_apply {name : String} (hc : s.Holds (.slot name) c) (task : Task) :
    let run := task.perform ⟨c, s.world⟩
    perform (task.step name) s = ⟨run.ending,
      { s with
        world := run.state.world
        compilers := s.compilers.insert name run.state.compiler }, run.trace⟩ := by
  cases task with
  | compile job =>
    rcases hrun : Bench.compile job.source job.filename job.entry ⟨c, s.world⟩ with ⟨ending, b, t⟩
    simp only [Task.step, perform]
    rw [withCompiler_apply hc, Act.answered_apply, atBench_apply hrun, Task.perform_compile_apply,
      hrun]
  | transform source filename inputMap =>
    rcases hrun : Bench.transform source filename inputMap ⟨c, s.world⟩ with ⟨ending, b, t⟩
    simp only [Task.step, perform]
    rw [withCompiler_apply hc, Act.answered_apply, atBench_apply hrun, Task.perform_transform_apply,
      hrun]

theorem work_world {p : Pool E} (job : Job) :
    (work p c job s).state.world = ((Task.compile job).perform ⟨c, s.world⟩).state.world := by
  rw [Task.perform_compile_apply]
  rcases hrun : Bench.compile job.source job.filename job.entry ⟨c, s.world⟩ with
    ⟨result | text, b, t⟩
  · rw [work_apply hrun]
  · rw [work_apply hrun]

/-! ## What becomes of the compiler -/

/-- Whatever is done is a turn in which the compiler is put to work only if it is asked,
    or a reset. -/
theorem Asks.turn (h : s.Asks k es t s') :
    (∃ taken used, s.Turn taken used t s' ∧
      (es = [] → ∀ place c, used place → ¬ s.Owns k place c)) ∨
    s.CanReset ∧ es = [] ∧ t = [] ∧ s' = { s with world := s.world.forget } := by
  cases h with
  | @step step hplain =>
    refine .inl ⟨_, _, perform_turn hplain, fun hnone place c hused hc => ?_⟩
    have hasked {name : String} (task : Task) (hplace : place = .slot name) :
        s.errands k (task.step name) ≠ [] := by
      rw [errands_step (hplace ▸ hc.1), entrusted, if_pos hc.2]
      nofun
    cases step with
    | compile name job => exact hasked (.compile job) hused hnone
    | transform name source filename inputMap =>
      exact hasked (.transform source filename inputMap) hused hnone
    | _ => exact hused
  | @job p front p' job hp htake =>
    have hturn : s.Turn (fun _ => True) (Place.queue 0 = ·) _ _ :=
      work_turn (fun _ => trivial) rfl hp htake job
    refine .inl ⟨_, _, hturn, fun hnone place c hused hc => ?_⟩
    obtain ⟨_, hp', hfront⟩ := hused ▸ hc.1
    cases hp.symm.trans hp'
    obtain rfl : front = c := by simpa [(Pool.waiting_of_take? htake).1] using hfront
    rw [entrusted, if_pos hc.2] at hnone
    cases hnone
  | reset hreset => exact .inr ⟨hreset, rfl, rfl, rfl⟩

theorem Asks.private (h : s.Asks k es t s') (hs : s.Private c k) : s'.Private c k := by
  rcases h.turn with ⟨taken, used, hturn, -⟩ | ⟨hreset, -, -, rfl⟩
  · exact hturn.private hs
  · exact hs.forget hreset

/-- Unless the compiler is asked to do something, nothing reaches its runtime. -/
theorem Asks.spares (h : s.Asks k [] t s') (hs : s.Private c k) :
    (∀ x ∈ t, ¬ x.reaches k) ∧ s'.world.transformers[k]? = s.world.transformers[k]? := by
  rcases h.turn with ⟨taken, used, hturn, hidle⟩ | ⟨-, -, rfl, rfl⟩
  · have hnone : ∀ x ∈ t, ¬ x.reaches k := by
      intro x hx hreaches
      obtain ⟨place, d, hused, hd⟩ := hturn.reaches hs.toReserved hx hreaches
      exact hidle rfl place d hused hd
    exact ⟨hnone, hturn.keeps.world.getElem?_eq hs.lt hnone⟩
  · exact ⟨nofun, rfl⟩

/-- The compiler is asked to do nothing, or one thing, which it does. -/
theorem Asks.errand (h : s.Asks k es t s') (hs : s.Private c k) :
    es = [] ∨ ∃ task, es = [⟨task, ⟨c, s.world⟩⟩] ∧ c.attachment = .own k ∧
      s'.world = (task.perform ⟨c, s.world⟩).state.world := by
  have hentrusted {place : Place} {d : Compiler E} (hd : s.Holds place d) (task : Task) :
      s.entrusted k d task = [] ∨
        s.entrusted k d task = [⟨task, ⟨c, s.world⟩⟩] ∧ d = c ∧ c.attachment = .own k := by
    by_cases hown : d.attachment = .own k
    · obtain rfl := hs.same place d ⟨hd, hown⟩
      exact .inr ⟨if_pos hown, rfl, hown⟩
    · exact .inl (if_neg hown)
  cases h with
  | @step step hplain =>
    have hstep {name : String} (task : Task) (hstep : step = task.step name) :
        s.errands k step = [] ∨ ∃ task, s.errands k step = [⟨task, ⟨c, s.world⟩⟩] ∧
          c.attachment = .own k ∧
          ((perform step).run s).state.world = (task.perform ⟨c, s.world⟩).state.world := by
      subst hstep
      cases hfind : s.compilers.find? name with
      | none => exact .inl (by cases task <;> simp [errands, Task.step, hfind])
      | some d =>
        have hd : s.Holds (.slot name) d := hfind
        rw [errands_step hd]
        rcases hentrusted hd task with hnone | ⟨hasked, rfl, hown⟩
        · exact .inl hnone
        · exact .inr ⟨task, hasked, hown, by rw [Act.run, perform_step_apply hd]⟩
    cases step with
    | compile name job => exact hstep (.compile job) rfl
    | transform name source filename inputMap =>
      exact hstep (.transform source filename inputMap) rfl
    | _ => exact .inl rfl
  | @job p front p' job hp htake =>
    have hfront : s.Holds (.queue 0) front :=
      ⟨p, hp, by rw [(Pool.waiting_of_take? htake).1]; rfl⟩
    rcases hentrusted hfront (.compile job) with hnone | ⟨hasked, rfl, hown⟩
    · exact .inl hnone
    · exact .inr ⟨.compile job, hasked, hown, work_world (s := { s with pool := some p' }) job⟩
  | reset => exact .inl rfl

/-- The runtime of the compiler is lost only if it panics over what the compiler is
    asked to do. -/
theorem Asks.retired_iff (h : s.Asks k es t s') (hs : s.Private c k) :
    s'.world.transformers[k]? = some .retired ↔
      s.world.transformers[k]? = some .retired ∨ ∃ e ∈ es, e.Panics := by
  rcases h.errand hs with rfl | ⟨task, rfl, hown, hworld⟩
  · rw [(h.spares hs).2]
    simp
  · have hid : c.attachment.id? = some k := by rw [hown]; rfl
    have hretired := Errand.retired_iff (e := ⟨task, ⟨c, s.world⟩⟩) hid hs.lt
    simp only [List.mem_singleton, exists_eq_left, hworld]
    exact hretired

theorem Employs.private (h : s₀.Employs k log s) (hs : s₀.Private c k) : s.Private c k := by
  induction h with
  | start => exact hs
  | next _ hasks ih => exact hasks.private ih

/-- The runtime was lost exactly if it panicked over an errand of the compiler. -/
theorem Employs.retired_iff (h : s₀.Employs k log s) (hs : s₀.Private c k)
    (hlive : s₀.world.transformers[k]? ≠ some .retired) :
    s.world.transformers[k]? = some .retired ↔ ∃ e ∈ log, e.Panics := by
  induction h with
  | start => simpa using hlive
  | next h hasks ih =>
    rw [hasks.retired_iff (h.private hs), ih]
    simp only [List.mem_append, or_and_right, exists_or]

/-- Whatever is done in a session, the compiler was asked something or nothing. -/
theorem exists_employs_of_reachable (h : Reachable s₀ s) (k : TransformerId) :
    ∃ log, s₀.Employs k log s := by
  obtain ⟨past, t, hhistory⟩ := History.exists_of_reachable h
  clear h
  induction hhistory with
  | start => exact ⟨[], .start⟩
  | next _ hnext ih =>
    obtain ⟨log, ih⟩ := ih
    cases hnext with
    | step hplain => exact ⟨_, ih.next (.step hplain)⟩
    | job job hp htake => exact ⟨_, ih.next (.job job hp htake)⟩
  | reset _ hreset ih =>
    obtain ⟨log, ih⟩ := ih
    exact ⟨_, ih.next (.reset hreset)⟩

end Session

end Downlevel
