/-
  Downlevel — sessions.

  A session works with one world.  It keeps compilers and transformers in
  named slots and at most one pool, and goes from step to step.

  * `Session.perform` performs a step: the answer, the events on the way and
    the session afterwards; after a panic there is no answer, but the session
    goes on (`Session.performAll`);
  * `Session.Reachable` holds of the sessions that steps lead to.
-/
import Downlevel.Session.Step

namespace Downlevel

variable {E : Engines}

/-- A session. -/
structure Session (E : Engines) where
  world : World E
  compilers : Table (Compiler E)
  transformers : Table TransformerId
  pool : Option (Pool E)

namespace Session

/-- A session with no compiler, no transformer and no pool. -/
def fresh (world : World E) : Session E := ⟨world, .empty, .empty, none⟩

/-- Does something in the world. -/
def inWorld {α : Type} (x : Act (Event E) (World E) α) : Act (Event E) (Session E) α :=
  Act.within Session.world (fun w s => { s with world := w }) x

/-- Does something with the compiler `c` and puts it into a slot afterwards. -/
def atBench {α : Type} (slot : String) (c : Compiler E) (x : Act (Event E) (Bench E) α) :
    Act (Event E) (Session E) α :=
  Act.within (fun s => ⟨c, s.world⟩)
    (fun b s => { s with world := b.world, compilers := s.compilers.insert slot b.compiler }) x

/-- Does something with the compiler in a slot. -/
def withCompiler (slot : String) (x : Compiler E → Act (Event E) (Session E) (Answer E)) :
    Act (Event E) (Session E) (Answer E) := do
  match (← Act.get).compilers.find? slot with
  | none => return .noSlot
  | some c => x c

/-- Does something with the pool. -/
def withPool (x : Pool E → Act (Event E) (Session E) (Answer E)) :
    Act (Event E) (Session E) (Answer E) := do
  match (← Act.get).pool with
  | none => return .noSlot
  | some p => x p

/-- Puts a compiler into a slot. -/
def putCompiler (slot : String) (c : Compiler E) : Act (Event E) (Session E) Unit :=
  Act.modify fun s => { s with compilers := s.compilers.insert slot c }

/-- Puts a transformer into a slot. -/
def putTransformer (slot : String) (started : Except EngineFailure TransformerId) :
    Act (Event E) (Session E) (Answer E) := do
  match started with
  | .error e => return .prepared (.error (.notStarted e))
  | .ok id =>
    Act.modify fun s => { s with transformers := s.transformers.insert slot id }
    return .prepared (.ok ())

/-! ## Compilers and transformers -/

/-- A new compiler. -/
def makeCompiler (slot : String) (setup : Setup E) (transformer : Option String) :
    Act (Event E) (Session E) (Answer E) := do
  match setup.options with
  | .error unknown => return .unknownMode unknown
  | .ok options =>
    match transformer with
    | none =>
      putCompiler slot (.fresh options)
      return .created options
    | some name =>
      match (← Act.get).transformers.find? name with
      | none => return .noSlot
      | some id =>
        putCompiler slot ((Compiler.fresh options).owning id)
        return .created options

/-- Whether the compilers in two slots have the same transformer. -/
def sameTransformer (slot other : String) : Act (Event E) (Session E) (Answer E) :=
  withCompiler slot fun c => do
    match ← atBench slot c Bench.transformer with
    | .error e => return .same (.error e)
    | .ok id =>
      withCompiler other fun d => do
        match ← atBench other d Bench.transformer with
        | .error e => return .same (.error e)
        | .ok id' => return .same (.ok (id = id'))

/-! ## The pool -/

/-- A new pool in place of the one there is, which is gone also when there is
    no new one. -/
def makePool (size : Nat) (setup : Setup E) (schedule : List Nat) :
    Act (Event E) (Session E) (Answer E) := do
  Act.modify fun s => { s with pool := none }
  match setup.options with
  | .error unknown => return .unknownMode unknown
  | .ok options =>
    match ← inWorld (Pool.make size options schedule) with
    | .error e => return .filled (.error e)
    | .ok p =>
      Act.modify fun s => { s with pool := some p }
      return .filled (.ok p.stock)

/-- Takes a compiler out of the pool; `empty` is the answer if there is none. -/
def takeCompiler (slot : String) (empty : Answer E) : Act (Event E) (Session E) (Answer E) :=
  withPool fun p => do
    match p.take? with
    | none => return empty
    | some (c, p) =>
      Act.modify fun s => { s with pool := some p, compilers := s.compilers.insert slot c }
      return .stock p.stock

/-- Gives a compiler to the pool `p`. -/
def giveBack (p : Pool E) (c : Compiler E) : Act (Event E) (Session E) Stock :=
  Act.within (fun _ => p) (fun p s => { s with pool := some p }) do
    Pool.release c
    return (← Act.get).stock

/-- Gives the compiler in a slot to the pool. -/
def releaseCompiler (slot : String) : Act (Event E) (Session E) (Answer E) :=
  withPool fun p => withCompiler slot fun c => do
    Act.modify fun s => { s with compilers := s.compilers.erase slot }
    return .stock (← giveBack p c)

/-- Compiles a unit with a compiler of the pool.  A compiler that panicked is
    not given back. -/
def work (p : Pool E) (c : Compiler E) (job : Job) :
    Act (Event E) (Session E) (Ending (Except CompileError (CompiledUnit E.Program))) := do
  let (ending, c) ← Act.within (fun s => (⟨c, s.world⟩ : Bench E))
    (fun b s => { s with world := b.world }) do
      let ending ← (Bench.compile job.source job.filename job.entry).contain
      return (ending, (← Act.get).compiler)
  match ending with
  | .returned result =>
    let _ ← giveBack p c
    return .returned result
  | .panicked text => return .panicked text

/-- Compiles units one after the other, each with the compiler in front of the
    pool; nothing if the pool runs empty. -/
def workAll : List Job →
    Act (Event E) (Session E) (Option (List (Ending (Except CompileError (CompiledUnit E.Program)))))
  | [] => return some []
  | job :: jobs => do
    match (← Act.get).pool.bind Pool.take? with
    | none => return none
    | some (c, p) =>
      Act.modify fun s => { s with pool := some p }
      let result ← work p c job
      match ← workAll jobs with
      | none => return none
      | some results => return some (result :: results)

/-- The calls of the engines in a trace. -/
def tally (trace : List (Event E)) : Tally where
  parses := trace.countP fun | .parse .. => true | _ => false
  transforms := trace.countP fun | .transform .. => true | _ => false
  starts := trace.countP fun | .start .. => true | _ => false

/-- An act whose events are counted instead of recorded: they come in no
    order that an observer could rely on. -/
def counted {α : Type} (x : Act (Event E) (Session E) α) :
    Act (Event E) (Session E) (α × Tally) := fun s =>
  let r := x s
  match r.ending with
  | .returned a => ⟨.returned (a, tally r.trace), r.state, []⟩
  | .panicked text => ⟨.panicked text, r.state, []⟩

/-- Compiles units with compilers of the pool. -/
def compileAll (jobs : List Job) : Act (Event E) (Session E) (Answer E) :=
  withPool fun _ => do
    match ← counted (workAll jobs) with
    | (none, _) => return .wouldWait
    | (some results, tally) =>
      withPool fun p => return .parallel results p.stock tally

/-! ## Steps -/

/-- Performs a step. -/
def perform : Step E → Act (Event E) (Session E) (Answer E)
  | .compiler slot setup transformer => makeCompiler slot setup transformer
  | .compile slot job => withCompiler slot fun c => do
    return .compiled (← atBench slot c (Bench.compile job.source job.filename job.entry))
  | .transform slot source filename inputMap => withCompiler slot fun c => do
    return .transformed (← atBench slot c (Bench.transform source filename inputMap))
  | .prepare slot => withCompiler slot fun c => do
    return .prepared ((← atBench slot c Bench.transformer).map fun _ => ())
  | .same slot other => sameTransformer slot other
  | .dropCompiler slot => do
    let s ← Act.get
    Act.set { s with compilers := s.compilers.erase slot }
    return .flag (s.compilers.find? slot).isSome
  | .transformer slot => do putTransformer slot (← inWorld startTransformer)
  | .sharedTransformer slot => do putTransformer slot (← inWorld Downlevel.sharedTransformer)
  | .run slot request => do
    match (← Act.get).transformers.find? slot with
    | none => return .noSlot
    | some id => return .transformed (← inWorld (request.perform id))
  | .build => do return .build ((← inWorld obtainBuild).mapError .notStarted)
  | .status => do
    let s ← Act.get
    return .status s.world.isBuilt (s.pool.map Pool.stock)
  | .reset => do
    let s ← Act.get
    if s.pool.isNone ∧ s.compilers.entries.isEmpty then
      Act.set { s with world := s.world.forget }
      return .flag true
    else return .flag false
  | .pool size setup schedule => makePool size setup schedule
  | .dropPool => do
    let s ← Act.get
    Act.set { s with pool := none }
    return .flag s.pool.isSome
  | .acquire slot => takeCompiler slot .wouldWait
  | .tryAcquire slot => takeCompiler slot .noCompiler
  | .release slot => releaseCompiler slot
  | .parallel jobs => compileAll jobs

/-- Performs steps one after the other; a step that panics does not keep the
    next one from being performed. -/
def performAll : List (Step E) → Session E → List (Run (Event E) (Session E) (Answer E))
  | [], _ => []
  | step :: steps, s =>
    let r := (perform step).run s
    r :: performAll steps r.state

/-- The sessions that steps lead to. -/
inductive Reachable (start : Session E) : Session E → Prop where
  | start : Reachable start start
  | step {s : Session E} (h : Reachable start s) (step : Step E) :
    Reachable start ((perform step).run s).state

end Session

end Downlevel
