/-
  Downlevel — filling a pool.

  Each compiler of a pool is made by a worker of its own: it gets hold of the
  build of the library, starts a transformer, and puts a compiler with that
  transformer into the channel.  The workers take these three steps in any
  order among each other: `Filling.follow` takes a schedule of worker numbers.
  The build, which one worker may wait for another to finish, is a single step.

  When all are done the workers are asked in the order of their numbers.  The
  first one that failed or panicked decides the failure of the pool, and the
  ones behind it are not asked any more: if one of those panicked, so does the
  whole (`joinWorkers`).
-/
import Downlevel.Compile.Compiler

namespace Downlevel

variable {E : Engines}

/-! ## Workers -/

/-- How far a worker is. -/
inductive Worker (E : Engines) where
  | idle
  /-- It got hold of the build. -/
  | built (bytecode : E.Bytecode)
  /-- It started a transformer. -/
  | started (id : TransformerId)
  /-- Its compiler is in the channel. -/
  | done
  | failed (error : EngineFailure)
  | panicked

namespace Worker

/-- A worker that asked for the build. -/
def afterBuild : Outcome E.Bytecode → Worker E
  | .returned (.ok bytecode) => .built bytecode
  | .returned (.error e) => .failed e
  | .panicked _ => .panicked

/-- A worker that had a transformer started. -/
def afterStart : Outcome TransformerId → Worker E
  | .returned (.ok id) => .started id
  | .returned (.error e) => .failed e
  | .panicked _ => .panicked

/-- The failure of a worker, as whoever asks it sees it. -/
def failure? : Worker E → Option EngineFailure
  | failed e => some e
  | panicked => some ⟨"compiler initialization panicked"⟩
  | _ => none

/-- Whether a worker panicked. -/
def hasPanicked : Worker E → Bool
  | panicked => true
  | _ => false

end Worker

/-! ## The workers of a pool -/

/-- A pool being filled. -/
structure Filling (E : Engines) where
  world : World E
  workers : List (Worker E)
  /-- The compilers made so far, the first one in front. -/
  channel : List (Compiler E)

namespace Filling

/-- `capacity` workers that did nothing yet. -/
def begin (capacity : Nat) (world : World E) : Filling E :=
  ⟨world, List.replicate capacity .idle, []⟩

/-- Does something in the world; a panic ends the worker, not the act. -/
def inWorld {α : Type} (x : Act (Event E) (World E) α) :
    Act (Event E) (Filling E) (Ending α) :=
  Act.within Filling.world (fun w s => { s with world := w }) x.contain

/-- Says how far worker `i` is now. -/
def place (i : Nat) (worker : Worker E) : Act (Event E) (Filling E) Unit :=
  Act.modify fun s => { s with workers := s.workers.set i worker }

/-- Puts the compiler of worker `i` into the channel.  While the channel is
    full the worker waits. -/
def send (options : CompilerOptions E) (i : Nat) (id : TransformerId) :
    Act (Event E) (Filling E) Unit := do
  let s ← Act.get
  if s.channel.length < s.workers.length then
    Act.set { s with channel := s.channel ++ [(Compiler.fresh options).owning id] }
    place i .done

/-- Worker `i` takes its next step. -/
def step (options : CompilerOptions E) (i : Nat) : Act (Event E) (Filling E) Unit := do
  match (← Act.get).workers[i]? with
  | some .idle => place i (.afterBuild (← inWorld obtainBuild))
  | some (.built bytecode) => place i (.afterStart (← inWorld (startWith bytecode)))
  | some (.started id) => send options i id
  | _ => return ()

/-- The workers take steps as the schedule says. -/
def follow (options : CompilerOptions E) : List Nat → Act (Event E) (Filling E) Unit
  | [] => return ()
  | i :: schedule => do
    step options i
    follow options schedule

/-- The schedule in which `n` workers take all their steps one after the
    other. -/
def inOrder (n : Nat) : List Nat := (List.range n).flatMap fun i => [i, i, i]

/-- The workers take steps as the schedule says, and then all that are left. -/
def complete (options : CompilerOptions E) (schedule : List Nat) :
    Act (Event E) (Filling E) Unit := do
  let s ← Act.get
  follow options (schedule ++ inOrder s.workers.length)

end Filling

/-- Asks the workers in order whether they failed. -/
def joinWorkers {σ : Type} : List (Worker E) → Act (Event E) σ (Except CompileError Unit)
  | [] => return .ok ()
  | worker :: workers =>
    match worker.failure? with
    | none => joinWorkers workers
    | some e =>
      if workers.any Worker.hasPanicked then Act.panic "a scoped thread panicked"
      else return .error (.notStarted e)

end Downlevel
