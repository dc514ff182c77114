/-
  Downlevel — the build of the library, and starting transformers.

  The library is built when it is first needed and never again, whether the
  build succeeds or fails; only a panic leaves it to the next one who needs
  it.  The same holds for the shared transformer.  All other transformers are
  started anew for whoever asks.

  * `obtainBuild` is the memoised build, `startTransformer` starts a
    transformer with it, and `sharedTransformer` is the one for all compilers
    that have none of their own;
  * `World.forget` goes back to a library that was never built.
-/
import Downlevel.Engine.World

namespace Downlevel

variable {E : Engines}

/-! ## Calls of the library -/

/-- Has the library built. -/
def callBuild : Act (Event E) (World E) (Except EngineFailure E.Bytecode) := do
  let w ← Act.get
  let (outcome, library) := E.library.build w.library
  Act.set { w with library := library }
  Act.emit (.build outcome)
  Act.ofEnding outcome

/-- Has a runtime started. -/
def callStart (bytecode : E.Bytecode) :
    Act (Event E) (World E) (Except EngineFailure E.Runtime) := do
  let w ← Act.get
  let (outcome, library) := E.library.start bytecode w.library
  Act.set { w with library := library }
  Act.emit (.start bytecode outcome)
  Act.ofEnding outcome

/-! ## What is built and started once -/

/-- The build of the library, built now if it was not tried yet. -/
def obtainBuild : Act (Event E) (World E) (Except EngineFailure E.Bytecode) := do
  match (← Act.get).build with
  | some built => return built
  | none =>
    Act.emit (.log .building)
    let built ← callBuild
    Act.modify fun w => { w with build := some built }
    return built

/-- Adds a transformer to those that were started, and yields its number. -/
def register (runtime : E.Runtime) : Act (Event E) (World E) TransformerId := do
  let w ← Act.get
  Act.set { w with transformers := w.transformers ++ [.live runtime] }
  return w.transformers.length

/-- Starts a transformer with a built library. -/
def startWith (bytecode : E.Bytecode) :
    Act (Event E) (World E) (Except EngineFailure TransformerId) := do
  match ← callStart bytecode with
  | .error e => return .error e
  | .ok runtime => return .ok (← register runtime)

/-- Starts a transformer. -/
def startTransformer : Act (Event E) (World E) (Except EngineFailure TransformerId) := do
  match ← obtainBuild with
  | .error e => return .error e
  | .ok bytecode => startWith bytecode

/-- The transformer that compilers without one of their own share, started now
    if that was not tried yet. -/
def sharedTransformer : Act (Event E) (World E) (Except EngineFailure TransformerId) := do
  match (← Act.get).shared with
  | some started => return started
  | none =>
    Act.emit (.log .startingShared)
    let started ← startTransformer
    Act.modify fun w => { w with shared := some started }
    return started

/-- Whether the build was tried. -/
def World.isBuilt (w : World E) : Bool := w.build.isSome

/-- What a world tells about its build. -/
def World.describe (w : World E) : String :=
  "SharedBytecode \x7b library: Library, compiled: " ++ toString w.isBuilt ++ " \x7d"

/-- The world without the build and the shared transformer, so that the next
    one who needs them starts anew. -/
def World.forget (w : World E) : World E := { w with build := none, shared := none }

end Downlevel
