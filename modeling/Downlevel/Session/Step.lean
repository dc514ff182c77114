/-
  Downlevel — the steps of a session.

  `Step` lists what a session can be asked to do, and `Answer` what it
  answers.  A compiler is asked for with a `Setup`, whose mode is a text that
  may name none; units to compile are `Job`s.
-/
import Downlevel.Pool.Basic

namespace Downlevel

variable {E : Engines}

/-- How a compiler is to be set up, its mode still a text. -/
structure Setup (E : Engines) where
  mode : Option String
  loader : Option (Loader E.FileState)
  strict : Bool

/-- The options of a set-up, if its text names a mode. -/
def Setup.options (setup : Setup E) : Except UnknownMode (CompilerOptions E) := do
  let mode ← match setup.mode with
    | none => .ok Mode.default
    | some text => Mode.ofText text
  return ⟨mode, setup.loader, setup.strict⟩

/-- A unit to compile. -/
structure Job where
  source : String
  filename : String
  entry : Bool

/-- What a session can be asked to do. -/
inductive Step (E : Engines) where
  /-- Puts a new compiler into a slot, with the transformer of a slot. -/
  | compiler (slot : String) (setup : Setup E) (transformer : Option String)
  | compile (slot : String) (job : Job)
  /-- Has the transformer of a compiler work on a text. -/
  | transform (slot source filename : String) (inputMap : Option Bytes)
  /-- Has a compiler get hold of its transformer. -/
  | prepare (slot : String)
  /-- Whether two compilers have the same transformer. -/
  | same (slot other : String)
  | dropCompiler (slot : String)
  /-- Starts a transformer and puts it into a slot. -/
  | transformer (slot : String)
  /-- Puts the shared transformer into a slot. -/
  | sharedTransformer (slot : String)
  /-- Has a transformer perform a request. -/
  | run (slot : String) (request : Request)
  /-- Gets hold of the build of the library. -/
  | build
  | status
  /-- Forgets the build and the shared transformer, if nobody shares them. -/
  | reset
  /-- Makes a pool, whose workers interleave as the schedule says. -/
  | pool (size : Nat) (setup : Setup E) (schedule : List Nat)
  | dropPool
  /-- Takes a compiler out of the pool, and would wait for one. -/
  | acquire (slot : String)
  /-- Takes a compiler out of the pool, if there is one. -/
  | tryAcquire (slot : String)
  | release (slot : String)
  /-- Compiles units with compilers of the pool, each taken out and given back
      by whoever compiles. -/
  | parallel (jobs : List Job)

/-- How often the engines were called. -/
structure Tally where
  parses : Nat
  transforms : Nat
  starts : Nat
  deriving DecidableEq

/-- What a session answers. -/
inductive Answer (E : Engines) where
  /-- There is no such slot, or no pool. -/
  | noSlot
  | unknownMode (unknown : UnknownMode)
  | created (options : CompilerOptions E)
  | compiled (result : Except CompileError (CompiledUnit E.Program))
  | transformed (result : Except CompileError Transformed)
  | prepared (result : Except CompileError Unit)
  | same (result : Except CompileError Bool)
  | flag (b : Bool)
  | build (result : Except CompileError E.Bytecode)
  | status (isBuilt : Bool) (stock : Option Stock)
  | filled (result : Except CompileError Stock)
  | stock (stock : Stock)
  /-- The pool is empty. -/
  | wouldWait
  | noCompiler
  | parallel (results : List (Ending (Except CompileError (CompiledUnit E.Program)))) (stock : Stock)
      (tally : Tally)

end Downlevel
