/-
  Downlevel — compilers.

  A compiler has options and a transformer: one of its own, or the shared one
  of its world, which it gets hold of when it first needs it and then keeps.
  `compile` tries the text as it is.  If the host rejects it and the mode
  allows, the unwrapped text is transformed once, and what comes out is tried in
  its place; the second rejection is final, as the mode to go on in has no
  fallback of its own.

  A compiler at work in a world is a `Bench`, because a panic keeps what the
  compiler got hold of before.
-/
import Downlevel.Compile.Attempt
import Downlevel.Transform.Perform

namespace Downlevel

variable {E : Engines}

/-- Where a compiler gets its transformer from. -/
inductive Attachment where
  /-- It was given one of its own. -/
  | own (id : TransformerId)
  /-- It uses the shared one, which it may not have asked for yet. -/
  | shared (id : Option TransformerId)
  deriving DecidableEq

/-- A compiler. -/
structure Compiler (E : Engines) where
  options : CompilerOptions E
  attachment : Attachment

/-- A compiler that uses the shared transformer. -/
def Compiler.fresh (options : CompilerOptions E) : Compiler E := ⟨options, .shared none⟩

/-- The compiler with a transformer of its own. -/
def Compiler.owning (c : Compiler E) (id : TransformerId) : Compiler E :=
  { c with attachment := .own id }

/-- A compiler at work in a world. -/
structure Bench (E : Engines) where
  compiler : Compiler E
  world : World E

namespace Bench

/-- Does something in the world. -/
def inWorld {α : Type} (x : Act (Event E) (World E) α) : Act (Event E) (Bench E) α :=
  Act.within Bench.world (fun w b => { b with world := w }) x

/-- The transformer of the compiler. -/
def transformer : Act (Event E) (Bench E) (Except CompileError TransformerId) := do
  match (← Act.get).compiler.attachment with
  | .own id | .shared (some id) => return .ok id
  | .shared none =>
    match ← inWorld sharedTransformer with
    | .error e => return .error (.notStarted e)
    | .ok id =>
      Act.modify fun b => { b with compiler.attachment := .shared (some id) }
      return .ok id

/-- Has the transformer work on a text.  A map is wanted if the compiler has a loader. -/
def transform (source filename : String) (inputMap : Option Bytes) :
    Act (Event E) (Bench E) (Except CompileError Transformed) := do
  match ← transformer with
  | .error e => return .error e
  | .ok id =>
    let maps := (← Act.get).compiler.options.loader.isSome
    inWorld (Request.perform ⟨source, filename, maps, inputMap⟩ id)

/-- Tries transformed code; a rejection is final. -/
def compileTransformed (filename : String) (entry : Bool) (output : Transformed) :
    Act (Event E) (Bench E) (Except CompileError (CompiledUnit E.Program)) := do
  let o := (← Act.get).compiler.options
  match ← inWorld (o.attempt output.code filename entry output.map) with
  | .decided result => return result
  | .rejected error _ => return .error (.rejected filename error (unitText entry output.code))

/-- Compiles a unit: an entry, or a module in its wrapping. -/
def compile (source filename : String) (entry : Bool) :
    Act (Event E) (Bench E) (Except CompileError (CompiledUnit E.Program)) := do
  let o := (← Act.get).compiler.options
  match ← inWorld (o.attempt source filename entry none) with
  | .decided result => return result
  | .rejected error map =>
    match o.mode.fallback with
    | none => return .error (.rejected filename error (unitText entry source))
    | some _ =>
      Act.emit (.log (.transforming filename o.mode error))
      match ← transform source filename map with
      | .error e => return .error e
      | .ok output => compileTransformed filename entry output

end Bench

end Downlevel
