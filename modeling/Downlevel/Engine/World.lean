/-
  Downlevel — the world that compilers share.

  A world holds the states of the engines, the build of the transform library
  and the shared transformer once they are known, and every transformer that
  was ever started.  A transformer is a runtime, or what is left of one that
  panicked; it is referred to by its number, so two references are to the same
  transformer exactly if the numbers agree.

  Everything that happens to the engines is recorded as an `Event`, with the
  answer where there is one.
-/
import Downlevel.Engine.Basic
import Downlevel.Log

namespace Downlevel

/-- The number of a transformer, in the order of their start. -/
abbrev TransformerId : Type := Nat

/-- A started runtime. -/
inductive Transformer (Runtime : Type) where
  | live (runtime : Runtime)
  /-- The runtime panicked and is not used again. -/
  | retired

/-- What compilers share. -/
structure World (E : Engines) where
  host : E.HostState
  library : E.LibraryState
  files : E.FileState
  /-- The build of the transform library, or its failure, once it was tried. -/
  build : Option (Except EngineFailure E.Bytecode)
  /-- The shared transformer, or its failure, once it was tried. -/
  shared : Option (Except EngineFailure TransformerId)
  transformers : List (Transformer E.Runtime)

/-- A world in which nothing was built or started. -/
def World.fresh {E : Engines} (host : E.HostState) (library : E.LibraryState)
    (files : E.FileState) : World E :=
  ⟨host, library, files, none, none, []⟩

/-- Something that happened to an engine, or was logged. -/
inductive Event (E : Engines) where
  /-- The host starts to parse a text, looking for maps or not. -/
  | parse (filename source : String) (maps : Bool)
  /-- A loader answered. -/
  | load (path : String) (answer : Except MapError Bytes)
  /-- The host was handed a map it asked for, or told why not. -/
  | map (url : String) (answer : Except MapError Bytes)
  /-- The host is done with a parse. -/
  | verdict (answer : Except Rejection E.Ast)
  /-- The host compiled what it had parsed. -/
  | compile (ast : E.Ast) (strict : Bool) (answer : Except Rejection E.Program)
  /-- The library was built. -/
  | build (outcome : Outcome E.Bytecode)
  /-- A runtime was started. -/
  | start (bytecode : E.Bytecode) (outcome : Outcome E.Runtime)
  /-- A transformer's runtime transformed a text; `runtime` is how that left it. -/
  | transform (id : TransformerId) (source : String) (options : Json.Object) (runtime : E.Runtime)
      (outcome : Outcome RawOutput)
  | log (entry : LogEntry)

end Downlevel
