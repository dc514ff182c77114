/-
  Downlevel — the engines a compiler drives.

  The library parses and transforms nothing itself.  A host parses texts and
  compiles what it parsed; a transform library is built once, starts runtimes,
  and its runtimes transform texts; a loader finds source maps.  Each has a state
  of its own that is handed in and out, so an engine may answer the same
  question differently the next time.

  A parse that may ask for maps is a `Dialogue`: it asks for any number of
  maps, each question depending on the answers before it, and ends with a
  verdict.
-/
import Downlevel.Act
import Downlevel.Compile.Failure
import Downlevel.Json.Value
import Downlevel.Text.Bytes

namespace Downlevel

/-! ## The host -/

/-- A parse under way.  `σ` is the state of the host and `α` what an accepted
    text is parsed into. -/
inductive Dialogue (σ α : Type) where
  /-- The parse is over. -/
  | done (verdict : Except Rejection α) (state : σ)
  /-- The host asks for the map at `url` and goes on with the answer. -/
  | ask (url : String) (next : Except MapError Bytes → Dialogue σ α)

/-- An engine that parses and compiles texts. -/
structure Host (σ Ast Program : Type) where
  /-- Parses the text of a file without looking for maps. -/
  parse : (filename source : String) → σ → Except Rejection Ast × σ
  /-- Parses the text of a file and asks for the maps it refers to. -/
  parseWithMaps : (filename source : String) → σ → Dialogue σ Ast
  /-- Compiles a parsed text, in strict mode or not. -/
  compile : Ast → (strict : Bool) → σ → Except Rejection Program × σ

/-! ## The transform library -/

/-- What a runtime makes of a text. -/
structure RawOutput where
  code : String
  map : Option Json.Value

/-- How a call of the library ends: in a value, a failure or a panic. -/
abbrev Outcome (α : Type) : Type := Ending (Except EngineFailure α)

/-- An engine that transforms texts. -/
structure Library (σ Bytecode Runtime : Type) where
  /-- Builds the library. -/
  build : σ → Outcome Bytecode × σ
  /-- Starts a runtime with the built library. -/
  start : Bytecode → σ → Outcome Runtime × σ
  /-- Has a runtime transform a text as an option table asks. -/
  transform : Runtime → (source : String) → (options : Json.Object) → σ →
    Outcome RawOutput × Runtime × σ

/-! ## Loaders -/

/-- What finds the map at a path; `φ` is the state of the files. -/
def Loader (φ : Type) : Type := String → φ → Except MapError Bytes × φ

/-- The loader of a function that reads files: a failure to read becomes a
    failure to load this path. -/
def Loader.ofReader {φ : Type} (read : String → φ → Except String Bytes × φ) : Loader φ :=
  fun path files =>
    let (content, files) := read path files
    (content.mapError (.load path ·), files)

/-! ## All together -/

/-- The engines of one installation, with their types. -/
structure Engines where
  HostState : Type
  Ast : Type
  Program : Type
  LibraryState : Type
  Bytecode : Type
  Runtime : Type
  FileState : Type
  host : Host HostState Ast Program
  library : Library LibraryState Bytecode Runtime

end Downlevel
