/-
  Downlevel — failures of a compile, and how they are reported.

  A compile fails because the host rejects the text, because the transform
  fails, or because no transform runtime can be started.  A rejected text is
  reported with the place of the fault: one character of the text, or nothing
  when the place lies behind it.

  That there is no map does not end a compile.  A loader may fail in any of the
  ways of `MapError`; a map that cannot be shifted is no JSON object (`decode`) or
  has mappings that are no string (`invalidMappings`).

  * `Rejection.span` is the place of a fault in the rejected text;
  * `CompileError.message`, `code`, `help`, `cause`, `filename` and `label` are
    the parts of a report.
-/
import Downlevel.Text.Position

namespace Downlevel

/-- Why the host rejects a text.  The line and the column count from one. -/
structure Rejection where
  message : String
  line : Nat
  column : Nat
  deriving DecidableEq

/-- A failure of an engine, in its own words. -/
structure EngineFailure where
  message : String
  deriving DecidableEq

/-- Why a compile failed. -/
inductive CompileError where
  /-- The host rejects `source`, as it was handed to it. -/
  | rejected (filename : String) (error : Rejection) (source : String)
  /-- The transform failed. -/
  | transformFailed (filename : String) (error : EngineFailure)
  /-- No transform runtime could be started. -/
  | notStarted (error : EngineFailure)
  deriving DecidableEq

/-! ## Missing maps -/

/-- Why a source map is not at hand. -/
inductive MapError where
  /-- The map at `path` could not be loaded. -/
  | load (path reason : String)
  /-- The bytes are no map. -/
  | decode (reason : String)
  /-- The mappings are no string. -/
  | invalidMappings
  /-- There is no map to hand over. -/
  | unavailable
  deriving DecidableEq

/-- The failure in words. -/
def MapError.describe : MapError → String
  | load path reason => "couldn't load source map `" ++ path ++ "`: " ++ reason
  | decode reason => "invalid source map: " ++ reason
  | invalidMappings => "missing \"mappings\" in sourcemap"
  | unavailable => "no source map is available for the transformed code"

/-! ## Places -/

/-- A part of a text: its offset and its length in bytes. -/
structure Span where
  offset : Nat
  length : Nat
  deriving DecidableEq

/-- The place of an error in the text it is about. -/
def Rejection.span (error : Rejection) (source : String) : Span :=
  let offset := Text.offset source.toList error.line error.column
  ⟨offset, if offset < Text.byteLength source.toList then 1 else 0⟩

/-! ## Reports -/

/-- An error of the host in words. -/
def Rejection.describe (error : Rejection) : String :=
  error.message ++ " (line " ++ toString error.line ++ ", column " ++ toString error.column ++ ")"

namespace CompileError

/-- The failure in words. -/
def message : CompileError → String
  | rejected filename error _ => filename ++ ": SyntaxError: " ++ error.describe
  | transformFailed filename error => filename ++ ": transform failed: " ++ error.message
  | notStarted error => "couldn't initialize the transform engine: " ++ error.message

/-- The code of the failure. -/
def code : CompileError → String
  | rejected .. => "es_compiler::syntax"
  | transformFailed .. => "es_compiler::transform"
  | notStarted _ => "es_compiler::initialization"

/-- What to do about it. -/
def help : CompileError → Option String
  | notStarted _ => some "the bundled transform library is corrupted; this is not recoverable"
  | _ => none

/-- The engine's failure behind it. -/
def cause : CompileError → Option EngineFailure
  | rejected .. => none
  | transformFailed _ error => some error
  | notStarted error => some error

/-- The file that it is about. -/
def filename : CompileError → Option String
  | rejected filename _ _ => some filename
  | transformFailed filename _ => some filename
  | notStarted _ => none

/-- The place that it is about, with its label. -/
def label : CompileError → Option (String × Span)
  | rejected _ error source => some ("here", error.span source)
  | _ => none

end CompileError

end Downlevel
