/-
  Downlevel — the log.

  What the library tells whoever watches it, each entry with its level, its
  message and its fields.  Warnings say that something was dropped (a map that
  could not be loaded or decoded, a compiler that did not fit its pool); the
  rest tells what is going on.
-/
import Downlevel.Compile.Failure
import Downlevel.Json.Fault
import Downlevel.Mode

namespace Downlevel

/-- How much an entry matters. -/
inductive LogLevel where
  | debug
  | warn
  deriving DecidableEq

/-- The value of a field. -/
inductive LogField where
  | text (s : String)
  | count (n : Nat)
  deriving DecidableEq

/-- An entry of the log. -/
inductive LogEntry where
  /-- The transform library is about to be built. -/
  | building
  /-- The shared transformer is about to be started. -/
  | startingShared
  /-- A pool is filled. -/
  | poolReady (capacity : Nat)
  /-- The host rejected a text that is transformed next. -/
  | transforming (filename : String) (mode : Mode) (error : Rejection)
  /-- A runtime transformed a text. -/
  | transformed (filename : String)
  /-- A map could not be handed to the host; the error is the host's, if it
      rejected the text too. -/
  | mapMissing (filename : String) (error : Option Rejection)
  /-- An input map is no JSON. -/
  | inputMapIgnored (filename : String) (fault : Json.Fault)
  /-- A compiler did not fit its pool. -/
  | compilerDropped (capacity : Nat)

namespace LogEntry

/-- The level of an entry. -/
def level : LogEntry → LogLevel
  | mapMissing .. | inputMapIgnored .. | compilerDropped _ => .warn
  | _ => .debug

/-- The message of an entry. -/
def message : LogEntry → String
  | building => "compiling transform library"
  | startingShared => "starting default transformer"
  | poolReady _ => "compiler pool ready"
  | transforming .. => "transforming source the host could not parse"
  | transformed _ => "transformed"
  | mapMissing filename _ => "couldn't load source map for " ++ filename
  | inputMapIgnored .. => "ignoring undecodable input source map"
  | compilerDropped _ => "dropping compiler released to a full pool"

/-- The fields of an entry besides its message. -/
def fields : LogEntry → List (String × LogField)
  | building | startingShared => []
  | poolReady capacity => [("capacity", .count capacity)]
  | transforming filename mode error =>
    [("filename", .text filename), ("mode", .text mode.name), ("error", .text error.describe)]
  | transformed filename => [("filename", .text filename)]
  | mapMissing filename none => [("filename", .text filename)]
  | mapMissing filename (some error) =>
    [("filename", .text filename), ("error", .text error.describe)]
  | inputMapIgnored filename fault =>
    [("filename", .text filename), ("error", .text fault.describe)]
  | compilerDropped capacity =>
    [("capacity", .count capacity), ("error", .text "sending on a full channel")]

end LogEntry

end Downlevel
