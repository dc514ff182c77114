/-
  Downlevel — transforming a text.

  `Request.perform` hands a request to a transformer.  A panic of its runtime
  retires the transformer: the runtime may hold half-built state, so later
  requests fail without reaching it.  An answer that is a failure, or that
  lacks a wanted map, leaves the transformer as it is.
-/
import Downlevel.Transform.Request
import Downlevel.Transform.Start

namespace Downlevel

variable {E : Engines}

/-- The failure of a request to a retired transformer. -/
def retiredError : EngineFailure := ⟨"transform runtime panicked in an earlier transform"⟩

/-- What a transformer is after its runtime, now `runtime`, was called. -/
def Transformer.after {Runtime : Type} (runtime : Runtime) :
    Outcome RawOutput → Transformer Runtime
  | .returned _ => .live runtime
  | .panicked _ => .retired

/-- Has the runtime of a transformer work on a text. -/
def callTransform (id : TransformerId) (runtime : E.Runtime) (source : String)
    (options : Json.Object) : Act (Event E) (World E) (Except EngineFailure RawOutput) := do
  let w ← Act.get
  let (outcome, runtime, library) := E.library.transform runtime source options w.library
  Act.set { w with
    library := library
    transformers := w.transformers.set id (.after runtime outcome) }
  Act.emit (.transform id source options runtime outcome)
  Act.ofEnding outcome

namespace Request

/-- Logs an input map that is no JSON. -/
def logInputMap (r : Request) : Act (Event E) (World E) Unit :=
  match r.decodedInput? with
  | some (.error fault) => Act.emit (.log (.inputMapIgnored r.filename fault))
  | _ => return ()

/-- Has a transformer perform the request. -/
def perform (r : Request) (id : TransformerId) :
    Act (Event E) (World E) (Except CompileError Transformed) := do
  match (← Act.get).transformers[id]? with
  | some (.live runtime) =>
    logInputMap r
    match ← callTransform id runtime r.source r.options with
    | .error e => return .error (.transformFailed r.filename e)
    | .ok raw =>
      Act.emit (.log (.transformed r.filename))
      return r.result raw
  | _ => return .error (.transformFailed r.filename retiredError)

end Request

end Downlevel
