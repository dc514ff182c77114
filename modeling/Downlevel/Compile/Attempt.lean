/-
  Downlevel — one attempt to parse and compile a text.

  A module is wrapped in a function, which puts one line in front of it; an
  entry stands as it is.  With a loader the host parses the text and asks for
  maps.  If a request failed, whatever the verdict, the parse does not count:
  the failure is logged and the same text is parsed without maps.

  * `unitText` is the text handed to the host;
  * `parseText` is a parse with its repetition, if there is one;
  * `attempt` goes on to compile what was parsed.
-/
import Downlevel.Maps.Desk

namespace Downlevel

variable {E : Engines}

/-! ## Wrapping -/

/-- What stands in front of a module.  It takes a line of its own. -/
def moduleHeader : String := "(function(module, exports)\x7b\n"

/-- What stands behind a module. -/
def moduleFooter : String := "\n\x7d)\n"

/-- The text of a module inside its function. -/
def wrapped (source : String) : String := moduleHeader ++ source ++ moduleFooter

/-- The text that the host is handed for a unit. -/
def unitText (entry : Bool) (source : String) : String :=
  if entry then source else wrapped source

/-! ## Parsing -/

/-- Parses a text without maps. -/
def parsePlain (filename code : String) :
    Act (Event E) (World E) (Except Rejection E.Ast) := do
  Act.emit (.parse filename code false)
  let w ← Act.get
  let (verdict, host) := E.host.parse filename code w.host
  Act.set { w with host := host }
  Act.emit (.verdict verdict)
  return verdict

/-- Parses a text; the desk answers the host's requests. -/
def parseAsking (filename code : String) (desk : MapDesk E) :
    Act (Event E) (World E) (Except Rejection E.Ast × MapDesk E) := do
  Act.emit (.parse filename code true)
  let w ← Act.get
  desk.converse (E.host.parseWithMaps filename code w.host)

/-- The error of a verdict. -/
def errorOf? {α β : Type} : Except α β → Option α
  | .ok _ => none
  | .error e => some e

/-- Parses a text, again without maps if one of them failed.  Yields the
    verdict that counts and the map in hand. -/
def parseText (filename code : String) (desk : MapDesk E) :
    Act (Event E) (World E) (Except Rejection E.Ast × Option Bytes) :=
  match desk.loader with
  | none => do
    let verdict ← parsePlain filename code
    return (verdict, desk.map)
  | some _ => do
    let (verdict, desk) ← parseAsking filename code desk
    if desk.failed then
      Act.emit (.log (.mapMissing filename (errorOf? verdict)))
      let verdict ← parsePlain filename code
      return (verdict, desk.map)
    else return (verdict, desk.map)

/-! ## Compiling -/

/-- Has the host compile what it parsed. -/
def callCompile (ast : E.Ast) (strict : Bool) :
    Act (Event E) (World E) (Except Rejection E.Program) := do
  let w ← Act.get
  let (answer, host) := E.host.compile ast strict w.host
  Act.set { w with host := host }
  Act.emit (.compile ast strict answer)
  return answer

/-- A compiled text: the program, the text that the host was handed, and the
    last map of the unwrapped text. -/
structure CompiledUnit (Program : Type) where
  program : Program
  source : String
  map : Option Bytes

/-- What an attempt comes to. -/
inductive AttemptResult (Program : Type) where
  /-- The host accepted the text, and the result is final. -/
  | decided (result : Except CompileError (CompiledUnit Program))
  /-- The host rejected the text; `map` is the map in hand. -/
  | rejected (error : Rejection) (map : Option Bytes)

/-- How a compiler is set up. -/
structure CompilerOptions (E : Engines) where
  mode : Mode
  /-- Without a loader there are no maps at all. -/
  loader : Option (Loader E.FileState)
  strict : Bool

namespace CompilerOptions

/-- The options of a compiler that was given none. -/
def default : CompilerOptions E := ⟨.default, none, false⟩

/-- The options in words. -/
def describe (o : CompilerOptions E) : String :=
  "Options \x7b compatibility_mode: " ++ o.mode.constructorName ++ ", source_map_loader: " ++
    toString o.loader.isSome ++ ", strict: " ++ toString o.strict ++ " \x7d"

/-- Parses a unit and compiles it.  The map in hand at first is `map`. -/
def attempt (o : CompilerOptions E) (source filename : String) (entry : Bool)
    (map : Option Bytes) : Act (Event E) (World E) (AttemptResult E.Program) := do
  let code := unitText entry source
  match ← parseText filename code (.opened entry o.loader map) with
  | (.error e, map) => return .rejected e map
  | (.ok ast, map) =>
    match ← callCompile ast o.strict with
    | .error e => return .decided (.error (.rejected filename e code))
    | .ok program => return .decided (.ok ⟨program, code, map⟩)

end CompilerOptions

end Downlevel
