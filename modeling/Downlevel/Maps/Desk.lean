/-
  Downlevel — the desk that hands out maps during a parse.

  While the host parses a text it asks the desk for maps.  The desk holds one
  map: the one the transformed code came with, or the last one a loader found.
  A request for the sentinel gets the map in hand, any other request goes to
  the loader first.  The text of a module is parsed inside its wrapping, so
  the map is shifted as it is handed over, and the map in hand stays as it is.

  The desk remembers whether a request failed.
-/
import Downlevel.Engine.World
import Downlevel.Maps.Shift

namespace Downlevel

variable {E : Engines}

/-- The desk during one parse. -/
structure MapDesk (E : Engines) where
  /-- Whether the text is an entry, and so stands unwrapped. -/
  entry : Bool
  loader : Option (Loader E.FileState)
  /-- The map in hand. -/
  map : Option Bytes
  /-- Whether a request failed. -/
  failed : Bool

namespace MapDesk

/-- A desk at the start of a parse. -/
def opened (entry : Bool) (loader : Option (Loader E.FileState)) (map : Option Bytes) :
    MapDesk E :=
  ⟨entry, loader, map, false⟩

/-- The desk after a failed request. -/
def fail (desk : MapDesk E) : MapDesk E := { desk with failed := true }

/-- Hands the map in hand over, shifted for a module. -/
def handOver (desk : MapDesk E) : Except MapError Bytes × MapDesk E :=
  match desk.map with
  | none => (.error .unavailable, desk.fail)
  | some map =>
    if desk.entry then (.ok map, desk)
    else match SourceMap.shift map with
      | .ok shifted => (.ok shifted, desk)
      | .error e => (.error e, desk.fail)

/-- Asks the loader for the map at a path. -/
def load (desk : MapDesk E) (path : String) :
    Act (Event E) (World E) (Except MapError Bytes) :=
  match desk.loader with
  | none => return .error .unavailable
  | some loader => do
    let w ← Act.get
    let (answer, files) := loader path w.files
    Act.set { w with files := files }
    Act.emit (.load path answer)
    return answer

/-- Answers a request of the host.  A failed load empties the desk. -/
def answer (desk : MapDesk E) (url : String) :
    Act (Event E) (World E) (Except MapError Bytes × MapDesk E) := do
  if url = SourceMap.sentinel then return desk.handOver
  else
    match ← desk.load url with
    | .ok map => return { desk with map := some map }.handOver
    | .error e => return (.error e, { desk with map := none }.fail)

/-- Answers the requests of a parse until it is over. -/
def converse : Dialogue E.HostState E.Ast → MapDesk E →
    Act (Event E) (World E) (Except Rejection E.Ast × MapDesk E)
  | .done verdict host, desk => do
    Act.modify fun w => { w with host := host }
    Act.emit (.verdict verdict)
    return (verdict, desk)
  | .ask url next, desk => do
    let (reply, desk) ← desk.answer url
    Act.emit (.map url reply)
    converse (next reply) desk

end MapDesk

end Downlevel
