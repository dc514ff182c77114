/-
  Downlevel — moving a source map one line down.

  A wrapped module starts one line later than its text.  In a map's mappings a
  semicolon ends a generated line, so one more semicolon in front moves every
  mapping one line down.  A map without mappings, one made of sections, stays
  as it is, byte for byte.

  * `SourceMap.shift` moves a map, `SourceMap.shiftTimes` moves it repeatedly;
  * `SourceMap.sentinel` is the address of the map in hand.
-/
import Downlevel.Compile.Failure
import Downlevel.Json.Read.Value
import Downlevel.Json.Write

namespace Downlevel.SourceMap

/-- The address under which transformed code refers to its own map.  The
    compiler answers it from memory and no loader ever sees it. -/
def sentinel : String := "es-compiler://internal-should-not-leak/file.map"

/-- The start of a line that refers to a map. -/
def reference : String := "//# sourceMappingURL="

/-- The line that refers transformed code to its own map. -/
def sentinelLine : String := "\n" ++ reference ++ sentinel

/-- The key of the mappings in a map. -/
def mappingsKey : String := "mappings"

/-- The map with every mapping one line further down. -/
def shift (map : Bytes) : Except MapError Bytes :=
  match Json.readObject map with
  | .error fault => .error (.decode fault.describe)
  | .ok o =>
    match o.find? mappingsKey with
    | none => .ok map
    | some (.str mappings) =>
      .ok (Json.writeObject (o.insert mappingsKey (.str (";" ++ mappings))))
    | some _ => .error .invalidMappings

/-- The map shifted `n` times, or the failure and how many shifts came before
    it. -/
def shiftTimes (map : Bytes) : Nat → Except (MapError × Nat) Bytes
  | 0 => .ok map
  | n + 1 =>
    match shift map with
    | .error e => .error (e, 0)
    | .ok shifted => (shiftTimes shifted n).mapError fun (e, done) => (e, done + 1)

end Downlevel.SourceMap
