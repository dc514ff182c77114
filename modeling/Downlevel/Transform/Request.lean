/-
  Downlevel — what a runtime is asked, and what becomes of its answer.

  A request names a text and says whether a map is wanted; only then does the
  map of the text matter.  `Request.options` is the table handed to the
  runtime: the default table with the file's name and, if a map is wanted,
  three more changes.  `Request.result` judges the answer: a wanted map has to
  be there, and the code then ends in the line that refers to it.
-/
import Downlevel.Engine.Basic
import Downlevel.Maps.Shift

namespace Downlevel

/-- The options that every request starts from. -/
def baseOptions : Json.Object :=
  .ofPairs
    [("plugins", .arr
      [.arr [.str "transform-es2015-classes", .obj [("loose", .bool false)]],
       .str "transform-es2015-object-super",
       .arr [.str "transform-es2015-modules-commonjs", .obj [("loose", .bool false)]],
       .str "transform-exponentiation-operator"]),
     ("ast", .bool false),
     ("sourceMaps", .bool false),
     ("babelrc", .bool false),
     ("compact", .bool false),
     ("retainLines", .bool true),
     ("highlightCode", .bool false)]

/-- A text to transform. -/
structure Request where
  source : String
  filename : String
  /-- Whether a map of the transformed code is wanted. -/
  maps : Bool
  /-- The map of the text, if it has one. -/
  inputMap : Option Bytes

/-- Transformed code and its map. -/
structure Transformed where
  code : String
  map : Option Bytes
  deriving DecidableEq

namespace Request

/-- The input map, decoded; no map and an empty one count as absent. -/
def decodedInput? (r : Request) : Option (Except Json.Fault Json.Value) :=
  if r.maps then
    match r.inputMap with
    | some (b :: bytes) => some (Json.readValue (b :: bytes))
    | _ => none
  else none

/-- The options that ask for a map.  It carries exact positions, so lines need
    not stay where they are. -/
def mapOptions (r : Request) (options : Json.Object) : Json.Object :=
  if r.maps then (options.insert "retainLines" (.bool false)).insert "sourceMaps" (.bool true)
  else options

/-- The options with the input map, if it could be decoded. -/
def inputOptions (r : Request) (options : Json.Object) : Json.Object :=
  match r.decodedInput? with
  | some (.ok map) => options.insert "inputSourceMap" map
  | _ => options

/-- The options handed to the runtime. -/
def options (r : Request) : Json.Object :=
  (r.inputOptions (r.mapOptions baseOptions)).insert "filename" (.str r.filename)

/-- What is returned for the answer of a runtime. -/
def result (r : Request) (raw : RawOutput) : Except CompileError Transformed :=
  if r.maps then
    match raw.map with
    | none =>
      .error (.transformFailed r.filename ⟨"source map was requested but not generated"⟩)
    | some map => .ok ⟨raw.code ++ SourceMap.sentinelLine, some (Json.write map)⟩
  else .ok ⟨raw.code, none⟩

end Request

end Downlevel
