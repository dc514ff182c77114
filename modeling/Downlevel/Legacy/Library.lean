/-
  Downlevel — the legacy transform library.

  A library that makes texts old enough for the legacy host by replacing
  words.  Given the map of the text it drops the lines that refer to maps, as
  the new map stands for them too.

  Outcomes can be laid down beforehand: the script says, for the n-th build,
  start and transform, whether to follow the rules, to fail, to panic, or what
  to return.  An empty script leaves the rules.  Runtimes are numbered in the
  order of their first transform.
-/
import Downlevel.Engine.Basic
import Downlevel.Maps.Shift
import Downlevel.Text.Lines

namespace Downlevel.Legacy

/-! ## The script -/

/-- An outcome laid down beforehand; `α` is what a call may be told to
    return. -/
inductive Scripted (α : Type) where
  | fail (message : String)
  | panic (text : String)
  | give (value : α)

/-- The outcome of the n-th call, or else what the rules say. -/
def outcomeAt {α : Type} (script : List (Option (Scripted α))) (n : Nat) (rules : α) : Outcome α :=
  match script[n]? with
  | some (some (.fail message)) => .returned (.error ⟨message⟩)
  | some (some (.panic text)) => .panicked text
  | some (some (.give value)) => .returned (.ok value)
  | _ => .returned (.ok rules)

/-- How a legacy library behaves. -/
structure LibraryScript where
  builds : List (Option (Scripted String))
  starts : List (Option (Scripted Unit))
  transforms : List (Option (Scripted RawOutput))

/-- How often the library was called, and how many runtimes have a number. -/
structure LibraryState where
  builds : Nat
  starts : Nat
  transforms : Nat
  numbered : Nat
  deriving DecidableEq

/-- A runtime: the library it was started with, its number once it has one,
    and how often it was used. -/
structure Runtime where
  bytecode : String
  number : Option Nat
  uses : Nat
  deriving DecidableEq

/-! ## The rules -/

/-- Replaces the words that the legacy host does not know. -/
def oldWords (source : List Char) : List Char :=
  Text.replaceAll "**".toList "*".toList
    (Text.replaceAll "class ".toList "function ".toList source)

/-- The text without the lines that refer to maps. -/
def withoutReferences (text : List Char) : List Char :=
  Text.joinLines
    ((Text.lines text).filter fun line => ! SourceMap.reference.toList.isPrefixOf line)

/-- The map of `code`, which stands for the map of the text if there is one. -/
def mapOf (options : Json.Object) (code : List Char) : Json.Value :=
  let lines := max (Text.lines code).length 1
  let map : Json.Object := .ofPairs
    [("version", .num (.int 3)),
     ("sources", .arr [(options.find? "filename").getD .null]),
     ("names", .arr []),
     ("mappings", .str (String.intercalate ";" (List.replicate lines "AAAA")))]
  match options.find? "inputSourceMap" with
  | none => .ofObject map
  | some input =>
    .ofObject (map.insert "x_input_mappings" ((input.field? SourceMap.mappingsKey).getD .null))

/-- Whether an option is set to true. -/
def isSet (options : Json.Object) (key : String) : Bool :=
  match options.find? key with
  | some (.bool b) => b
  | _ => false

/-- What a runtime makes of a text by the rules. -/
def transformByRules (source : String) (options : Json.Object) : RawOutput :=
  let replaced := oldWords source.toList
  let code :=
    if (options.find? "inputSourceMap").isSome then withoutReferences replaced else replaced
  { code := String.ofList code
    map := if isSet options "sourceMaps" then some (mapOf options code) else none }

/-! ## The library -/

/-- The runtime as a transform leaves it, and the library with it. -/
def Runtime.used (r : Runtime) (s : LibraryState) : Runtime × LibraryState :=
  match r.number with
  | some _ => ({ r with uses := r.uses + 1 }, s)
  | none =>
    ({ r with number := some (s.numbered + 1), uses := r.uses + 1 },
     { s with numbered := s.numbered + 1 })

/-- A library that behaves as its script says. -/
def library (script : LibraryScript) : Library LibraryState String Runtime where
  build s :=
    (outcomeAt script.builds s.builds ("build" ++ toString (s.builds + 1)),
     { s with builds := s.builds + 1 })
  start bytecode s :=
    ((match outcomeAt script.starts s.starts () with
      | .returned result => .returned (result.map fun _ => ⟨bytecode, none, 0⟩)
      | .panicked text => .panicked text),
     { s with starts := s.starts + 1 })
  transform runtime source options s :=
    let (runtime, s') := runtime.used { s with transforms := s.transforms + 1 }
    (outcomeAt script.transforms s.transforms (transformByRules source options), runtime, s')

end Downlevel.Legacy
