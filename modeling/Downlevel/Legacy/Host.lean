/-
  Downlevel — the legacy host.

  A host that knows only old texts: a text is rejected where a line holds one
  of three markers.  It follows the lines that refer to maps, before or after
  the check of the markers, and a map that it cannot get makes it reject the
  text unless it is told to go on.

  Verdicts can be laid down beforehand: the script says, for the n-th parse
  and the n-th compilation, whether to follow the rules, to accept or to
  reject.  An empty script leaves the rules.
-/
import Downlevel.Engine.Basic
import Downlevel.Maps.Shift
import Downlevel.Text.Lines

namespace Downlevel.Legacy

/-! ## Results -/

/-- A parsed text and the last map that was loaded for it. -/
structure Ast where
  source : String
  map : Option Bytes
  deriving DecidableEq

/-- A compiled text. -/
structure Program where
  source : String
  strict : Bool
  map : Option Bytes
  deriving DecidableEq

/-! ## The script -/

/-- A verdict laid down beforehand. -/
inductive ScriptedVerdict where
  | accept
  | reject (error : Rejection)
  deriving DecidableEq

/-- The verdict for the n-th call, or else what the rules say. -/
def verdictAt (script : List (Option ScriptedVerdict)) (n : Nat)
    (rules : Except Rejection Unit) : Except Rejection Unit :=
  match script[n]? with
  | some (some .accept) => .ok ()
  | some (some (.reject error)) => .error error
  | _ => rules

/-- How a legacy host behaves. -/
structure HostScript where
  /-- Whether maps are loaded before the markers are looked for. -/
  mapsFirst : Bool
  /-- Whether the host goes on without a map that it cannot get. -/
  ignoresMapErrors : Bool
  parses : List (Option ScriptedVerdict)
  compiles : List (Option ScriptedVerdict)

/-- How often the host was called. -/
structure HostState where
  parses : Nat
  compiles : Nat
  deriving DecidableEq

/-! ## The rules -/

/-- The markers that a text must not hold, with what the message shows. -/
def markers : List (List Char × String) :=
  [("@@".toList, "@"), ("class ".toList, "class"), ("**".toList, "**")]

/-- The fault of line `n`, if it holds a marker. -/
def markerError? (n : Nat) (line : List Char) : Option Rejection :=
  markers.findSome? fun (marker, shown) =>
    (Text.find? marker line).map fun column => ⟨"Unexpected token " ++ shown, n, column + 1⟩

/-- The first fault in lines that are numbered from `n`. -/
def firstError? (check : Nat → List Char → Option Rejection) (n : Nat) :
    List (List Char) → Option Rejection
  | [] => none
  | line :: lines =>
    match check n line with
    | some error => some error
    | none => firstError? check (n + 1) lines

/-- Accepts a text in which no line has a fault. -/
def checkLines (check : Nat → List Char → Option Rejection) (source : String) :
    Except Rejection Unit :=
  match firstError? check 1 (Text.lines source.toList) with
  | some error => .error error
  | none => .ok ()

/-- Accepts a text without markers. -/
def checkMarkers (source : String) : Except Rejection Unit := checkLines markerError? source

/-- The fault of a line with a statement that strict mode forbids. -/
def withError? (n : Nat) (line : List Char) : Option Rejection :=
  (Text.find? "with (".toList line).map fun column =>
    ⟨"Strict mode code may not include a with statement", n, column + 1⟩

/-- Accepts a text that may be compiled in strict mode or not. -/
def checkStrict (strict : Bool) (source : String) : Except Rejection Unit :=
  if strict then checkLines withError? source else .ok ()

/-- The address in a line that refers to a map. -/
def mapUrl? (line : List Char) : Option String :=
  if SourceMap.reference.toList.isPrefixOf line then
    some (String.ofList (line.drop SourceMap.reference.length))
  else none

/-- The maps that lines numbered from `n` refer to, with the numbers. -/
def mapUrls (n : Nat) : List (List Char) → List (Nat × String)
  | [] => []
  | line :: lines =>
    match mapUrl? line with
    | some url => (n, url) :: mapUrls (n + 1) lines
    | none => mapUrls (n + 1) lines

/-! ## The host -/

/-- Asks for maps one after the other and goes on with the last one that was
    there; `onFailure` ends the parse at a map that is not. -/
def askMaps (ignoresErrors : Bool) (onFailure : Rejection → Dialogue HostState Ast)
    (next : Option Bytes → Dialogue HostState Ast) (map : Option Bytes) :
    List (Nat × String) → Dialogue HostState Ast
  | [] => next map
  | (n, url) :: urls =>
    .ask url fun
      | .ok loaded => askMaps ignoresErrors onFailure next (some loaded) urls
      | .error e =>
        if ignoresErrors then askMaps ignoresErrors onFailure next map urls
        else onFailure ⟨"couldn't load source map: " ++ e.describe, n, 1⟩

/-- A host that behaves as its script says. -/
def host (script : HostScript) : Host HostState Ast Program where
  parse _ source s :=
    let s' := { s with parses := s.parses + 1 }
    ((verdictAt script.parses s.parses (checkMarkers source)).map fun _ => ⟨source, none⟩, s')
  parseWithMaps _ source s :=
    let s' := { s with parses := s.parses + 1 }
    let checked := verdictAt script.parses s.parses (checkMarkers source)
    let refuse (error : Rejection) := Dialogue.done (.error error) s'
    let urls := mapUrls 1 (Text.lines source.toList)
    if script.mapsFirst then
      askMaps script.ignoresMapErrors refuse
        (fun map => .done (checked.map fun _ => ⟨source, map⟩) s') none urls
    else
      match checked with
      | .error error => refuse error
      | .ok () =>
        askMaps script.ignoresMapErrors refuse (fun map => .done (.ok ⟨source, map⟩) s') none urls
  compile ast strict s :=
    let s' := { s with compiles := s.compiles + 1 }
    ((verdictAt script.compiles s.compiles (checkStrict strict ast.source)).map fun _ =>
      ⟨ast.source, strict, ast.map⟩, s')

end Downlevel.Legacy
