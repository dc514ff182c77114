/-
  Downlevel — the legacy engines together.

  `engines` puts a legacy host and a legacy library into one installation,
  whose files have no state.  `byRules` leaves everything to the rules.

  The loaders answer from a fixed table of files.  `readerOf` reads files, and a
  file it cannot read becomes a failure to load it; `serverOf` answers requests
  for maps itself and fails in its own way.
-/
import Downlevel.Legacy.Host
import Downlevel.Legacy.Library
import Downlevel.Session.Basic

namespace Downlevel.Legacy

/-! ## Loaders -/

/-- The loader that reads the files of a table. -/
def readerOf (files : Table (Except String Bytes)) : Loader Unit :=
  Loader.ofReader fun path _ =>
    ((files.find? path).getD (.error ("open " ++ path ++ ": no such file")), ())

/-- The loader that answers from a table. -/
def serverOf (files : Table (Except MapError Bytes)) : Loader Unit :=
  fun path _ => ((files.find? path).getD (.error .unavailable), ())

/-! ## Installations -/

/-- The engines that behave as these scripts say. -/
def engines (hostScript : HostScript) (libraryScript : LibraryScript) : Engines where
  HostState := HostState
  Ast := Ast
  Program := Program
  LibraryState := LibraryState
  Bytecode := String
  Runtime := Runtime
  FileState := Unit
  host := host hostScript
  library := library libraryScript

/-- A library that follows the rules. -/
def LibraryScript.byRules : LibraryScript := ⟨[], [], []⟩

/-- A host that follows the rules. -/
def HostScript.byRules (mapsFirst ignoresMapErrors : Bool) : HostScript :=
  ⟨mapsFirst, ignoresMapErrors, [], []⟩

/-- A world in which no engine was called yet. -/
def freshWorld (hostScript : HostScript) (libraryScript : LibraryScript) :
    World (engines hostScript libraryScript) :=
  .fresh (⟨0, 0⟩ : HostState) (⟨0, 0, 0, 0⟩ : LibraryState) ()

/-- A session in which nothing happened yet. -/
def freshSession (hostScript : HostScript) (libraryScript : LibraryScript) :
    Session (engines hostScript libraryScript) :=
  .fresh (freshWorld hostScript libraryScript)

end Downlevel.Legacy
