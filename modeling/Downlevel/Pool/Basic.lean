/-
  Downlevel — pools of compilers.

  A pool holds compilers that are ready to work, each with a transformer of
  its own, and hands them out first in, first out.  It takes back as many as
  it was made for; one more is dropped.

  * `Pool.make` fills a pool; with `schedule` its workers may interleave;
  * `Pool.take?` takes the compiler in front, `Pool.release` gives one back;
  * `Pool.stock` says how many compilers are there and how many there may be.
-/
import Downlevel.Pool.Filling

namespace Downlevel

variable {E : Engines}

/-- A pool. -/
structure Pool (E : Engines) where
  /-- The compilers that are there, the next one in front. -/
  waiting : List (Compiler E)
  capacity : Nat

/-- How many compilers a pool has, and how many it may have. -/
structure Stock where
  available : Nat
  capacity : Nat
  deriving DecidableEq

namespace Pool

/-- The stock of a pool. -/
def stock (p : Pool E) : Stock := ⟨p.waiting.length, p.capacity⟩

/-- The compilers of a pool that is being filled, once all workers are done. -/
def fill (capacity : Nat) (options : CompilerOptions E) (schedule : List Nat) :
    Act (Event E) (World E) (Filling E) :=
  Act.within (Filling.begin capacity) (fun s _ => s.world) do
    Filling.complete options schedule
    Act.get

/-- Makes a pool of `size` compilers, at least one. -/
def make (size : Nat) (options : CompilerOptions E) (schedule : List Nat) :
    Act (Event E) (World E) (Except CompileError (Pool E)) := do
  let capacity := max size 1
  let s ← fill capacity options schedule
  match ← joinWorkers s.workers with
  | .error e => return .error e
  | .ok () =>
    Act.emit (.log (.poolReady capacity))
    return .ok ⟨s.channel, capacity⟩

/-- The compiler in front, and the pool without it. -/
def take? (p : Pool E) : Option (Compiler E × Pool E) :=
  match p.waiting with
  | [] => none
  | c :: rest => some (c, { p with waiting := rest })

/-- Gives a compiler to the pool. -/
def release (c : Compiler E) : Act (Event E) (Pool E) Unit := do
  let p ← Act.get
  if p.waiting.length < p.capacity then Act.set { p with waiting := p.waiting ++ [c] }
  else Act.emit (.log (.compilerDropped p.capacity))

end Pool

end Downlevel
