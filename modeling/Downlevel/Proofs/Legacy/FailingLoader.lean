/-
  Downlevel — a loader that always fails.

  A loader that finds nothing is as good as none.  The host is refused every
  map and parses the text again without maps, so it reaches the verdict that it
  reaches without a loader.  Only the text of a transform differs: with a loader it
  ends in the comment that refers to its map.

  * `Alike`: what the two compiles come to;
  * `compile_failing_loader`: a loader that fails beside no loader.
-/
import Downlevel.Proofs.Legacy.Compile

namespace Downlevel.Legacy

variable {φ : Type} {mapsFirst ignores : Bool}

/-- What a unit compiles to with a loader that always fails, and without one,
    depending on whether it was transformed. -/
inductive Alike (entry : Bool) (filename : String) : Bool →
    Except CompileError (CompiledUnit Program) → Except CompileError (CompiledUnit Program) → Prop
  /-- The text was taken as it is: the units are the same and have no map. -/
  | kept {text strict} :
      Alike entry filename false (.ok ⟨⟨text, strict, none⟩, text, none⟩)
        (.ok ⟨⟨text, strict, none⟩, text, none⟩)
  /-- The text was transformed: with the loader it has the comment behind it. -/
  | commented {text strict read map} :
      Alike entry filename true
        (.ok ⟨⟨unitText entry (text ++ SourceMap.sentinelLine), strict, read⟩,
          unitText entry (text ++ SourceMap.sentinelLine), map⟩)
        (.ok ⟨⟨unitText entry text, strict, none⟩, unitText entry text, none⟩)
  /-- Both compiles fail with the same fault. -/
  | rejected {transformed e code code'} :
      Alike entry filename transformed (.error (.rejected filename e code))
        (.error (.rejected filename e code'))

theorem alike_compiled (strict : Bool) (filename code : String) (entry : Bool) :
    Alike entry filename false (compiled strict filename code none none)
      (compiled strict filename code none none) := by
  unfold compiled
  split
  · exact .rejected
  · exact .kept

/-- The comment does not change the verdict. -/
theorem alike_commented (strict : Bool) (filename text : String) (entry : Bool)
    (read map : Option Bytes) :
    Alike entry filename true
      (compiled strict filename (unitText entry (text ++ SourceMap.sentinelLine)) read map)
      (compiled strict filename (unitText entry text) none none) := by
  unfold compiled
  rw [checkAll_commented]
  split
  · exact .rejected
  · exact .commented

/-- A loader that fails on every path is as good as none.  Whatever was done
    in the two worlds before, both compiles end the same way: they transform
    the text or not, and they fail with the same fault or compile the same text,
    but for the comment behind a transformed one. -/
theorem compile_failing_loader {find : Loader φ} (hfind : find.Fails)
    {b b' : Bench (ruled φ mapsFirst ignores)} (hb : b.Sound) (hb' : b'.Sound)
    (hloader : b.compiler.options.loader = some find)
    (hoptions : b'.compiler.options = { b.compiler.options with loader := none })
    (source filename : String) (entry : Bool) :
    let run := Bench.compile source filename entry b
    let run' := Bench.compile source filename entry b'
    ∃ transformed result result', run.ending = .returned result ∧ run'.ending = .returned result' ∧
      run.trace.any Event.isTransform = transformed ∧
      run'.trace.any Event.isTransform = transformed ∧
      Alike entry filename transformed result result' := by
  have hnothing : b.compiler.options.FindsNothing := fun find' h => by
    rw [hloader] at h
    cases h
    exact hfind
  have hloader' : b'.compiler.options.loader = none := by rw [hoptions]
  have hnothing' := CompilerOptions.findsNothing_of_none hloader'
  have hmode : b'.compiler.options.mode = b.compiler.options.mode := by rw [hoptions]
  have hstrict : b'.compiler.options.strict = b.compiler.options.strict := by rw [hoptions]
  obtain ⟨read, map, hending, htransform, hnone⟩ :=
    compile_of_findsNothing hb hnothing source filename entry
  obtain ⟨read', map', hending', htransform', hnone'⟩ :=
    compile_of_findsNothing hb' hnothing' source filename entry
  obtain ⟨rfl, rfl⟩ := hnone' (.inr hloader')
  rw [hmode] at htransform'
  rw [hstrict] at hending'
  refine ⟨_, _, _, hending, hending', htransform, htransform', ?_⟩
  cases hrewrites : rewrites b.compiler.options.mode entry source with
  | false =>
    obtain ⟨rfl, rfl⟩ := hnone (.inl hrewrites)
    simp only [settled, hmode, hrewrites]
    exact alike_compiled _ filename _ entry
  | true =>
    simp only [settled, hmode, hrewrites, hloader, hloader']
    exact alike_commented _ filename (oldText source) entry read map

/-- A module with modern syntax that refers to a map, which cannot be read. -/
theorem compile_failing_loader_missing :
    let source := "class A {}\n//# sourceMappingURL=a.js.map"
    let b : Bench (ruled Unit false false) :=
      freshBench ⟨.extended, some (readerOf .empty), false⟩ ()
    let b' : Bench (ruled Unit false false) := freshBench ⟨.extended, none, false⟩ ()
    ∃ result result', (Bench.compile source "a.js" false b).ending = .returned result ∧
      (Bench.compile source "a.js" false b').ending = .returned result' ∧
      Alike false "a.js" true result result' := by
  intro source b b'
  have hfails : (readerOf .empty).Fails := fun path files found => nofun
  obtain ⟨transformed, result, result', hrun, hrun', htransformed, -, halike⟩ :=
    compile_failing_loader hfails (freshBench_sound _ () : b.Sound)
      (freshBench_sound _ () : b'.Sound) rfl rfl source "a.js" false
  have htrue : (Bench.compile source "a.js" false b).trace.any Event.isTransform = true := by
    decide +kernel
  obtain rfl : transformed = true := htransformed.symm.trans htrue
  exact ⟨result, result', hrun, hrun', halike⟩

end Downlevel.Legacy
