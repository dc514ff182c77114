/-
  Downlevel — modules and entries.

  A module is compiled inside a function, an entry as it stands.  Without a
  loader the host reaches the same verdict on both, because the wrapping brings
  no fault of its own, and a fault of the source is reported one line further
  down.  A transform gets the source without the wrapping, so what it makes of
  it is the same as well and is wrapped once.

  * `Wraps`: what the two compiles come to;
  * `compile_wrapped`: a source as an entry and as a module.
-/
import Downlevel.Proofs.Compile.MapOrigin
import Downlevel.Proofs.Legacy.Compile

namespace Downlevel.Legacy

variable {φ : Type} {mapsFirst ignores : Bool}

/-- What a source compiles to as an entry and as a module. -/
inductive Wraps (filename : String) :
    Except CompileError (CompiledUnit Program) → Except CompileError (CompiledUnit Program) → Prop
  /-- The text of the module is that of the entry in its wrapping. -/
  | compiled {text strict} :
      Wraps filename (.ok ⟨⟨text, strict, none⟩, text, none⟩)
        (.ok ⟨⟨wrapped text, strict, none⟩, wrapped text, none⟩)
  /-- The fault of the module is that of the entry one line further down.  If that
      one lies inside its text, this one lies as far inside the wrapping as the
      line in front is long. -/
  | rejected {e : Rejection} {text} :
      ((e.span text).length = 1 →
        e.lower.span (wrapped text) = ⟨(e.span text).offset + moduleHeader.utf8ByteSize, 1⟩) →
      Wraps filename (.error (.rejected filename e text))
        (.error (.rejected filename e.lower (wrapped text)))

theorem wraps_compiled (strict : Bool) (filename text : String) :
    Wraps filename (compiled strict filename text none none)
      (compiled strict filename (wrapped text) none none) := by
  unfold compiled
  rw [checkAll_wrapped]
  cases hcheck : checkAll strict text with
  | ok => exact .compiled
  | error e => exact .rejected (span_lower (one_le_line_of_checkAll strict hcheck))

/-- Without a loader nothing but the source itself is transformed. -/
theorem transform_source {E : Engines} {b : Bench E} (hloader : b.compiler.options.loader = none)
    (source filename : String) (entry : Bool) {id text options runtime outcome}
    (hin : .transform id text options runtime outcome ∈
      (Bench.compile source filename entry b).trace) : text = source := by
  obtain ⟨ending, b', t, hrun, hcourse⟩ := Bench.compile_course source filename entry b
  rw [hrun] at hin
  obtain ⟨before, after, ht⟩ := List.append_of_mem hin
  obtain ⟨hsource, -⟩ := hcourse.mapless hloader before _ after ht
  exact hsource

/-- Wrapping and compiling can change places.  A source compiles as a module
    exactly if it does as an entry, to the text of the entry in its wrapping; and
    where it fails the fault is the same, below the line in front.  Both compiles
    transform the source or none does, and what is transformed is the source
    itself. -/
theorem compile_wrapped {b b' : Bench (ruled φ mapsFirst ignores)} (hb : b.Sound) (hb' : b'.Sound)
    (hloader : b.compiler.options.loader = none)
    (hoptions : b'.compiler.options = b.compiler.options) (source filename : String) :
    let run := Bench.compile source filename true b
    let run' := Bench.compile source filename false b'
    ∃ result result', run.ending = .returned result ∧ run'.ending = .returned result' ∧
      Wraps filename result result' ∧
      run.trace.any Event.isTransform = run'.trace.any Event.isTransform ∧
      ∀ id text options runtime outcome,
        .transform id text options runtime outcome ∈ run.trace ++ run'.trace → text = source := by
  have hloader' : b'.compiler.options.loader = none := by rw [hoptions, hloader]
  have hnothing := CompilerOptions.findsNothing_of_none hloader
  have hnothing' := CompilerOptions.findsNothing_of_none hloader'
  obtain ⟨read, map, hending, htransform, hnone⟩ :=
    compile_of_findsNothing hb hnothing source filename true
  obtain ⟨read', map', hending', htransform', hnone'⟩ :=
    compile_of_findsNothing hb' hnothing' source filename false
  obtain ⟨rfl, rfl⟩ := hnone (.inr hloader)
  obtain ⟨rfl, rfl⟩ := hnone' (.inr hloader')
  have hsettled : settled b.compiler.options false source =
      settled b.compiler.options true source := by
    unfold settled
    rw [rewrites_module]
  rw [hoptions, hsettled] at hending'
  rw [hoptions, rewrites_module] at htransform'
  refine ⟨_, _, hending, hending', wraps_compiled _ filename _, htransform.trans htransform'.symm,
    fun id text options runtime outcome hin => ?_⟩
  rcases List.mem_append.1 hin with hin | hin
  · exact transform_source hloader source filename true hin
  · exact transform_source hloader' source filename false hin

/-- A fault that the transform leaves in the source. -/
theorem compile_wrapped_fault :
    let b : Bench (ruled Unit false false) := freshBench ⟨.extended, none, false⟩ ()
    let e : Rejection := ⟨"Unexpected token @", 2, 3⟩
    let text := "function A {}\r\n  @@"
    (Bench.compile "class A {}\r\n  @@" "a.js" true b).ending =
        .returned (.error (.rejected "a.js" e text)) ∧
      (Bench.compile "class A {}\r\n  @@" "a.js" false b).ending =
        .returned (.error (.rejected "a.js" e.lower (wrapped text))) ∧
      e.lower.span (wrapped text) = ⟨(e.span text).offset + moduleHeader.utf8ByteSize, 1⟩ := by
  intro b e text
  have hb : b.Sound := freshBench_sound _ ()
  obtain ⟨result, result', hrun, hrun', hwraps, -, -⟩ :=
    compile_wrapped hb hb rfl rfl "class A {}\r\n  @@" "a.js"
  have hentry : (match (Bench.compile "class A {}\r\n  @@" "a.js" true b).ending with
      | .returned result => errorOf? result
      | .panicked _ => none) = some (.rejected "a.js" e text) := by decide +kernel
  rw [hrun] at hentry
  cases hwraps with
  | compiled => cases hentry
  | rejected hspan =>
    cases hentry
    exact ⟨hrun, hrun', hspan (by decide)⟩

end Downlevel.Legacy
