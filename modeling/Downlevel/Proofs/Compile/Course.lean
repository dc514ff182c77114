/-
  Downlevel — the course of a compile.

  A compile calls the host, the loader and the transform library in a certain
  pattern, whatever they answer.  `ParseCourse` and `AttemptCourse` list the
  patterns, each with the events in order and the result, for a text that is
  parsed and a text that is tried.  `Bench.Course` puts a compile together from
  the attempts and the transform that are made in it, each where the one before
  left off.

  `parseText_course`, `CompilerOptions.attempt_course` and
  `Bench.compile_course` show that these are the only patterns, and so every law
  about the calls of a compile is shown by going through them; by
  `Bench.compile_eq_iff` a course leaves nothing open.  What is said of single
  events follows from `Bench.compile_emits`.
-/
import Downlevel.Proofs.Maps.Service
import Downlevel.Proofs.Transform.Course

namespace Downlevel

variable {E : Engines}

/-! ## Parsing a text -/

/-- The events of parsing `code` with a desk in the state `desk`, the verdict
    that counts, and the map in hand afterwards. -/
inductive ParseCourse (filename code : String) (desk : MapDesk E) :
    List (Event E) → Except Rejection E.Ast → Option Bytes → Prop
  /-- Without a loader the text is parsed once, and without maps. -/
  | plain {host verdict host'} : desk.loader = none →
      E.host.parse filename code host = (verdict, host') →
      ParseCourse filename code desk [.parse filename code false, .verdict verdict] verdict desk.map
  /-- The host was refused no map. -/
  | met {host t verdict host' desk'} : desk.loader.isSome → desk.Serves t desk' →
      (E.host.parseWithMaps filename code host).Ends (replies t) verdict host' →
      (∀ e ∈ t, ¬ e.isRefusal) →
      ParseCourse filename code desk (.parse filename code true :: (t ++ [.verdict verdict]))
        verdict desk'.map
  /-- The host was refused a map: whatever its verdict, it parses the same text
      again, without maps. -/
  | repeated {host t void host' desk' verdict host₂} : desk.loader.isSome →
      desk.Serves t desk' →
      (E.host.parseWithMaps filename code host).Ends (replies t) void host' →
      (∃ e ∈ t, e.isRefusal) →
      E.host.parse filename code host' = (verdict, host₂) →
      ParseCourse filename code desk
        (.parse filename code true :: (t ++ [.verdict void,
          .log (.mapMissing filename (errorOf? void)), .parse filename code false,
          .verdict verdict]))
        verdict desk'.map

theorem parsePlain_apply (filename code : String) (w : World E) :
    parsePlain filename code w =
      ⟨.returned (E.host.parse filename code w.host).1,
        { w with host := (E.host.parse filename code w.host).2 },
        [.parse filename code false, .verdict (E.host.parse filename code w.host).1]⟩ := rfl

theorem parseAsking_apply {filename code : String} {desk desk' : MapDesk E} {w w' : World E}
    {verdict : Except Rejection E.Ast} {t : List (Event E)}
    (h : desk.converse (E.host.parseWithMaps filename code w.host) w =
      ⟨.returned (verdict, desk'), w', t⟩) :
    parseAsking filename code desk w =
      ⟨.returned (verdict, desk'), w', .parse filename code true :: t⟩ := by
  simp [parseAsking, h]

/-- Every parse of a text takes one of these courses. -/
theorem parseText_course (filename code : String) (desk : MapDesk E) (hfailed : desk.failed = false)
    (w : World E) :
    ∃ verdict map w' t, parseText filename code desk w = ⟨.returned (verdict, map), w', t⟩ ∧
      w.HostOnly w' ∧ ParseCourse filename code desk t verdict map := by
  cases hloader : desk.loader with
  | none =>
    refine ⟨(E.host.parse filename code w.host).1, desk.map,
      { w with host := (E.host.parse filename code w.host).2 }, _, ?_, ⟨_, w.files, rfl⟩,
      .plain hloader rfl⟩
    simp only [parseText, hloader]
    rw [Act.bind_of_returned (parsePlain_apply filename code w)]
    simp
  | some loader =>
    have hsome : desk.loader.isSome := by simp [hloader]
    obtain ⟨verdict, desk', w', t, hconverse, hw, hserves, hends⟩ :=
      MapDesk.converse_serves (E.host.parseWithMaps filename code w.host) desk w
    have hasking := parseAsking_apply hconverse
    have hfailed' : desk'.failed = t.any Event.isRefusal := by
      rw [hserves.failed_eq, hfailed, Bool.false_or]
    by_cases hrefusal : ∃ e ∈ t, e.isRefusal
    · have hfailed' : desk'.failed = true := by
        rw [hfailed', List.any_eq_true]
        exact hrefusal
      refine ⟨(E.host.parse filename code w'.host).1, desk'.map,
        { w' with host := (E.host.parse filename code w'.host).2 }, _, ?_,
        hw.trans ⟨_, w'.files, rfl⟩, .repeated hsome hserves hends hrefusal rfl⟩
      simp only [parseText, hloader]
      rw [Act.bind_of_returned hasking]
      simp only [hfailed', if_true, Act.emit_bind_apply]
      rw [Act.bind_of_returned (parsePlain_apply filename code w')]
      simp
    · have hmet : ∀ e ∈ t, ¬ e.isRefusal := fun e he h => hrefusal ⟨e, he, h⟩
      have hfailed' : desk'.failed = false := by
        rw [hfailed', List.any_eq_false]
        exact hmet
      refine ⟨verdict, desk'.map, w', _, ?_, hw, .met hsome hserves hends hmet⟩
      simp only [parseText, hloader]
      rw [Act.bind_of_returned hasking]
      simp [hfailed']

/-! ## Trying a text -/

/-- The events of an attempt at a unit with the map `map` in hand, and what it
    comes to. -/
inductive AttemptCourse (o : CompilerOptions E) (source filename : String) (entry : Bool)
    (map : Option Bytes) : List (Event E) → AttemptResult E.Program → Prop
  /-- The host rejects the text. -/
  | rejected {t e map'} :
      ParseCourse filename (unitText entry source) (.opened entry o.loader map) t (.error e) map' →
      AttemptCourse o source filename entry map t (.rejected e map')
  /-- The host parses the text and refuses to compile it. -/
  | refused {t ast map' host e host'} :
      ParseCourse filename (unitText entry source) (.opened entry o.loader map) t (.ok ast) map' →
      E.host.compile ast o.strict host = (.error e, host') →
      AttemptCourse o source filename entry map (t ++ [.compile ast o.strict (.error e)])
        (.decided (.error (.rejected filename e (unitText entry source))))
  /-- The host parses the text and compiles it. -/
  | accepted {t ast map' host program host'} :
      ParseCourse filename (unitText entry source) (.opened entry o.loader map) t (.ok ast) map' →
      E.host.compile ast o.strict host = (.ok program, host') →
      AttemptCourse o source filename entry map (t ++ [.compile ast o.strict (.ok program)])
        (.decided (.ok ⟨program, unitText entry source, map'⟩))

theorem callCompile_apply (ast : E.Ast) (strict : Bool) (w : World E) :
    callCompile ast strict w =
      ⟨.returned (E.host.compile ast strict w.host).1,
        { w with host := (E.host.compile ast strict w.host).2 },
        [.compile ast strict (E.host.compile ast strict w.host).1]⟩ := rfl

namespace CompilerOptions

/-- The attempt at a unit in the world `w`: what happens, what it comes to, and the
    world that is left. -/
structure Attempt (o : CompilerOptions E) (source filename : String) (entry : Bool)
    (map : Option Bytes) (w : World E) (t : List (Event E)) (result : AttemptResult E.Program)
    (w' : World E) : Prop where
  run : o.attempt source filename entry map w = ⟨.returned result, w', t⟩
  hostOnly : w.HostOnly w'
  course : AttemptCourse o source filename entry map t result

/-- Every attempt takes one of these courses. -/
theorem attempt_course (o : CompilerOptions E) (source filename : String) (entry : Bool)
    (map : Option Bytes) (w : World E) :
    ∃ result w' t, o.Attempt source filename entry map w t result w' := by
  obtain ⟨verdict, map', w', t, hparse, hw, hcourse⟩ :=
    parseText_course filename (unitText entry source) (.opened entry o.loader map) rfl w
  rcases verdict with e | ast
  · refine ⟨.rejected e map', w', t, ?_, hw, .rejected hcourse⟩
    rw [attempt, Act.bind_of_returned hparse]
    simp
  · have hcompile := callCompile_apply ast o.strict w'
    rcases hanswer : E.host.compile ast o.strict w'.host with ⟨e | program, host⟩ <;>
      rw [hanswer] at hcompile
    · refine ⟨_, { w' with host := host }, _, ?_, hw.trans ⟨host, w'.files, rfl⟩,
        .refused hcourse hanswer⟩
      rw [attempt, Act.bind_of_returned hparse]
      simp only [Act.bind_of_returned hcompile, Act.pure_apply, List.append_nil]
    · refine ⟨_, { w' with host := host }, _, ?_, hw.trans ⟨host, w'.files, rfl⟩,
        .accepted hcourse hanswer⟩
      rw [attempt, Act.bind_of_returned hparse]
      simp only [Act.bind_of_returned hcompile, Act.pure_apply, List.append_nil]

end CompilerOptions

/-! ## Compiling a unit -/

namespace Bench

/-- The events of a compile, its ending and the bench that is left.  The first
    attempt is at the unit, with no map in hand.  In the extended mode its rejection
    is followed by one transform of the unwrapped source, with the map that is in
    hand then, and a transform that succeeds by one attempt at its code. -/
inductive Course (b : Bench E) (source filename : String) (entry : Bool) :
    List (Event E) → Ending (Except CompileError (CompiledUnit E.Program)) → Bench E → Prop
  /-- The host parses the unit. -/
  | direct {t result w} :
      b.compiler.options.Attempt source filename entry none b.world t (.decided result) w →
      Course b source filename entry t (.returned result) { b with world := w }
  /-- The host rejects the unit, and the mode has no fallback. -/
  | base {t e map w} : b.compiler.options.mode = .base →
      b.compiler.options.Attempt source filename entry none b.world t (.rejected e map) w →
      Course b source filename entry t
        (.returned (.error (.rejected filename e (unitText entry source)))) { b with world := w }
  /-- The library panics. -/
  | panicked {t e map w u text b₁} : b.compiler.options.mode = .extended →
      b.compiler.options.Attempt source filename entry none b.world t (.rejected e map) w →
      Transformation { b with world := w } source filename map u (.panicked text) b₁ →
      Course b source filename entry (t ++ .log (.transforming filename .extended e) :: u)
        (.panicked text) b₁
  /-- The transform fails. -/
  | failed {t e map w u error b₁} : b.compiler.options.mode = .extended →
      b.compiler.options.Attempt source filename entry none b.world t (.rejected e map) w →
      Transformation { b with world := w } source filename map u (.returned (.error error)) b₁ →
      Course b source filename entry (t ++ .log (.transforming filename .extended e) :: u)
        (.returned (.error error)) b₁
  /-- The host parses the transformed code. -/
  | transformed {t e map w u output b₁ v result w₂} : b.compiler.options.mode = .extended →
      b.compiler.options.Attempt source filename entry none b.world t (.rejected e map) w →
      Transformation { b with world := w } source filename map u (.returned (.ok output)) b₁ →
      b.compiler.options.Attempt output.code filename entry output.map b₁.world v
        (.decided result) w₂ →
      Course b source filename entry
        (t ++ .log (.transforming filename .extended e) :: (u ++ v)) (.returned result)
        { b₁ with world := w₂ }
  /-- The host rejects the transformed code. -/
  | rejected {t e map w u output b₁ v e' map' w₂} : b.compiler.options.mode = .extended →
      b.compiler.options.Attempt source filename entry none b.world t (.rejected e map) w →
      Transformation { b with world := w } source filename map u (.returned (.ok output)) b₁ →
      b.compiler.options.Attempt output.code filename entry output.map b₁.world v
        (.rejected e' map') w₂ →
      Course b source filename entry
        (t ++ .log (.transforming filename .extended e) :: (u ++ v))
        (.returned (.error (.rejected filename e' (unitText entry output.code))))
        { b₁ with world := w₂ }

/-- What an attempt at `code` comes to if a rejection is final. -/
def final {Program : Type} (filename code : String) :
    AttemptResult Program → Except CompileError (CompiledUnit Program)
  | .decided result => result
  | .rejected e _ => .error (.rejected filename e code)

/-- The attempt at transformed code is final. -/
theorem compileTransformed_apply {filename : String} {entry : Bool} {output : Transformed}
    {b : Bench E} {result : AttemptResult E.Program} {w : World E} {t : List (Event E)}
    (h : b.compiler.options.attempt output.code filename entry output.map b.world =
      ⟨.returned result, w, t⟩) :
    compileTransformed filename entry output b =
      ⟨.returned (final filename (unitText entry output.code) result), { b with world := w },
        t⟩ := by
  simp only [compileTransformed, Act.get_bind_apply]
  rw [Act.bind_of_returned (inWorld_apply h)]
  cases result <;> simp [final]

/-! What a compile comes to, step by step. -/

section
variable {source filename : String} {entry : Bool} {b b₁ : Bench E} {w w₂ : World E}
  {t u v : List (Event E)} {e : Rejection} {map : Option Bytes}

theorem compile_of_decided {result : Except CompileError (CompiledUnit E.Program)}
    (hfirst : b.compiler.options.attempt source filename entry none b.world =
      ⟨.returned (.decided result), w, t⟩) :
    compile source filename entry b = ⟨.returned result, { b with world := w }, t⟩ := by
  simp only [compile, Act.get_bind_apply]
  rw [Act.bind_of_returned (inWorld_apply hfirst)]
  simp

theorem compile_of_base (hmode : b.compiler.options.mode = .base)
    (hfirst : b.compiler.options.attempt source filename entry none b.world =
      ⟨.returned (.rejected e map), w, t⟩) :
    compile source filename entry b =
      ⟨.returned (.error (.rejected filename e (unitText entry source))), { b with world := w },
        t⟩ := by
  simp only [compile, Act.get_bind_apply]
  rw [Act.bind_of_returned (inWorld_apply hfirst)]
  simp [hmode, Mode.fallback]

theorem compile_of_failed (hmode : b.compiler.options.mode = .extended)
    (hfirst : b.compiler.options.attempt source filename entry none b.world =
      ⟨.returned (.rejected e map), w, t⟩) {error : CompileError}
    (htransform : transform source filename map { b with world := w } =
      ⟨.returned (.error error), b₁, u⟩) :
    compile source filename entry b =
      ⟨.returned (.error error), b₁, t ++ .log (.transforming filename .extended e) :: u⟩ := by
  simp only [compile, Act.get_bind_apply]
  rw [Act.bind_of_returned (inWorld_apply hfirst)]
  simp only [hmode, Mode.fallback, Act.emit_bind_apply]
  rw [Act.bind_of_returned htransform]
  simp

theorem compile_of_panicked (hmode : b.compiler.options.mode = .extended)
    (hfirst : b.compiler.options.attempt source filename entry none b.world =
      ⟨.returned (.rejected e map), w, t⟩) {text : String}
    (htransform : transform source filename map { b with world := w } =
      ⟨.panicked text, b₁, u⟩) :
    compile source filename entry b =
      ⟨.panicked text, b₁, t ++ .log (.transforming filename .extended e) :: u⟩ := by
  simp only [compile, Act.get_bind_apply]
  rw [Act.bind_of_returned (inWorld_apply hfirst)]
  simp only [hmode, Mode.fallback, Act.emit_bind_apply]
  rw [Act.bind_of_panicked htransform]

theorem compile_of_transformed (hmode : b.compiler.options.mode = .extended)
    (hfirst : b.compiler.options.attempt source filename entry none b.world =
      ⟨.returned (.rejected e map), w, t⟩) {output : Transformed}
    (htransform : transform source filename map { b with world := w } =
      ⟨.returned (.ok output), b₁, u⟩) {second : AttemptResult E.Program}
    (hsecond : b₁.compiler.options.attempt output.code filename entry output.map b₁.world =
      ⟨.returned second, w₂, v⟩) :
    compile source filename entry b =
      ⟨.returned (final filename (unitText entry output.code) second), { b₁ with world := w₂ },
        t ++ .log (.transforming filename .extended e) :: (u ++ v)⟩ := by
  simp only [compile, Act.get_bind_apply]
  rw [Act.bind_of_returned (inWorld_apply hfirst)]
  simp only [hmode, Mode.fallback, Act.emit_bind_apply]
  rw [Act.bind_of_returned htransform]
  simp only [compileTransformed_apply hsecond]

end

/-- Every compile takes one of these courses. -/
theorem compile_course (source filename : String) (entry : Bool) (b : Bench E) :
    ∃ ending b' t, compile source filename entry b = ⟨ending, b', t⟩ ∧
      b.Course source filename entry t ending b' := by
  obtain ⟨first, w, t, hfirst⟩ :=
    b.compiler.options.attempt_course source filename entry none b.world
  rcases first with result | ⟨e, map⟩
  · exact ⟨_, _, t, compile_of_decided hfirst.run, .direct hfirst⟩
  cases hmode : b.compiler.options.mode with
  | base => exact ⟨_, _, t, compile_of_base hmode hfirst.run, .base hmode hfirst⟩
  | extended =>
    obtain ⟨ending, b₁, u, hu⟩ := transform_course source filename map { b with world := w }
    rcases ending with (error | output) | text
    · exact ⟨_, b₁, _, compile_of_failed hmode hfirst.run hu.run, .failed hmode hfirst hu⟩
    · obtain ⟨second, w₂, v, hsecond⟩ :=
        b.compiler.options.attempt_course output.code filename entry output.map b₁.world
      have hcompile := compile_of_transformed hmode hfirst.run hu.run (hu.options_eq ▸ hsecond.run)
      rcases second with result | ⟨e', map'⟩
      · exact ⟨_, _, _, hcompile, .transformed hmode hfirst hu hsecond⟩
      · exact ⟨_, _, _, hcompile, .rejected hmode hfirst hu hsecond⟩
    · exact ⟨_, b₁, _, compile_of_panicked hmode hfirst.run hu.run, .panicked hmode hfirst hu⟩

/-- And a course says all there is to say about a compile. -/
theorem compile_eq_iff {source filename : String} {entry : Bool} {b b' : Bench E}
    {ending : Ending (Except CompileError (CompiledUnit E.Program))} {t : List (Event E)} :
    compile source filename entry b = ⟨ending, b', t⟩ ↔
      b.Course source filename entry t ending b' := by
  constructor
  · intro h
    obtain ⟨_, _, _, hrun, hcourse⟩ := compile_course source filename entry b
    cases h.symm.trans hrun
    exact hcourse
  · intro h
    cases h with
    | direct hfirst => exact compile_of_decided hfirst.run
    | base hmode hfirst => exact compile_of_base hmode hfirst.run
    | panicked hmode hfirst hu => exact compile_of_panicked hmode hfirst.run hu.run
    | failed hmode hfirst hu => exact compile_of_failed hmode hfirst.run hu.run
    | transformed hmode hfirst hu hsecond | rejected hmode hfirst hu hsecond =>
      exact compile_of_transformed hmode hfirst.run hu.run (hu.options_eq ▸ hsecond.run)

/-- A compile is an attempt at the unit, and if it goes on then in the extended
    mode, with one transform and at most one attempt at what comes out. -/
theorem Course.parts {b b' : Bench E} {source filename : String} {entry : Bool}
    {t : List (Event E)} {ending : Ending (Except CompileError (CompiledUnit E.Program))}
    (h : b.Course source filename entry t ending b') :
    (∃ result, AttemptCourse b.compiler.options source filename entry none t result) ∨
      b.compiler.options.mode = .extended ∧ ∃ first e map u answer second,
        t = first ++ .log (.transforming filename .extended e) :: (u ++ second) ∧
        AttemptCourse b.compiler.options source filename entry none first (.rejected e map) ∧
        Request.Course ⟨source, filename, b.compiler.options.loader.isSome, map⟩ u answer ∧
        (second = [] ∨ ∃ output result, answer = .returned (.ok output) ∧
          AttemptCourse b.compiler.options output.code filename entry output.map second
            result) := by
  cases h with
  | direct hfirst | base _ hfirst => exact .inl ⟨_, hfirst.course⟩
  | panicked hmode hfirst hu | failed hmode hfirst hu =>
    exact .inr ⟨hmode, _, _, _, _, _, [], by simp, hfirst.course, hu.course, .inl rfl⟩
  | transformed hmode hfirst hu hsecond | rejected hmode hfirst hu hsecond =>
    exact .inr ⟨hmode, _, _, _, _, _, _, rfl, hfirst.course, hu.course,
      .inr ⟨_, _, rfl, hsecond.course⟩⟩

/-- What holds of all that happens during attempts and transforms holds of all that
    happens during a compile. -/
theorem compile_emits {P : Event E → Prop} (hP : Transforms P) (source filename : String)
    (entry : Bool) {b : Bench E}
    (hattempt : ∀ source map, Act.Emits P (b.compiler.options.attempt source filename entry map)) :
    ∀ e ∈ (compile source filename entry b).trace, P e := by
  have hattempted {source : String} {map : Option Bytes} {w w' : World E} {t : List (Event E)}
      {result : AttemptResult E.Program}
      (h : b.compiler.options.Attempt source filename entry map w t result w') : ∀ e ∈ t, P e := by
    have := hattempt source map w
    rwa [h.run] at this
  have hfallback {t u : List (Event E)} {e : Rejection} (ht : ∀ x ∈ t, P x) (hu : ∀ x ∈ u, P x) :
      ∀ x ∈ t ++ .log (.transforming filename .extended e) :: u, P x := by
    intro x hx
    rcases List.mem_append.1 hx with hx | hx
    · exact ht x hx
    rcases List.mem_cons.1 hx with rfl | hx
    · exact hP.log _ nofun
    · exact hu x hx
  have htransformed {map : Option Bytes} {b₁ b' : Bench E}
      {ending : Ending (Except CompileError Transformed)} {u : List (Event E)}
      (h : b₁.Transformation source filename map u ending b') : ∀ e ∈ u, P e := by
    have := transform_emits hP source filename map b₁
    rwa [h.run] at this
  obtain ⟨ending, b', t, hrun, hcourse⟩ := compile_course source filename entry b
  rw [hrun]
  cases hcourse with
  | direct hfirst | base _ hfirst => exact hattempted hfirst
  | panicked _ hfirst hu | failed _ hfirst hu =>
    exact hfallback (hattempted hfirst) (htransformed hu)
  | transformed _ hfirst hu hsecond | rejected _ hfirst hu hsecond =>
    exact hfallback (hattempted hfirst) fun x hx =>
      (List.mem_append.1 hx).elim (htransformed hu x) (hattempted hsecond x)

end Bench

end Downlevel
