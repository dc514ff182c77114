/-
  Downlevel — the two modes, and compiling what was compiled.

  The modes differ only in what follows a rejection.  So a unit that compiles
  in the base mode compiles in the extended mode to the same, and the library
  stays out of it.  And a text that came out of a compile has passed both
  checks of the host: it compiles again, as an entry and in the base mode, to
  itself, whatever becomes of the maps that it refers to.

  * `host_steady`: the host does not remember what it was asked;
  * `unit_of_compile`: what a compile that succeeds yields;
  * `compile_modes`: a unit in both modes, and its text once more.
-/
import Downlevel.Proofs.Compile.Alike
import Downlevel.Proofs.Compile.MapOrigin
import Downlevel.Proofs.Legacy.Compile

namespace Downlevel.Legacy

variable {φ : Type} {mapsFirst ignores : Bool}

/-! ## The host -/

theorem askMaps_alike {R : HostState → HostState → Prop}
    {onFailure onFailure' : Rejection → Dialogue HostState Ast}
    {next next' : Option Bytes → Dialogue HostState Ast}
    (hfailure : ∀ e, (onFailure e).Alike R (onFailure' e))
    (hnext : ∀ map, (next map).Alike R (next' map)) (map : Option Bytes)
    (urls : List (Nat × String)) :
    (askMaps ignores onFailure next map urls).Alike R
      (askMaps ignores onFailure' next' map urls) := by
  induction urls generalizing map with
  | nil => exact hnext map
  | cons asked urls ih =>
    refine .ask fun reply => ?_
    rcases reply with e | found
    · cases ignores with
      | true => exact ih map
      | false => exact hfailure _
    · exact ih (some found)

/-- By the rules no verdict depends on what the host was asked before. -/
theorem host_steady (mapsFirst ignores : Bool) : (host (.byRules mapsFirst ignores)).Steady where
  parse filename source s s' _ := by
    simp only [host, HostScript.byRules, verdictAt_nil, and_self]
  parseWithMaps filename source s s' _ := by
    simp only [host, HostScript.byRules, verdictAt_nil]
    cases mapsFirst with
    | true => exact askMaps_alike (fun _ => .done trivial) (fun _ => .done trivial) none _
    | false =>
      simp only [Bool.false_eq_true, if_false]
      cases checkMarkers source with
      | error e => exact .done trivial
      | ok => exact askMaps_alike (fun _ => .done trivial) (fun _ => .done trivial) none _
  compile ast strict s s' _ := by
    simp only [host, HostScript.byRules, verdictAt_nil, and_self]

/-! ## Units -/

section
variable {o : CompilerOptions (ruled φ mapsFirst ignores)} {source filename : String} {entry : Bool}
  {t : List (Event (ruled φ mapsFirst ignores))}

/-- A unit that an attempt yields has passed both checks. -/
theorem AttemptCourse.unit_eq {map : Option Bytes} {unit : CompiledUnit Program}
    (h : AttemptCourse o source filename entry map t (.decided (.ok unit))) :
    ∃ read, unit = ⟨⟨unit.source, o.strict, read⟩, unit.source, unit.map⟩ ∧
      checkAll o.strict unit.source = .ok () ∧
      (o.loader = none → map = none → read = none) := by
  obtain ⟨read, map', hresult, hnone⟩ := AttemptCourse.byRules h
  have hcompiled : compiled o.strict filename (unitText entry source) read map' = .ok unit := by
    rw [← final_attempted, ← hresult]
    rfl
  unfold compiled at hcompiled
  split at hcompiled
  · cases hcompiled
  · next hcheck =>
    cases hcompiled
    refine ⟨read, rfl, hcheck, fun hloader hmap => (hnone hmap fun path found hin => ?_).1⟩
    -- without a loader nothing is loaded
    have hfound := h.mapless hloader source [] (.inl rfl)
    obtain ⟨before, after, ht⟩ := List.append_of_mem hin
    exact hfound before _ after ht

/-- What a compile yields has passed both checks, and without a loader it has no
    map. -/
theorem unit_of_compile {b : Bench (ruled φ mapsFirst ignores)} {unit : CompiledUnit Program}
    (h : (Bench.compile source filename entry b).ending = .returned (.ok unit)) :
    let o := b.compiler.options
    ∃ read, unit = ⟨⟨unit.source, o.strict, read⟩, unit.source, unit.map⟩ ∧
      checkAll o.strict unit.source = .ok () ∧
      (o.loader = none → read = none ∧ unit.map = none) := by
  obtain ⟨ending, b', t, hrun, hcourse⟩ := Bench.compile_course source filename entry b
  rw [hrun] at h
  dsimp only at h
  subst h
  have hmap := fun hloader => hcourse.map_eq_none hloader
  cases hcourse with
  | direct hfirst =>
    obtain ⟨read, hunit, hcheck, hread⟩ := AttemptCourse.unit_eq hfirst.course
    exact ⟨read, hunit, hcheck, fun hloader => ⟨hread hloader rfl, hmap hloader⟩⟩
  | transformed _ _ hu hsecond =>
    obtain ⟨read, hunit, hcheck, hread⟩ := AttemptCourse.unit_eq hsecond.course
    refine ⟨read, hunit, hcheck, fun hloader => ⟨hread hloader ?_, hmap hloader⟩⟩
    obtain ⟨_, _, _, _, -, rfl⟩ := (hloader ▸ hu.course).output_of_mapless
    rfl

end

/-! ## Compiles -/

section
variable {b b' : Bench (ruled φ mapsFirst ignores)} {source filename : String} {entry : Bool}

/-- A text that passes both checks compiles in the base mode to itself. -/
theorem compile_of_checked {strict : Bool} (hmode : b.compiler.options.mode = .base)
    (hstrict : b.compiler.options.strict = strict) (filename : String) {text : String}
    (hcheck : checkAll strict text = .ok ()) :
    ∃ read map b' t, Bench.compile text filename true b =
        ⟨.returned (.ok ⟨⟨text, strict, read⟩, text, map⟩), b', t⟩ ∧ (∀ e ∈ t, ¬ e.isLibrary) ∧
      (b.compiler.options.loader = none → read = none ∧ map = none) := by
  have hkept : checkMarkers (unitText true text) = .ok () ∨ b.compiler.options.mode = .base :=
    .inr hmode
  obtain ⟨read, map, b', t, hrun, -, -, hnone⟩ := compile_of_kept filename hkept
  have hcompiled : compiled b.compiler.options.strict filename (unitText true text) read map =
      .ok ⟨⟨text, strict, read⟩, text, map⟩ := by
    simp only [compiled, unitText, if_true, hstrict, hcheck]
  obtain ⟨result, hattempt⟩ := (Bench.compile_eq_iff.1 hrun).attempt_of_base hmode
  exact ⟨read, map, b', t, by rw [hrun, hcompiled], hattempt.not_isLibrary,
    fun hloader => hnone (CompilerOptions.findsNothing_of_none hloader)⟩

/-- What the first attempt decides is the same in both modes. -/
theorem compile_in_both (hbase : b.compiler.options.mode = .base)
    (hextended : b'.compiler.options = { b.compiler.options with mode := .extended })
    (hfiles : b'.world.files = b.world.files) {unit : CompiledUnit Program}
    (h : (Bench.compile source filename entry b).ending = .returned (.ok unit)) :
    (Bench.compile source filename entry b').ending = .returned (.ok unit) ∧
      ∀ e ∈ (Bench.compile source filename entry b').trace, ¬ e.isLibrary := by
  obtain ⟨result, w, t, hrun, -, hcourse⟩ :=
    b.compiler.options.attempt_course source filename entry none b.world
  cases result with
  | rejected e map =>
    rw [Bench.compile_of_base hbase hrun] at h
    cases h
  | decided result =>
    rw [Bench.compile_of_decided hrun] at h
    -- the same attempt, and then the same in the other world
    have hattempt : b'.compiler.options.attempt source filename entry none b.world =
        ⟨.returned (.decided result), w, t⟩ := by
      rw [CompilerOptions.attempt_congr (o := b.compiler.options) (by rw [hextended])
        (by rw [hextended])]
      exact hrun
    have hrespects := CompilerOptions.attempt_respects
      (Likeness.ofFiles_deceives (host_steady mapsFirst ignores) b'.compiler.options)
      source filename entry none
    obtain ⟨hending, htrace, -⟩ := hrespects b'.world b.world ⟨trivial, hfiles⟩
    rw [hattempt] at hending htrace
    rcases hrun' : b'.compiler.options.attempt source filename entry none b'.world with
      ⟨ending', w', t'⟩
    rw [hrun'] at hending htrace
    dsimp only at hending htrace
    subst hending htrace
    rw [Bench.compile_of_decided hrun']
    exact ⟨h, hcourse.not_isLibrary⟩

/-- The extended mode goes beyond the base mode, and its output is stable.  A
    unit that compiles in the base mode compiles in the extended mode to the
    same, from the same files, and the library is left alone.  What compiles in the
    extended mode, its text compiles again as an entry in the base mode, in any
    world and without the library, to the same program but for its map, and
    without a loader to the same unit. -/
theorem compile_modes (hbase : b.compiler.options.mode = .base)
    (hextended : b'.compiler.options = { b.compiler.options with mode := .extended })
    (hfiles : b'.world.files = b.world.files) (source filename : String) (entry : Bool) :
    (∀ unit, (Bench.compile source filename entry b).ending = .returned (.ok unit) →
      (Bench.compile source filename entry b').ending = .returned (.ok unit) ∧
      ∀ e ∈ (Bench.compile source filename entry b').trace, ¬ e.isLibrary) ∧
    ∀ unit, (Bench.compile source filename entry b').ending = .returned (.ok unit) →
      unit.program.source = unit.source ∧
      ∀ again : Bench (ruled φ mapsFirst ignores), again.compiler.options = b.compiler.options →
        ∀ filename', ∃ read map again' t, Bench.compile unit.source filename' true again =
            ⟨.returned (.ok ⟨{ unit.program with map := read }, unit.source, map⟩), again', t⟩ ∧
          (∀ e ∈ t, ¬ e.isLibrary) ∧
          (b.compiler.options.loader = none → read = unit.program.map ∧ map = unit.map) := by
  refine ⟨fun unit h => compile_in_both hbase hextended hfiles h, fun unit h => ?_⟩
  obtain ⟨read, hunit, hcheck, hnone⟩ := unit_of_compile h
  rw [hextended] at hunit hcheck hnone
  dsimp only at hunit hcheck hnone
  have hprogram : unit.program = ⟨unit.source, b.compiler.options.strict, read⟩ := by rw [hunit]
  refine ⟨by rw [hprogram], fun again hagain filename' => ?_⟩
  obtain ⟨read', map', again', t, hrun, hlibrary, hnone'⟩ := compile_of_checked (b := again)
    (by rw [hagain, hbase]) (by rw [hagain]) filename' hcheck
  refine ⟨read', map', again', t, by rw [hrun, hprogram], hlibrary, fun hloader => ?_⟩
  obtain ⟨rfl, hmap⟩ := hnone hloader
  obtain ⟨rfl, rfl⟩ := hnone' (by rw [hagain, hloader])
  exact ⟨by rw [hprogram], hmap.symm⟩

end

/-- An old text in both modes, and a module with modern syntax whose code refers
    to a map that is gone when it is compiled again. -/
theorem compile_modes_class :
    let b : Bench (ruled Unit false false) := freshBench ⟨.base, some (readerOf .empty), false⟩ ()
    let b' : Bench (ruled Unit false false) :=
      freshBench ⟨.extended, some (readerOf .empty), false⟩ ()
    (∃ unit, (Bench.compile "var a = 1;" "a.js" true b).ending = .returned (.ok unit) ∧
      (Bench.compile "var a = 1;" "a.js" true b').ending = .returned (.ok unit)) ∧
    ∃ unit, (Bench.compile "class A {}" "a.js" false b').ending = .returned (.ok unit) ∧
      unit.source = wrapped ("function A {}" ++ SourceMap.sentinelLine) ∧
      ∃ read map again t, Bench.compile unit.source "b.js" true b =
        ⟨.returned (.ok ⟨{ unit.program with map := read }, unit.source, map⟩), again, t⟩ := by
  intro b b'
  have hnothing : b'.compiler.options.FindsNothing := by
    rintro find ⟨⟩ path files found
    exact nofun
  refine ⟨?_, ?_⟩
  · have hcheck : checkAll false "var a = 1;" = .ok () := rfl
    obtain ⟨read, map, again, t, hrun, -⟩ := compile_of_checked (b := b) rfl rfl "a.js" hcheck
    have hending : (Bench.compile "var a = 1;" "a.js" true b).ending =
        .returned (.ok ⟨⟨"var a = 1;", false, read⟩, "var a = 1;", map⟩) := congrArg Run.ending hrun
    have hboth := (@compile_modes Unit false false b b' rfl rfl rfl "var a = 1;" "a.js" true).1 _
      hending
    exact ⟨_, hending, hboth.1⟩
  · obtain ⟨read, map, hending, -⟩ :=
      compile_of_findsNothing (freshBench_sound _ () : b'.Sound) hnothing "class A {}" "a.js" false
    have hsettled : unitText false (settled b'.compiler.options false "class A {}") =
        wrapped ("function A {}" ++ SourceMap.sentinelLine) := by decide +kernel
    have hcheck : checkAll false (wrapped ("function A {}" ++ SourceMap.sentinelLine)) =
        .ok () := by
      rw [checkAll_wrapped]
      rfl
    have hstrict : b'.compiler.options.strict = false := rfl
    rw [hsettled, hstrict, compiled, hcheck] at hending
    obtain ⟨-, hagain⟩ := @compile_modes Unit false false b b' rfl rfl rfl "class A {}" "a.js" false
    obtain ⟨-, hagain⟩ := hagain _ hending
    obtain ⟨read', map', again, t, hrun, -⟩ := hagain b rfl "b.js"
    exact ⟨_, hending, rfl, read', map', again, t, hrun⟩

end Downlevel.Legacy
