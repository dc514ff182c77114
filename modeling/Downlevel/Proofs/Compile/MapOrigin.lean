/-
  Downlevel — where maps come from.

  A map is handed to the host, goes to the transform as its input, or is
  carried by the compiled unit.  Whichever it is, the bytes are those that a
  loader answered in the attempt under way or that transformed code came with.
  They are moved one line down on the way to the host of a module, and nowhere
  else: what is in hand is never a moved map, and so no map is moved twice.

  * `Origin before map`: where the map comes from;
  * `Bench.Course.origin`, `Bench.Course.origin_of_unit`: the map in hand has
    an origin;
  * `Event.Mapless`: what a compiler without a loader does;
  * `Bench.compile_origin`: both.
-/
import Downlevel.Proofs.Compile.MapInHand
import Downlevel.Proofs.Compile.Record

namespace Downlevel

variable {E : Engines}

/-! ## Origins -/

/-- A loader answered with the map in the attempt under way, in which nothing
    was transformed since, or transformed code came with it. -/
inductive Origin (before : List (Event E)) (map : Bytes) : Prop
  | loaded {earlier url later} : before = earlier ++ .load url (.ok map) :: later →
      (∀ e ∈ later, ¬ e.isFallback) → Origin before map
  | transformed {e} : e ∈ before → e.produced? = some map → Origin before map

/-- What is in hand during an attempt that follows `earlier`, if only a
    transform had put a map in hand before. -/
theorem Origin.of_hand (earlier : List (Event E)) {asked : List (Event E)} {map : Bytes}
    (hearlier : ∀ found, handAfter none earlier = some found →
      ∃ e ∈ earlier, e.produced? = some found)
    (hasked : ∀ e ∈ asked, ¬ e.isFallback) (h : handAfter none (earlier ++ asked) = some map) :
    Origin (earlier ++ asked) map := by
  rw [handAfter_append] at h
  rcases eq_or_supply?_of_handAfter h with hhand | ⟨before, e, after, rfl, he⟩
  · obtain ⟨e, he, hproduced⟩ := hearlier map hhand
    exact .transformed (List.mem_append_left _ he) hproduced
  · rcases e.load_or_produced?_of_supply? he with ⟨url, rfl⟩ | hproduced
    · refine .loaded (List.append_assoc earlier before _).symm fun x hx => hasked x ?_
      simp [hx]
    · exact .transformed (by simp) hproduced

/-- The first attempt starts with no map in hand, and the loader is all there
    is to supply one. -/
theorem AttemptCourse.origin {o : CompilerOptions E} {source filename : String} {entry : Bool}
    {before after : List (Event E)} {result : AttemptResult E.Program}
    (h : AttemptCourse o source filename entry none (before ++ after) result) {map : Bytes}
    (hmap : handAfter none before = some map) : Origin before map :=
  Origin.of_hand [] nofun
    (fun e he => h.not_isFallback e (List.mem_append_left _ he)) hmap

/-- The map of transformed code is the runtime's. -/
theorem Request.Course.produced {r : Request} {t : List (Event E)} {output : Transformed}
    (h : r.Course t (.returned (.ok output))) (hmaps : r.maps) {map : Bytes}
    (hmap : output.map = some map) : ∃ e ∈ t, e.produced? = some map := by
  rw [h.map_eq hmaps none] at hmap
  rcases eq_or_supply?_of_handAfter hmap with hnone | ⟨before, e, after, rfl, he⟩
  · cases hnone
  · rcases e.load_or_produced?_of_supply? he with ⟨url, rfl⟩ | hproduced
    · have hphase := h.phase_eq (.load url (.ok map)) (by simp)
      cases hphase
    · exact ⟨e, by simp, hproduced⟩

/-- The second one starts with the map of the transform. -/
theorem AttemptCourse.origin_transformed {o : CompilerOptions E} {source filename : String}
    {entry : Bool} {r : Request} {first u before after : List (Event E)} {e : Event E}
    {output : Transformed} {result : AttemptResult E.Program}
    (hu : r.Course u (.returned (.ok output))) (hmaps : r.maps)
    (h : AttemptCourse o source filename entry output.map (before ++ after) result) {map : Bytes}
    (hmap : handAfter none (first ++ e :: u ++ before) = some map) :
    Origin (first ++ e :: u ++ before) map := by
  refine Origin.of_hand _ (fun found hfound => ?_)
    (fun x hx => h.not_isFallback x (List.mem_append_left _ hx)) hmap
  rw [handAfter_append, handAfter_cons, ← hu.map_eq hmaps] at hfound
  obtain ⟨x, hx, hproduced⟩ := hu.produced hmaps hfound
  exact ⟨x, by simp [hx], hproduced⟩

/-! ## Compiles with a loader -/

namespace Bench

variable {b b' : Bench E} {source filename : String} {entry : Bool} {t : List (Event E)}
  {ending : Ending (Except CompileError (CompiledUnit E.Program))}

namespace Course

/-- Whenever the compiler does not transform, the map in hand has an origin. -/
theorem origin (h : b.Course source filename entry t ending b')
    (hloader : b.compiler.options.loader.isSome) :
    Throughout (fun before e _ => e.phase ≠ .transforming →
      ∀ map, handAfter none before = some map → Origin before map) t := by
  rcases h.parts with
    ⟨result, hfirst⟩ | ⟨-, first, e, map, u, answer, second, rfl, hfirst, hu, hsecond⟩
  · rintro before e after rfl - map hmap
    exact hfirst.origin hmap
  · refine throughout_append.2 ⟨?_, throughout_cons.2 ⟨?_, throughout_append.2 ⟨?_, ?_⟩⟩⟩
    · rintro before e after rfl - map hmap
      exact hfirst.origin hmap
    · intro _ map hmap
      rw [← List.append_nil first] at hfirst
      simpa using hfirst.origin (by simpa using hmap)
    · rintro before x after rfl hphase
      exact absurd (hu.phase_eq x (by simp)) hphase
    · rcases hsecond with rfl | ⟨output, result, rfl, hsecond⟩
      · exact throughout_nil
      · rintro before x after rfl - map hmap
        simpa using hsecond.origin_transformed hu hloader (by simpa using hmap)

end Course

end Bench

/-! ## Compiles without a loader -/

/-- What happens in the compile of `source` without a loader: the host is never
    offered a map, the runtime is neither asked for one nor given one, and the
    host parses what the runtime made of the text as it is. -/
def Event.Mapless (source : String) (entry : Bool) (before : List (Event E)) : Event E → Prop
  | .parse _ code maps => maps = false ∧ (code = unitText entry source ∨
      ∃ id options runtime raw,
        .transform id source options runtime (.returned (.ok raw)) ∈ before ∧
        code = unitText entry raw.code)
  | .load .. | .map .. | .log (.mapMissing ..) | .log (.inputMapIgnored ..) => False
  | .transform _ text options _ _ => text = source ∧
      options.find? "sourceMaps" = some (.bool false) ∧ options.find? "inputSourceMap" = none
  | _ => True

namespace Request

/-- The options of a request for no map. -/
theorem find?_options_of_mapless (source filename : String) (input : Option Bytes) :
    (Request.options ⟨source, filename, false, input⟩).find? "sourceMaps" = some (.bool false) ∧
      (Request.options ⟨source, filename, false, input⟩).find? "inputSourceMap" = none := by
  have hoptions : Request.options ⟨source, filename, false, input⟩ =
      baseOptions.insert "filename" (.str filename) := rfl
  rw [hoptions, Table.find?_insert, Table.find?_insert, if_neg (by decide), if_neg (by decide)]
  exact ⟨rfl, rfl⟩

namespace Course

variable {source filename : String} {input : Option Bytes} {t : List (Event E)}
  {ending : Ending (Except CompileError Transformed)}

theorem mapless (h : Request.Course ⟨source, filename, false, input⟩ t ending) (entry : Bool)
    (earlier : List (Event E)) :
    Throughout (fun before e _ => e.Mapless source entry (earlier ++ before)) t := by
  have hstart {b b' : Bench E} {ending u} (h : Bench.transformer b = ⟨ending, b', u⟩) :
      Throughout (fun before e _ => e.Mapless source entry (earlier ++ before)) u := by
    rintro before e after rfl
    have he := Bench.isStartUp_of_transformer h e (by simp)
    unfold Event.isStartUp at he
    split at he <;> trivial
  have hcalled (id runtime outcome) (before : List (Event E)) :
      (Event.transform id source (Request.options ⟨source, filename, false, input⟩) runtime
        outcome).Mapless source entry before :=
    ⟨rfl, find?_options_of_mapless source filename input⟩
  have hwarnings :
      (Request.warnings ⟨source, filename, false, input⟩ : List (Event E)) = [] := rfl
  cases h with
  | notStarted hgot | brokenOff hgot | retired hgot => exact hstart hgot
  | failed hgot | panicked hgot =>
    rw [hwarnings]
    exact throughout_append.2 ⟨hstart hgot, throughout_singleton.2 (hcalled _ _ _ _)⟩
  | answered hgot =>
    rw [hwarnings]
    exact throughout_append.2
      ⟨hstart hgot, throughout_cons.2 ⟨hcalled _ _ _ _, throughout_singleton.2 trivial⟩⟩

/-- Without a map there is no comment either. -/
theorem output_of_mapless {output : Transformed}
    (h : Request.Course ⟨source, filename, false, input⟩ t (.returned (.ok output))) :
    ∃ id options runtime raw, .transform id source options runtime (.returned (.ok raw)) ∈ t ∧
      output = ⟨raw.code, none⟩ := by
  generalize hending : Ending.returned (Except.ok output) = ending at h
  cases h with
  | notStarted | brokenOff | retired | failed | panicked => cases hending
  | @answered _ _ u id _ raw runtime =>
    refine ⟨id, Request.options ⟨source, filename, false, input⟩, runtime, raw, by simp, ?_⟩
    injection hending with hending
    simpa [result] using hending

end Course

end Request

theorem ParseCourse.of_no_loader {filename code : String} {desk : MapDesk E} {t : List (Event E)}
    {verdict : Except Rejection E.Ast} {map : Option Bytes}
    (h : ParseCourse filename code desk t verdict map) (hloader : desk.loader = none) :
    t = [.parse filename code false, .verdict verdict] ∧ map = desk.map := by
  cases h with
  | plain => exact ⟨rfl, rfl⟩
  | met hsome => simp [hloader] at hsome
  | repeated hsome => simp [hloader] at hsome

namespace AttemptCourse

variable {o : CompilerOptions E} {text filename : String} {entry : Bool} {map : Option Bytes}
  {t : List (Event E)} {result : AttemptResult E.Program}

/-- An attempt at a text that comes from the source or from the runtime. -/
theorem mapless (h : AttemptCourse o text filename entry map t result) (hloader : o.loader = none)
    (source : String) (earlier : List (Event E))
    (htext : unitText entry text = unitText entry source ∨ ∃ id options runtime raw,
      .transform id source options runtime (.returned (.ok raw)) ∈ earlier ∧
      unitText entry text = unitText entry raw.code) :
    Throughout (fun before e _ => e.Mapless source entry (earlier ++ before)) t := by
  have hparse {verdict : Except Rejection E.Ast} :
      Throughout (fun before (e : Event E) _ => e.Mapless source entry (earlier ++ before))
        [.parse filename (unitText entry text) false, .verdict verdict] :=
    throughout_cons.2 ⟨⟨rfl, by simpa using htext⟩, throughout_singleton.2 trivial⟩
  cases h with
  | rejected hcourse =>
    obtain ⟨rfl, -⟩ := hcourse.of_no_loader hloader
    exact hparse
  | refused hcourse | accepted hcourse =>
    obtain ⟨rfl, -⟩ := hcourse.of_no_loader hloader
    exact throughout_append.2 ⟨hparse, throughout_singleton.2 trivial⟩

theorem map_eq_of_no_loader (h : AttemptCourse o text filename entry map t result)
    (hloader : o.loader = none) :
    (∀ e map', result = .rejected e map' → map' = map) ∧
      ∀ unit, result = .decided (.ok unit) → unit.map = map := by
  cases h with
  | rejected hcourse =>
    obtain ⟨-, rfl⟩ := hcourse.of_no_loader hloader
    exact ⟨fun e map' h => by cases h; rfl, nofun⟩
  | refused => exact ⟨nofun, nofun⟩
  | accepted hcourse =>
    obtain ⟨-, rfl⟩ := hcourse.of_no_loader hloader
    exact ⟨nofun, fun unit h => by cases h; rfl⟩

end AttemptCourse

namespace Bench

variable {b b' : Bench E} {source filename : String} {entry : Bool} {t : List (Event E)}
  {ending : Ending (Except CompileError (CompiledUnit E.Program))}

namespace Course

theorem mapless (h : b.Course source filename entry t ending b')
    (hloader : b.compiler.options.loader = none) :
    Throughout (fun before e _ => e.Mapless source entry before) t := by
  rcases h.parts with
    ⟨result, hfirst⟩ | ⟨-, first, e, map, u, answer, second, rfl, hfirst, hu, hsecond⟩
  · exact hfirst.mapless hloader source [] (.inl rfl)
  · rw [hloader] at hu
    refine throughout_append.2 ⟨hfirst.mapless hloader source [] (.inl rfl),
      throughout_cons.2 ⟨trivial, throughout_append.2 ⟨?_, ?_⟩⟩⟩
    · have := hu.mapless entry (first ++ [.log (.transforming filename .extended e)])
      simpa using this
    · rcases hsecond with rfl | ⟨output, result, rfl, hsecond⟩
      · exact throughout_nil
      · obtain ⟨id, options, runtime, raw, hraw, rfl⟩ := hu.output_of_mapless
        have := hsecond.mapless hloader source
          (first ++ .log (.transforming filename .extended e) :: u)
          (.inr ⟨id, options, runtime, raw, by simp [hraw], rfl⟩)
        simpa using this

theorem map_eq_none {unit : CompiledUnit E.Program}
    (h : b.Course source filename entry t (.returned (.ok unit)) b')
    (hloader : b.compiler.options.loader = none) : unit.map = none := by
  cases h with
  | direct hfirst => exact (hfirst.course.map_eq_of_no_loader hloader).2 unit rfl
  | transformed _ _ hu hsecond =>
    obtain ⟨_, _, _, raw, -, rfl⟩ := (hloader ▸ hu.course).output_of_mapless
    exact (hsecond.course.map_eq_of_no_loader hloader).2 unit rfl

end Course

end Bench

end Downlevel
