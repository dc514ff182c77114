/-
  Downlevel — which map a compile uses.

  With a loader there is one map in hand throughout a compile.  A parse hands
  it to the host, a fallback hands it to the transform, and the compiled unit
  carries the last one.  The one place is all there is: whatever puts a map
  there overwrites what was there, and a request that fails leaves it alone
  unless the loader failed.

  * `Bench.Course.map_eq`, `Bench.Course.fromHand`,
    `Bench.Course.fallback_hand`: what is compiled, handed out and transformed
    with is the map in hand;
  * `Bench.Course.redone`: what may follow a parse that was refused a map.
-/
import Downlevel.Proofs.Compile.Calls

namespace Downlevel

variable {E : Engines}

/-! ## Parses -/

namespace ParseCourse

variable {filename code : String} {desk : MapDesk E} {t : List (Event E)}
  {verdict : Except Rejection E.Ast} {map : Option Bytes}

theorem map_eq (h : ParseCourse filename code desk t verdict map) (hloader : desk.loader.isSome) :
    map = handAfter desk.map t := by
  cases h with
  | plain hnone => simp [hnone] at hloader
  | met _ hserves =>
    rw [hserves.map_eq hloader]
    simp [Event.hand, Event.supply?]
  | repeated _ hserves =>
    rw [hserves.map_eq hloader]
    simp [Event.hand, Event.supply?]

/-- Each reply of a parse that follows `earlier` is made from the map in hand. -/
theorem fromHand (h : ParseCourse filename code desk t verdict map) (hloader : desk.loader.isSome)
    (earlier : List (Event E)) (hhand : handAfter none earlier = desk.map) :
    Throughout (fun before e _ => e.FromHand desk.entry (earlier ++ before)) t := by
  have hasked {t desk'} (h : desk.Serves t desk') :
      Throughout (fun before e _ =>
        e.FromHand desk.entry (earlier ++ .parse filename code true :: before)) t := by
    have := h.fromHand hloader (earlier ++ [.parse filename code true])
      (by simpa [Event.hand, Event.supply?] using hhand)
    simpa using this
  cases h with
  | plain hnone => simp [hnone] at hloader
  | met _ hserves =>
    refine throughout_cons.2 ⟨trivial, throughout_append.2 ⟨hasked hserves, ?_⟩⟩
    exact throughout_singleton.2 trivial
  | repeated _ hserves =>
    refine throughout_cons.2 ⟨trivial, throughout_append.2 ⟨hasked hserves, ?_⟩⟩
    simp [throughout_cons, throughout_nil, Event.FromHand]

/-- A parse that is redone ends in the parse without maps. -/
theorem redone (h : ParseCourse filename code desk t verdict map) :
    Throughout (fun _ e after => e.isMapMissing →
      desk.loader.isSome ∧ after = [.parse filename code false, .verdict verdict]) t := by
  have hasked {t desk'} {P : List (Event E) → Prop} (h : desk.Serves t desk') :
      Throughout (fun _ e after => e.isMapMissing → P after) t := by
    rintro before e after rfl hmissing
    have hrequest := h.isRequest e (by simp)
    cases e <;> simp [Event.isRequest, Event.isMapMissing] at hrequest hmissing
  cases h with
  | plain => simp [throughout_cons, throughout_nil, Event.isMapMissing]
  | met _ hserves =>
    refine throughout_cons.2 ⟨fun h => absurd h Bool.false_ne_true,
      throughout_append.2 ⟨hasked hserves, ?_⟩⟩
    exact throughout_singleton.2 fun h => absurd h Bool.false_ne_true
  | repeated hloader hserves =>
    refine throughout_cons.2 ⟨fun h => absurd h Bool.false_ne_true,
      throughout_append.2 ⟨hasked hserves, ?_⟩⟩
    simp [throughout_cons, throughout_nil, Event.isMapMissing, hloader]

end ParseCourse

/-! ## Attempts -/

/-- Outside of parses nothing is handed out. -/
theorem Event.fromHand_of_phase_ne {e : Event E} (h : e.phase ≠ .parsing) (entry : Bool)
    (before : List (Event E)) : e.FromHand entry before := by
  unfold FromHand
  split
  · exact absurd rfl h
  · trivial

namespace AttemptCourse

variable {o : CompilerOptions E} {source filename : String} {entry : Bool} {map map' : Option Bytes}
  {t : List (Event E)} {result : AttemptResult E.Program} {e : Rejection}
  {unit : CompiledUnit E.Program}

theorem map_eq_of_accepted (h : AttemptCourse o source filename entry map t (.decided (.ok unit)))
    (hloader : o.loader.isSome) : unit.map = handAfter map t := by
  cases h with
  | accepted hparse =>
    have := hparse.map_eq hloader
    simpa [Event.hand, Event.supply?, MapDesk.opened] using this

theorem fromHand (h : AttemptCourse o source filename entry map t result)
    (hloader : o.loader.isSome) (earlier : List (Event E)) (hhand : handAfter none earlier = map) :
    Throughout (fun before e _ => e.FromHand entry (earlier ++ before)) t := by
  cases h with
  | rejected hparse => exact hparse.fromHand hloader earlier hhand
  | refused hparse | accepted hparse =>
    exact throughout_append.2
      ⟨hparse.fromHand hloader earlier hhand, throughout_singleton.2 trivial⟩

/-- An attempt that is redone without maps is rejected by the parse without
    maps, -/
theorem redone_of_rejected (h : AttemptCourse o source filename entry map t (.rejected e map')) :
    Throughout (fun _ x after => x.isMapMissing →
      o.loader.isSome ∧
        after = [.parse filename (unitText entry source) false, .verdict (.error e)]) t := by
  cases h with
  | rejected hparse => exact hparse.redone

/-- or the host compiles what that parse accepted. -/
theorem redone_of_decided {r : Except CompileError (CompiledUnit E.Program)}
    (h : AttemptCourse o source filename entry map t (.decided r)) :
    Throughout (fun _ x after => x.isMapMissing →
      o.loader.isSome ∧
        ∃ ast answer, after = [.parse filename (unitText entry source) false, .verdict (.ok ast),
          .compile ast o.strict answer]) t := by
  cases h with
  | @refused _ ast _ _ e _ hparse =>
    refine throughout_append.2 ⟨?_, throughout_singleton.2 fun h => absurd h Bool.false_ne_true⟩
    refine hparse.redone.mono fun before x after hx hmissing => ?_
    obtain ⟨hloader, hafter⟩ := hx hmissing
    exact ⟨hloader, ast, .error e, by rw [hafter]; rfl⟩
  | @accepted _ ast _ _ program _ hparse =>
    refine throughout_append.2 ⟨?_, throughout_singleton.2 fun h => absurd h Bool.false_ne_true⟩
    refine hparse.redone.mono fun before x after hx hmissing => ?_
    obtain ⟨hloader, hafter⟩ := hx hmissing
    exact ⟨hloader, ast, .ok program, by rw [hafter]; rfl⟩

end AttemptCourse

/-! ## Transforms -/

namespace Request.Course

variable {r : Request} {t : List (Event E)} {output : Transformed}

/-- The map of transformed code is in hand after the transform. -/
theorem map_eq (h : r.Course t (.returned (.ok output))) (hmaps : r.maps) (map : Option Bytes) :
    output.map = handAfter map t := by
  generalize hending : Ending.returned (Except.ok output) = ending at h
  cases h with
  | notStarted | brokenOff | retired | failed | panicked => cases hending
  | @answered _ _ u id runtime raw _ _ hgot =>
    have hresult : r.result raw = .ok output := by
      injection hending with h
      exact h.symm
    have hstart : handAfter map u = map := handAfter_of_supply?_eq_none fun e he => by
      have := Bench.isStartUp_of_transformer hgot e he
      unfold Event.isStartUp at this
      split at this <;> first | rfl | cases this
    have hwarnings (map : Option Bytes) : handAfter map (r.warnings : List (Event E)) = map := by
      unfold warnings
      split <;> rfl
    have houtput : output.map = raw.produced? := by
      unfold result at hresult
      rw [if_pos hmaps] at hresult
      split at hresult
      · cases hresult
      · rename_i found hfound
        cases hresult
        simp [RawOutput.produced?, hfound]
    simp [hstart, hwarnings, houtput, Event.hand, Event.supply?]

end Request.Course

/-! ## Compiles -/

/-- The events after a failed parse has been logged. -/
inductive Redone (o : CompilerOptions E) (filename : String) : List (Event E) → Prop
  /-- The parse without maps accepts the text, which is compiled. -/
  | accepted {code ast answer} : Redone o filename
      [.parse filename code false, .verdict (.ok ast), .compile ast o.strict answer]
  /-- It rejects the text for good. -/
  | rejected {code e} : Redone o filename [.parse filename code false, .verdict (.error e)]
  /-- It rejects the text, which is transformed then. -/
  | fallsBack {code e later} : Redone o filename
      (.parse filename code false :: .verdict (.error e) ::
        .log (.transforming filename .extended e) :: later)

namespace Bench

variable {b b' : Bench E} {source filename : String} {entry : Bool} {t : List (Event E)}
  {ending : Ending (Except CompileError (CompiledUnit E.Program))}

namespace Course

/-- A compiled unit carries the map in hand. -/
theorem map_eq {unit : CompiledUnit E.Program}
    (h : b.Course source filename entry t (.returned (.ok unit)) b')
    (hloader : b.compiler.options.loader.isSome) : unit.map = handAfter none t := by
  cases h with
  | direct hfirst => exact hfirst.course.map_eq_of_accepted hloader
  | @transformed first e _ _ u output _ second _ _ _ hfirst hu hsecond =>
    calc unit.map
        = handAfter output.map second := hsecond.course.map_eq_of_accepted hloader
      _ = handAfter (handAfter (handAfter none first) u) second := by rw [hu.course.map_eq hloader]
      _ = handAfter none (first ++ .log (.transforming filename .extended e) :: (u ++ second)) := by
        simp [Event.hand, Event.supply?]

/-- Each reply is made from the map in hand. -/
theorem fromHand (h : b.Course source filename entry t ending b')
    (hloader : b.compiler.options.loader.isSome) :
    Throughout (fun before e _ => e.FromHand entry before) t := by
  rcases h.parts with
    ⟨result, hfirst⟩ | ⟨-, first, e, map, u, answer, second, rfl, hfirst, hu, hsecond⟩
  · exact hfirst.fromHand hloader [] rfl
  · refine throughout_append.2 ⟨hfirst.fromHand hloader [] rfl, throughout_cons.2 ⟨trivial,
      throughout_append.2 ⟨?_, ?_⟩⟩⟩
    · rintro before x after rfl
      refine Event.fromHand_of_phase_ne ?_ entry _
      rw [hu.phase_eq x (by simp)]
      exact Phase.noConfusion
    · rcases hsecond with rfl | ⟨output, result, rfl, hsecond⟩
      · exact throughout_nil
      · have hhand : handAfter none (first ++ .log (.transforming filename .extended e) :: u) =
            output.map := by
          rw [handAfter_append, handAfter_cons]
          exact (hu.map_eq hloader _).symm
        simpa using hsecond.fromHand hloader _ hhand

/-- A parse that is redone is followed by the parse without maps.  If that
    accepts the text, the host compiles it; else the compile ends or the text
    is transformed. -/
theorem redone (h : b.Course source filename entry t ending b') :
    Throughout (fun _ x after => x.isMapMissing →
      b.compiler.options.loader.isSome ∧ Redone b.compiler.options filename after) t := by
  have hrejected {o : CompilerOptions E} {source map t e map'}
      (h : AttemptCourse o source filename entry map t (.rejected e map')) :
      Throughout (fun _ x after => x.isMapMissing →
        o.loader.isSome ∧ Redone o filename after) t := by
    refine h.redone_of_rejected.mono fun before x after hx hmissing => ?_
    obtain ⟨hloader, rfl⟩ := hx hmissing
    exact ⟨hloader, .rejected⟩
  have hdecided {o : CompilerOptions E} {source map t r}
      (h : AttemptCourse o source filename entry map t (.decided r)) :
      Throughout (fun _ x after => x.isMapMissing →
        o.loader.isSome ∧ Redone o filename after) t := by
    refine h.redone_of_decided.mono fun before x after hx hmissing => ?_
    obtain ⟨hloader, ast, answer, rfl⟩ := hx hmissing
    exact ⟨hloader, .accepted⟩
  rcases h.parts with
    ⟨result, hfirst⟩ | ⟨-, first, e, map, u, answer, second, rfl, hfirst, hu, hsecond⟩
  · cases result with
    | decided r => exact hdecided hfirst
    | rejected e map => exact hrejected hfirst
  · refine throughout_append.2 ⟨?_, throughout_cons.2 ⟨fun h => absurd h Bool.false_ne_true,
      throughout_append.2 ⟨?_, ?_⟩⟩⟩
    · refine hfirst.redone_of_rejected.mono fun before x after hx hmissing => ?_
      obtain ⟨hloader, rfl⟩ := hx hmissing
      exact ⟨hloader, .fallsBack⟩
    · rintro before x after rfl hmissing
      have := hu.phase_eq x (by simp)
      rw [Event.phase_of_isMapMissing hmissing] at this
      cases this
    · rcases hsecond with rfl | ⟨output, result, -, hsecond⟩
      · exact throughout_nil
      · cases result with
        | decided r => exact hdecided hsecond
        | rejected e' map' => exact hrejected hsecond

end Course

end Bench

end Downlevel
