/-
  Downlevel — compiles with engines that follow the rules.

  When the legacy host and the legacy library are told nothing beforehand, what
  a compile comes to can be read off the text.  The host takes a text that
  passes two checks of its lines, whatever maps it asks for on the way and
  whether it gets them; and the library turns a text into `oldText`.

  * `ParseCourse.byRules`: every parse ends in the verdict of the markers;
  * `attempt_byRules`: every attempt ends in the verdict of both checks;
  * `compile_of_kept`, `compile_of_rewritten`: a compile that leaves the text as
    it is, and one that has it transformed;
  * `compile_of_findsNothing`: both together, when no map is found.
-/
import Downlevel.Legacy.Engines
import Downlevel.Proofs.Compile.Calls
import Downlevel.Proofs.Compile.Record
import Downlevel.Proofs.Legacy.Faults
import Downlevel.Proofs.Transform.Reliable

namespace Downlevel

variable {E : Engines}

/-! ## Loaders without maps -/

/-- The loader fails on every path. -/
def Loader.Fails {φ : Type} (find : Loader φ) : Prop :=
  ∀ path files found, (find path files).1 ≠ .ok found

/-- No loader finds a map, because each fails or there is none. -/
def CompilerOptions.FindsNothing (o : CompilerOptions E) : Prop :=
  ∀ find, o.loader = some find → find.Fails

theorem CompilerOptions.findsNothing_of_none {o : CompilerOptions E} (h : o.loader = none) :
    o.FindsNothing := by
  intro find hfind
  rw [h] at hfind
  cases hfind

/-- What the host and the loader do leaves a sound bench sound. -/
theorem Bench.Sound.hostOnly {b : Bench E} {w : World E} (hb : b.Sound)
    (hw : b.world.HostOnly w) : ({ b with world := w } : Bench E).Sound := by
  obtain ⟨host, files, rfl⟩ := hw
  exact ⟨⟨hb.world.build, hb.world.shared, hb.world.live⟩, hb.attached⟩

namespace Legacy

variable {φ : Type} {mapsFirst ignores : Bool}

/-- Engines that follow the rules, with loaders whose files have states of any
    type. -/
abbrev ruled (φ : Type) (mapsFirst ignoresMapErrors : Bool) : Engines where
  HostState := HostState
  Ast := Ast
  Program := Program
  LibraryState := LibraryState
  Bytecode := String
  Runtime := Runtime
  FileState := φ
  host := host (.byRules mapsFirst ignoresMapErrors)
  library := library .byRules

theorem ruled_unit (mapsFirst ignoresMapErrors : Bool) :
    ruled Unit mapsFirst ignoresMapErrors =
      engines (.byRules mapsFirst ignoresMapErrors) .byRules := rfl

/-- A compiler that was never used, in a world in which no engine was called. -/
def freshBench (options : CompilerOptions (ruled φ mapsFirst ignores)) (files : φ) :
    Bench (ruled φ mapsFirst ignores) :=
  ⟨.fresh options, .fresh ⟨0, 0⟩ ⟨0, 0, 0, 0⟩ files⟩

theorem freshBench_sound (options : CompilerOptions (ruled φ mapsFirst ignores)) (files : φ) :
    (freshBench options files).Sound :=
  Bench.sound_fresh options _ _ files

/-! ## The host -/

theorem verdictAt_nil (n : Nat) (rules : Except Rejection Unit) : verdictAt [] n rules = rules := by
  simp [verdictAt]

/-- A host that gets each map it asks for goes on with the last one. -/
theorem askMaps_met {next : Option Bytes → Except Rejection Ast} {onFailure}
    {host host' : HostState} {urls : List (Nat × String)} {map : Option Bytes}
    {verdict : Except Rejection Ast} {replies : List (String × Except MapError Bytes)}
    (h : (askMaps ignores onFailure (fun map => .done (next map) host) map urls).Ends
      replies verdict host')
    (hmet : ∀ url e, (url, .error e) ∉ replies) :
    ∃ read, verdict = next read ∧ (read = map ∨ ∃ url found, (url, .ok found) ∈ replies) := by
  induction urls generalizing map replies with
  | nil =>
    cases h
    exact ⟨map, rfl, .inl rfl⟩
  | cons asked urls ih =>
    cases h with
    | @ask _ _ reply replies _ _ hrest =>
      -- what is read in the end may be an earlier map, but some map was handed out
      rcases reply with e | found
      · exact absurd List.mem_cons_self (hmet _ e)
      · obtain ⟨read, hverdict, -⟩ := ih hrest fun url e hin => hmet url e (by simp [hin])
        exact ⟨read, hverdict, .inr ⟨_, found, List.mem_cons_self⟩⟩

/-- A parse in which the host gets each map ends in the verdict of the markers. -/
theorem parseWithMaps_met {filename code : String} {s s' : HostState}
    {verdict : Except Rejection Ast} {replies : List (String × Except MapError Bytes)}
    (h : ((host (.byRules mapsFirst ignores)).parseWithMaps filename code s).Ends
      replies verdict s')
    (hmet : ∀ url e, (url, .error e) ∉ replies) :
    ∃ read, verdict = (checkMarkers code).map (fun _ => ⟨code, read⟩) ∧
      (read = none ∨ ∃ url found, (url, .ok found) ∈ replies) := by
  simp only [host, HostScript.byRules, verdictAt_nil] at h
  cases mapsFirst with
  | true => exact askMaps_met h hmet
  | false =>
    simp only [Bool.false_eq_true, if_false] at h
    cases hcheck : checkMarkers code with
    | error e =>
      rw [hcheck] at h
      cases h
      exact ⟨none, rfl, .inl rfl⟩
    | ok =>
      rw [hcheck] at h
      exact askMaps_met h hmet

/-- However a parse goes, the verdict that counts is the one of the markers. -/
theorem ParseCourse.byRules {filename code : String} {desk : MapDesk (ruled φ mapsFirst ignores)}
    {t : List (Event (ruled φ mapsFirst ignores))} {verdict : Except Rejection Ast}
    {map : Option Bytes} (h : ParseCourse filename code desk t verdict map) :
    ∃ read, verdict = (checkMarkers code).map (fun _ => ⟨code, read⟩) ∧
      (desk.map = none → (∀ path found, .load path (.ok found) ∉ t) →
        read = none ∧ map = none) := by
  have hplain {s s' : HostState} {verdict : Except Rejection Ast}
      (h : (host (.byRules mapsFirst ignores)).parse filename code s = (verdict, s')) :
      verdict = (checkMarkers code).map fun _ => ⟨code, none⟩ := by
    simp only [host, HostScript.byRules, verdictAt_nil, Prod.mk.injEq] at h
    exact h.1.symm
  cases h with
  | plain _ hparse => exact ⟨none, hplain hparse, fun hmap _ => ⟨rfl, hmap⟩⟩
  | @met host t _ _ desk' _ hserves hends hmet =>
    have hmet : ∀ url e, (url, .error e) ∉ replies t := fun url e hin =>
      hmet _ (mem_replies.1 hin) rfl
    obtain ⟨read, hverdict, hread⟩ := parseWithMaps_met hends hmet
    refine ⟨read, hverdict, fun hmap hnone => ?_⟩
    obtain ⟨hmap', hreplies⟩ := hserves.empty hmap fun path found hin =>
      hnone path found (by simp [hin])
    refine ⟨hread.resolve_right ?_, hmap'⟩
    rintro ⟨url, found, hin⟩
    exact hreplies url found (mem_replies.1 hin)
  | repeated _ hserves _ _ hparse =>
    refine ⟨none, hplain hparse, fun hmap hnone => ⟨rfl, ?_⟩⟩
    exact (hserves.empty hmap fun path found hin => hnone path found (by simp [hin])).1

/-! ## Attempts -/

theorem eq_error_of_map {ε α β : Type} {x : Except ε α} {f : α → β} {e : ε}
    (h : .error e = x.map f) : x = .error e := by
  cases x with
  | error e' => cases h; rfl
  | ok a => cases h

theorem eq_ok_of_map {ε α β : Type} {x : Except ε α} {f : α → β} {y : β}
    (h : .ok y = x.map f) : ∃ a, x = .ok a ∧ y = f a := by
  cases x with
  | error e => cases h
  | ok a => cases h; exact ⟨a, rfl, rfl⟩

/-- What an attempt at `code` comes to.  The host read `code` with the map `read`,
    and `map` is in hand at the end. -/
def attempted (strict : Bool) (filename code : String) (read map : Option Bytes) :
    AttemptResult Program :=
  match checkMarkers code with
  | .error e => .rejected e map
  | .ok () =>
    .decided <|
      match checkStrict strict code with
      | .error e => .error (.rejected filename e code)
      | .ok () => .ok ⟨⟨code, strict, read⟩, code, map⟩

section
variable {strict : Bool} {filename code : String} {read map : Option Bytes} {e : Rejection}

theorem attempted_of_rejected (h : checkMarkers code = .error e) :
    attempted strict filename code read map = .rejected e map := by
  simp only [attempted, h]

theorem attempted_of_refused (h : checkMarkers code = .ok ())
    (hstrict : checkStrict strict code = .error e) :
    attempted strict filename code read map =
      .decided (.error (.rejected filename e code)) := by
  simp only [attempted, h, hstrict]

theorem attempted_of_accepted (h : checkMarkers code = .ok ())
    (hstrict : checkStrict strict code = .ok ()) :
    attempted strict filename code read map =
      .decided (.ok ⟨⟨code, strict, read⟩, code, map⟩) := by
  simp only [attempted, h, hstrict]

end

/-- What a compile comes to that ends with an attempt at `code`. -/
def compiled (strict : Bool) (filename code : String) (read map : Option Bytes) :
    Except CompileError (CompiledUnit Program) :=
  match checkAll strict code with
  | .error e => .error (.rejected filename e code)
  | .ok () => .ok ⟨⟨code, strict, read⟩, code, map⟩

theorem final_attempted (strict : Bool) (filename code : String) (read map : Option Bytes) :
    Bench.final filename code (attempted strict filename code read map) =
      compiled strict filename code read map := by
  rw [attempted, compiled, checkAll]
  cases checkMarkers code <;> rfl

section
variable {o : CompilerOptions (ruled φ mapsFirst ignores)} {source filename : String} {entry : Bool}
  {map : Option Bytes}

theorem AttemptCourse.byRules {t : List (Event (ruled φ mapsFirst ignores))}
    {result : AttemptResult Program} (h : AttemptCourse o source filename entry map t result) :
    ∃ read map', result = attempted o.strict filename (unitText entry source) read map' ∧
      (map = none → (∀ path found, .load path (.ok found) ∉ t) → read = none ∧ map' = none) := by
  have hanswer {ast : Ast} {s s' : HostState} {answer : Except Rejection Program}
      (h : (host (.byRules mapsFirst ignores)).compile ast o.strict s = (answer, s')) :
      answer = (checkStrict o.strict ast.source).map fun _ => ⟨ast.source, o.strict, ast.map⟩ := by
    simp only [host, HostScript.byRules, verdictAt_nil, Prod.mk.injEq] at h
    exact h.1.symm
  -- what was parsed is the text, and the host compiles it as strictly as it is told
  have hcompiled {t : List (Event (ruled φ mapsFirst ignores))} {ast : Ast} {map' : Option Bytes}
      (hparse : ParseCourse filename (unitText entry source) (.opened entry o.loader map) t
        (.ok ast) map') :
      checkMarkers (unitText entry source) = .ok () ∧ ast.source = unitText entry source ∧
        (map = none → (∀ path found, .load path (.ok found) ∉ t) →
          ast.map = none ∧ map' = none) := by
    obtain ⟨read, hverdict, hnone⟩ := ParseCourse.byRules hparse
    obtain ⟨⟨⟩, hcheck, rfl⟩ := eq_ok_of_map hverdict
    exact ⟨hcheck, rfl, hnone⟩
  cases h with
  | @rejected _ e map' hparse =>
    obtain ⟨read, hverdict, hnone⟩ := ParseCourse.byRules hparse
    exact ⟨read, map', (attempted_of_rejected (eq_error_of_map hverdict)).symm, hnone⟩
  | @refused t ast map' _ e _ hparse hcompile =>
    obtain ⟨hcheck, hsource, hnone⟩ := hcompiled hparse
    have hstrict := eq_error_of_map (hanswer hcompile)
    rw [hsource] at hstrict
    exact ⟨ast.map, map', (attempted_of_refused hcheck hstrict).symm,
      fun hmap h => hnone hmap fun path found hin => h path found (by simp [hin])⟩
  | @accepted t ast map' _ program _ hparse hcompile =>
    obtain ⟨hcheck, hsource, hnone⟩ := hcompiled hparse
    obtain ⟨⟨⟩, hstrict, rfl⟩ := eq_ok_of_map (hanswer hcompile)
    rw [hsource] at hstrict ⊢
    exact ⟨ast.map, map', (attempted_of_accepted hcheck hstrict).symm,
      fun hmap h => hnone hmap fun path found hin => h path found (by simp [hin])⟩

end

theorem attempt_byRules (o : CompilerOptions (ruled φ mapsFirst ignores))
    (source filename : String) (entry : Bool) (map : Option Bytes)
    (w : World (ruled φ mapsFirst ignores)) :
    ∃ read map' w' t, o.attempt source filename entry map w =
        ⟨.returned (attempted o.strict filename (unitText entry source) read map'), w', t⟩ ∧
      w.HostOnly w' ∧ (∀ e ∈ t, ¬ e.isTransform) ∧
      (o.FindsNothing → map = none → read = none ∧ map' = none) := by
  obtain ⟨result, w', t, hrun, hw, hcourse⟩ := o.attempt_course source filename entry map w
  have hgenuine := o.attempt_genuine source filename entry map w
  rw [hrun] at hgenuine
  obtain ⟨read, map', rfl, hnone⟩ := AttemptCourse.byRules hcourse
  refine ⟨read, map', w', t, hrun, hw, hcourse.not_isTransform, fun hfinds hmap =>
    hnone hmap fun path found hin => ?_⟩
  obtain ⟨find, hfind, files, hanswer⟩ := hgenuine _ hin
  exact hfinds find hfind path files found hanswer

/-! ## Transforms -/

theorem outcomeAt_nil {α : Type} (n : Nat) (rules : α) :
    outcomeAt [] n rules = .returned (.ok rules) := by
  simp [outcomeAt]

/-- The legacy library does not fail by itself. -/
theorem library_follows : (library .byRules).Follows transformByRules where
  build s := ⟨_, outcomeAt_nil s.builds _⟩
  start bytecode s := ⟨⟨bytecode, none, 0⟩, by simp [library, LibraryScript.byRules, outcomeAt_nil,
    Except.map]⟩
  transform runtime source options s := outcomeAt_nil s.transforms _

/-- What a transform makes of a source that has no map. -/
def oldText (source : String) : String := String.ofList (oldWords source.toList)

/-- What a request comes to. -/
def rewritten (r : Request) : Transformed :=
  let raw := transformByRules r.source r.options
  ⟨if r.maps then raw.code ++ SourceMap.sentinelLine else raw.code,
    if r.maps then raw.map.map Json.write else none⟩

theorem find?_sourceMaps (r : Request) : r.options.find? "sourceMaps" = some (.bool r.maps) := by
  have hinput (options : Json.Object) :
      (r.inputOptions options).find? "sourceMaps" = options.find? "sourceMaps" := by
    unfold Request.inputOptions
    split
    · rw [Table.find?_insert, if_neg (by decide)]
    · rfl
  rw [Request.options, Table.find?_insert, if_neg (by decide), hinput, Request.mapOptions]
  cases r.maps with
  | true => rw [if_pos rfl, Table.find?_insert, if_pos rfl]
  | false => rfl

/-- A source without a map is transformed without one. -/
theorem find?_inputSourceMap {r : Request} (h : r.inputMap = none) :
    r.options.find? "inputSourceMap" = none := by
  have hinput : r.decodedInput? = none := by
    unfold Request.decodedInput?
    split
    · rw [h]
    · rfl
  rw [Request.options, Table.find?_insert, if_neg (by decide), Request.inputOptions, hinput,
    Request.mapOptions]
  cases r.maps with
  | true => rw [if_pos rfl, Table.find?_insert, if_neg (by decide), Table.find?_insert,
      if_neg (by decide)]; rfl
  | false => rfl

theorem result_byRules (r : Request) :
    r.result (transformByRules r.source r.options) = .ok (rewritten r) := by
  have hset : isSet r.options "sourceMaps" = r.maps := by rw [isSet, find?_sourceMaps]
  unfold Request.result rewritten
  cases hmaps : r.maps with
  | true =>
    rw [hmaps] at hset
    simp [transformByRules, hset]
  | false => simp

theorem rewritten_code {r : Request} (h : r.inputMap = none) :
    (rewritten r).code =
      if r.maps then oldText r.source ++ SourceMap.sentinelLine else oldText r.source := by
  have hcode : (transformByRules r.source r.options).code = oldText r.source := by
    simp [transformByRules, find?_inputSourceMap h, oldText]
  simp only [rewritten, hcode]

/-! ## Compiles -/

section
variable {b : Bench (ruled φ mapsFirst ignores)} {source : String} {entry : Bool}

/-- The host accepts the text, or the mode has no fallback: the text stays as it
    is. -/
theorem compile_of_kept (filename : String)
    (h : checkMarkers (unitText entry source) = .ok () ∨ b.compiler.options.mode = .base) :
    ∃ read map b' t, Bench.compile source filename entry b =
        ⟨.returned (compiled b.compiler.options.strict filename (unitText entry source) read map),
          b', t⟩ ∧
      (b.Sound → b'.Sound) ∧ t.any Event.isTransform = false ∧
      (b.compiler.options.FindsNothing → read = none ∧ map = none) := by
  obtain ⟨read, map, w, t, hrun, hw, htransform, hnone⟩ :=
    attempt_byRules b.compiler.options source filename entry none b.world
  refine ⟨read, map, { b with world := w }, t, ?_, fun hb => hb.hostOnly hw,
    List.any_eq_false.2 htransform, fun hfinds => hnone hfinds rfl⟩
  rw [← final_attempted]
  cases hresult : attempted b.compiler.options.strict filename (unitText entry source) read map with
  | decided result =>
    rw [hresult] at hrun
    exact Bench.compile_of_decided hrun
  | rejected e map' =>
    rw [hresult] at hrun
    rcases h with hcheck | hmode
    · unfold attempted at hresult
      rw [hcheck] at hresult
      cases hresult
    · exact Bench.compile_of_base hmode hrun

/-- The host rejects the text, and the mode has a fallback: the source is
    transformed, with the map that is in hand if there is one, and the result is
    the last word. -/
theorem compile_of_rewritten (hb : b.Sound) (filename : String) {e : Rejection}
    (hcheck : checkMarkers (unitText entry source) = .error e)
    (hmode : b.compiler.options.mode = .extended) :
    ∃ input read map b' t,
      let r : Request := ⟨source, filename, b.compiler.options.loader.isSome, input⟩
      Bench.compile source filename entry b =
        ⟨.returned (compiled b.compiler.options.strict filename
          (unitText entry (rewritten r).code) read map), b', t⟩ ∧
      b'.Sound ∧ t.any Event.isTransform = true ∧
      (b.compiler.options.FindsNothing → input = none) ∧
      (b.compiler.options.loader = none → read = none ∧ map = none) := by
  obtain ⟨read₁, input, w, t, hfirst, hw, -, hnone⟩ :=
    attempt_byRules b.compiler.options source filename entry none b.world
  rw [attempted_of_rejected hcheck] at hfirst
  obtain ⟨id, runtime, b₂, u, htransform, hb₂, hoptions, hin⟩ :=
    Bench.transform_of_follows library_follows source filename input (hb.hostOnly hw)
  dsimp only at hoptions
  obtain ⟨read, map, w₂, v, hsecond, hw₂, -, hnone₂⟩ := attempt_byRules b₂.compiler.options
    (rewritten ⟨source, filename, b.compiler.options.loader.isSome, input⟩).code filename entry
    (rewritten ⟨source, filename, b.compiler.options.loader.isSome, input⟩).map b₂.world
  rw [result_byRules ⟨source, filename, b.compiler.options.loader.isSome, input⟩] at htransform
  have hcompile := Bench.compile_of_transformed hmode hfirst htransform hsecond
  rw [final_attempted, hoptions] at hcompile
  have hmem := List.mem_append_right t (List.mem_cons_of_mem
    (.log (.transforming filename .extended e)) (List.mem_append_left v hin))
  refine ⟨input, read, map, _, _, hcompile, hb₂.hostOnly hw₂,
    List.any_eq_true.2 ⟨_, hmem, rfl⟩, fun hfinds => (hnone hfinds rfl).2,
    fun hloader => hnone₂ ?_ ?_⟩
  -- without a loader no map is asked of the transform, and the second attempt has none
  · rw [hoptions]
    exact CompilerOptions.findsNothing_of_none hloader
  · simp [rewritten, hloader]

/-- Whether a source is transformed. -/
def rewrites (mode : Mode) (entry : Bool) (source : String) : Bool :=
  match mode, checkMarkers (unitText entry source) with
  | .extended, .error _ => true
  | _, _ => false

theorem kept_of_rewrites {mode : Mode} (h : rewrites mode entry source = false) :
    checkMarkers (unitText entry source) = .ok () ∨ mode = .base := by
  cases hcheck : checkMarkers (unitText entry source) with
  | ok => exact .inl rfl
  | error e =>
    cases mode with
    | base => exact .inr rfl
    | extended => simp [rewrites, hcheck] at h

theorem rejected_of_rewrites {mode : Mode} (h : rewrites mode entry source = true) :
    ∃ e, checkMarkers (unitText entry source) = .error e ∧ mode = .extended := by
  unfold rewrites at h
  split at h
  · next e hcheck => exact ⟨e, hcheck, rfl⟩
  · cases h

/-- A module is transformed exactly if an entry with the same source is. -/
theorem rewrites_module (mode : Mode) (source : String) :
    rewrites mode false source = rewrites mode true source := by
  have hmodule : checkMarkers (unitText false source) =
      (checkMarkers (unitText true source)).mapError Rejection.lower := checkMarkers_wrapped source
  unfold rewrites
  rw [hmodule]
  cases mode <;> cases checkMarkers (unitText true source) <;> rfl

/-- The text that is left of a source when no map is found. -/
def settled (o : CompilerOptions (ruled φ mapsFirst ignores)) (entry : Bool) (source : String) :
    String :=
  if rewrites o.mode entry source then
    if o.loader.isSome then oldText source ++ SourceMap.sentinelLine else oldText source
  else source

/-- When no map is found, what a compile comes to depends on the text alone. -/
theorem compile_of_findsNothing (hb : b.Sound) (hnothing : b.compiler.options.FindsNothing)
    (source filename : String) (entry : Bool) :
    let o := b.compiler.options
    let run := Bench.compile source filename entry b
    ∃ read map, run.ending =
        .returned (compiled o.strict filename (unitText entry (settled o entry source)) read map) ∧
      run.trace.any Event.isTransform = rewrites o.mode entry source ∧
      (rewrites o.mode entry source = false ∨ o.loader = none → read = none ∧ map = none) := by
  intro o run
  cases hrewrites : rewrites o.mode entry source with
  | false =>
    obtain ⟨read, map, b', t, hrun, -, htransform, hnone⟩ :=
      compile_of_kept filename (kept_of_rewrites hrewrites)
    have hsettled : settled o entry source = source := by simp [settled, hrewrites]
    refine ⟨read, map, ?_, ?_, fun _ => hnone hnothing⟩
    · rw [hsettled]
      exact congrArg Run.ending hrun
    · rw [← htransform]
      exact congrArg (fun run => run.trace.any Event.isTransform) hrun
  | true =>
    obtain ⟨e, hcheck, hmode⟩ := rejected_of_rewrites hrewrites
    obtain ⟨input, read, map, b', t, hrun, -, htransform, hinput, hnone⟩ :=
      compile_of_rewritten hb filename hcheck hmode
    obtain rfl := hinput hnothing
    have hsettled : settled o entry source =
        (rewritten ⟨source, filename, o.loader.isSome, none⟩).code := by
      rw [rewritten_code rfl, settled, hrewrites, if_pos rfl]
    refine ⟨read, map, ?_, ?_, fun h => hnone (h.resolve_left nofun)⟩
    · rw [hsettled]
      exact congrArg Run.ending hrun
    · rw [← htransform]
      exact congrArg (fun run => run.trace.any Event.isTransform) hrun

end

end Legacy

end Downlevel
