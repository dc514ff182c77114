/-
  Downlevel — what a runtime is asked and how its answer is judged.

  The options handed to a runtime are the default table up to four keys, and
  what stands at these depends on the request alone: neither the transformer
  nor anything done before has a say.  An input map that is no JSON costs a
  warning and nothing else.

  * `Request.asks_iff`: `Request.Asks` determines the options of a request;
  * `Request.perform_of_undecodable`: without its undecodable map, a request
    fares the same;
  * `Request.judged_result`: the answer is judged as `Request.Judged` says;
  * `Request.perform_exchange`: request and result of one transform.
-/
import Downlevel.Legacy.Engines
import Downlevel.Proofs.Json.RoundTrip
import Downlevel.Proofs.Transform.Course

namespace Downlevel

variable {E : Engines}

namespace Request

variable {r : Request}

/-! ## The input map -/

/-- The document comes with the request as the map of its text: a map is wanted,
    and the document is there and not empty. -/
def Brings (r : Request) (document : Bytes) : Prop :=
  r.maps = true ∧ r.inputMap = some document ∧ document ≠ []

/-- The request comes with a map that is no JSON. -/
def Undecodable (r : Request) (fault : Json.Fault) : Prop :=
  ∃ document, r.Brings document ∧ Json.readValue document = .error fault

theorem decodedInput?_eq_some_iff {decoded : Except Json.Fault Json.Value} :
    r.decodedInput? = some decoded ↔
      ∃ document, r.Brings document ∧ Json.readValue document = decoded := by
  obtain ⟨source, filename, maps, inputMap⟩ := r
  cases maps with
  | false =>
    refine ⟨nofun, ?_⟩
    rintro ⟨_, ⟨hmaps, -⟩, -⟩
    cases hmaps
  | true =>
    rcases inputMap with _ | _ | ⟨b, bytes⟩
    · refine ⟨nofun, ?_⟩
      rintro ⟨_, ⟨-, hmap, -⟩, -⟩
      cases hmap
    · refine ⟨nofun, ?_⟩
      rintro ⟨_, ⟨-, hmap, hne⟩, -⟩
      exact absurd (Option.some.inj hmap).symm hne
    · constructor
      · intro h
        exact ⟨b :: bytes, ⟨rfl, rfl, List.cons_ne_nil _ _⟩, Option.some.inj h⟩
      · rintro ⟨document, ⟨-, hmap, -⟩, hdecoded⟩
        rw [← Option.some.inj hmap] at hdecoded
        exact congrArg some hdecoded

theorem decodedInput?_eq_error_iff {fault : Json.Fault} :
    r.decodedInput? = some (.error fault) ↔ r.Undecodable fault := decodedInput?_eq_some_iff

/-! ## The options -/

/-- The options ask a runtime for what the request wants, and for nothing else:
    all that the request does not say is as in the default table. -/
structure Asks (r : Request) (options : Json.Object) : Prop where
  filename : options.find? "filename" = some (.str r.filename)
  retainLines : options.find? "retainLines" =
    if r.maps then some (.bool false) else baseOptions.find? "retainLines"
  sourceMaps : options.find? "sourceMaps" =
    if r.maps then some (.bool true) else baseOptions.find? "sourceMaps"
  inputSourceMap (map : Json.Value) : options.find? "inputSourceMap" = some map ↔
    ∃ document, r.Brings document ∧ Json.readValue document = .ok map
  others (key : String) : key ∉ ["filename", "retainLines", "sourceMaps", "inputSourceMap"] →
    options.find? key = baseOptions.find? key

theorem find?_mapOptions (r : Request) (options : Json.Object) (key : String) :
    (r.mapOptions options).find? key =
      if r.maps ∧ key = "sourceMaps" then some (.bool true)
      else if r.maps ∧ key = "retainLines" then some (.bool false)
      else options.find? key := by
  unfold mapOptions
  split
  · rename_i hmaps
    simp only [Table.find?_insert, hmaps, true_and]
  · rename_i hmaps
    rw [if_neg fun h => hmaps h.1, if_neg fun h => hmaps h.1]

theorem find?_inputOptions_of_ne {key : String} (hkey : key ≠ "inputSourceMap") (r : Request)
    (options : Json.Object) : (r.inputOptions options).find? key = options.find? key := by
  unfold inputOptions
  split
  · rw [Table.find?_insert, if_neg hkey]
  · rfl

theorem find?_inputOptions_eq_some_iff {options : Json.Object}
    (hnone : options.find? "inputSourceMap" = none) {map : Json.Value} :
    (r.inputOptions options).find? "inputSourceMap" = some map ↔
      r.decodedInput? = some (.ok map) := by
  unfold inputOptions
  split
  · rename_i map' hdecoded
    rw [Table.find?_insert, if_pos rfl, hdecoded]
    exact ⟨fun h => by rw [Option.some.inj h], fun h => by cases h; rfl⟩
  · rename_i hdecoded
    rw [hnone]
    exact ⟨nofun, fun h => absurd h (hdecoded map)⟩

theorem find?_options_of_ne {key : String} (hname : key ≠ "filename")
    (hinput : key ≠ "inputSourceMap") (r : Request) :
    r.options.find? key = (r.mapOptions baseOptions).find? key := by
  rw [options, Table.find?_insert, if_neg hname, find?_inputOptions_of_ne hinput]

theorem asks_options (r : Request) : r.Asks r.options where
  filename := by rw [options, Table.find?_insert, if_pos rfl]
  retainLines := by
    rw [find?_options_of_ne (by decide) (by decide), find?_mapOptions, if_neg (by simp)]
    simp only [and_true]
  sourceMaps := by
    rw [find?_options_of_ne (by decide) (by decide), find?_mapOptions]
    simp
  inputSourceMap map := by
    have hnone : (r.mapOptions baseOptions).find? "inputSourceMap" = none := by
      rw [find?_mapOptions, if_neg (by simp), if_neg (by simp)]
      rfl
    rw [options, Table.find?_insert, if_neg (by decide), find?_inputOptions_eq_some_iff hnone,
      decodedInput?_eq_some_iff]
  others key hkey := by
    simp only [List.mem_cons, List.not_mem_nil, or_false, not_or] at hkey
    obtain ⟨hfilename, hlines, hmaps, hinput⟩ := hkey
    rw [find?_options_of_ne hfilename hinput, find?_mapOptions, if_neg fun h => hmaps h.2,
      if_neg fun h => hlines h.2]

/-- Whatever asks for the same is the same table. -/
theorem Asks.unique {options options' : Json.Object} (h : r.Asks options) (h' : r.Asks options') :
    options = options' := by
  refine Table.ext_find? fun key => ?_
  by_cases hkey : key ∈ ["filename", "retainLines", "sourceMaps", "inputSourceMap"]
  · simp only [List.mem_cons, List.not_mem_nil, or_false] at hkey
    rcases hkey with rfl | rfl | rfl | rfl
    · rw [h.filename, h'.filename]
    · rw [h.retainLines, h'.retainLines]
    · rw [h.sourceMaps, h'.sourceMaps]
    · exact Option.ext fun map => (h.inputSourceMap map).trans (h'.inputSourceMap map).symm
  · rw [h.others key hkey, h'.others key hkey]

theorem asks_iff {options : Json.Object} : r.Asks options ↔ options = r.options :=
  ⟨fun h => h.unique r.asks_options, fun h => h ▸ r.asks_options⟩

/-! ## Undecodable input maps -/

/-- The request without the map of its text. -/
def bare (r : Request) : Request := { r with inputMap := none }

section
variable {fault : Json.Fault} (h : r.Undecodable fault)
include h

theorem options_bare : r.bare.options = r.options := by
  have hasks := r.bare.asks_options
  refine asks_iff.1 ⟨hasks.filename, hasks.retainLines, hasks.sourceMaps, fun map => ?_,
    hasks.others⟩
  rw [hasks.inputSourceMap, ← decodedInput?_eq_some_iff, ← decodedInput?_eq_some_iff,
    decodedInput?_eq_error_iff.2 h]
  have hnone : r.bare.decodedInput? = none := by
    rw [decodedInput?, bare]
    split <;> rfl
  rw [hnone]
  exact ⟨nofun, nofun⟩

/-- A map that cannot be decoded changes nothing but the log. -/
theorem perform_of_undecodable (id : TransformerId) (w : World E) :
    (r.perform id w).ending = (r.bare.perform id w).ending ∧
      (r.perform id w).state = (r.bare.perform id w).state := by
  rcases r.exists_call_or_not_live id w with ⟨runtime, outcome, runtime', library, hlive, hcall⟩ |
    hdead
  · have hbare : E.library.transform runtime r.bare.source r.bare.options w.library =
        (outcome, runtime', library) := by
      rw [options_bare h]
      exact hcall
    rw [perform_of_live hlive hcall, perform_of_live hlive hbare]
    rcases outcome with (e | raw) | text <;> exact ⟨rfl, rfl⟩
  · rw [perform_of_not_live hdead, perform_of_not_live hdead]
    exact ⟨rfl, rfl⟩

end

/-- What is warned of when a request is performed. -/
structure Warns (r : Request) (entries : List LogEntry) : Prop where
  undecodable (fault : Json.Fault) : r.Undecodable fault →
    entries = [.inputMapIgnored r.filename fault]
  decodable : (∀ fault, ¬ r.Undecodable fault) → entries = []
  level (entry : LogEntry) : entry ∈ entries → entry.level = .warn

theorem warnings_of_undecodable {fault : Json.Fault} (h : r.Undecodable fault) :
    (r.warnings : List (Event E)) = [.log (.inputMapIgnored r.filename fault)] := by
  simp only [warnings, decodedInput?_eq_error_iff.2 h]

theorem warnings_of_decodable (h : ∀ fault, ¬ r.Undecodable fault) :
    (r.warnings : List (Event E)) = [] := by
  rcases hdecoded : r.decodedInput? with _ | fault | map
  · simp only [warnings, hdecoded]
  · exact absurd (decodedInput?_eq_error_iff.1 hdecoded) (h fault)
  · simp only [warnings, hdecoded]

/-- Two faults of one input map are the same. -/
theorem Undecodable.unique {fault fault' : Json.Fault} (h : r.Undecodable fault)
    (h' : r.Undecodable fault') : fault = fault' := by
  rw [← decodedInput?_eq_error_iff] at h h'
  rw [h] at h'
  cases h'
  rfl

theorem exists_warns (r : Request) :
    ∃ entries, r.Warns entries ∧ (r.warnings : List (Event E)) = entries.map .log := by
  by_cases hfault : ∃ fault, r.Undecodable fault
  · obtain ⟨fault, h⟩ := hfault
    refine ⟨[.inputMapIgnored r.filename fault], ⟨fun fault' h' => by rw [h.unique h'],
      fun hnot => absurd h (hnot fault), fun entry hentry => ?_⟩, warnings_of_undecodable h⟩
    rw [List.mem_singleton.1 hentry]
    rfl
  · have hnot (fault : Json.Fault) : ¬ r.Undecodable fault := fun h => hfault ⟨fault, h⟩
    exact ⟨[], ⟨fun fault h => absurd h (hnot fault), fun _ => rfl, nofun⟩,
      warnings_of_decodable hnot⟩

/-! ## The answer -/

/-- The text is this code and one more line, the comment that refers to the map in
    hand. -/
structure Refers (code text : String) : Prop where
  text_eq : text = code ++ "\n" ++ (SourceMap.reference ++ SourceMap.sentinel)
  lines : Text.lines text.toList = Text.lines (code ++ "\n").toList ++
    [(SourceMap.reference ++ SourceMap.sentinel).toList]

theorem refers_sentinelLine (code : String) : Refers code (code ++ SourceMap.sentinelLine) := by
  have htext : code ++ SourceMap.sentinelLine =
      code ++ "\n" ++ (SourceMap.reference ++ SourceMap.sentinel) := by
    rw [SourceMap.sentinelLine, String.append_assoc, String.append_assoc]
  refine ⟨htext, ?_⟩
  have hline : Text.linesFrom [] (SourceMap.reference ++ SourceMap.sentinel).toList =
      [(SourceMap.reference ++ SourceMap.sentinel).toList] := by decide
  have hnewline : (code ++ "\n").toList = code.toList ++ ['\n'] := String.toList_append
  rw [htext, String.toList_append, hnewline, List.append_assoc, List.singleton_append, Text.lines,
    Text.linesFrom_append, hline]
  rfl

/-- The bytes are the text of the map.  They are read as the map again if a
    document could hold it and its numbers are integers. -/
structure Encodes (bytes : Bytes) (map : Json.Value) : Prop where
  written : bytes = Json.write map
  read : map.Nested Json.maxDepth → map.Integral → Json.readValue bytes = .ok map

theorem encodes_write (map : Json.Value) : Encodes (Json.write map) map :=
  ⟨rfl, Json.readValue_write⟩

/-- How a request ends when its runtime answers so. -/
inductive Judged (r : Request) :
    Outcome RawOutput → Ending (Except CompileError Transformed) → Prop
  | panicked {text} : Judged r (.panicked text) (.panicked text)
  | failed {e} :
      Judged r (.returned (.error e)) (.returned (.error (.transformFailed r.filename e)))
  /-- Without a wish for a map none is returned, even if there is one. -/
  | plain {raw} : r.maps = false →
      Judged r (.returned (.ok raw)) (.returned (.ok ⟨raw.code, none⟩))
  | lacking {raw} : r.maps = true → raw.map = none →
      Judged r (.returned (.ok raw)) (.returned (.error (.transformFailed r.filename
        ⟨"source map was requested but not generated"⟩)))
  | mapped {raw map code bytes} : r.maps = true → raw.map = some map → Refers raw.code code →
      Encodes bytes map →
      Judged r (.returned (.ok raw)) (.returned (.ok ⟨code, some bytes⟩))

theorem judged_result (r : Request) (raw : RawOutput) :
    r.Judged (.returned (.ok raw)) (.returned (r.result raw)) := by
  unfold result
  split
  · rename_i hmaps
    split
    · rename_i hmap
      exact .lacking hmaps hmap
    · rename_i map hmap
      exact .mapped hmaps hmap (refers_sentinelLine raw.code) (encodes_write map)
  · rename_i hmaps
    exact .plain (Bool.eq_false_iff.2 hmaps)

section
variable {id : TransformerId} {w : World E} {runtime runtime' : E.Runtime}
  {outcome : Outcome RawOutput} {library : E.LibraryState}
  (hlive : w.transformers[id]? = some (.live runtime))
  (hcall : E.library.transform runtime r.source r.options w.library =
    (outcome, runtime', library))
include hlive hcall

/-- Behind the call of the runtime there is at most the note that it answered. -/
theorem perform_trace :
    ∃ told, (r.perform id w).trace =
        r.warnings ++ .transform id r.source r.options runtime' outcome :: told ∧
      ∀ e ∈ told, e = .log (.transformed r.filename) := by
  rw [perform_of_live hlive hcall]
  rcases outcome with (e | raw) | text
  · exact ⟨[], rfl, nofun⟩
  · exact ⟨[.log (.transformed r.filename)], rfl, fun e he => List.mem_singleton.1 he⟩
  · exact ⟨[], rfl, nofun⟩

theorem perform_judged : r.Judged outcome (r.perform id w).ending := by
  rw [perform_of_live hlive hcall]
  rcases outcome with (e | raw) | text
  · exact .failed
  · exact r.judged_result raw
  · exact .panicked

end

/-- **Request and result of one transform.**  A runtime that has not panicked is
    called once, with the options that ask for what the request wants, whatever was
    done in the world before.  There is a warning exactly if the request comes with a
    map that is no JSON, and it ends as it would without that map. -/
theorem perform_exchange (r : Request) (id : TransformerId) (w : World E) (runtime : E.Runtime)
    (hlive : w.transformers[id]? = some (.live runtime)) :
    ∃ options outcome runtime' library entries told,
      r.Asks options ∧
      E.library.transform runtime r.source options w.library = (outcome, runtime', library) ∧
      (r.perform id w).trace =
        entries.map .log ++ .transform id r.source options runtime' outcome :: told ∧
      r.Warns entries ∧
      (∀ e ∈ told, e = .log (.transformed r.filename)) ∧
      r.Judged outcome (r.perform id w).ending ∧
      ∀ fault, r.Undecodable fault →
        (r.perform id w).ending = (r.bare.perform id w).ending ∧
          (r.perform id w).state = (r.bare.perform id w).state := by
  obtain ⟨entries, hwarns, hwarnings⟩ := r.exists_warns (E := E)
  rcases hcall : E.library.transform runtime r.source r.options w.library with
    ⟨outcome, runtime', library⟩
  obtain ⟨told, htrace, htold⟩ := perform_trace hlive hcall
  rw [hwarnings] at htrace
  exact ⟨r.options, outcome, runtime', library, entries, told, r.asks_options, hcall, htrace,
    hwarns, htold, perform_judged hlive hcall, fun fault h => perform_of_undecodable h id w⟩

/-- A class with half a map, sent to the second transformer when the first one is
    retired: there is a warning, and the code comes back with a map of its own. -/
theorem perform_exchange_half_map :
    let r : Request := ⟨"class A {}", "a.js", true, some (Bytes.ofString "\x7b\"version\":3")⟩
    let runtime : Legacy.Runtime := ⟨"build1", none, 0⟩
    let w : World (Legacy.engines (.byRules false false) .byRules) :=
      { Legacy.freshWorld _ _ with transformers := [.retired, .live runtime] }
    w.transformers[1]? = some (.live runtime) ∧
      ∃ fault options outcome runtime' told code bytes,
        (r.perform 1 w).trace = .log (.inputMapIgnored "a.js" fault) ::
          .transform 1 "class A {}" options runtime' outcome :: told ∧
        options.find? "inputSourceMap" = none ∧
        options.find? "retainLines" = some (.bool false) ∧
        (r.perform 1 w).ending = .returned (.ok ⟨code, some bytes⟩) ∧
        Refers "function A {}" code := by
  intro r runtime w
  have hundecodable : ∃ fault, r.Undecodable fault :=
    ⟨_, Bytes.ofString "\x7b\"version\":3", ⟨rfl, rfl, by decide⟩, rfl⟩
  obtain ⟨fault, hfault⟩ := hundecodable
  obtain ⟨options, outcome, runtime', library, entries, told, hasks, hcall, htrace, hwarns, -,
    hjudged, -⟩ := perform_exchange r 1 w runtime rfl
  have hnone : options.find? "inputSourceMap" = none := by
    refine Option.eq_none_iff_forall_ne_some.2 fun map hmap => ?_
    rw [hasks.inputSourceMap, ← decodedInput?_eq_some_iff, decodedInput?_eq_error_iff.2 hfault]
      at hmap
    cases hmap
  have houtcome : outcome = .returned (.ok (Legacy.transformByRules "class A {}" options)) :=
    (congrArg Prod.fst hcall).symm
  have hcode : (Legacy.transformByRules "class A {}" options).code = "function A {}" := by
    rw [Legacy.transformByRules, hnone]
    exact (by decide : String.ofList (Legacy.oldWords "class A {}".toList) = "function A {}")
  have hmap : (Legacy.transformByRules "class A {}" options).map ≠ none := by
    have hset : Legacy.isSet options "sourceMaps" = true := by
      rw [Legacy.isSet, hasks.sourceMaps]
      rfl
    rw [Legacy.transformByRules, if_pos hset]
    exact nofun
  rw [hwarns.undecodable fault hfault] at htrace
  rw [houtcome] at hjudged
  generalize (r.perform 1 w).ending = ending at hjudged ⊢
  cases hjudged with
  | plain hmaps => cases hmaps
  | lacking _ hlacking => exact absurd hlacking hmap
  | @mapped _ _ code bytes _ _ hrefers =>
    exact ⟨rfl, fault, options, outcome, runtime', told, code, bytes, htrace, hnone,
      hasks.retainLines, rfl, hcode ▸ hrefers⟩

end Request

end Downlevel
