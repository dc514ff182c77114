/-
  Downlevel — maps handed from one transform to the next.

  A transform yields the text of a map, and a later one is given that text and
  reads it.  What it reads is the map again, so a chain of transforms loses
  nothing, and a map that is moved down in between arrives moved down.

  * `Arrives`: what a map given to a transform is for its runtime;
  * `arrives_of_readValue`: bytes that can be read arrive as what they are read as;
  * `Request.perform_arrives`: the map of a transform arrives at every later one.
-/
import Downlevel.Proofs.Maps.Shifting
import Downlevel.Proofs.Transform.Answers

namespace Downlevel

open SourceMap (shift mappingsKey)

variable {E : Engines}

/-- Given to any transform that makes a map, these bytes arrive at its runtime as
    this value, and there is no warning. -/
def Arrives (E : Engines) (bytes : Bytes) (map : Json.Value) : Prop :=
  ∀ (r : Request) (id : TransformerId) (w : World E), r.maps = true → r.inputMap = some bytes →
    (∀ entry, .log entry ∈ (r.perform id w).trace → entry.level ≠ .warn) ∧
    ∀ runtime, w.transformers[id]? = some (.live runtime) →
      ∃ options outcome runtime' library,
        options.find? "inputSourceMap" = some map ∧
        E.library.transform runtime r.source options w.library = (outcome, runtime', library) ∧
        .transform id r.source options runtime' outcome ∈ (r.perform id w).trace

theorem ne_nil_of_readValue {bytes : Bytes} {map : Json.Value}
    (h : Json.readValue bytes = .ok map) : bytes ≠ [] := by
  rintro rfl
  cases h

/-- A request whose input map can be read comes with no other one. -/
theorem Request.not_undecodable_of_brings {r : Request} {bytes : Bytes} {map : Json.Value}
    (hbrings : r.Brings bytes) (hread : Json.readValue bytes = .ok map) (fault : Json.Fault) :
    ¬ r.Undecodable fault := by
  rw [← decodedInput?_eq_error_iff, decodedInput?_eq_some_iff.2 ⟨bytes, hbrings, hread⟩]
  exact nofun

theorem arrives_of_readValue {bytes : Bytes} {map : Json.Value}
    (hread : Json.readValue bytes = .ok map) : Arrives E bytes map := by
  intro r id w hmaps hinput
  have hbrings : r.Brings bytes := ⟨hmaps, hinput, ne_nil_of_readValue hread⟩
  rcases r.exists_call_or_not_live id w with ⟨runtime, outcome, runtime', library, hlive, hcall⟩ |
    hdead
  · obtain ⟨told, htrace, htold⟩ := Request.perform_trace hlive hcall
    rw [Request.warnings_of_decodable (Request.not_undecodable_of_brings hbrings hread),
      List.nil_append] at htrace
    rw [htrace]
    constructor
    · intro entry hentry
      rcases List.mem_cons.1 hentry with hentry | hentry
      · cases hentry
      · cases htold _ hentry
        exact nofun
    · intro runtime₁ hlive₁
      rw [hlive] at hlive₁
      cases hlive₁
      exact ⟨r.options, outcome, runtime', library,
        (r.asks_options.inputSourceMap map).2 ⟨bytes, hbrings, hread⟩, hcall, List.mem_cons_self⟩
  · rw [Request.perform_of_not_live hdead]
    exact ⟨nofun, fun runtime hruntime => absurd hruntime (hdead runtime)⟩

/-- **The map of a transform survives.**  Whatever map a runtime returns that a
    document can hold and whose numbers are integers: the transform yields bytes for
    it, which are not empty and arrive at every later transform as that map; moved one
    line down they arrive as the map with one semicolon more. -/
theorem Request.perform_arrives (r : Request) (id : TransformerId) (w : World E)
    {runtime runtime' : E.Runtime} {library : E.LibraryState} {raw : RawOutput}
    {document : Bytes} {map : Json.Value} (hmaps : r.maps = true)
    (hlive : w.transformers[id]? = some (.live runtime))
    (hcall : E.library.transform runtime r.source r.options w.library =
      (.returned (.ok raw), runtime', library))
    (hmap : raw.map = some map) (hread : Json.readValue document = .ok map)
    (hint : map.Integral) :
    ∃ code bytes, (r.perform id w).ending = .returned (.ok ⟨code, some bytes⟩) ∧ bytes ≠ [] ∧
      Arrives E bytes map ∧
      ∀ mappings, map.field? mappingsKey = some (.str mappings) →
        ∃ o shifted, map = .ofObject o ∧ shift bytes = .ok shifted ∧
          Arrives E shifted (.ofObject (o.insert mappingsKey (.str (";" ++ mappings)))) := by
  have hnested := Json.readValue_nested hread
  have hwritten : Json.readValue (Json.write map) = .ok map := Json.readValue_write hnested hint
  have hresult : r.result raw =
      .ok ⟨raw.code ++ SourceMap.sentinelLine, some (Json.write map)⟩ := by
    rw [result, if_pos hmaps, hmap]
  have hending : (r.perform id w).ending =
      .returned (.ok ⟨raw.code ++ SourceMap.sentinelLine, some (Json.write map)⟩) := by
    rw [perform_of_live hlive hcall, ← hresult]
  refine ⟨_, _, hending, ne_nil_of_readValue hwritten, arrives_of_readValue hwritten,
    fun mappings hfield => ?_⟩
  obtain ⟨o, rfl, hmappings⟩ := hnested.exists_object hfield
  obtain ⟨shifted, hshift, hshifted⟩ := SourceMap.shift_mappings hwritten hint hmappings
  exact ⟨o, shifted, rfl, hshift, arrives_of_readValue hshifted⟩

/-- A map with the least and the greatest integer, nested, and with a control
    character in a key. -/
def deepMap : Bytes :=
  Bytes.ofString ("\x7b\"mappings\":\"A;B\",\"n\":[[-9223372036854775808," ++
    "18446744073709551615],\x7b\"\\u0001\":null\x7d]\x7d")

/-- A library whose first transform yields this map hands it on, and also hands it on
    moved down by one line. -/
theorem Request.perform_arrives_deep :
    let n : Json.Value := .arr [.arr [.num (.int (-9223372036854775808)),
      .num (.int 18446744073709551615)], .obj [("\u0001", .null)]]
    let map : Json.Value := .obj [("mappings", .str "A;B"), ("n", n)]
    let moved : Json.Value := .obj [("mappings", .str ";A;B"), ("n", n)]
    let E := Legacy.engines (.byRules false false) ⟨[], [], [some (.give ⟨"x", some map⟩)]⟩
    let w : World E := { Legacy.freshWorld _ _ with transformers := [.live ⟨"build1", none, 0⟩] }
    ∃ code bytes shifted,
      (Request.perform ⟨"x", "a.js", true, none⟩ 0 w).ending =
        .returned (.ok ⟨code, some bytes⟩) ∧
      Arrives E bytes map ∧ shift bytes = .ok shifted ∧ Arrives E shifted moved := by
  intro n map moved E w
  have hint : map.Integral := by simp [map, n]
  have hread : Json.readValue deepMap = .ok map := rfl
  obtain ⟨code, bytes, hending, -, harrives, hmoved⟩ :=
    Request.perform_arrives (E := E) ⟨"x", "a.js", true, none⟩ 0 w rfl rfl rfl rfl hread hint
  obtain ⟨o, shifted, ho, hshift, hshifted⟩ := hmoved "A;B" rfl
  refine ⟨code, bytes, shifted, hending, harrives, hshift, ?_⟩
  have hinsert : Json.Value.ofObject (o.insert mappingsKey (.str ";A;B")) = moved := by
    have hentries : o.entries = [("mappings", .str "A;B"), ("n", n)] := (Json.Value.obj.inj ho).symm
    exact congrArg
      (fun entries => Json.Value.obj (Entries.insert mappingsKey (.str ";A;B") entries)) hentries
  rw [← hinsert]
  exact hshifted

end Downlevel
