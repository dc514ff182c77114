/-
  Downlevel — what becomes of a runtime that panicked.

  A runtime that panicked is never called again, whoever refers to its
  transformer: a slot, a compiler with a transformer of its own, or all those
  that share one.  Nothing else retires a transformer, neither a failure nor a
  map that is missing, and a compile that does not need it is not concerned.

  * `Request.perform_of_lt`: a request to a transformer that is there;
  * `Bench.transform_reaches`, `Bench.compile_of_rejected`: a compiler that uses it;
  * `History.retirement`: transformers in every history.
-/
import Downlevel.Legacy.Engines
import Downlevel.Proofs.Session.History

namespace Downlevel

variable {E : Engines}

/-! ## Requests -/

namespace Request

variable {r : Request} {id : TransformerId} {w : World E}

/-- A live transformer is reached, it is retired exactly if it panics then, and the
    others are left alone. -/
theorem perform_reaches {runtime : E.Runtime}
    (hlive : w.transformers[id]? = some (.live runtime)) :
    let run := r.perform id w
    (∃ x ∈ run.trace, x.reaches id) ∧
    (run.state.transformers[id]? = some .retired ↔ ∃ text, run.ending = .panicked text) ∧
    ∀ other, other ≠ id → run.state.transformers[other]? = w.transformers[other]? := by
  obtain ⟨hlt, -⟩ := List.getElem?_eq_some_iff.1 hlive
  rcases hcall : E.library.transform runtime r.source r.options w.library with
    ⟨outcome, runtime', library⟩
  have hrun := perform_of_live hlive hcall
  have hothers (transformer : Transformer E.Runtime) (other : TransformerId) (hne : other ≠ id) :
      (w.transformers.set id transformer)[other]? = w.transformers[other]? :=
    List.getElem?_set_ne (Ne.symm hne)
  have hcalled (rest : List (Event E)) : ∃ x ∈ r.warnings ++
      .transform id r.source r.options runtime' outcome :: rest, x.reaches id :=
    ⟨_, List.mem_append_right _ List.mem_cons_self, decide_eq_true rfl⟩
  rw [hrun]
  rcases outcome with (e | raw) | text
  · exact ⟨hcalled [], by simp [Transformer.after, hlt], hothers _⟩
  · exact ⟨hcalled _, by simp [Transformer.after, hlt], hothers _⟩
  · exact ⟨hcalled [], by simp [Transformer.after, hlt], hothers _⟩

/-- What a request to a transformer that is there comes to. -/
theorem perform_of_lt (hid : id < w.transformers.length) :
    let run := r.perform id w
    ((∃ x ∈ run.trace, x.reaches id) ↔ w.transformers[id]? ≠ some .retired) ∧
    (w.transformers[id]? = some .retired →
      run = ⟨.returned (.error (.transformFailed r.filename retiredError)), w, []⟩) ∧
    (run.state.transformers[id]? = some .retired ↔
      w.transformers[id]? = some .retired ∨ ∃ text, run.ending = .panicked text) ∧
    ∀ other, other ≠ id → run.state.transformers[other]? = w.transformers[other]? := by
  intro run
  have hlookup := List.getElem?_eq_getElem hid
  cases htransformer : w.transformers[id] with
  | retired =>
    rw [htransformer] at hlookup
    have hrun : run = _ := perform_of_not_live fun runtime h => by
      rw [hlookup] at h
      cases h
    rw [hrun]
    simp [hlookup]
  | live runtime =>
    rw [htransformer] at hlookup
    obtain ⟨hreaches, hretired, hothers⟩ := perform_reaches (r := r) hlookup
    have hnot : w.transformers[id]? ≠ some .retired := by
      rw [hlookup]
      nofun
    exact ⟨⟨fun _ => hnot, fun _ => hreaches⟩, fun h => absurd h hnot,
      hretired.trans (or_iff_right hnot).symm, hothers⟩

end Request

/-! ## Compilers -/

/-- What is no call of the library reaches no runtime. -/
theorem Event.isLibrary_of_reaches {id : TransformerId} {x : Event E} (h : x.reaches id) :
    x.isLibrary := by
  obtain ⟨source, options, runtime, outcome, rfl⟩ := reaches_iff.1 h
  rfl

theorem Event.not_reaches_of_isStartUp {id : TransformerId} {x : Event E} (h : x.isStartUp) :
    ¬ x.reaches id := by
  intro hreaches
  obtain ⟨source, options, runtime, outcome, rfl⟩ := reaches_iff.1 hreaches
  cases h

namespace Bench

variable {b b' : Bench E} {t u : List (Event E)} {id : TransformerId}

/-- The transformer that a compiler gets hold of is there.  It is retired only if it
    was before, and then nothing had to be started. -/
theorem AttachCourse.retired_iff (h : b.AttachCourse t (.returned (.ok id)) b')
    (hw : b.world.ledger.Coherent) (hfits : b.compiler.attachment.Fits b.world) :
    id < b'.world.transformers.length ∧
    (b'.world.transformers[id]? = some .retired ↔ b.world.transformers[id]? = some .retired) ∧
    (b.world.transformers[id]? = some .retired → t = [] ∧ b'.world = b.world) := by
  cases h with
  | held hid => exact ⟨hfits.lt hw hid, .rfl, fun _ => ⟨rfl, rfl⟩⟩
  | shared _ hshare =>
    cases hshare with
    | known hshared => exact ⟨(hw.started id hshared).1, .rfl, fun _ => ⟨rfl, rfl⟩⟩
    | tried _ hready =>
      cases hready with
      | @built _ bytecode w₁ _ _ _ hbuild hstart =>
        have hsame : w₁.transformers = b.world.transformers := by cases hbuild <;> rfl
        cases hstart with
        | started =>
          -- the transformer is a new one
          simp [hsame]

theorem transform_apply {source filename : String} {inputMap : Option Bytes}
    (h : transformer b = ⟨.returned (.ok id), b', u⟩) :
    let run := Request.perform ⟨source, filename, b.compiler.options.loader.isSome, inputMap⟩ id
      b'.world
    transform source filename inputMap b =
      ⟨run.ending, { b' with world := run.state }, u ++ run.trace⟩ := by
  have hoptions : b'.compiler.options = b.compiler.options := by
    cases transformer_course h <;> rfl
  rw [transform, Act.bind_of_returned h]
  simp only [Act.get_bind_apply, hoptions]
  rfl

/-- A transform reaches the runtime unless that is retired.  Otherwise nothing
    happens. -/
theorem transform_reaches (source filename : String) (inputMap : Option Bytes)
    (h : transformer b = ⟨.returned (.ok id), b', u⟩) (hw : b.world.ledger.Coherent)
    (hfits : b.compiler.attachment.Fits b.world) :
    let run := transform source filename inputMap b
    ((∃ x ∈ run.trace, x.reaches id) ↔ b.world.transformers[id]? ≠ some .retired) ∧
    (b.world.transformers[id]? = some .retired →
      run.ending = .returned (.error (.transformFailed filename retiredError)) ∧ run.trace = []) := by
  obtain ⟨hid, hretired, hnothing⟩ := (transformer_course h).retired_iff hw hfits
  obtain ⟨hreaches, hrefused, -⟩ := Request.perform_of_lt
    (r := ⟨source, filename, b.compiler.options.loader.isSome, inputMap⟩) hid
  have hstart : ∀ x ∈ u, ¬ x.reaches id := by
    obtain ⟨_, _, _, hrun, hstart, -⟩ := transformer_cases b
    rw [h] at hrun
    cases hrun
    exact fun x hx => Event.not_reaches_of_isStartUp (hstart x hx)
  intro run
  have hrun : run = _ := transform_apply h
  rw [hrun]
  constructor
  · rw [ne_eq, ← hretired, ← ne_eq, ← hreaches]
    constructor
    · rintro ⟨x, hx, hx'⟩
      rcases List.mem_append.1 hx with hx | hx
      · exact absurd hx' (hstart x hx)
      · exact ⟨x, hx, hx'⟩
    · rintro ⟨x, hx, hx'⟩
      exact ⟨x, List.mem_append_right u hx, hx'⟩
  · intro hdead
    obtain ⟨rfl, -⟩ := hnothing hdead
    rw [hrefused (hretired.2 hdead)]
    exact ⟨rfl, rfl⟩

variable {source filename : String} {entry : Bool} {w : World E} {e : Rejection}
  {map : Option Bytes}

/-- Around a transform a compile reaches no runtime. -/
theorem exists_reaches_iff {u v : List (Event E)} (ht : ∀ x ∈ t, ¬ x.isLibrary)
    (hv : ∀ x ∈ v, ¬ x.isLibrary) :
    (∃ x ∈ t ++ .log (.transforming filename .extended e) :: (u ++ v), x.reaches id) ↔
      ∃ x ∈ u, x.reaches id := by
  constructor
  · rintro ⟨x, hx, hreaches⟩
    have hlibrary := Event.isLibrary_of_reaches hreaches
    rcases List.mem_append.1 hx with hx | hx
    · exact absurd hlibrary (ht x hx)
    rcases List.mem_cons.1 hx with rfl | hx
    · cases hreaches
    rcases List.mem_append.1 hx with hx | hx
    · exact ⟨x, hx, hreaches⟩
    · exact absurd hlibrary (hv x hx)
  · rintro ⟨x, hx, hreaches⟩
    exact ⟨x, by simp [hx], hreaches⟩

/-- After a rejection a compile goes on with a transform, and for nothing else it
    calls a runtime. -/
theorem compile_of_rejected (hmode : b.compiler.options.mode = .extended)
    (hfirst : b.compiler.options.attempt source filename entry none b.world =
      ⟨.returned (.rejected e map), w, t⟩) (ht : ∀ x ∈ t, ¬ x.isLibrary) :
    let run := transform source filename map { b with world := w }
    ((∃ x ∈ (compile source filename entry b).trace, x.reaches id) ↔
      ∃ x ∈ run.trace, x.reaches id) ∧
    ∀ error, run.ending = .returned (.error error) →
      (compile source filename entry b).ending = .returned (.error error) ∧
      (compile source filename entry b).trace =
        t ++ .log (.transforming filename .extended e) :: run.trace := by
  rcases hrun : transform source filename map { b with world := w } with
    ⟨(error | output) | text, b₁, u⟩
  · rw [compile_of_failed hmode hfirst hrun]
    refine ⟨by simpa using exists_reaches_iff ht (v := []) nofun, ?_⟩
    rintro _ ⟨⟩
    exact ⟨rfl, rfl⟩
  · obtain ⟨second, w₂, v, hsecond, -, hcourse⟩ :=
      b₁.compiler.options.attempt_course output.code filename entry output.map b₁.world
    rw [compile_of_transformed hmode hfirst hrun hsecond]
    exact ⟨exists_reaches_iff ht hcourse.not_isLibrary, nofun⟩
  · rw [compile_of_panicked hmode hfirst hrun]
    exact ⟨by simpa using exists_reaches_iff ht (v := []) nofun, nofun⟩

end Bench

/-! ## Histories -/

namespace Session

variable {s : Session E} {past t : List (Event E)}

theorem perform_run_apply {name : String} {id : TransformerId}
    (h : s.transformers.find? name = some id) (r : Request) :
    perform (.run name r) s =
      ⟨match (r.perform id s.world).ending with
        | .returned result => .returned (.transformed result)
        | .panicked text => .panicked text,
        { s with world := (r.perform id s.world).state }, (r.perform id s.world).trace⟩ := by
  have hrun : inWorld (r.perform id) s = ⟨(r.perform id s.world).ending,
      { s with world := (r.perform id s.world).state }, (r.perform id s.world).trace⟩ := rfl
  simp only [perform, Act.get_bind_apply, h]
  cases hending : (r.perform id s.world).ending with
  | returned result =>
    rw [hending] at hrun
    rw [Act.bind_of_returned hrun]
    simp
  | panicked text =>
    rw [hending] at hrun
    rw [Act.bind_of_panicked hrun]

variable {host : E.HostState} {library : E.LibraryState} {files : E.FileState}

/-- What becomes of transformer `id`.  Once its runtime panicked no call reaches it,
    and a request reaches it exactly if it did not panic, whether it comes directly
    or through a compiler that has the transformer, in a transform or in a compile.
    A request to one that panicked fails and does nothing.  Only a panic retires a
    transformer, and no other one.  A compile whose first attempt is decided does not
    depend on it. -/
theorem History.retirement (h : History (fresh (World.fresh host library files)) past t s)
    (id : TransformerId) :
    let panicked := ∃ x ∈ past ++ t, x.retires id
    ((past ++ t).Pairwise fun x y => x.retires id → ¬ y.reaches id) ∧
    (id < s.world.transformers.length → ∀ r : Request,
      let run := r.perform id s.world
      ((∃ x ∈ run.trace, x.reaches id) ↔ ¬ panicked) ∧
      (panicked →
        run = ⟨.returned (.error (.transformFailed r.filename retiredError)), s.world, []⟩) ∧
      (run.state.transformers[id]? = some .retired ↔
        panicked ∨ ∃ text, run.ending = .panicked text) ∧
      ∀ other, other ≠ id → run.state.transformers[other]? = s.world.transformers[other]?) ∧
    (∀ name, s.transformers.find? name = some id → id < s.world.transformers.length ∧
      ∀ r, ((perform (.run name r)).run s).trace = (r.perform id s.world).trace) ∧
    ∀ place c, s.Holds place c →
      (∀ b u, Bench.transformer ⟨c, s.world⟩ = ⟨.returned (.ok id), b, u⟩ →
        ∀ source filename inputMap,
          let run := Bench.transform source filename inputMap ⟨c, s.world⟩
          ((∃ x ∈ run.trace, x.reaches id) ↔ ¬ panicked) ∧
          (panicked → run.ending = .returned (.error (.transformFailed filename retiredError)) ∧
            run.trace = [])) ∧
      ∀ source filename entry,
        let first := c.options.attempt source filename entry none s.world
        let run := Bench.compile source filename entry ⟨c, s.world⟩
        (∀ result, first.ending = .returned (.decided result) → run.ending = .returned result) ∧
        ∀ e map, first.ending = .returned (.rejected e map) → c.options.mode = .extended →
          ∀ b u, Bench.transformer ⟨c, first.state⟩ = ⟨.returned (.ok id), b, u⟩ →
            ((∃ x ∈ run.trace, x.reaches id) ↔ ¬ panicked) ∧
            (panicked → run.ending = .returned (.error (.transformFailed filename retiredError)) ∧
              run.trace = first.trace ++ [.log (.transforming filename .extended e)]) := by
  intro panicked
  have hcoherent := h.epoch.coherent
  have hretired : s.world.transformers[id]? = some .retired ↔ panicked := h.retired_iff id
  refine ⟨h.pairwise_reaches id, fun hid r => ?_, fun name hname => ⟨?_, fun r => ?_⟩,
    fun place c hc => ⟨fun b u hrun source filename inputMap => ?_,
      fun source filename entry => ⟨fun result hfirst => ?_,
        fun e map hfirst hmode b u hrun => ?_⟩⟩⟩
  · rw [← hretired]
    exact Request.perform_of_lt hid
  · exact hcoherent.transformers name id hname
  · rw [Act.run, perform_run_apply hname]
  · rw [← hretired]
    exact Bench.transform_reaches source filename inputMap hrun hcoherent.world
      (hcoherent.compilers place c hc)
  · obtain ⟨answer, w, u, hattempt, -, -⟩ :=
      c.options.attempt_course source filename entry none s.world
    rw [hattempt] at hfirst
    cases hfirst
    rw [Bench.compile_of_decided hattempt]
  · obtain ⟨answer, w, v, hattempt, hw, hcourse⟩ :=
      c.options.attempt_course source filename entry none s.world
    rw [hattempt] at hfirst hrun ⊢
    cases hfirst
    dsimp only at hrun ⊢
    -- the attempt left the transformers as they were
    have hkeeps : s.world.Keeps v w := .of_ledger_eq hw.ledger_eq hcourse.not_isLibrary
    have hsame : w.transformers = s.world.transformers := congrArg Ledger.transformers hw.ledger_eq
    have hdead : w.transformers[id]? = some .retired ↔ panicked := by rw [hsame]; exact hretired
    obtain ⟨hreaches, hrefused⟩ := Bench.transform_reaches source filename map hrun
      (hkeeps.coherent hcoherent.world) ((hcoherent.compilers place c hc).keeps hcoherent.world hkeeps)
    obtain ⟨hthrough, hending⟩ :=
      Bench.compile_of_rejected (b := ⟨c, s.world⟩) hmode hattempt hcourse.not_isLibrary
    refine ⟨hthrough.trans (hreaches.trans (not_congr hdead)), fun hpanicked => ?_⟩
    obtain ⟨hfailed, hnothing⟩ := hrefused (hdead.2 hpanicked)
    obtain ⟨hcompile, htrace⟩ := hending _ hfailed
    exact ⟨hcompile, by rw [htrace, hnothing]⟩

/-- Two compilers with a transformer each.  The first compile of the one panics in
    its fallback, and so nobody gets through to its transformer any more: not directly,
    and not through that compiler, in a transform or in a compile.  What needs no
    fallback it compiles all the same, and the other compiler goes on as before. -/
theorem History.retirement_first :
    let owner (id : TransformerId) : Compiler (Legacy.engines (.byRules false false)
      ⟨[], [], [some (.panic "boom")]⟩) := (Compiler.fresh .default).owning id
    ∃ past t s, History (Legacy.freshSession _ _) past t s ∧
      s.Holds (.slot "a") (owner 0) ∧ s.Holds (.slot "b") (owner 1) ∧
      (∀ r : Request,
        r.perform 0 s.world =
          ⟨.returned (.error (.transformFailed r.filename retiredError)), s.world, []⟩ ∧
        ∃ x ∈ (r.perform 1 s.world).trace, x.reaches 1) ∧
      (∀ source filename inputMap,
        let run := Bench.transform source filename inputMap ⟨owner 0, s.world⟩
        run.ending = .returned (.error (.transformFailed filename retiredError)) ∧
          run.trace = []) ∧
      (let run := Bench.compile "class B {}" "b.js" true ⟨owner 0, s.world⟩
       run.ending = .returned (.error (.transformFailed "b.js" retiredError)) ∧
         ∀ x ∈ run.trace, ¬ x.reaches 0) ∧
      (∃ x ∈ (Bench.compile "class B {}" "b.js" true ⟨owner 1, s.world⟩).trace, x.reaches 1) ∧
      ∃ unit, (Bench.compile "var b;" "b.js" true ⟨owner 0, s.world⟩).ending =
        .returned (.ok unit) := by
  intro owner
  have h₀ : History (Legacy.freshSession (.byRules false false)
    ⟨[], [], [some (.panic "boom")]⟩) [] [] _ := .start
  have hstarted := (h₀.step (.transformer "a") trivial).step (.transformer "b") trivial
  have hmade := (hstarted.step (.compiler "a" ⟨none, none, false⟩ (some "a")) trivial).step
    (.compiler "b" ⟨none, none, false⟩ (some "b")) trivial
  have h := hmade.step (.compile "a" ⟨"class A {}", "a.js", true⟩) trivial
  obtain ⟨-, hperform, -, hthrough⟩ := retirement h 0
  obtain ⟨-, hperform', -, hthrough'⟩ := retirement h 1
  obtain ⟨htransform, hcompile⟩ := hthrough (.slot "a") (owner 0) rfl
  obtain ⟨-, hcompile'⟩ := hthrough' (.slot "b") (owner 1) rfl
  obtain ⟨-, hfallback⟩ := hcompile "class B {}" "b.js" true
  obtain ⟨-, hfallback'⟩ := hcompile' "class B {}" "b.js" true
  obtain ⟨hdirect, -⟩ := hcompile "var b;" "b.js" true
  have hpanicked := (h.retired_iff 0).1 rfl
  have hlive := mt (h.retired_iff 1).2 nofun
  refine ⟨_, _, _, h, rfl, rfl, fun r => ⟨(hperform (by decide) r).2.1 hpanicked,
    (hperform' (by decide) r).1.2 hlive⟩, fun source filename inputMap => ?_, ?_, ?_, ?_⟩
  · exact (htransform _ _ rfl source filename inputMap).2 hpanicked
  · obtain ⟨hreaches, hrefused⟩ := hfallback _ _ rfl rfl _ _ rfl
    exact ⟨(hrefused hpanicked).1, fun x hx hreached => hreaches.1 ⟨x, hx, hreached⟩ hpanicked⟩
  · exact (hfallback' _ _ rfl rfl _ _ rfl).1.2 hlive
  · exact ⟨_, hdirect _ rfl⟩

end Session

end Downlevel
