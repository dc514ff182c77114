/-
  Downlevel — compilers of a pool do not disturb each other.

  Each compiler of a pool was made with a transformer of its own, which stays its
  own wherever the compiler gets to.  So what it answers depends on what it itself
  was asked, and on nothing that was done with other compilers: a panic of their
  runtimes makes no difference.

  * `Faithful`: errands done one after the other by a compiler with its transformer;
  * `Session.Stocked`: compilers that were just made with a pool;
  * `Stocked.isolated`: what holds of such a compiler in whatever is done later.
-/
import Downlevel.Proofs.Legacy.Modes
import Downlevel.Proofs.Session.Errands
import Downlevel.Proofs.Session.Following
import Mathlib.Data.List.Forall2

namespace Downlevel

variable {E : Engines} {k k' : TransformerId} {c c' : Compiler E}

/-! ## Errands side by side -/

namespace Errand

variable {e e' : Errand E} {l : Likeness E} {rule : String → Json.Object → Outcome RawOutput}

/-- The same task, in worlds that look alike. -/
def Alike (l : Likeness E) (e e' : Errand E) : Prop :=
  e.task = e'.task ∧ e.bench.world.Alike l e'.bench.world

/-- What the library answers on the errand is what the rule says. -/
def Obeys (rule : String → Json.Object → Outcome RawOutput) (e : Errand E) : Prop :=
  ∀ x ∈ e.run.trace, x.Obeys rule

/-- Errands that are answered by one rule end alike. -/
theorem ending_eq (h : e.Alike l e') (hl : l.Deceives e.bench.compiler.options)
    (hoptions : e'.bench.compiler.options = e.bench.compiler.options)
    (hmatched : e.bench.Matched e'.bench) (hobeys : e.Obeys rule) (hobeys' : e'.Obeys rule) :
    e.run.ending = e'.run.ending := by
  obtain ⟨task, b⟩ := e
  obtain ⟨task', b'⟩ := e'
  obtain ⟨htask, hworld⟩ := h
  obtain rfl : task = task' := htask
  cases task with
  | compile job =>
    simp only [Obeys, run, Act.run, Task.perform_compile_apply] at hobeys hobeys' ⊢
    rw [Bench.compile_obeys hl hoptions hworld hmatched hobeys hobeys']
  | transform source filename inputMap =>
    simp only [Obeys, run, Act.run, Task.perform_transform_apply] at hobeys hobeys' ⊢
    rw [Bench.transform_obeys hmatched hoptions hobeys hobeys']

end Errand

/-- What the library answers depends on the text and the options alone. -/
def Library.AnswersBy {σ Bytecode Runtime : Type} (lib : Library σ Bytecode Runtime)
    (rule : String → Json.Object → Outcome RawOutput) : Prop :=
  ∀ runtime source options state, (lib.transform runtime source options state).1 = rule source options

theorem Library.AnswersBy.prevails {rule : String → Json.Object → Outcome RawOutput}
    (h : E.library.AnswersBy rule) : Prevails (Event.Obeys (E := E) rule) where
  building := trivial
  startingShared := trivial
  build _ := trivial
  start _ _ := trivial
  transform _ runtime source options state := h runtime source options state
  log _ _ := trivial
  other e he := by
    cases e with
    | transform => exact absurd rfl he
    | _ => trivial

/-- Such a library answers every errand by its rule. -/
theorem Errand.obeys_of_answersBy {rule : String → Json.Object → Outcome RawOutput}
    (h : E.library.AnswersBy rule) (e : Errand E) : e.Obeys rule :=
  (e.task.perform_used e.bench).emits h.prevails

/-- A transformer that is there is live unless it is retired. -/
theorem World.exists_live_iff {w : World E} (hk : k < w.transformers.length) :
    (∃ runtime, w.transformers[k]? = some (.live runtime)) ↔
      w.transformers[k]? ≠ some .retired := by
  rw [List.getElem?_eq_getElem hk]
  cases w.transformers[k] with
  | live runtime => exact ⟨fun _ => nofun, fun _ => ⟨runtime, rfl⟩⟩
  | retired => exact ⟨nofun, fun h => absurd rfl h⟩

/-- The compiler `c` did the errands one after the other.  Its transformer `k` was lost
    before, or was lost by the time of an errand exactly if it had panicked over an
    earlier one. -/
def Faithful (c : Compiler E) (k : TransformerId) : Prop → List (Errand E) → Prop
  | _, [] => True
  | lost, e :: log =>
    e.bench.compiler = c ∧ k < e.bench.world.transformers.length ∧
      (e.bench.world.transformers[k]? = some .retired ↔ lost) ∧
      Faithful c k (lost ∨ e.Panics) log

namespace Faithful

variable {lost lost' : Prop} {log log' : List (Errand E)} {l : Likeness E}
  {rule : String → Json.Object → Outcome RawOutput}

/-- One more errand. -/
theorem snoc (h : Faithful c k lost log) {e : Errand E} (hc : e.bench.compiler = c)
    (hk : k < e.bench.world.transformers.length)
    (hretired : e.bench.world.transformers[k]? = some .retired ↔ lost ∨ ∃ e' ∈ log, e'.Panics) :
    Faithful c k lost (log ++ [e]) := by
  induction log generalizing lost with
  | nil => exact ⟨hc, hk, by simpa using hretired, trivial⟩
  | cons e' log ih =>
    obtain ⟨hc', hk', hretired', hrest⟩ := h
    refine ⟨hc', hk', hretired', ih hrest ?_⟩
    rw [hretired]
    simp [or_assoc]

/-- Two compilers with the same options that are asked the same things end each of them
    alike, as far as the library answers by one rule. -/
theorem map_ending_eq (h : Faithful c k lost log) (h' : Faithful c' k' lost' log')
    (hlost : lost ↔ lost') (hown : c.attachment = .own k) (hown' : c'.attachment = .own k')
    (hoptions : c'.options = c.options) (hl : l.Deceives c.options)
    (halike : List.Forall₂ (Errand.Alike l) log log') (hobeys : ∀ e ∈ log, e.Obeys rule)
    (hobeys' : ∀ e ∈ log', e.Obeys rule) :
    log.map (fun e => e.run.ending) = log'.map fun e => e.run.ending := by
  induction halike generalizing lost lost' with
  | nil => rfl
  | @cons e e' log log' halike _ ih =>
    obtain ⟨hc, hk, hretired, hrest⟩ := h
    obtain ⟨hc', hk', hretired', hrest'⟩ := h'
    have hmatched : e.bench.Matched e'.bench := by
      refine ⟨k, k', by rw [hc, hown]; rfl, by rw [hc', hown']; rfl, ?_⟩
      rw [World.exists_live_iff hk, World.exists_live_iff hk', ne_eq, ne_eq, hretired, hretired',
        hlost]
    have hending : e.run.ending = e'.run.ending :=
      Errand.ending_eq halike (hc ▸ hl) (by rw [hc, hc', hoptions]) hmatched
        (hobeys e List.mem_cons_self) (hobeys' e' List.mem_cons_self)
    have hlost' : lost ∨ e.Panics ↔ lost' ∨ e'.Panics := by
      rw [hlost, Errand.Panics, Errand.Panics, hending]
    rw [List.map_cons, List.map_cons, hending]
    exact congrArg _ (ih hrest hrest' hlost' (fun e he => hobeys e (List.mem_cons_of_mem _ he))
      fun e he => hobeys' e (List.mem_cons_of_mem _ he))

end Faithful

namespace Session

variable {s s₀ s' : Session E} {log : List (Errand E)}

theorem Employs.faithful (h : s₀.Employs k log s) (hs : s₀.Private c k)
    (hlive : s₀.world.transformers[k]? ≠ some .retired) : Faithful c k False log := by
  induction h with
  | start => trivial
  | @next log es s s' t h hasks ih =>
    have hs' := h.private hs
    rcases hasks.errand hs' with rfl | ⟨task, rfl, -, -⟩
    · rwa [List.append_nil]
    · refine ih.snoc rfl hs'.lt ?_
      rw [false_or]
      exact h.retired_iff hs hlive

/-! ## New pools -/

/-- The compiler was just made with a pool, in a session that began with nothing. -/
inductive Stocked : Session E → Compiler E → Prop
  | made {host library files past t s size setup schedule stock u s₀ p c} :
      History (fresh (World.fresh host library files)) past t s →
      (perform (.pool size setup schedule)).run s = ⟨.returned (.filled (.ok stock)), s₀, u⟩ →
      s₀.pool = some p → c ∈ p.waiting → Stocked s₀ c

/-- A new pool has a transformer of its own for each compiler. -/
theorem private_of_make {size : Nat} {options : CompilerOptions E} {schedule : List Nat}
    {p : Pool E} {w : World E} {t : List (Event E)} (hs : s.Coherent)
    (hmake : Pool.make size options schedule s.world = ⟨.returned (.ok p), w, t⟩)
    (hc : c ∈ p.waiting) :
    ∃ k, c.attachment = .own k ∧ Private c k { s with world := w, pool := some p } ∧
      w.transformers[k]? ≠ some .retired := by
  obtain ⟨hnew, hapart⟩ := Pool.make_apart hmake
  have hturn : s.Turn (fun _ => True) (fun _ => False) t { s with world := w, pool := some p } :=
    .filled (fun _ => trivial) hmake
  obtain ⟨k, hle, hlt, rfl⟩ := hnew c hc
  -- no compiler that was there before has the transformer
  have howns {place : Place} {d : Compiler E}
      (hd : Owns { s with world := w, pool := some p } k place d) :
      ∃ i, place = .queue i ∧ p.waiting[i]? = some d ∧ d = (Compiler.fresh options).owning k := by
    cases place with
    | slot name =>
      have hfits := hs.compilers (.slot name) d hd.1
      rw [hd.2] at hfits
      exact absurd hfits (Nat.not_lt.2 hle)
    | queue i =>
      obtain ⟨⟨_, ⟨⟩, hget⟩, hown⟩ := hd
      obtain ⟨id, -, -, rfl⟩ := hnew d (List.mem_of_getElem? hget)
      cases hown
      exact ⟨i, rfl, hget, rfl⟩
  refine ⟨k, rfl, ⟨⟨hturn.keeps.coherent hs, hlt, ?shared, ?slots⟩, ?same, ?alone⟩, ?live⟩
  case shared =>
    show w.shared ≠ _
    rw [Pool.make_shared hmake]
    intro hshared
    exact absurd (hs.world.started k hshared).1 (Nat.not_lt.2 hle)
  case slots =>
    intro name hname
    exact absurd (hs.transformers name k hname) (Nat.not_lt.2 hle)
  case same =>
    intro place d hd
    obtain ⟨-, -, -, rfl⟩ := howns hd
    rfl
  case alone =>
    intro place place' d d' hd hd'
    obtain ⟨i, rfl, hi, rfl⟩ := howns hd
    obtain ⟨j, rfl, hj, rfl⟩ := howns hd'
    have hnodup : (p.waiting.map Compiler.attachment).Nodup := List.pairwise_map.2 hapart
    have hi' : i < (p.waiting.map Compiler.attachment).length := by
      rw [List.length_map]
      exact (List.getElem?_eq_some_iff.1 hi).1
    refine congrArg Place.queue ((List.getElem?_inj hi' hnodup).1 ?_)
    rw [List.getElem?_map, hi, List.getElem?_map, hj]
  case live =>
    obtain ⟨hadmits, hledger⟩ := hturn.keeps.world
    intro hretired
    rw [show w.transformers = (s.world.ledger.after t).transformers from
      congrArg Ledger.transformers hledger, Ledger.retired_after hadmits] at hretired
    rcases hretired with hbefore | ⟨x, hx, hpanic⟩
    · exact absurd (List.getElem?_eq_some_iff.1 hbefore).1 (Nat.not_lt.2 hle)
    · exact (World.Called.fill hmake).not_reaches x hx (Event.reaches_of_retires hpanic)

theorem Stocked.private (hc : s₀.Stocked c) :
    ∃ k, c.attachment = .own k ∧ s₀.Private c k ∧
      s₀.world.transformers[k]? ≠ some .retired := by
  obtain ⟨hhistory, hmade, hp, hc⟩ := hc
  obtain ⟨options, p, w, hmake, rfl, -⟩ := make_of_filled hmade
  cases hp
  exact private_of_make hhistory.epoch.coherent hmake hc

/-- What holds of a compiler that a pool was made with.  It has a transformer of its
    own, which it keeps wherever it gets to, and whatever is done later: no slot, no
    other compiler and no default has that transformer; nothing has to be built or
    started for the compiler; and its runtime is lost exactly if it panicked over an
    errand of the compiler itself.  What others do reaches no part of it.  So two such
    compilers with the same options, in runs of two sessions or in two runs of one, end
    each errand alike if they are asked the same and the library answers them by one
    rule, whatever runtimes of other compilers panicked meanwhile. -/
theorem Stocked.isolated (hc : s₀.Stocked c) :
    ∃ k, c.attachment = .own k ∧
      (∀ place s place', s₀.Holds place c → s₀.Follows place s place' → s.Holds place' c) ∧
      (∀ s, Reachable s₀ s → ∃ log, s₀.Employs k log s) ∧
      ∀ log s, s₀.Employs k log s →
        s.world.shared ≠ some (.ok k) ∧ (∀ name, s.transformers.find? name ≠ some k) ∧
        (∀ place d, s.Holds place d → d.attachment.id? = some k →
          d = c ∧ Bench.Warm k ⟨d, s.world⟩ ∧
          ∀ place' d', s.Holds place' d' → d'.attachment.id? = some k → place' = place) ∧
        (∀ name task, s.Holds (.slot name) c →
          let e : Errand E := ⟨task, ⟨c, s.world⟩⟩
          s.errands k (task.step name) = [e] ∧
          ((perform (task.step name)).run s).ending = e.run.ending ∧
          ((perform (task.step name)).run s).trace = e.run.trace) ∧
        (s.world.transformers[k]? = some .retired ↔ ∃ e ∈ log, e.Panics) ∧
        (∀ t s', s.Asks k [] t s' → (∀ x ∈ t, ¬ x.reaches k) ∧
          s'.world.transformers[k]? = s.world.transformers[k]?) ∧
        ∀ s₀' c' k' log' s' l rule, Stocked s₀' c' → c'.attachment = .own k' →
          s₀'.Employs k' log' s' → c'.options = c.options → l.Deceives c.options →
          List.Forall₂ (Errand.Alike l) log log' →
          (∀ e ∈ log, e.Obeys rule) → (∀ e ∈ log', e.Obeys rule) →
          log.map (fun e => e.run.ending) = log'.map fun e => e.run.ending := by
  obtain ⟨k, hown, hs₀, hlive⟩ := hc.private
  refine ⟨k, hown, ?follows, fun s hs => exists_employs_of_reachable hs k, fun log s h => ?_⟩
  case follows =>
    intro place s place' hplace hfollows
    obtain ⟨d, hd, hoptions, hattachment⟩ := hfollows.holds hplace
    rcases hattachment with hsame | ⟨hshared, -⟩
    · have hd' : d.attachment = .own k := hsame.trans hown
      exact Compiler.Becomes.eq_of_own ⟨hoptions, .inl hsame⟩ hd' ▸ hd
    · cases hown.symm.trans hshared
  have hs := h.private hs₀
  refine ⟨hs.shared, hs.slots, ?holders, ?answers, h.retired_iff hs₀ hlive,
    fun t s' hasks => hasks.spares hs, ?isolation⟩
  case holders =>
    intro place d hd hid
    have hd' := hs.owns hd hid
    refine ⟨hs.same place d hd', Bench.warm_of_id? hid, ?_⟩
    intro place' d' hd'' hid'
    exact hs.alone place' place d' d (hs.owns hd'' hid') hd'
  case answers =>
    intro name task hname e
    have hrun : (perform (task.step name)).run s = _ := perform_step_apply hname task
    rw [hrun]
    exact ⟨(errands_step hname task).trans (if_pos hown), rfl, rfl⟩
  case isolation =>
    intro s₀' c' k' log' s' l rule hc' hown' h' hoptions hl halike hobeys hobeys'
    obtain ⟨k'', hown'', hs₀', hlive'⟩ := hc'.private
    obtain rfl : k' = k'' := by
      rw [hown'] at hown''
      injection hown''
    have hfaithful := h.faithful hs₀ hlive
    have hfaithful' := h'.faithful hs₀' hlive'
    exact hfaithful.map_ending_eq hfaithful' .rfl hown hown' hoptions hl halike hobeys hobeys'

end Session

namespace Legacy

open Session

/-- A library that follows the rules, but panics over one text. -/
def fragile (text : String) : Library LibraryState String Runtime :=
  { library .byRules with
    transform := fun runtime source options s =>
      let (outcome, runtime, s) := (library .byRules).transform runtime source options s
      (if source = text then .panicked "boom" else outcome, runtime, s) }

/-- The legacy engines with such a library. -/
def fragileEngines (text : String) : Engines :=
  { engines (.byRules false false) .byRules with library := fragile text }

/-- A session with them in which nothing happened yet. -/
def fragileSession (text : String) : Session (fragileEngines text) :=
  fresh (World.fresh (⟨0, 0⟩ : HostState) (⟨0, 0, 0, 0⟩ : LibraryState) ())

theorem fragile_answersBy (text : String) :
    (fragile text).AnswersBy fun source options =>
      if source = text then .panicked "boom"
      else outcomeAt [] 0 (transformByRules source options) :=
  fun _ _ _ _ => rfl

end Legacy

namespace Session

open Legacy

/-- Of two compilers of a pool one panics and is given back.  The other one compiles a
    unit as it would have done at once. -/
theorem Stocked.isolated_damaged :
    let made := (perform (.pool 2 ⟨none, none, false⟩ [])).run (fragileSession "class A {}")
    let s := ((perform (.acquire "b")).run ((perform (.acquire "a")).run made.state).state).state
    let panic := (perform (.compile "a" ⟨"class A {}", "a.js", true⟩)).run s
    let s' := ((perform (.release "a")).run panic.state).state
    let unit := perform (.compile "b" ⟨"class B {}", "b.js", true⟩)
    panic.ending = .panicked "boom" ∧ (unit.run s').ending = (unit.run s).ending := by
  intro made s panic s' unit
  let c : Compiler (fragileEngines "class A {}") := (Compiler.fresh .default).owning 1
  let task : Task := .compile ⟨"class B {}", "b.js", true⟩
  have hfilled : made.ending = .returned (.filled (.ok ⟨2, 2⟩)) := rfl
  have hmade : made = ⟨.returned (.filled (.ok ⟨2, 2⟩)), made.state, made.trace⟩ := by
    rw [← hfilled]
  have hp : made.state.pool = some ⟨[(Compiler.fresh .default).owning 0, c], 2⟩ := rfl
  have hc : made.state.Stocked c :=
    .made .start hmade hp (List.mem_cons_of_mem _ List.mem_cons_self)
  obtain ⟨k, hown, hfollowed, -, hisolated⟩ := isolated hc
  obtain rfl : 1 = k := by injection hown
  have hplace : made.state.Holds (.queue 1) c := ⟨_, hp, rfl⟩
  have hpanic : s.Plain (.compile "a" ⟨"class A {}", "a.js", true⟩) := trivial
  have hrelease : panic.state.Plain (.release "a") := trivial
  -- the compiler is taken out and stays where it is
  have htaken : made.state.Follows (.queue 1) s (.slot "b") :=
    (Follows.start.next (.advances (.inl rfl))).next (.acquired (.inl rfl))
  have hstays : made.state.Follows (.queue 1) s' (.slot "b") :=
    (htaken.next (.stays (.step hpanic) id)).next (.stays (.step hrelease) (by simp [takes]))
  -- and is asked nothing meanwhile
  have hs : made.state.Employs 1 [] s := by
    have hacquire (s : Session (fragileEngines "class A {}")) (name : String) :
        s.Plain (.acquire name) := trivial
    exact (Employs.start.next (.step (hacquire _ "a"))).next (.step (hacquire _ "b"))
  have hs' : made.state.Employs 1 [] s' := by
    have hother : s.errands 1 (.compile "a" ⟨"class A {}", "a.js", true⟩) = [] := rfl
    have hpanicked := hs.next (.step hpanic)
    rw [hother] at hpanicked
    exact hpanicked.next (.step hrelease)
  obtain ⟨-, -, -, hanswers, -⟩ := hisolated [] s hs
  obtain ⟨hasked, hending, -⟩ := hanswers "b" task (hfollowed _ _ _ hplace htaken)
  obtain ⟨-, -, -, hanswers', -⟩ := hisolated [] s' hs'
  obtain ⟨hasked', hending', -⟩ := hanswers' "b" task (hfollowed _ _ _ hplace hstays)
  -- so what it is asked then are errands in look-alike worlds
  have hunit : s.Plain (task.step "b") := trivial
  have hunit' : s'.Plain (task.step "b") := trivial
  have hdone := hs.next (.step hunit)
  have hdone' := hs'.next (.step hunit')
  rw [hasked, List.nil_append] at hdone
  rw [hasked', List.nil_append] at hdone'
  obtain ⟨-, -, -, -, -, -, hsame⟩ := hisolated _ _ hdone'
  have halike (w w' : World (fragileEngines "class A {}")) : w.Alike .ofFiles w' := ⟨trivial, rfl⟩
  have hobeys := Errand.obeys_of_answersBy (E := fragileEngines "class A {}") (fragile_answersBy "class A {}")
  have hdeceives : Likeness.ofFiles.Deceives c.options :=
    Likeness.ofFiles_deceives (host_steady false false) c.options
  have hendings := hsame _ c 1 _ _ .ofFiles _ hc rfl hdone rfl hdeceives
    (.cons ⟨rfl, halike _ _⟩ .nil) (fun e _ => hobeys e) fun e _ => hobeys e
  rw [List.map_singleton, List.map_singleton, List.singleton_inj] at hendings
  refine ⟨?_, ?_⟩
  · rfl
  · exact (hending'.trans hendings).trans hending.symm

end Session

end Downlevel
