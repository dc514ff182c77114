/-
  Downlevel — what goes in and out of a pool.

  Clients take compilers out of the pool and give compilers back, their own or
  other ones, or let go of them.  `Session.Trades` observes one such move, or
  anything else that is done meanwhile: `out` is what a client got, which is in
  its slot then, and `back` what the pool accepted, which is what was released
  without a warning.  `Session.Traded` collects both along any run.

  * `Trades.balance`: one move keeps the compilers in line;
  * `Traded.balance`: so does every run, and the pool never holds too many;
  * `Traded.first_in_first_out`: what a pool does, from the moment it is made.
-/
import Downlevel.Proofs.Pool.Readiness
import Downlevel.Proofs.Session.Following
import Downlevel.Proofs.Session.Requests

namespace Downlevel

variable {E : Engines}

/-- A compiler did not fit a pool. -/
def Event.isTurnedAway : Event E → Bool
  | .log (.compilerDropped _) => true
  | _ => false

namespace Session

variable {s s₀ s₁ s' : Session E} {t : List (Event E)} {out back out' back' : List (Compiler E)}

/-! ## Taking and giving -/

/-- The compiler that a client got when it asked for one. -/
def delivered (name : String) (run : Run (Event E) (Session E) (Answer E)) : List (Compiler E) :=
  match run.ending with
  | .returned (.stock _) => (run.state.compilers.find? name).toList
  | _ => []

/-- The compiler that the pool took from the slot of a client. -/
def accepted (s : Session E) (name : String) (run : Run (Event E) (Session E) (Answer E)) :
    List (Compiler E) :=
  match run.ending with
  | .returned (.stock _) =>
    if run.trace.any Event.isTurnedAway then [] else (s.compilers.find? name).toList
  | _ => []

/-- The compiler that the pool took back from somebody who had it compile a unit. -/
def handedBack (s : Session E) (c : Compiler E) (job : Job)
    (run : Run (Event E) (Session E) (Ending (Except CompileError (CompiledUnit E.Program)))) :
    List (Compiler E) :=
  match run.ending with
  | .returned (.returned _) =>
    if run.trace.any Event.isTurnedAway then []
    else [((Bench.compile job.source job.filename job.entry).run ⟨c, s.world⟩).state.compiler]
  | _ => []

/-- Something is done: the compilers `out` are taken out of the pool, and it accepts
    the compilers `back`. -/
inductive Trades (s : Session E) : List (Compiler E) → List (Compiler E) → Session E → Prop
  | asks {step name} : step = .acquire name ∨ step = .tryAcquire name →
      Trades s (delivered name ((perform step).run s)) [] ((perform step).run s).state
  | releases {name} :
      Trades s [] (accepted s name ((perform (.release name)).run s))
        ((perform (.release name)).run s).state
  /-- Somebody takes the compiler in front, has it compile a unit and gives it back. -/
  | works {p c p'} (job : Job) : s.pool = some p → p.take? = some (c, p') →
      Trades s [c] (handedBack s c job (work p' c job { s with pool := some p' }))
        (work p' c job { s with pool := some p' }).state
  /-- Anything else, as long as the pool is not replaced. -/
  | others {step} : ¬ Step.isPooling step → s.Plain step →
      Trades s [] [] ((perform step).run s).state

/-- Between the sessions `s₀` and `s'` the compilers `out` were taken out of the pool,
    in this order, and it accepted the compilers `back`, in this order. -/
inductive Traded (s₀ : Session E) : List (Compiler E) → List (Compiler E) → Session E → Prop
  | start : Traded s₀ [] [] s₀
  | next {out back out' back' : List (Compiler E)} {s s' : Session E} : Traded s₀ out back s → s.Trades out' back' s' →
      Traded s₀ (out ++ out') (back ++ back') s'

end Session

/-! ## Balance -/

namespace Pool

variable {p p₁ p' : Pool E} {out back out' back' : List (Compiler E)}

/-- Who was there and who came is who left, in order, and who is there. -/
structure Balance (p : Pool E) (out back : List (Compiler E)) (p' : Pool E) : Prop where
  capacity : p'.capacity = p.capacity
  line : p.waiting ++ back = out ++ p'.waiting
  bounded : p.waiting.length ≤ p.capacity → p'.waiting.length ≤ p'.capacity

theorem Balance.refl (p : Pool E) : p.Balance [] [] p := ⟨rfl, by simp, id⟩

theorem Balance.trans (h : p.Balance out back p₁) (h' : p₁.Balance out' back' p') :
    p.Balance (out ++ out') (back ++ back') p' where
  capacity := h'.capacity.trans h.capacity
  line := by
    rw [← List.append_assoc, h.line, List.append_assoc, h'.line, List.append_assoc]
  bounded hle := h'.bounded (h.bounded hle)

theorem balance_of_take? {c : Compiler E} (h : p.take? = some (c, p')) : p.Balance [c] [] p' := by
  obtain ⟨hwaiting, hcapacity⟩ := waiting_of_take? h
  refine ⟨hcapacity, by simp [hwaiting], fun hle => ?_⟩
  rw [hwaiting, List.length_cons] at hle
  omega

/-- The pool accepts what it does not turn away. -/
theorem balance_given (p : Pool E) (c : Compiler E) :
    p.Balance [] (if (p.turnedAway : List (Event E)).any Event.isTurnedAway then [] else [c])
      (p.given c) := by
  by_cases hroom : p.waiting.length < p.capacity
  · rw [given, turnedAway, if_pos hroom, if_pos hroom]
    exact ⟨rfl, rfl, fun _ => by rw [List.length_append]; exact hroom⟩
  · rw [given, turnedAway, if_neg hroom, if_neg hroom]
    exact .refl p

/-- Nobody is counted twice, and nobody is lost. -/
theorem Balance.count (h : p.Balance out back p') :
    p'.waiting.length + out.length = p.waiting.length + back.length := by
  have hlength := congrArg List.length h.line
  rw [List.length_append, List.length_append] at hlength
  omega

end Pool

theorem Bench.compile_phase (source filename : String) (entry : Bool) (b : Bench E) :
    ∀ e ∈ (compile source filename entry b).trace, e.phase ≠ .pooling := by
  have hP : Transforms fun e : Event E => e.phase ≠ .pooling :=
    { building := nofun
      startingShared := nofun
      build := fun _ => nofun
      start := fun _ _ => nofun
      transform := fun _ _ _ _ _ => nofun
      log := fun _ => id }
  refine compile_emits hP source filename entry ?_
  intro source map w e he
  obtain ⟨result, w', t, hattempt, -, hcourse⟩ :=
    b.compiler.options.attempt_course source filename entry map w
  rw [hattempt] at he
  rcases hcourse.phase_cases e he with hphase | hphase
  · rw [hphase]
    nofun
  · rw [hphase]
    nofun

namespace Session

variable {s s₀ s₁ s' : Session E} {t : List (Event E)} {out back : List (Compiler E)}

theorem perform_acquire_empty {step : Step E} {name : String}
    (hstep : step = .acquire name ∨ step = .tryAcquire name) {p : Pool E} (hp : s.pool = some p)
    (htake : p.take? = none) :
    ∃ answer, perform step s = ⟨.returned answer, s, []⟩ ∧ (∀ stock, answer ≠ .stock stock) ∧
      (step = .tryAcquire name → answer = .noCompiler) := by
  rcases hstep with rfl | rfl
  · refine ⟨.wouldWait, ?_, by simp, by simp⟩
    simp only [perform, takeCompiler, withPool, Act.get_bind_apply, hp, htake, Act.pure_apply]
  · refine ⟨.noCompiler, ?_, by simp, fun _ => rfl⟩
    simp only [perform, takeCompiler, withPool, Act.get_bind_apply, hp, htake, Act.pure_apply]

theorem perform_release_empty {name : String} (hnone : s.compilers.find? name = none) :
    perform (.release name) s = ⟨.returned .noSlot, s, []⟩ := by
  cases hp : s.pool with
  | none => simp [perform, releaseCompiler, withPool, hp]
  | some p => simp [perform, releaseCompiler, withPool, withCompiler, hp, hnone]

/-- Whatever is done keeps the pool in balance. -/
theorem Trades.balance (h : s.Trades out back s') {p : Pool E} (hp : s.pool = some p) :
    ∃ p', s'.pool = some p' ∧ p.Balance out back p' := by
  cases h with
  | @asks step name hstep =>
    cases htake : p.take? with
    | none =>
      obtain ⟨answer, hrun, hanswer, -⟩ := perform_acquire_empty hstep hp htake
      rw [Act.run, hrun]
      refine ⟨p, hp, ?_⟩
      unfold delivered
      split
      · next stock heq =>
        cases heq
        exact absurd rfl (hanswer stock)
      · exact .refl p
    | some front =>
      obtain ⟨c, p'⟩ := front
      rw [Act.run, perform_acquire_apply hstep hp htake]
      refine ⟨p', rfl, ?_⟩
      simpa [delivered, Table.find?_insert] using Pool.balance_of_take? htake
  | @releases name =>
    cases hc : s.compilers.find? name with
    | none =>
      rw [Act.run, perform_release_empty hc]
      exact ⟨p, hp, .refl p⟩
    | some c =>
      have hrun : perform (.release name) s = _ := releaseCompiler_apply hp hc
      rw [Act.run, hrun]
      refine ⟨_, rfl, ?_⟩
      simpa [accepted, hc] using p.balance_given c
  | @works p₀ c p' job hp₀ htake =>
    cases hp.symm.trans hp₀
    have htaken := Pool.balance_of_take? htake
    rcases hrun : Bench.compile job.source job.filename job.entry ⟨c, s.world⟩ with
      ⟨result | text, b, t⟩
    · have hphase := Bench.compile_phase job.source job.filename job.entry ⟨c, s.world⟩
      rw [hrun] at hphase
      have hnone : t.any Event.isTurnedAway = false := by
        rw [List.any_eq_false]
        intro x hx haway
        unfold Event.isTurnedAway at haway
        split at haway
        · exact hphase _ hx rfl
        · cases haway
      rw [work_apply (s := { s with pool := some p' }) hrun]
      refine ⟨_, rfl, ?_⟩
      have hgiven := htaken.trans (p'.balance_given b.compiler)
      simpa [handedBack, Act.run, hrun, hnone] using hgiven
    · rw [work_apply (s := { s with pool := some p' }) hrun]
      exact ⟨p', rfl, htaken⟩
  | others hstep hplain =>
    exact ⟨p, (perform_course hstep hplain).pool_eq.trans hp, .refl p⟩

theorem Traded.balance (h : s₀.Traded out back s') {p₀ : Pool E} (hp : s₀.pool = some p₀) :
    ∃ p, s'.pool = some p ∧ p₀.Balance out back p := by
  induction h with
  | start => exact ⟨p₀, hp, .refl p₀⟩
  | next _ htrades ih =>
    obtain ⟨p₁, hp₁, hbalance⟩ := ih
    obtain ⟨p, hp, hbalance'⟩ := htrades.balance hp₁
    exact ⟨p, hp, hbalance.trans hbalance'⟩

/-! ## Pools in a session -/

/-- A pool that was made is full. -/
theorem pool_of_filled {size : Nat} {setup : Setup E} {schedule : List Nat} {stock : Stock}
    (h : (perform (.pool size setup schedule)).run s = ⟨.returned (.filled (.ok stock)), s', t⟩) :
    ∃ p, s'.pool = some p ∧ p.stock = stock ∧ stock = ⟨max size 1, max size 1⟩ := by
  obtain ⟨options, p, w, hmake, rfl, rfl⟩ := make_of_filled h
  exact ⟨p, rfl, rfl, Pool.make_stock hmake⟩

/-- A pool hands out what it holds in the order in which it got it: first the
    compilers that it was made with, and then those that it accepted.  It accepts a
    compiler exactly while it holds fewer than it was made for, and otherwise drops it
    with a warning and stays as it is.  It tells whoever only tries that there is none
    exactly if it holds none, and then nothing is changed. -/
theorem Traded.first_in_first_out {size : Nat} {setup : Setup E} {schedule : List Nat}
    {stock : Stock}
    (hmade : (perform (.pool size setup schedule)).run s =
      ⟨.returned (.filled (.ok stock)), s₀, t⟩)
    (h : s₀.Traded out back s') :
    ∃ p₀ p, s₀.pool = some p₀ ∧ s'.pool = some p ∧
      p₀.stock = ⟨max size 1, max size 1⟩ ∧ p.capacity = max size 1 ∧
      p.waiting.length ≤ p.capacity ∧
      p.waiting.length + out.length = p.capacity + back.length ∧
      out ++ p.waiting = p₀.waiting ++ back ∧
      (∀ name c, s'.Holds (.slot name) c →
        let run := (perform (.release name)).run s'
        (accepted s' name run = [c] ↔ p.waiting.length < p.capacity) ∧
        (p.waiting.length < p.capacity →
          run = ⟨.returned (.stock ⟨p.waiting.length + 1, p.capacity⟩),
            { s' with
              compilers := s'.compilers.erase name
              pool := some { p with waiting := p.waiting ++ [c] } }, []⟩) ∧
        (p.waiting.length = p.capacity →
          run = ⟨.returned (.stock p.stock), { s' with compilers := s'.compilers.erase name },
            [.log (.compilerDropped p.capacity)]⟩)) ∧
      (LogEntry.compilerDropped p.capacity).level = .warn ∧
      (LogEntry.compilerDropped p.capacity).fields =
        [("capacity", .count p.capacity), ("error", .text "sending on a full channel")] ∧
      (∀ name,
        let run := (perform (.tryAcquire name)).run s'
        (run.ending = .returned .noCompiler ↔ p.waiting.length = 0) ∧
        (p.waiting.length = 0 → run = ⟨.returned .noCompiler, s', []⟩)) ∧
      ∀ step name c rest, step = .acquire name ∨ step = .tryAcquire name →
        p.waiting = c :: rest →
        (perform step).run s' = ⟨.returned (.stock ⟨rest.length, p.capacity⟩),
          { s' with
            compilers := s'.compilers.insert name c
            pool := some { p with waiting := rest } }, []⟩ := by
  obtain ⟨p₀, hp₀, hstock₀, hstock⟩ := pool_of_filled hmade
  obtain ⟨p, hp, hbalance⟩ := h.balance hp₀
  have hfull : p₀.waiting.length = max size 1 ∧ p₀.capacity = max size 1 := by
    have := hstock₀.trans hstock
    exact ⟨congrArg Stock.available this, congrArg Stock.capacity this⟩
  have hcapacity : p.capacity = max size 1 := hbalance.capacity.trans hfull.2
  have hle : p.waiting.length ≤ p.capacity := hbalance.bounded (by omega)
  have hempty : p.waiting.length = 0 → p.take? = none := by
    intro hzero
    rw [Pool.take?, List.length_eq_zero_iff.1 hzero]
  have htake (c : Compiler E) (rest : List (Compiler E)) (hwaiting : p.waiting = c :: rest) :
      p.take? = some (c, { p with waiting := rest }) := by
    rw [Pool.take?, hwaiting]
  refine ⟨p₀, p, hp₀, hp, hstock₀.trans hstock, hcapacity, hle, ?count, hbalance.line.symm,
    ?release, rfl, rfl, ?tryAcquire, ?acquire⟩
  case count =>
    have := hbalance.count
    omega
  case release =>
    intro name c hc run
    have hrun : run = _ := releaseCompiler_apply hp hc
    have hfind : s'.compilers.find? name = some c := hc
    refine ⟨?_, fun hroom => ?_, fun hnone => ?_⟩
    · rw [hrun, accepted]
      by_cases hroom : p.waiting.length < p.capacity
      · simp [Pool.turnedAway, hroom, hfind]
      · simp [Pool.turnedAway, hroom, Event.isTurnedAway]
    · rw [hrun, Pool.given, Pool.turnedAway, if_pos hroom, if_pos hroom]
      simp [Pool.stock]
    · have hroom : ¬ p.waiting.length < p.capacity := by omega
      rw [hrun, Pool.given, Pool.turnedAway, if_neg hroom, if_neg hroom, ← hp]
  case tryAcquire =>
    intro name run
    have hnone (hzero : p.waiting.length = 0) : run = ⟨.returned .noCompiler, s', []⟩ := by
      obtain ⟨answer, hrun, -, hanswer⟩ := perform_acquire_empty (.inr rfl) hp (hempty hzero)
      rw [hanswer rfl] at hrun
      exact hrun
    refine ⟨⟨fun hending => ?_, fun hzero => by rw [hnone hzero]⟩, hnone⟩
    rcases hwaiting : p.waiting with _ | ⟨c, rest⟩
    · rfl
    · have hrun : run = _ := perform_acquire_apply (.inr rfl) hp (htake c rest hwaiting)
      rw [hrun] at hending
      cases hending
  case acquire =>
    intro step name c rest hstep hwaiting
    rw [Act.run, perform_acquire_apply hstep hp (htake c rest hwaiting)]
    rfl

/-- A client takes the only compiler and lets go of it; the pool accepts one from
    elsewhere, and turns away the next one. -/
theorem Traded.first_in_first_out_elsewhere :
    let made := (perform (.pool 1 ⟨none, none, false⟩ [])).run
      (Legacy.freshSession (.byRules false false) .byRules)
    ∃ out back s', made.ending = .returned (.filled (.ok ⟨1, 1⟩)) ∧
      made.state.Traded out back s' ∧ out.length = 1 ∧ back.length = 1 ∧
      s'.pool.map Pool.stock = some ⟨1, 1⟩ ∧
      ((perform (.release "other")).run s').trace = [.log (.compilerDropped 1)] := by
  intro made
  have hmake (s : Session (Legacy.engines (.byRules false false) .byRules)) : s.Trades [] [] _ :=
    .others (show ¬ Step.isPooling (.compiler "other" ⟨none, none, false⟩ none) from id) trivial
  have hdrop (s : Session (Legacy.engines (.byRules false false) .byRules)) : s.Trades [] [] _ :=
    .others (show ¬ Step.isPooling (.dropCompiler "mine") from id) trivial
  obtain ⟨out, back, s', htraded, hout, hback, hother⟩ : ∃ out back s',
      made.state.Traded out back s' ∧ out.length = 1 ∧ back.length = 1 ∧
      (s'.compilers.find? "other").isSome := by
    have htraded := ((((Traded.start.next
      (@Trades.asks _ made.state (.acquire "mine") _ (.inl rfl))).next (hdrop _)).next
      (hmake _)).next (@Trades.releases _ _ "other")).next (hmake _)
    refine ⟨_, _, _, htraded, ?_, ?_, ?_⟩
    · decide +kernel
    · decide +kernel
    · decide +kernel
  have hmade : made = ⟨.returned (.filled (.ok ⟨1, 1⟩)), made.state, made.trace⟩ := rfl
  obtain ⟨p₀, p, -, hp, -, hcapacity, -, hcount, -, hrelease, -⟩ :=
    first_in_first_out hmade htraded
  have hcapacity : p.capacity = 1 := hcapacity
  have hfull : p.waiting.length = p.capacity := by omega
  obtain ⟨c, hc⟩ := Option.isSome_iff_exists.1 hother
  refine ⟨out, back, s', rfl, htraded, hout, hback, ?_, ?_⟩
  · rw [hp, Option.map_some, Pool.stock, hfull, hcapacity]
  · rw [((hrelease "other" c hc).2.2 hfull), hcapacity]

end Session

end Downlevel
