/-
  Downlevel — following a compiler.

  A compiler stays where it was put until it is replaced or dropped.  It can be
  given to the pool, where it moves up until it is taken out again or does a job
  and lines up anew.  On the way it is used, and nothing else happens to it.

  * `Session.Passes`: where what comes next leaves a compiler;
  * `Session.Follows` with `Follows.holds`: wherever a compiler got to, it has
    become what its use made of it.
-/
import Downlevel.Proofs.Session.History

namespace Downlevel

variable {E : Engines}

theorem Pool.take?_of_getElem? {p : Pool E} {c : Compiler E} {i : Nat}
    (h : p.waiting[i]? = some c) :
    ∃ front p', p.take? = some (front, p') ∧ p.waiting = front :: p'.waiting := by
  unfold take?
  split
  · next hwaiting =>
    rw [hwaiting] at h
    cases h
  · next front rest hwaiting => exact ⟨front, _, rfl, hwaiting⟩

theorem Pool.waiting_given_of_lt {p : Pool E} (h : p.waiting.length < p.capacity) (c : Compiler E) :
    (p.given c).waiting[p.waiting.length]? = some c := by
  simp [given, h]

namespace Session

/-- Where what comes next leaves the compiler that is at a place, if it is not let
    go of. -/
inductive Passes (s : Session E) : Place → Session E → Place → Prop
  | stays {taken u s' place} : s.Next taken u s' → ¬ taken place → Passes s place s' place
  /-- It is given to the pool, where there is room. -/
  | released {name p} : s.pool = some p → p.waiting.length < p.capacity →
      Passes s (.slot name) ((perform (.release name)).run s).state (.queue p.waiting.length)
  | acquired {step name} : step = .acquire name ∨ step = .tryAcquire name →
      Passes s (.queue 0) ((perform step).run s).state (.slot name)
  | advances {step name i} : step = .acquire name ∨ step = .tryAcquire name →
      Passes s (.queue (i + 1)) ((perform step).run s).state (.queue i)
  /-- It does a job and lines up again. -/
  | works {p c p' job result} : s.pool = some p → p.take? = some (c, p') →
      p'.waiting.length < p'.capacity →
      (work p' c job { s with pool := some p' }).ending = .returned (.returned result) →
      Passes s (.queue 0) (work p' c job { s with pool := some p' }).state
        (.queue p'.waiting.length)
  /-- Another one does a job. -/
  | waits {p c p' job i} : s.pool = some p → p.take? = some (c, p') →
      Passes s (.queue (i + 1)) (work p' c job { s with pool := some p' }).state (.queue i)

variable {s s' : Session E} {place place' : Place}

/-- What taking a compiler out of the pool does. -/
theorem perform_acquire_apply {step : Step E} {name : String}
    (hstep : step = .acquire name ∨ step = .tryAcquire name) {p p' : Pool E} {c : Compiler E}
    (hp : s.pool = some p) (htake : p.take? = some (c, p')) :
    perform step s = ⟨.returned (.stock p'.stock),
      { s with pool := some p', compilers := s.compilers.insert name c }, []⟩ := by
  rcases hstep with rfl | rfl
  · exact takeCompiler_apply name _ hp htake
  · exact takeCompiler_apply name _ hp htake

/-- Who waits behind somebody at work keeps waiting. -/
theorem work_waiting {p : Pool E} {c c' : Compiler E} {i : Nat} (hc' : p.waiting[i]? = some c')
    (job : Job) (hp : s.pool = some p) : (work p c job s).state.Holds (.queue i) c' := by
  rcases hrun : Bench.compile job.source job.filename job.entry ⟨c, s.world⟩ with
    ⟨result | text, b, t⟩ <;> rw [work_apply hrun]
  · exact ⟨_, rfl, Pool.getElem?_given b.compiler hc'⟩
  · exact ⟨p, hp, hc'⟩

theorem Passes.holds (h : s.Passes place s' place') {c : Compiler E} (hc : s.Holds place c) :
    ∃ c', s'.Holds place' c' ∧ c.Becomes c' := by
  cases h with
  | stays hnext hnot => exact hnext.keeps.retained _ c hnot hc
  | @released name p hp hroom =>
    have hrun : perform (.release name) s = _ := releaseCompiler_apply hp hc
    rw [Act.run, hrun]
    exact ⟨c, ⟨_, rfl, Pool.waiting_given_of_lt hroom c⟩, .refl c⟩
  | acquired hstep =>
    obtain ⟨p, hp, hfront⟩ := hc
    obtain ⟨front, p', htake, hwaiting⟩ := Pool.take?_of_getElem? hfront
    obtain rfl : front = c := by simpa [hwaiting] using hfront
    rw [Act.run, perform_acquire_apply hstep hp htake]
    exact ⟨front, by simp [Holds, Table.find?_insert], .refl front⟩
  | advances hstep =>
    obtain ⟨p, hp, hbehind⟩ := hc
    obtain ⟨front, p', htake, hwaiting⟩ := Pool.take?_of_getElem? hbehind
    rw [Act.run, perform_acquire_apply hstep hp htake]
    exact ⟨c, ⟨p', rfl, by simpa [hwaiting] using hbehind⟩, .refl c⟩
  | @works p front p' job result hp htake hroom hresult =>
    obtain ⟨hwaiting, -⟩ := Pool.waiting_of_take? htake
    obtain ⟨_, hp', hfront⟩ := hc
    cases hp.symm.trans hp'
    obtain rfl : front = c := by simpa [hwaiting] using hfront
    rcases hrun : Bench.compile job.source job.filename job.entry ⟨front, s.world⟩ with
      ⟨result' | text, b, t⟩ <;>
      rw [work_apply (s := { s with pool := some p' }) hrun] at hresult ⊢
    · have hbench := (Bench.compile_keeps ..).run_eq hrun
      exact ⟨b.compiler, ⟨_, rfl, Pool.waiting_given_of_lt hroom b.compiler⟩, hbench.compiler⟩
    · cases hresult
  | @waits p front p' job i hp htake =>
    obtain ⟨hwaiting, -⟩ := Pool.waiting_of_take? htake
    obtain ⟨_, hp', hbehind⟩ := hc
    cases hp.symm.trans hp'
    exact ⟨c, work_waiting (by simpa [hwaiting] using hbehind) job rfl, .refl c⟩

/-- The compiler that was at `place` in the session `s` got to another one, whatever
    happened in between. -/
inductive Follows (s : Session E) (place : Place) : Session E → Place → Prop
  | start : Follows s place s place
  | next {s₁ place₁ s' place'} : Follows s place s₁ place₁ → s₁.Passes place₁ s' place' →
      Follows s place s' place'

/-- A compiler that somebody follows is there, and used at most. -/
theorem Follows.holds (h : s.Follows place s' place') {c : Compiler E} (hc : s.Holds place c) :
    ∃ c', s'.Holds place' c' ∧ c.Becomes c' := by
  induction h with
  | start => exact ⟨c, hc, .refl c⟩
  | next _ hpasses ih =>
    obtain ⟨c₁, hc₁, hbecomes⟩ := ih
    obtain ⟨c', hc', hbecomes'⟩ := hpasses.holds hc₁
    exact ⟨c', hc', hbecomes.trans hbecomes'⟩

end Session

end Downlevel
