/-
  Downlevel — what a step of a session can do.

  Most steps start something in the world, use a transformer or a compiler or change
  what is in a slot, and leave the pool alone.  The others replace the pool, take a
  compiler out of it or give one back, and so does a job.  `Session.Turn` lists all of
  this once, so that whatever is to hold of every step is shown for each case here.

  * `World.Called`, `Bench.Used`: what is started, and what a compiler does;
  * `Session.Course`: a step that leaves the pool alone;
  * `Session.perform_turn`, `Session.work_turn`: every step takes such a turn but for
    a reset, and so does every job of those that work side by side;
  * `Session.Turn.keeps`: what all of them keep.
-/
import Downlevel.Proofs.Session.Keeping

namespace Downlevel

variable {E : Engines}

/-- The library is built and runtimes are started for somebody other than a compiler. -/
inductive World.Called (w : World E) : List (Event E) → World E → Prop
  | build {outcome w' t} : obtainBuild w = ⟨outcome, w', t⟩ → Called w t w'
  | start {outcome w' t} : startTransformer w = ⟨outcome, w', t⟩ → Called w t w'
  | share {outcome w' t} : sharedTransformer w = ⟨outcome, w', t⟩ → Called w t w'
  | fill {size options schedule ending w' t} :
      Pool.make size options schedule w = ⟨ending, w', t⟩ → Called w t w'

theorem World.Called.keeps {w w' : World E} {t : List (Event E)} (h : w.Called t w') :
    w.Keeps t w' := by
  cases h with
  | build h => exact (obtainBuild_course h).keeps
  | start h => exact (startTransformer_course h).keeps
  | share h => exact (sharedTransformer_course h).keeps
  | fill h => exact (Pool.make_making h).keeps

/-- A compiler is put to work on a text. -/
inductive Bench.Used (b : Bench E) : List (Event E) → Bench E → Prop
  | transforms {source filename inputMap ending b' t} :
      transform source filename inputMap b = ⟨ending, b', t⟩ → Used b t b'
  | compiles {source filename entry ending b' t} :
      compile source filename entry b = ⟨ending, b', t⟩ → Used b t b'

theorem Bench.Used.keeps {b b' : Bench E} {t : List (Event E)} (h : b.Used t b') : b.Keeps t b' := by
  cases h with
  | transforms h => exact (transform_keeps ..).run_eq h
  | compiles h => exact (compile_keeps ..).run_eq h

namespace Session

/-! ## Steps that leave the pool alone -/

/-- What is done leaves the pool alone.  Compilers are put to the places `taken`, and
    those at the places `used` work on texts. -/
inductive Course (taken used : Place → Prop) :
    Session E → List (Event E) → Session E → Prop
  | rest {s} : Course taken used s [] s
  | trans {s t s₁ u s'} : Course taken used s t s₁ → Course taken used s₁ u s' →
      Course taken used s (t ++ u) s'
  | called {s t w} : s.world.Called t w → Course taken used s t { s with world := w }
  /-- The transformer in a slot performs a request. -/
  | requested {s name id r ending w t} : s.transformers.find? name = some id →
      Request.perform r id s.world = ⟨ending, w, t⟩ → Course taken used s t { s with world := w }
  /-- The compiler in a slot gets hold of its transformer. -/
  | prepared {s name c ending t b} : s.Holds (.slot name) c →
      Bench.transformer ⟨c, s.world⟩ = ⟨ending, b, t⟩ →
      Course taken used s t
        { s with world := b.world, compilers := s.compilers.insert name b.compiler }
  /-- The compiler in a slot is used and stays there. -/
  | works {s name c t b} : used (.slot name) → s.Holds (.slot name) c →
      Bench.Used ⟨c, s.world⟩ t b →
      Course taken used s t
        { s with world := b.world, compilers := s.compilers.insert name b.compiler }
  | created {s name options} : taken (.slot name) →
      Course taken used s [] { s with compilers := s.compilers.insert name (.fresh options) }
  /-- A new compiler is given the transformer in a slot. -/
  | createdWith {s name options other id} : taken (.slot name) →
      s.transformers.find? other = some id →
      Course taken used s []
        { s with compilers := s.compilers.insert name ((Compiler.fresh options).owning id) }
  | dropped {s name} : taken (.slot name) →
      Course taken used s [] { s with compilers := s.compilers.erase name }
  /-- A transformer is started and put into a slot. -/
  | started {s name id w t} : startTransformer s.world = ⟨.returned (.ok id), w, t⟩ →
      Course taken used s t { s with world := w, transformers := s.transformers.insert name id }
  | shared {s name id w t} :
      Downlevel.sharedTransformer s.world = ⟨.returned (.ok id), w, t⟩ →
      Course taken used s t { s with world := w, transformers := s.transformers.insert name id }

variable {taken used : Place → Prop} {s s₁ s' : Session E} {t u : List (Event E)}

theorem Course.pool_eq (h : s.Course taken used t s') : s'.pool = s.pool := by
  induction h with
  | trans _ _ ih ih' => exact ih'.trans ih
  | _ => rfl

theorem Course.keeps (h : s.Course taken used t s') : Keeps taken s t s' := by
  induction h with
  | rest => exact .refl _
  | trans _ _ ih ih' => exact ih.trans ih'
  | called h => exact .of_world h.keeps
  | requested _ h => exact .of_world ((Request.perform_keeps ..).run_eq h)
  | prepared hc h => exact .bench hc ((Bench.transformer_keeps _).run_eq h)
  | works _ hc h => exact .bench hc h.keeps
  | created htaken => exact .insert htaken fun _ => trivial
  | createdWith htaken hid => exact .insert htaken fun hs => hs.transformers _ _ hid
  | dropped htaken => exact .erase htaken
  | @started s name id w t h =>
    have hready := startTransformer_course h
    have hput : Keeps taken { s with world := w } []
        { s with world := w, transformers := s.transformers.insert name id } :=
      .insertTransformer fun _ => hready.lt
    simpa using (Keeps.of_world hready.keeps).trans hput
  | @shared s name id w t h =>
    have hshare := sharedTransformer_course h
    have hput : Keeps taken { s with world := w } []
        { s with world := w, transformers := s.transformers.insert name id } :=
      .insertTransformer fun hs => (hs.world.started id hshare.shared_eq).1
    simpa using (Keeps.of_world hshare.keeps).trans hput

/-! ## Acts in a session -/

theorem inWorld_apply {α : Type} {x : Act (Event E) (World E) α} {ending : Ending α} {w : World E}
    (h : x s.world = ⟨ending, w, t⟩) : inWorld x s = ⟨ending, { s with world := w }, t⟩ := by
  rw [inWorld, Act.within_apply, h]

theorem atBench_apply {α : Type} {name : String} {c : Compiler E} {x : Act (Event E) (Bench E) α}
    {ending : Ending α} {b : Bench E} (h : x ⟨c, s.world⟩ = ⟨ending, b, t⟩) :
    atBench name c x s = ⟨ending,
      { s with world := b.world, compilers := s.compilers.insert name b.compiler }, t⟩ := by
  rw [atBench, Act.within_apply, h]

theorem withCompiler_apply {name : String} {c : Compiler E} (hc : s.Holds (.slot name) c)
    (x : Compiler E → Act (Event E) (Session E) (Answer E)) : withCompiler name x s = x c s := by
  have hfind : s.compilers.find? name = some c := hc
  simp only [withCompiler, Act.get_bind_apply, hfind]

theorem course_pure {α : Type} (a : α) (s : Session E) :
    Act.Moves (Course taken used) (pure a : Act (Event E) (Session E) α) s := Course.rest

/-- What is done in between is answered. -/
theorem Course.answered {α β : Type} {x : Act (Event E) (Session E) α} {answer : α → β}
    (h : Act.Moves (Course taken used) x s) :
    Act.Moves (Course taken used) (do return answer (← x)) s :=
  h.bind Course.trans fun _ s' _ _ => course_pure _ s'

theorem withCompiler_course {name : String}
    {x : Compiler E → Act (Event E) (Session E) (Answer E)}
    (h : ∀ c, s.Holds (.slot name) c → Act.Moves (Course taken used) (x c) s) :
    Act.Moves (Course taken used) (withCompiler name x) s := by
  refine Act.Moves.bind Course.trans (course_pure s s) fun _ _ _ hget => ?_
  cases hget
  split
  · exact course_pure _ s
  · next c hc => exact h c hc

theorem makeCompiler_course {name : String} (htaken : taken (.slot name)) (setup : Setup E)
    (transformer : Option String) (s : Session E) :
    Act.Moves (Course taken used) (makeCompiler name setup transformer) s := by
  unfold makeCompiler
  split
  · exact course_pure _ s
  split
  · exact Course.created htaken
  · next other =>
    refine Act.Moves.bind Course.trans (course_pure s s) fun _ _ _ hget => ?_
    cases hget
    split
    · exact course_pure _ s
    · next id hid => exact Course.createdWith htaken hid

theorem sameTransformer_course (name other : String) (s : Session E) :
    Act.Moves (Course taken used) (sameTransformer name other) s := by
  refine withCompiler_course fun c hc => ?_
  have hfirst : Act.Moves (Course taken used) (atBench name c Bench.transformer) s :=
    Course.prepared hc rfl
  refine hfirst.bind Course.trans fun started s₁ _ _ => ?_
  rcases started with e | id
  · exact course_pure _ s₁
  refine withCompiler_course fun d hd => ?_
  have hsecond : Act.Moves (Course taken used) (atBench other d Bench.transformer) s₁ :=
    Course.prepared hd rfl
  refine hsecond.bind Course.trans fun started s₂ _ _ => ?_
  rcases started with e | id
  · exact course_pure _ s₂
  · exact course_pure _ s₂

/-- A transformer that somebody asked for is put into a slot, if there is one. -/
theorem putTransformer_course {x : Act (Event E) (World E) (Except EngineFailure TransformerId)}
    {name : String} (hcalled : s.world.Called (x s.world).trace (x s.world).state)
    (hput : ∀ id w t, x s.world = ⟨.returned (.ok id), w, t⟩ → s.Course taken used t
      { s with world := w, transformers := s.transformers.insert name id }) :
    Act.Moves (Course taken used)
      (do putTransformer name (← inWorld x) : Act (Event E) (Session E) (Answer E)) s := by
  rcases hrun : x s.world with ⟨(e | id) | text, w, t⟩ <;> rw [hrun] at hcalled <;>
    have hworld := inWorld_apply hrun
  · refine .of_eq (by rw [Act.bind_of_returned hworld, putTransformer, Act.pure_apply]) ?_
    simpa using Course.called hcalled
  · refine .of_eq (by rw [Act.bind_of_returned hworld, putTransformer, Act.modify_bind_apply,
      Act.pure_apply]) ?_
    simpa using hput id w t hrun
  · exact .of_eq (Act.bind_of_panicked hworld) (.called hcalled)

theorem run_course (name : String) (request : Request) (s : Session E) :
    Act.Moves (Course taken used) (perform (.run name request)) s := by
  refine Act.Moves.bind Course.trans (course_pure s s) fun _ _ _ hget => ?_
  cases hget
  split
  · exact course_pure _ s
  · next id hid =>
    have hrequested : Act.Moves (Course taken used) (inWorld (request.perform id)) s :=
      Course.requested hid rfl
    exact Course.answered hrequested

/-! ## The pool -/

/-- What is done.  Compilers are put to the places `taken` or taken away from there,
    and those at the places `used` work on texts. -/
inductive Turn (taken used : Place → Prop) (s : Session E) :
    List (Event E) → Session E → Prop
  | course {t : List (Event E)} {s' : Session E} : s.Course taken used t s' → Turn taken used s t s'
  /-- There is no pool any more. -/
  | emptied : (∀ i, taken (.queue i)) → Turn taken used s [] { s with pool := none }
  /-- A new pool was to be made, and there is none. -/
  | failed {t : List (Event E)} {w} : (∀ i, taken (.queue i)) → s.world.Called t w →
      Turn taken used s t { s with world := w, pool := none }
  | filled {size options schedule p w} {t : List (Event E)} : (∀ i, taken (.queue i)) →
      Pool.make size options schedule s.world = ⟨.returned (.ok p), w, t⟩ →
      Turn taken used s t { s with world := w, pool := some p }
  | acquired {name p c p'} : taken (.slot name) → (∀ i, taken (.queue i)) →
      s.pool = some p → p.take? = some (c, p') →
      Turn taken used s []
        { s with pool := some p', compilers := s.compilers.insert name c }
  | released {name p c} : taken (.slot name) → s.pool = some p → s.Holds (.slot name) c →
      Turn taken used s p.turnedAway
        { s with compilers := s.compilers.erase name, pool := some (p.given c) }
  /-- The compiler in front of the pool did a job and was given back. -/
  | worked {p c p' result b} {job : Job} {t : List (Event E)} : (∀ i, taken (.queue i)) → used (.queue 0) →
      s.pool = some p → p.take? = some (c, p') →
      Bench.compile job.source job.filename job.entry ⟨c, s.world⟩ =
        ⟨.returned result, b, t⟩ →
      Turn taken used s (t ++ p'.turnedAway)
        { s with world := b.world, pool := some (p'.given b.compiler) }
  /-- It panicked during the job. -/
  | brokenOff {p c p' text b} {job : Job} {t : List (Event E)} : (∀ i, taken (.queue i)) → used (.queue 0) →
      s.pool = some p → p.take? = some (c, p') →
      Bench.compile job.source job.filename job.entry ⟨c, s.world⟩ =
        ⟨.panicked text, b, t⟩ →
      Turn taken used s t { s with world := b.world, pool := some p' }

theorem turnedAway_keeps (p : Pool E) (s : Session E) : Keeps taken s p.turnedAway s :=
  Keeps.of_world (.of_ledger_eq rfl fun _ h => Pool.not_isLibrary_of_mem_turnedAway h)

/-- After a job the pool is another one. -/
theorem Keeps.repool_work (hqueue : ∀ i, taken (.queue i)) {p p' : Pool E} {c : Compiler E}
    (hp : s.pool = some p) (htake : p.take? = some (c, p')) {b : Bench E}
    (hbench : Bench.Keeps ⟨c, s.world⟩ t b) {pool : Pool E}
    (hpool : ∀ c' ∈ pool.waiting, c' ∈ p'.waiting ∨ c' = b.compiler) :
    Keeps taken s t { s with world := b.world, pool := some pool } := by
  obtain ⟨hwaiting, -⟩ := Pool.waiting_of_take? htake
  have hworld : Keeps taken s t { s with world := b.world } := .of_world hbench.world
  refine ⟨hbench.world, fun hs => ?_, fun place c' hnot hc' => ?_⟩
  · have hs' := hworld.coherent hs
    refine ⟨hs'.world, fun place c' hc' => ?_, hs'.transformers⟩
    cases place with
    | slot name => exact hs'.compilers (.slot name) c' hc'
    | queue i =>
      obtain ⟨_, ⟨⟩, hc'⟩ := hc'
      rcases hpool c' (List.mem_of_getElem? hc') with hc' | rfl
      · exact hs'.waiting hp (by simp [hwaiting, hc'])
      · exact hbench.fits hs.world (hs.waiting hp (by simp [hwaiting]))
  · cases place with
    | slot name => exact ⟨c', hc', .refl c'⟩
    | queue i => exact absurd (hqueue i) hnot

/-- Whatever is done keeps to the ledger, leaves references to what is there, and
    elsewhere than it says leaves compilers as they are, used at most. -/
theorem Turn.keeps (h : s.Turn taken used t s') : Keeps taken s t s' := by
  cases h with
  | course h => exact h.keeps
  | emptied hqueue => exact .repool nofun fun i _ hnot => absurd (hqueue i) hnot
  | failed hqueue h =>
    have hnone : Keeps taken s [] { s with pool := none } :=
      .repool nofun fun i _ hnot => absurd (hqueue i) hnot
    exact hnone.trans (.of_world h.keeps)
  | @filled size options schedule p w t hqueue h =>
    have hmaking := Pool.make_making h
    have hpooled : Keeps taken { s with world := w } [] { s with world := w, pool := some p } := by
      refine .repool (fun _ p' hp' c hc => ?_) fun i _ hnot => absurd (hqueue i) hnot
      cases hp'
      obtain ⟨id, hid, hown⟩ := hmaking.owned p c rfl hc
      rw [hown]
      exact hid
    simpa using (Keeps.of_world hmaking.keeps).trans hpooled
  | @acquired name p c p' htaken hqueue hp htake =>
    obtain ⟨hwaiting, -⟩ := Pool.waiting_of_take? htake
    have hput : Keeps taken s [] { s with compilers := s.compilers.insert name c } :=
      .insert htaken fun hs => hs.waiting hp (by simp [hwaiting])
    refine hput.trans (.repool ?_ fun i _ hnot => absurd (hqueue i) hnot)
    rintro hs _ ⟨⟩ c' hc'
    exact hs.waiting hp (by simp [hwaiting, hc'])
  | @released name p c htaken hp hc =>
    have hgiven : Keeps taken s [] { s with pool := some (p.given c) } := by
      refine .repool ?_ ?_
      · rintro hs _ ⟨⟩ c' hc'
        rcases Pool.mem_waiting_given hc' with hc' | rfl
        · exact hs.waiting hp hc'
        · exact hs.compilers (.slot name) c' hc
      · rintro i c' - ⟨p', hp', hc'⟩
        cases hp.symm.trans hp'
        exact ⟨_, rfl, Pool.getElem?_given c hc'⟩
    exact (hgiven.trans (.erase htaken)).trans (turnedAway_keeps p _)
  | @worked p c p' result b job t hqueue _ hp htake hrun =>
    have hbench := (Bench.compile_keeps ..).run_eq hrun
    refine .trans (.repool_work hqueue hp htake hbench ?_) (turnedAway_keeps p' _)
    exact fun c' hc' => Pool.mem_waiting_given hc'
  | brokenOff hqueue _ hp htake hrun =>
    have hbench := (Bench.compile_keeps ..).run_eq hrun
    exact .repool_work hqueue hp htake hbench fun c' hc' => .inl hc'

theorem makePool_turn (hqueue : ∀ i, taken (.queue i)) (size : Nat) (setup : Setup E)
    (schedule : List Nat) (s : Session E) :
    Act.Moves (Turn taken used) (makePool size setup schedule) s := by
  cases hoptions : setup.options with
  | error unknown =>
    simp only [Act.Moves, makePool, Act.modify_bind_apply, hoptions, Act.pure_apply]
    exact .emptied hqueue
  | ok options =>
    rcases hrun : Pool.make size options schedule s.world with ⟨(e | p) | text, w, t⟩ <;>
      have hworld : inWorld (Pool.make size options schedule) { s with pool := none } = _ :=
        inWorld_apply hrun <;>
      simp only [Act.Moves, makePool, Act.modify_bind_apply, hoptions]
    · rw [Act.bind_of_returned hworld]
      simpa using Turn.failed hqueue (.fill hrun)
    · rw [Act.bind_of_returned hworld]
      simpa using Turn.filled hqueue hrun
    · rw [Act.bind_of_panicked hworld]
      exact Turn.failed hqueue (.fill hrun)

/-- The compiler in front of the pool is taken. -/
theorem takeCompiler_apply {p p' : Pool E} {c : Compiler E} (name : String) (empty : Answer E)
    (hp : s.pool = some p) (htake : p.take? = some (c, p')) :
    takeCompiler name empty s = ⟨.returned (.stock p'.stock),
      { s with pool := some p', compilers := s.compilers.insert name c }, []⟩ := by
  simp only [takeCompiler, withPool, Act.get_bind_apply, hp, htake, Act.modify_bind_apply,
    Act.pure_apply]

theorem takeCompiler_turn {name : String} (htaken : taken (.slot name))
    (hqueue : ∀ i, taken (.queue i)) (empty : Answer E) (s : Session E) :
    Act.Moves (Turn taken used) (takeCompiler name empty) s := by
  cases hp : s.pool with
  | none =>
    have hrun : takeCompiler name empty s = ⟨.returned .noSlot, s, []⟩ := by
      simp only [takeCompiler, withPool, Act.get_bind_apply, hp, Act.pure_apply]
    exact .of_eq hrun (.course .rest)
  | some p =>
    cases htake : p.take? with
    | none =>
      have hrun : takeCompiler name empty s = ⟨.returned empty, s, []⟩ := by
        simp only [takeCompiler, withPool, Act.get_bind_apply, hp, htake, Act.pure_apply]
      exact .of_eq hrun (.course .rest)
    | some front =>
      obtain ⟨c, p'⟩ := front
      exact .of_eq (takeCompiler_apply name empty hp htake) (.acquired htaken hqueue hp htake)

theorem giveBack_apply (p : Pool E) (c : Compiler E) (s : Session E) :
    giveBack p c s =
      ⟨.returned (p.given c).stock, { s with pool := some (p.given c) }, p.turnedAway⟩ := by
  rw [giveBack, Act.within_apply, Act.bind_of_returned (Pool.release_apply p c)]
  simp

/-- The compiler in a slot is given to the pool as it is. -/
theorem releaseCompiler_apply {name : String} {p : Pool E} {c : Compiler E} (hp : s.pool = some p)
    (hc : s.Holds (.slot name) c) :
    releaseCompiler name s = ⟨.returned (.stock (p.given c).stock),
      { s with compilers := s.compilers.erase name, pool := some (p.given c) }, p.turnedAway⟩ := by
  have hfind : s.compilers.find? name = some c := hc
  simp only [releaseCompiler, withPool, withCompiler, Act.get_bind_apply, hp, hfind,
    Act.modify_bind_apply]
  rw [Act.bind_of_returned (giveBack_apply p c _)]
  simp

theorem releaseCompiler_turn {name : String} (htaken : taken (.slot name)) (s : Session E) :
    Act.Moves (Turn taken used) (releaseCompiler name) s := by
  cases hp : s.pool with
  | none =>
    have hrun : releaseCompiler name s = ⟨.returned .noSlot, s, []⟩ := by
      simp [releaseCompiler, withPool, hp]
    exact .of_eq hrun (.course .rest)
  | some p =>
    cases hc : s.compilers.find? name with
    | none =>
      have hrun : releaseCompiler name s = ⟨.returned .noSlot, s, []⟩ := by
        simp [releaseCompiler, withPool, withCompiler, hp, hc]
      exact .of_eq hrun (.course .rest)
    | some c => exact .of_eq (releaseCompiler_apply hp hc) (.released htaken hp hc)

/-- What a job does, the compiler in front of the pool having been taken. -/
theorem work_apply {p : Pool E} {c : Compiler E} {job : Job} {b : Bench E}
    {ending : Ending (Except CompileError (CompiledUnit E.Program))}
    (h : Bench.compile job.source job.filename job.entry ⟨c, s.world⟩ = ⟨ending, b, t⟩) :
    work p c job s =
      match ending with
      | .returned result => ⟨.returned (.returned result),
          { s with world := b.world, pool := some (p.given b.compiler) }, t ++ p.turnedAway⟩
      | .panicked text => ⟨.returned (.panicked text), { s with world := b.world }, t⟩ := by
  have hinner : (do
      let ending ← (Bench.compile job.source job.filename job.entry).contain
      return (ending, (← Act.get).compiler) : Act (Event E) (Bench E) _) ⟨c, s.world⟩ =
      ⟨.returned (ending, b.compiler), b, t⟩ := by
    rw [Act.bind_of_returned (by rw [Act.contain_apply, h])]
    simp
  rw [work, Act.bind_of_returned (by rw [Act.within_apply, hinner])]
  rcases ending with result | text
  · dsimp only
    rw [Act.bind_of_returned (giveBack_apply p _ _)]
    simp
  · simp

/-- A job is done by the compiler in front of the pool, which goes back unless it
    panicked. -/
theorem work_turn (hqueue : ∀ i, taken (.queue i)) (hused : used (.queue 0)) {p p' : Pool E}
    {c : Compiler E} (hp : s.pool = some p) (htake : p.take? = some (c, p')) (job : Job) :
    s.Turn taken used (work p' c job { s with pool := some p' }).trace
      (work p' c job { s with pool := some p' }).state := by
  rcases hrun : Bench.compile job.source job.filename job.entry ⟨c, s.world⟩ with
    ⟨result | text, b, t⟩ <;> rw [work_apply (s := { s with pool := some p' }) hrun]
  · exact .worked hqueue hused hp htake hrun
  · exact .brokenOff hqueue hused hp htake hrun

/-- A job comes to an end, if only in a panic that the pool survives. -/
theorem work_returned (p : Pool E) (c : Compiler E) (job : Job) (s : Session E) :
    ∃ result s' t, work p c job s = ⟨.returned result, s', t⟩ := by
  rcases hrun : Bench.compile job.source job.filename job.entry ⟨c, s.world⟩ with
    ⟨result | text, b, t⟩
  · exact ⟨_, _, _, work_apply hrun⟩
  · exact ⟨_, _, _, work_apply hrun⟩

/-! ## All steps -/

/-- The places to which a step puts something else, or from which it takes away. -/
def takes : Step E → Place → Prop
  | .compiler name .., .slot other | .dropCompiler name, .slot other | .acquire name, .slot other
  | .tryAcquire name, .slot other | .release name, .slot other => other = name
  | .pool .., .queue _ | .dropPool, .queue _ | .acquire _, .queue _ | .tryAcquire _, .queue _ => True
  | _, _ => False

/-- The places of the compilers that a step puts to work on a text. -/
def uses : Step E → Place → Prop
  | .compile name _, place | .transform name .., place => place = .slot name
  | _, _ => False

/-- A reset comes into effect. -/
def CanReset (s : Session E) : Prop := s.pool = none ∧ s.compilers.entries = []

/-- The step is done at once, and it is no reset that comes into effect. -/
def Plain (s : Session E) : Step E → Prop
  | .reset => ¬ s.CanReset
  | .parallel _ => False
  | _ => True

theorem reset_apply (h : s.CanReset) :
    perform .reset s = ⟨.returned (.flag true), { s with world := s.world.forget }, []⟩ := by
  have hcond : s.pool.isNone ∧ s.compilers.entries.isEmpty := by simp [h.1, h.2]
  simp only [perform, Act.get_bind_apply, if_pos hcond]
  rfl

theorem reset_apply_of_not (h : ¬ s.CanReset) :
    perform .reset s = ⟨.returned (.flag false), s, []⟩ := by
  have hnot : ¬ (s.pool.isNone ∧ s.compilers.entries.isEmpty) := by
    rintro ⟨hpool, hentries⟩
    exact h ⟨Option.isNone_iff_eq_none.1 hpool, List.isEmpty_iff.1 hentries⟩
  simp only [perform, Act.get_bind_apply, if_neg hnot, Act.pure_apply]

/-- The step has to do with the pool. -/
def Step.isPooling : Step E → Prop
  | .pool .. | .dropPool | .acquire _ | .tryAcquire _ | .release _ | .parallel _ => True
  | _ => False

theorem perform_course {step : Step E} (hstep : ¬ Step.isPooling step) (hplain : s.Plain step) :
    Act.Moves (Course (takes step) (uses step)) (perform step) s := by
  cases step with
  | compiler name setup transformer =>
    have htaken : takes (.compiler name setup transformer) (.slot name) := rfl
    exact makeCompiler_course htaken setup transformer s
  | compile name job =>
    refine withCompiler_course fun c hc => Course.answered ?_
    exact Course.works rfl hc (.compiles rfl)
  | transform name source filename inputMap =>
    refine withCompiler_course fun c hc => Course.answered ?_
    exact Course.works rfl hc (.transforms rfl)
  | prepare name =>
    refine withCompiler_course fun c hc => Course.answered ?_
    exact Course.prepared hc rfl
  | same name other => exact sameTransformer_course name other s
  | dropCompiler name => exact Course.dropped rfl
  | transformer name => exact putTransformer_course (.start rfl) fun id w t h => .started h
  | sharedTransformer name => exact putTransformer_course (.share rfl) fun id w t h => .shared h
  | run name request => exact run_course name request s
  | build =>
    refine Course.answered ?_
    exact Course.called (.build rfl)
  | status => exact Course.rest
  | reset => exact .of_eq (reset_apply_of_not hplain) Course.rest
  | pool | dropPool | acquire | tryAcquire | release | parallel => exact absurd trivial hstep

theorem perform_turn {step : Step E} (hplain : s.Plain step) :
    Act.Moves (Turn (takes step) (uses step)) (perform step) s := by
  cases step with
  | pool size setup schedule => exact makePool_turn (fun _ => trivial) size setup schedule s
  | dropPool => exact Turn.emptied fun _ => trivial
  | acquire name =>
    have htaken : takes (.acquire name : Step E) (.slot name) := rfl
    exact takeCompiler_turn htaken (fun _ => trivial) _ s
  | tryAcquire name =>
    have htaken : takes (.tryAcquire name : Step E) (.slot name) := rfl
    exact takeCompiler_turn htaken (fun _ => trivial) _ s
  | release name =>
    have htaken : takes (.release name : Step E) (.slot name) := rfl
    exact releaseCompiler_turn htaken s
  | parallel jobs => exact absurd hplain id
  | _ => exact Turn.course (perform_course id hplain)

end Session

end Downlevel
