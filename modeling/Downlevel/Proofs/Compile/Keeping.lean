/-
  Downlevel — compilers keep to the ledger.

  Whatever a compiler does, it does to the transform library what the ledger of
  its world allows.  What it holds on to is its transformer: one of its own stays
  what it is, and the shared one is that of the world.

  * `Attachment.Fits`: the transformer that a compiler refers to is there;
  * `Compiler.Becomes`: what a compiler may become by being used;
  * `Bench.compile_keeps`, `Bench.transform_keeps`: a compiler at work.
-/
import Downlevel.Proofs.Compile.Calls
import Downlevel.Proofs.Transform.Reliable
import Downlevel.Proofs.World.Starting

namespace Downlevel

variable {E : Engines}

/-! ## The host -/

theorem World.HostOnly.ledger_eq {w w' : World E} (h : w.HostOnly w') : w'.ledger = w.ledger := by
  obtain ⟨host, files, rfl⟩ := h
  rfl

/-! ## Transforms -/

namespace Request

theorem not_isLibrary_of_mem_warnings {r : Request} {e : Event E} (h : e ∈ r.warnings) :
    ¬ e.isLibrary := by
  unfold warnings at h
  split at h
  · rw [List.mem_singleton.1 h]
    nofun
  · cases h

theorem warnings_keeps (r : Request) (w : World E) : w.Keeps r.warnings w :=
  .of_ledger_eq rfl fun _ h => not_isLibrary_of_mem_warnings h

/-- A request calls a runtime that is live, or it does nothing. -/
theorem perform_cases (r : Request) (id : TransformerId) (w : World E) :
    (∃ ending, r.perform id w = ⟨ending, w, []⟩) ∨
      ∃ runtime runtime' outcome library rest ending,
        w.transformers[id]? = some (.live runtime) ∧ (∀ e ∈ rest, ¬ e.isLibrary) ∧
        r.perform id w = ⟨ending,
          { w with
            library := library
            transformers := w.transformers.set id (.after runtime' outcome) },
          r.warnings ++ .transform id r.source r.options runtime' outcome :: rest⟩ := by
  rcases r.exists_call_or_not_live id w with ⟨runtime, outcome, runtime', library, hlive, hcall⟩ |
    hdead
  · have hrun := perform_of_live hlive hcall
    right
    rcases outcome with (e | raw) | text
    · exact ⟨_, _, _, _, [], _, hlive, List.forall_mem_nil _, hrun⟩
    · refine ⟨_, _, _, _, [.log (.transformed r.filename)], _, hlive, ?_, hrun⟩
      simp [Event.isLibrary, Event.isStartUp, Event.isTransform]
    · exact ⟨_, _, _, _, [], _, hlive, List.forall_mem_nil _, hrun⟩
  · exact .inl ⟨_, perform_of_not_live hdead⟩

theorem perform_keeps (r : Request) (id : TransformerId) (w : World E) :
    Act.Moves World.Keeps (r.perform id) w := by
  rcases r.perform_cases id w with
    ⟨ending, hrun⟩ | ⟨runtime, runtime', outcome, library, rest, ending, hlive, hrest, hrun⟩
  · exact .of_eq hrun (.refl w)
  · have hcalled : w.Keeps [.transform id r.source r.options runtime' outcome]
        { w with
          library := library
          transformers := w.transformers.set id (.after runtime' outcome) } :=
      ⟨⟨⟨runtime, hlive⟩, trivial⟩, rfl⟩
    exact .of_eq hrun ((warnings_keeps r w).trans (hcalled.trans (.of_ledger_eq rfl hrest)))

end Request

/-! ## What a compiler holds on to -/

/-- What a compiler refers to is there. -/
def Attachment.Fits (w : World E) : Attachment → Prop
  | own id => id < w.transformers.length
  | shared none => True
  | shared (some id) => w.shared = some (.ok id)

/-- What an attachment may become: a transformer, once there is one, stays. -/
def Attachment.Becomes (a a' : Attachment) : Prop :=
  a' = a ∨ a = .shared none ∧ ∃ id, a' = .shared (some id)

/-- What a compiler may become. -/
def Compiler.Becomes (c c' : Compiler E) : Prop :=
  c'.options = c.options ∧ c.attachment.Becomes c'.attachment

namespace Attachment

variable {a a' a'' : Attachment} {w w' : World E} {t : List (Event E)}

theorem Fits.keeps (h : a.Fits w) (hw : w.ledger.Coherent) (hkeeps : w.Keeps t w') :
    a.Fits w' := by
  rcases a with id | _ | id
  · exact Nat.lt_of_lt_of_le h hkeeps.length_le
  · trivial
  · exact (hkeeps.shared_eq hw h).1

/-- Numbers that fit are numbers of transformers. -/
theorem Fits.lt (h : a.Fits w) (hw : w.ledger.Coherent) {id : TransformerId}
    (hid : a.id? = some id) : id < w.transformers.length := by
  rcases a with id' | _ | id'
  · cases hid
    exact h
  · cases hid
  · cases hid
    exact (hw.started id h).1

theorem Becomes.trans (h : a.Becomes a') (h' : a'.Becomes a'') : a.Becomes a'' := by
  rcases h' with rfl | ⟨rfl, id, rfl⟩
  · exact h
  rcases h with h | ⟨-, id', h⟩
  · exact .inr ⟨h.symm, id, rfl⟩
  · cases h

/-- A transformer that a compiler got hold of stays. -/
theorem Becomes.id?_eq (h : a.Becomes a') {id : TransformerId} (hid : a.id? = some id) :
    a'.id? = some id := by
  rcases h with rfl | ⟨rfl, -⟩
  · exact hid
  · cases hid

end Attachment

theorem Compiler.Becomes.refl (c : Compiler E) : c.Becomes c := ⟨rfl, .inl rfl⟩

theorem Compiler.Becomes.trans {c c' c'' : Compiler E} (h : c.Becomes c') (h' : c'.Becomes c'') :
    c.Becomes c'' :=
  ⟨h'.1.trans h.1, h.2.trans h'.2⟩

/-! ## Compilers at work -/

namespace World

variable {w w' : World E} {t : List (Event E)}

theorem BuildCourse.shared_eq {outcome : Outcome E.Bytecode} (h : w.BuildCourse t outcome w') :
    w'.shared = w.shared := by
  cases h <;> rfl

theorem StartCourse.shared_eq {bytecode : E.Bytecode} {outcome : Outcome TransformerId}
    (h : w.StartCourse bytecode t outcome w') : w'.shared = w.shared := by
  cases h <;> rfl

theorem ReadyCourse.shared_eq {outcome : Outcome TransformerId} (h : w.ReadyCourse t outcome w') :
    w'.shared = w.shared := by
  cases h with
  | refused h | panicked h => exact h.shared_eq
  | built h hstart => exact hstart.shared_eq.trans h.shared_eq

/-- What somebody was told of the shared transformer is known. -/
theorem ShareCourse.shared_eq {started : Except EngineFailure TransformerId}
    (h : w.ShareCourse t (.returned started) w') : w'.shared = some started := by
  cases h with
  | known hshared => exact hshared
  | tried => rfl

end World

namespace Bench

/-- How getting hold of its transformer may go for a compiler. -/
inductive AttachCourse (b : Bench E) :
    List (Event E) → Ending (Except CompileError TransformerId) → Bench E → Prop
  /-- It has one. -/
  | held {id} : b.compiler.attachment.id? = some id → AttachCourse b [] (.returned (.ok id)) b
  | shared {t id w} : b.compiler.attachment = .shared none →
      b.world.ShareCourse t (.returned (.ok id)) w →
      AttachCourse b t (.returned (.ok id)) ⟨⟨b.compiler.options, .shared (some id)⟩, w⟩
  | refused {t e w} : b.compiler.attachment = .shared none →
      b.world.ShareCourse t (.returned (.error e)) w →
      AttachCourse b t (.returned (.error (.notStarted e))) { b with world := w }
  | panicked {t text w} : b.compiler.attachment = .shared none →
      b.world.ShareCourse t (.panicked text) w →
      AttachCourse b t (.panicked text) { b with world := w }

theorem transformer_course {b b' : Bench E} {t : List (Event E)}
    {ending : Ending (Except CompileError TransformerId)} (h : transformer b = ⟨ending, b', t⟩) :
    b.AttachCourse t ending b' := by
  obtain ⟨⟨options, attachment⟩, w⟩ := b
  rcases attachment with id | _ | id
  · cases h
    exact .held rfl
  · rcases hrun : sharedTransformer w with ⟨(e | id) | text, w', t'⟩ <;>
      have hworld := inWorld_apply (b := ⟨⟨options, .shared none⟩, w⟩) hrun <;>
      have hcourse := sharedTransformer_course hrun <;>
      simp only [transformer, Act.get_bind_apply] at h
    · rw [Act.bind_of_returned hworld] at h
      simp only [Act.pure_apply, List.append_nil] at h
      cases h
      exact .refused rfl hcourse
    · rw [Act.bind_of_returned hworld] at h
      simp only [Act.modify_bind_apply, Act.pure_apply, List.append_nil] at h
      cases h
      exact .shared rfl hcourse
    · rw [Act.bind_of_panicked hworld] at h
      cases h
      exact .panicked rfl hcourse
  · cases h
    exact .held rfl

/-- What a compiler did in its world keeps to the ledger, and the compiler still is
    what it was. -/
structure Keeps (b : Bench E) (t : List (Event E)) (b' : Bench E) : Prop where
  world : b.world.Keeps t b'.world
  compiler : b.compiler.Becomes b'.compiler
  fits : b.world.ledger.Coherent → b.compiler.attachment.Fits b.world →
    b'.compiler.attachment.Fits b'.world

namespace Keeps

variable {b b₁ b' : Bench E} {t u : List (Event E)}

theorem trans (h : b.Keeps t b₁) (h' : b₁.Keeps u b') : b.Keeps (t ++ u) b' where
  world := h.world.trans h'.world
  compiler := h.compiler.trans h'.compiler
  fits hw hfits := h'.fits (h.world.coherent hw) (h.fits hw hfits)

theorem of_world {w : World E} (h : b.world.Keeps t w) : b.Keeps t { b with world := w } where
  world := h
  compiler := .refl _
  fits hw hfits := hfits.keeps hw h

end Keeps

theorem moves_pure {α : Type} (a : α) (b : Bench E) :
    Act.Moves Keeps (pure a : Act (Event E) (Bench E) α) b := Keeps.of_world (.refl _)

theorem inWorld_keeps {α : Type} {x : Act (Event E) (World E) α} {b : Bench E}
    (h : Act.Moves World.Keeps x b.world) : Act.Moves Keeps (inWorld x) b := Keeps.of_world h

theorem AttachCourse.keeps {b b' : Bench E} {t : List (Event E)}
    {ending : Ending (Except CompileError TransformerId)} (h : b.AttachCourse t ending b') :
    b.Keeps t b' := by
  cases h with
  | held => exact .of_world (.refl _)
  | shared hnone hshare =>
    exact ⟨hshare.keeps, ⟨rfl, .inr ⟨hnone, _, rfl⟩⟩, fun _ _ => hshare.shared_eq⟩
  | refused _ hshare | panicked _ hshare => exact .of_world hshare.keeps

theorem transformer_keeps (b : Bench E) : Act.Moves Keeps transformer b :=
  (transformer_course rfl).keeps

theorem transform_keeps (source filename : String) (inputMap : Option Bytes) (b : Bench E) :
    Act.Moves Keeps (transform source filename inputMap) b := by
  refine (transformer_keeps b).bind Keeps.trans fun started b' _ _ => ?_
  rcases started with e | id
  · exact moves_pure _ b'
  · exact inWorld_keeps (Request.perform_keeps _ id b'.world)

/-- What a compile does to the library, if anything. -/
inductive Compiles (b : Bench E) (source filename : String) (entry : Bool) :
    List (Event E) → Ending (Except CompileError (CompiledUnit E.Program)) → Bench E → Prop
  /-- It is left alone. -/
  | alone {t result w} : b.world.HostOnly w → (∀ x ∈ t, ¬ x.isLibrary) →
      (∀ e, result ≠ .error (.notStarted e)) →
      Compiles b source filename entry t (.returned result) { b with world := w }
  /-- It is called in a transform after the first attempt. -/
  | through {first e map w answer b₁ u second w₂ ending} :
      b.compiler.options.mode = .extended →
      b.compiler.options.attempt source filename entry none b.world =
        ⟨.returned (.rejected e map), w, first⟩ →
      b.world.HostOnly w → (∀ x ∈ first, ¬ x.isLibrary) →
      transform source filename map { b with world := w } = ⟨answer, b₁, u⟩ →
      b₁.world.HostOnly w₂ → (∀ x ∈ second, ¬ x.isLibrary) →
      (∀ error, ending = .returned (.error (.notStarted error)) →
        answer = .returned (.error (.notStarted error))) →
      (∀ text, ending = .panicked text ↔ answer = .panicked text) →
      Compiles b source filename entry
        (first ++ .log (.transforming filename .extended e) :: (u ++ second)) ending
        { b₁ with world := w₂ }

/-- A compile calls the library in a single transform, if at all. -/
theorem compile_compiles {source filename : String} {entry : Bool} {b b' : Bench E}
    {ending : Ending (Except CompileError (CompiledUnit E.Program))} {t : List (Event E)}
    (h : compile source filename entry b = ⟨ending, b', t⟩) :
    b.Compiles source filename entry t ending b' := by
  -- a transform without code is the last thing that happens
  have hlast {first e map w answer b₁ u ending} (hmode : b.compiler.options.mode = .extended)
      (hfirst : b.compiler.options.Attempt source filename entry none b.world first
        (.rejected e map) w)
      (hu : Transformation { b with world := w } source filename map u answer b₁)
      (hstart : ∀ error, ending = .returned (.error (.notStarted error)) →
        answer = .returned (.error (.notStarted error)))
      (hpanic : ∀ text, ending = .panicked text ↔ answer = .panicked text) :
      b.Compiles source filename entry (first ++ .log (.transforming filename .extended e) :: u)
        ending b₁ := by
    have hthrough := Compiles.through hmode hfirst.run hfirst.hostOnly hfirst.course.not_isLibrary
      hu.run (.refl b₁.world) (List.forall_mem_nil _) hstart hpanic
    simpa using hthrough
  cases compile_eq_iff.1 h with
  | direct hfirst =>
    refine .alone hfirst.hostOnly hfirst.course.not_isLibrary fun e => ?_
    rintro rfl
    cases hfirst.course
  | base _ hfirst => exact .alone hfirst.hostOnly hfirst.course.not_isLibrary nofun
  | panicked hmode hfirst hu =>
    exact hlast hmode hfirst hu nofun fun text => by simp
  | failed hmode hfirst hu =>
    refine hlast hmode hfirst hu (fun error herror => ?_) fun text => by simp
    cases herror
    rfl
  | transformed hmode hfirst hu hsecond =>
    refine .through hmode hfirst.run hfirst.hostOnly hfirst.course.not_isLibrary hu.run
      hsecond.hostOnly hsecond.course.not_isLibrary (fun error herror => ?_) fun text => by simp
    cases herror
    cases hsecond.course
  | rejected hmode hfirst hu hsecond =>
    exact .through hmode hfirst.run hfirst.hostOnly hfirst.course.not_isLibrary hu.run
      hsecond.hostOnly hsecond.course.not_isLibrary nofun fun text => by simp

theorem Compiles.keeps {source filename : String} {entry : Bool} {b b' : Bench E}
    {ending : Ending (Except CompileError (CompiledUnit E.Program))} {t : List (Event E)}
    (h : b.Compiles source filename entry t ending b') : b.Keeps t b' := by
  have hhost {b : Bench E} {w : World E} {t : List (Event E)} (hw : b.world.HostOnly w)
      (ht : ∀ x ∈ t, ¬ x.isLibrary) : b.Keeps t { b with world := w } :=
    .of_world (.of_ledger_eq hw.ledger_eq ht)
  cases h with
  | alone hw ht _ => exact hhost hw ht
  | @through first e _ w _ b₁ u second _ _ _ _ hw hfirst hu hw₂ hsecond =>
    have hlogged : Keeps { b with world := w } [.log (.transforming filename .extended e)]
        { b with world := w } := hhost (.refl w) (by simp [Event.isLibrary, Event.isStartUp,
          Event.isTransform])
    have htransform := (transform_keeps ..).run_eq hu
    exact (hhost hw hfirst).trans (hlogged.trans (htransform.trans (hhost hw₂ hsecond)))

theorem compile_keeps (source filename : String) (entry : Bool) (b : Bench E) :
    Act.Moves Keeps (compile source filename entry) b :=
  (compile_compiles rfl).keeps

/-! ## Compilers that have their transformer -/

/-- The compiler is as it was, and nothing was built or started. -/
structure Spares (b : Bench E) (t : List (Event E)) (b' : Bench E) : Prop where
  compiler : b'.compiler = b.compiler
  build : b'.world.build = b.world.build
  shared : b'.world.shared = b.world.shared
  events (e) : e ∈ t → ¬ e.isStartUp

namespace Spares

variable {b b₁ b' : Bench E} {t u : List (Event E)}

theorem refl (b : Bench E) : b.Spares [] b := ⟨rfl, rfl, rfl, List.forall_mem_nil _⟩

theorem trans (h : b.Spares t b₁) (h' : b₁.Spares u b') : b.Spares (t ++ u) b' where
  compiler := h'.compiler.trans h.compiler
  build := h'.build.trans h.build
  shared := h'.shared.trans h.shared
  events e he := (List.mem_append.1 he).elim (h.events e) (h'.events e)

end Spares

theorem perform_spares (r : Request) (id : TransformerId) (b : Bench E) :
    Act.Moves Spares (inWorld (r.perform id)) b := by
  rcases r.perform_cases id b.world with
    ⟨ending, hrun⟩ | ⟨runtime, runtime', outcome, library, rest, ending, hlive, hrest, hrun⟩
  · exact .of_eq (inWorld_apply hrun) (.refl b)
  · refine .of_eq (inWorld_apply hrun) ⟨rfl, rfl, rfl, fun e he hstart => ?_⟩
    have hlibrary := Event.isLibrary_of_isStartUp hstart
    rcases List.mem_append.1 he with he | he
    · exact Request.not_isLibrary_of_mem_warnings he hlibrary
    rcases List.mem_cons.1 he with rfl | he
    · cases hstart
    · exact hrest e he hlibrary

/-- A compiler that has its transformer has it at once. -/
theorem transformer_of_id? {b : Bench E} {id : TransformerId}
    (hid : b.compiler.attachment.id? = some id) :
    transformer b = ⟨.returned (.ok id), b, []⟩ := by
  obtain ⟨⟨options, own | _ | shared⟩, w⟩ := b <;> cases hid <;> rfl

section
variable {b : Bench E} {id : TransformerId} (hid : b.compiler.attachment.id? = some id)
include hid

theorem transform_spares (source filename : String) (inputMap : Option Bytes) :
    Act.Moves Spares (transform source filename inputMap) b := by
  have hrun := transformer_of_id? hid
  refine (Act.Moves.of_eq hrun (Spares.refl b)).bind Spares.trans fun started b' _ h => ?_
  cases hrun.symm.trans h
  exact perform_spares _ id b

theorem compile_spares (source filename : String) (entry : Bool) :
    Act.Moves Spares (compile source filename entry) b := by
  have hhost {b : Bench E} {w : World E} {t : List (Event E)} (hw : b.world.HostOnly w)
      (ht : ∀ x ∈ t, ¬ x.isLibrary) : b.Spares t { b with world := w } :=
    ⟨rfl, congrArg Ledger.build hw.ledger_eq, congrArg Ledger.shared hw.ledger_eq,
      fun e he hstart => ht e he (Event.isLibrary_of_isStartUp hstart)⟩
  rcases hrun : compile source filename entry b with ⟨ending, b', t⟩
  refine .of_eq hrun ?_
  cases compile_compiles hrun with
  | alone hw ht _ => exact hhost hw ht
  | @through first e map w _ b₁ u second _ _ _ _ hw hfirst hu hw₂ hsecond =>
    have hlogged : Spares { b with world := w } [.log (.transforming filename .extended e)]
        { b with world := w } := ⟨rfl, rfl, rfl, by simp [Event.isStartUp]⟩
    have htransform : Spares { b with world := w } u b₁ :=
      (transform_spares (b := { b with world := w }) hid source filename map).run_eq hu
    exact (hhost hw hfirst).trans (hlogged.trans (htransform.trans (hhost hw₂ hsecond)))

end

end Bench

end Downlevel
