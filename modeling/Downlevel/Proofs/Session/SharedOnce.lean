/-
  Downlevel — one transformer for all who share it.

  Between two resets the shared transformer is started by whoever asks for it
  first, and from then on everybody who asks is told the same: that transformer,
  or why there is none.  A compiler that has its transformer, be it the shared one
  or one of its own, has it ever after and asks nobody.

  * `World.Asked`: what a request for the shared transformer comes to;
  * `Epoch.sharedStarts_eq`: how often it is started;
  * `History.shared_once`: the shared transformer in every history.
-/
import Downlevel.Legacy.Engines
import Downlevel.Proofs.Session.Following
import Downlevel.Proofs.Session.Requests

namespace Downlevel

variable {E : Engines}

/-! ## Asking for the shared transformer -/

/-- Somebody asked for the shared transformer and was told `outcome`. -/
structure World.Asked (w : World E) (t : List (Event E)) (outcome : Outcome TransformerId)
    (w' : World E) : Prop where
  /-- What is known is told, and nothing is done. -/
  known (started) : w.shared = some started → outcome = .returned started ∧ t = [] ∧ w' = w
  /-- While nothing is known a transformer is started, -/
  tried : w.shared = none → ∃ u w₁, t = .log .startingShared :: u ∧ w.ReadyCourse u outcome w₁
  /-- and what comes of it is known then. -/
  settled (started) : outcome = .returned started → w'.shared = some started
  /-- After a panic nothing is known. -/
  panicked (text) : outcome = .panicked text → w'.shared = none

theorem World.ShareCourse.asked {w w' : World E} {t : List (Event E)}
    {outcome : Outcome TransformerId} (h : w.ShareCourse t outcome w') :
    w.Asked t outcome w' := by
  have hsettled (started : Except EngineFailure TransformerId)
      (houtcome : outcome = .returned started) : w'.shared = some started := by
    subst houtcome
    exact h.shared_eq
  cases h with
  | known hknown =>
    refine ⟨fun started hstarted => ?_, fun hnone => absurd (hknown.symm.trans hnone) nofun,
      hsettled, nofun⟩
    cases hknown.symm.trans hstarted
    exact ⟨rfl, rfl, rfl⟩
  | tried hnone hready =>
    exact ⟨fun started hstarted => absurd (hnone.symm.trans hstarted) nofun,
      fun _ => ⟨_, _, rfl, hready⟩, hsettled, nofun⟩
  | panicked hnone hready =>
    exact ⟨fun started hstarted => absurd (hnone.symm.trans hstarted) nofun,
      fun _ => ⟨_, _, rfl, hready⟩, hsettled, fun _ _ => hready.shared_eq.trans hnone⟩

/-! ## Compilers -/

/-- The compiler was given no transformer of its own. -/
def Compiler.Shares (c : Compiler E) : Prop := ∃ id, c.attachment = .shared id

/-- The compiler after it was told of the shared transformer. -/
def Compiler.attached (c : Compiler E) : Outcome TransformerId → Compiler E
  | .returned (.ok id) => { c with attachment := .shared (some id) }
  | _ => c

theorem Compiler.Shares.becomes {c c' : Compiler E} (h : c.Shares) (hbecomes : c.Becomes c') :
    c'.Shares := by
  rcases hbecomes.2 with hsame | ⟨-, id, hid⟩
  · rw [Shares, hsame]
    exact h
  · exact ⟨_, hid⟩

namespace Bench

variable {b b' : Bench E} {t : List (Event E)} {id : TransformerId}

/-- A compiler without a transformer asks for the shared one. -/
theorem transformer_of_unattached (hnone : b.compiler.attachment = .shared none) :
    ∃ outcome w u, b.world.Asked u outcome w ∧
      transformer b = ⟨Session.told outcome, ⟨b.compiler.attached outcome, w⟩, u⟩ := by
  rcases hrun : transformer b with ⟨ending, b', u⟩
  cases transformer_course hrun with
  | held hid =>
    rw [hnone] at hid
    cases hid
  | shared _ hshare => exact ⟨_, _, _, hshare.asked, rfl⟩
  | refused _ hshare => exact ⟨_, _, _, hshare.asked, rfl⟩
  | panicked _ hshare => exact ⟨_, _, _, hshare.asked, rfl⟩

/-- What a compiler gets hold of that has none of its own is the shared one. -/
theorem AttachCourse.shared_eq (h : b.AttachCourse t (.returned (.ok id)) b')
    (hshares : b.compiler.Shares) (hfits : b.compiler.attachment.Fits b.world) :
    b'.world.shared = some (.ok id) := by
  cases h with
  | held hid =>
    obtain ⟨id', hshared⟩ := hshares
    rw [hshared] at hid hfits
    cases hid
    exact hfits
  | shared _ hshare => exact hshare.shared_eq

end Bench

/-! ## Epochs -/

namespace Session

variable {s s' : Session E} {past t u : List (Event E)}

/-- The shared transformer was started once if there is one, and never otherwise. -/
theorem Epoch.sharedStarts_eq (h : Epoch t s) :
    sharedStarts false t = s.world.ledger.hasShared.toNat := by
  obtain ⟨w, -, hshared, hadmits, hledger⟩ := h.began
  have hw : w.ledger.Coherent := by
    refine ⟨fun id hid => ?_, fun error herror => ?_, nofun⟩
    · exact absurd (hshared.symm.trans hid) nofun
    · exact absurd (hshared.symm.trans herror) nofun
  have hknows : w.ledger.Knows false := .inl rfl
  rw [hknows.sharedStarts_eq hadmits, hw.sharedStarts_eq hadmits hshared, hledger]

/-- A shared transformer that is known stays the one, and nobody starts it again. -/
theorem Next.shared_eq {taken : Place → Prop} (hnext : s.Next taken u s') (hs : s.Coherent)
    {started : Except EngineFailure TransformerId} (hshared : s.world.shared = some started) :
    s'.world.shared = some started ∧ ∀ x ∈ u, ¬ x.isSharing :=
  hnext.keeps.world.shared_eq hs.world hshared

/-! ## Comparing transformers -/

/-- Compilers that were given no transformers never turn out to have different
    ones. -/
theorem perform_same (hs : s.Coherent) {name other : String} {c d : Compiler E}
    (hc : s.Holds (.slot name) c) (hd : s.Holds (.slot other) d) (hcs : c.Shares) (hds : d.Shares)
    {eq : Bool} (h : ((perform (.same name other)).run s).ending = .returned (.same (.ok eq))) :
    eq = true := by
  rw [Act.run, perform, sameTransformer, withCompiler_apply hc] at h
  rcases hrun : Bench.transformer ⟨c, s.world⟩ with ⟨(e | id) | text, b, t⟩
  · rw [Act.bind_of_returned (atBench_apply hrun)] at h
    cases h
  · have hfirst : Keeps (fun _ => False) s t
        { s with world := b.world, compilers := s.compilers.insert name b.compiler } :=
      .bench hc ((Bench.transformer_keeps _).run_eq hrun)
    have hs₁ := hfirst.coherent hs
    -- the second compiler, which may be the first one, is used at most
    obtain ⟨d', hd', hbecomes⟩ := hfirst.retained _ d not_false hd
    have hshared : b.world.shared = some (.ok id) :=
      (Bench.transformer_course hrun).shared_eq hcs (hs.compilers _ c hc)
    rw [Act.bind_of_returned (atBench_apply hrun)] at h
    dsimp only at h
    rw [withCompiler_apply hd'] at h
    rcases hrun' : Bench.transformer ⟨d', b.world⟩ with ⟨(e | id') | text, b', t'⟩
    · rw [Act.bind_of_returned (atBench_apply hrun')] at h
      cases h
    · rw [Act.bind_of_returned (atBench_apply hrun')] at h
      have hkeeps := ((Bench.transformer_keeps _).run_eq hrun').world
      have hshared' : b'.world.shared = some (.ok id') :=
        (Bench.transformer_course hrun').shared_eq (hds.becomes hbecomes) (hs₁.compilers _ d' hd')
      cases (hkeeps.shared_eq hs₁.world hshared).1.symm.trans hshared'
      cases h
      exact decide_eq_true rfl
    · rw [Act.bind_of_panicked (atBench_apply hrun')] at h
      cases h
  · rw [Act.bind_of_panicked (atBench_apply hrun)] at h
    cases h

/-! ## Histories -/

variable {host : E.HostState} {library : E.LibraryState} {files : E.FileState}

/-- Since the last reset the shared transformer was started as often as there is one,
    once or never, and what is known of it stays so until the next reset, for which
    there must be no compiler.  A compiler that has the shared transformer has the
    one of its world.  One that has a transformer has it wherever it gets to,
    without asking for it, and its use starts nothing.  One that has none asks for
    the shared one and keeps what it is told of, so no two of them have different
    ones.  Whether there is a shared transformer or it could not be started, others
    still are. -/
theorem History.shared_once (h : History (fresh (World.fresh host library files)) past t s) :
    sharedStarts false t = s.world.ledger.hasShared.toNat ∧
    (∀ started, s.world.shared = some started → ∀ taken u s', s.Next taken u s' →
      s'.world.shared = some started ∧ ∀ x ∈ u, ¬ x.isSharing) ∧
    (∀ place c, s.Holds place c →
      ¬ s.CanReset ∧
      (∀ id, c.attachment = .shared (some id) → s.world.shared = some (.ok id)) ∧
      (∀ id, c.attachment.id? = some id →
        (∀ source filename inputMap,
          Act.Moves Bench.Spares (Bench.transform source filename inputMap) ⟨c, s.world⟩) ∧
        (∀ source filename entry,
          Act.Moves Bench.Spares (Bench.compile source filename entry) ⟨c, s.world⟩) ∧
        ∀ s' place', s.Follows place s' place' →
          ∃ c', s'.Holds place' c' ∧ Bench.transformer ⟨c', s'.world⟩ =
            ⟨.returned (.ok id), ⟨c', s'.world⟩, []⟩) ∧
      (c.attachment = .shared none → ∃ outcome w u, s.world.Asked u outcome w ∧
        Bench.transformer ⟨c, s.world⟩ = ⟨told outcome, ⟨c.attached outcome, w⟩, u⟩ ∧
        ∀ name, place = .slot name → (perform (.prepare name)).run s =
          ⟨prepared (told outcome),
            { s with world := w, compilers := s.compilers.insert name (c.attached outcome) }, u⟩)) ∧
    (∀ name, ∃ outcome w u, s.world.Asked u outcome w ∧
      (perform (.sharedTransformer name)).run s =
        ⟨prepared (told outcome), withTransformer { s with world := w } name outcome, u⟩) ∧
    (∀ name other c d, s.Holds (.slot name) c → s.Holds (.slot other) d → c.Shares → d.Shares →
      ∀ eq, ((perform (.same name other)).run s).ending = .returned (.same (.ok eq)) →
        eq = true) ∧
    (∀ e, s.world.shared = some (.error e) →
      s.world.build = some (.error e) ∨ ∃ bytecode, s.world.build = some (.ok bytecode)) ∧
    ∀ bytecode, s.world.build = some (.ok bytecode) →
      (∀ name, ∃ outcome w u, s.world.StartCourse bytecode u outcome w ∧
        (perform (.transformer name)).run s =
          ⟨prepared (told outcome), withTransformer { s with world := w } name outcome, u⟩) ∧
      ∀ size setup schedule options, setup.options = .ok options →
        ((perform (.pool size setup schedule)).run s).trace.countP Event.isStart = max size 1 := by
  have hs := h.epoch.coherent
  refine ⟨h.epoch.sharedStarts_eq, fun started hshared taken u s' hnext => hnext.shared_eq hs hshared,
    fun place c hc => ⟨fun hreset => hreset.not_holds place c hc, fun id hid => ?_,
      fun id hid => ⟨Bench.transform_spares hid, Bench.compile_spares hid,
        fun s' place' hfollows => ?_⟩, fun hnone => ?_⟩,
    fun name => ?_,
    fun name other c d hc hd hcs hds eq => perform_same hs hc hd hcs hds, hs.world.refused,
    fun bytecode hbuild => ⟨fun name => ?_, fun size setup schedule options hoptions => ?_⟩⟩
  · have hfits := hs.compilers place c hc
    rw [hid] at hfits
    exact hfits
  · obtain ⟨c', hc', hbecomes⟩ := hfollows.holds hc
    exact ⟨c', hc', Bench.transformer_of_id? (hbecomes.2.id?_eq hid)⟩
  · obtain ⟨outcome, w, u, hasked, hrun⟩ :=
      Bench.transformer_of_unattached (b := ⟨c, s.world⟩) hnone
    refine ⟨outcome, w, u, hasked, hrun, ?_⟩
    rintro name rfl
    exact perform_prepare_apply hc hrun
  · rcases hrun : Downlevel.sharedTransformer s.world with ⟨outcome, w, u⟩
    exact ⟨outcome, w, u, (sharedTransformer_course hrun).asked, putTransformer_apply name hrun⟩
  · rcases hrun : Downlevel.startTransformer s.world with ⟨outcome, w, u⟩
    exact ⟨outcome, w, u, (startTransformer_course hrun).of_built hbuild,
      putTransformer_apply name hrun⟩
  · rcases hrun : Pool.make size options schedule s.world with ⟨ending, w, u⟩
    rw [Act.run, perform_pool_apply hoptions hrun]
    exact (Pool.make_making hrun).started bytecode hbuild

/-- Of two compilers the first one has the shared transformer started, which then is
    the transformer of the second one. -/
theorem History.shared_once_two :
    ∃ past t s, History (Legacy.freshSession (.byRules false false) ⟨[], [], []⟩) past t s ∧
      sharedStarts false t = 1 ∧
      ∃ c b u, s.Holds (.slot "b") c ∧
        Bench.transformer ⟨c, s.world⟩ = ⟨.returned (.ok 0), b, u⟩ ∧ u = [] := by
  have h₀ : History (Legacy.freshSession (.byRules false false) ⟨[], [], []⟩) [] [] _ := .start
  have h₁ := h₀.step (.compiler "a" ⟨none, none, false⟩ none) trivial
  have h₂ := h₁.step (.compiler "b" ⟨none, none, false⟩ none) trivial
  have h := h₂.step (.prepare "a") trivial
  obtain ⟨hstarts, -, hcompilers, -⟩ := shared_once h
  obtain ⟨-, -, -, hunattached⟩ := hcompilers (.slot "b") _ rfl
  obtain ⟨outcome, w, u, hasked, hrun, -⟩ := hunattached rfl
  obtain ⟨rfl, rfl, -⟩ := hasked.known (.ok 0) rfl
  exact ⟨_, _, _, h, hstarts, _, _, _, rfl, hrun, rfl⟩

end Session

end Downlevel
