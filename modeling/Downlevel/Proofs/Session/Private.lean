/-
  Downlevel — a transformer that a single compiler has.

  A transformer that was started for a compiler of its own stays with it: no slot
  and no other compiler ever gets hold of it, and it never becomes the shared one.
  So a call that reaches its runtime comes from that compiler.

  * `Session.Reserved`: nobody but compilers that were given a transformer has it;
  * `Turn.origin`: where the compilers that have it were before;
  * `Session.Private` with `Turn.private`: a single compiler has it;
  * `Turn.reaches`: a call of its runtime comes from that compiler.
-/
import Downlevel.Proofs.Pool.Readiness
import Downlevel.Proofs.Session.Events

namespace Downlevel

variable {E : Engines} {k : TransformerId}

/-- A compiler that has a transformer of its own was the same compiler before. -/
theorem Compiler.Becomes.eq_of_own {c c' : Compiler E} (h : c.Becomes c')
    (hown : c'.attachment = .own k) : c' = c := by
  obtain ⟨options, attachment⟩ := c
  obtain ⟨options', attachment'⟩ := c'
  obtain ⟨hoptions, hattachment⟩ := h
  obtain rfl : options' = options := hoptions
  rcases hattachment with hsame | ⟨-, id, hshared⟩
  · obtain rfl : attachment' = attachment := hsame
    rfl
  · cases hown.symm.trans hshared

/-- A transformer that is not the shared one is of the compiler's own. -/
theorem Attachment.Fits.own_of_ne {a : Attachment} {w : World E} (h : a.Fits w)
    (hid : a.id? = some k) (hne : w.shared ≠ some (.ok k)) : a = .own k := by
  rcases a with id | _ | id
  · cases hid
    rfl
  · cases hid
  · cases hid
    exact absurd h hne

namespace Session

/-- The compiler is at this place, and it was given transformer `k`. -/
def Owns (s : Session E) (k : TransformerId) (place : Place) (c : Compiler E) : Prop :=
  s.Holds place c ∧ c.attachment = .own k

/-- Transformer `k` is not the shared one, and it is in no slot. -/
structure Reserved (k : TransformerId) (s : Session E) : Prop where
  coherent : s.Coherent
  lt : k < s.world.transformers.length
  shared : s.world.shared ≠ some (.ok k)
  slots (name) : s.transformers.find? name ≠ some k

variable {taken used : Place → Prop} {s s' : Session E} {t : List (Event E)} {place : Place}
  {c d : Compiler E} {name : String} {x : Event E}

/-- Whoever has a reserved transformer was given it. -/
theorem Reserved.owns (hs : s.Reserved k) (hc : s.Holds place c)
    (hid : c.attachment.id? = some k) : s.Owns k place c :=
  ⟨hc, (hs.coherent.compilers place c hc).own_of_ne hid hs.shared⟩

/-- No transformer becomes the shared one later. -/
theorem Reserved.of_keeps (hs : s.Reserved k) (h : Keeps taken s t s')
    (hslots : ∀ name, s'.transformers.find? name ≠ some k) : s'.Reserved k where
  coherent := h.coherent hs.coherent
  lt := Nat.lt_of_lt_of_le hs.lt h.world.length_le
  shared := h.world.shared_ne hs.lt hs.shared
  slots := hslots

/-! ## Who has the transformer -/

theorem Owns.insert_cases
    (h : Owns { s with compilers := s.compilers.insert name d } k place c) :
    (place = .slot name ∧ c = d) ∨ s.Owns k place c := by
  obtain ⟨hc, hown⟩ := h
  cases place with
  | queue i => exact .inr ⟨hc, hown⟩
  | slot other =>
    have hfind : (s.compilers.insert name d).find? other = some c := hc
    rw [Table.find?_insert] at hfind
    split at hfind
    · next hname =>
      cases hfind
      exact .inl ⟨congrArg Place.slot hname, rfl⟩
    · exact .inr ⟨hfind, hown⟩

theorem Owns.of_erase (h : Owns { s with compilers := s.compilers.erase name } k place c) :
    place ≠ .slot name ∧ s.Owns k place c := by
  obtain ⟨hc, hown⟩ := h
  cases place with
  | queue i => exact ⟨nofun, hc, hown⟩
  | slot other =>
    have hfind : (s.compilers.erase name).find? other = some c := hc
    rw [Table.find?_erase] at hfind
    split at hfind
    · cases hfind
    · next hname =>
      refine ⟨fun h => hname ?_, hfind, hown⟩
      injection h

/-- Who has a transformer does not depend on the world or on the transformers in slots. -/
theorem Owns.of_compilers_eq (hcompilers : s'.compilers = s.compilers) (hpool : s'.pool = s.pool)
    (h : s'.Owns k place c) : s.Owns k place c := by
  obtain ⟨hc, hown⟩ := h
  refine ⟨?_, hown⟩
  cases place with
  | slot name => exact (congrArg (Table.find? · name) hcompilers).symm.trans hc
  | queue i =>
    obtain ⟨p, hp, hc⟩ := hc
    exact ⟨p, hpool.symm.trans hp, hc⟩

/-- A compiler at work in a slot had its own transformer before. -/
theorem Owns.of_bench {b : Bench E} (hc : s.Holds (.slot name) c)
    (hbench : Bench.Keeps ⟨c, s.world⟩ t b)
    (h : Owns { s with
      world := b.world, compilers := s.compilers.insert name b.compiler } k place d) :
    s.Owns k place d := by
  have hput : Owns { s with compilers := s.compilers.insert name b.compiler } k place d :=
    h.of_compilers_eq rfl rfl
  rcases hput.insert_cases with ⟨rfl, rfl⟩ | hd
  · have hsame := hbench.compiler.eq_of_own h.2
    exact ⟨hsame ▸ hc, h.2⟩
  · exact hd

/-! ## Steps that leave the pool alone -/

/-- A transformer that is put into a slot is a new one, or the shared one. -/
theorem Course.slots (h : s.Course taken used t s') (hs : s.Reserved k) :
    ∀ name, s'.transformers.find? name ≠ some k := by
  have hinsert {transformers : Table TransformerId} {name : String} {id : TransformerId}
      (hslots : ∀ name, transformers.find? name ≠ some k) (hne : id ≠ k) :
      ∀ other, (transformers.insert name id).find? other ≠ some k := by
    intro other hother
    rw [Table.find?_insert] at hother
    split at hother
    · exact hne (by injection hother)
    · exact hslots other hother
  induction h with
  | trans h _ ih ih' => exact ih' (hs.of_keeps h.keeps (ih hs))
  | started h =>
    have hle := (startTransformer_course h).le
    refine hinsert hs.slots ?_
    rintro rfl
    exact absurd hs.lt (Nat.not_lt.2 hle)
  | shared h =>
    have hshare := sharedTransformer_course h
    refine hinsert hs.slots ?_
    rintro rfl
    exact hshare.keeps.shared_ne hs.lt hs.shared hshare.shared_eq
  | rest | called | requested | prepared | works | created | createdWith | dropped => exact hs.slots

theorem Course.owns (h : s.Course taken used t s') (hs : s.Reserved k) (hc : s'.Owns k place c) :
    s.Owns k place c := by
  induction h with
  | rest => exact hc
  | trans h _ ih ih' =>
    have hs₁ := hs.of_keeps h.keeps (h.slots hs)
    exact ih hs (ih' hs₁ hc)
  | called | requested | started | shared => exact hc.of_compilers_eq rfl rfl
  | prepared hd h => exact hc.of_bench hd ((Bench.transformer_keeps _).run_eq h)
  | works _ hd h => exact hc.of_bench hd h.keeps
  | created =>
    rcases hc.insert_cases with ⟨-, rfl⟩ | hc'
    · cases hc.2
    · exact hc'
  | createdWith _ hid =>
    rcases hc.insert_cases with ⟨-, rfl⟩ | hc'
    · cases hc.2
      exact absurd hid (hs.slots _)
    · exact hc'
  | dropped => exact hc.of_erase.2

/-! ## Where compilers come from -/

namespace Place

/-- Where the compiler was that is there after the one in front of the pool was put
    into a slot. -/
def beforeTake (name : String) : Place → Place
  | .slot other => if other = name then .queue 0 else .slot other
  | .queue i => .queue (i + 1)

/-- Where the compiler was that is there after the one in a slot was put behind `n`
    others. -/
def beforeGive (name : String) (n : Nat) : Place → Place
  | .slot other => if other = name then .queue n else .slot other
  | .queue i => if i = n then .slot name else .queue i

/-- Where the compiler was that is there after the one in front of the pool was put
    behind `n` others. -/
def beforeWork (n : Nat) : Place → Place
  | .slot name => .slot name
  | .queue i => if i < n then .queue (i + 1) else if i = n then .queue 0 else .queue i

theorem beforeTake_injective (name : String) : Function.Injective (beforeTake name) := by
  intro place place' h
  cases place <;> cases place' <;> simp only [beforeTake] at h <;> grind

theorem beforeGive_injective (name : String) (n : Nat) :
    Function.Injective (beforeGive name n) := by
  intro place place' h
  cases place <;> cases place' <;> simp only [beforeGive] at h <;> grind

theorem beforeWork_injective (n : Nat) : Function.Injective (beforeWork n) := by
  intro place place' h
  cases place <;> cases place' <;> simp only [beforeWork] at h <;> grind

end Place

section
variable {p p' : Pool E}

theorem Owns.of_take (hp : s.pool = some p) (htake : p.take? = some (d, p'))
    (h : Owns { s with pool := some p', compilers := s.compilers.insert name d } k place c) :
    s.Owns k (place.beforeTake name) c := by
  obtain ⟨hwaiting, -⟩ := Pool.waiting_of_take? htake
  obtain ⟨hc, hown⟩ := h
  cases place with
  | slot other =>
    have hfind : (s.compilers.insert name d).find? other = some c := hc
    rw [Table.find?_insert] at hfind
    split at hfind
    · next hname =>
      cases hfind
      simp only [Place.beforeTake, if_pos hname]
      exact ⟨⟨p, hp, by rw [hwaiting]; rfl⟩, hown⟩
    · next hname =>
      simp only [Place.beforeTake, if_neg hname]
      exact ⟨hfind, hown⟩
  | queue i =>
    obtain ⟨_, ⟨⟩, hc⟩ := hc
    exact ⟨⟨p, hp, by rw [hwaiting]; exact hc⟩, hown⟩

theorem Owns.of_give (hp : s.pool = some p) (hd : s.Holds (.slot name) d)
    (h : Owns { s with
      compilers := s.compilers.erase name, pool := some (p.given d) } k place c) :
    s.Owns k (place.beforeGive name p.waiting.length) c := by
  obtain ⟨hnot, hc, hown⟩ := Owns.of_erase (s := { s with pool := some (p.given d) }) h
  cases place with
  | slot other =>
    have hname : other ≠ name := fun hname => hnot (congrArg Place.slot hname)
    simp only [Place.beforeGive, if_neg hname]
    exact ⟨hc, hown⟩
  | queue i =>
    obtain ⟨_, ⟨⟩, hc⟩ := hc
    rcases Pool.getElem?_given_cases hc with hc | ⟨rfl, rfl⟩
    · have hi : i ≠ p.waiting.length := Nat.ne_of_lt (List.getElem?_eq_some_iff.1 hc).1
      simp only [Place.beforeGive, if_neg hi]
      exact ⟨⟨p, hp, hc⟩, hown⟩
    · simp only [Place.beforeGive, if_pos]
      exact ⟨hd, hown⟩

theorem Owns.of_work (hp : s.pool = some p) (htake : p.take? = some (d, p')) {d' : Compiler E}
    (hd : d.Becomes d') {w : World E}
    (h : Owns { s with world := w, pool := some (p'.given d') } k place c) :
    s.Owns k (place.beforeWork p'.waiting.length) c := by
  obtain ⟨hwaiting, -⟩ := Pool.waiting_of_take? htake
  obtain ⟨hc, hown⟩ := h
  cases place with
  | slot name => exact ⟨hc, hown⟩
  | queue i =>
    obtain ⟨_, ⟨⟩, hc⟩ := hc
    rcases Pool.getElem?_given_cases hc with hc | ⟨rfl, rfl⟩
    · have hi : i < p'.waiting.length := (List.getElem?_eq_some_iff.1 hc).1
      simp only [Place.beforeWork, if_pos hi]
      exact ⟨⟨p, hp, by rw [hwaiting]; exact hc⟩, hown⟩
    · simp only [Place.beforeWork, Nat.lt_irrefl, if_false, if_pos]
      have hsame := hd.eq_of_own hown
      exact ⟨⟨p, hp, by rw [hwaiting, hsame]; rfl⟩, hown⟩

end

/-- Everybody who has the transformer in the end had it before, at another place maybe,
    but no two of them at the same. -/
theorem Turn.origin (h : s.Turn taken used t s') (hs : s.Reserved k) :
    ∃ origin : Place → Place, Function.Injective origin ∧
      ∀ place c, s'.Owns k place c → s.Owns k (origin place) c := by
  cases h with
  | course h => exact ⟨id, Function.injective_id, fun _ _ hc => h.owns hs hc⟩
  | emptied | failed =>
    refine ⟨id, Function.injective_id, fun place c hc => ?_⟩
    cases place with
    | slot name => exact hc
    | queue i =>
      obtain ⟨⟨_, ⟨⟩, -⟩, -⟩ := hc
  | filled _ h =>
    -- the compilers of the new pool have new transformers
    refine ⟨id, Function.injective_id, fun place c hc => ?_⟩
    cases place with
    | slot name => exact hc
    | queue i =>
      obtain ⟨⟨_, ⟨⟩, hc⟩, hown⟩ := hc
      obtain ⟨id, hle, -, rfl⟩ := (Pool.make_apart h).1 c (List.mem_of_getElem? hc)
      cases hown
      exact absurd hs.lt (Nat.not_lt.2 hle)
  | acquired _ _ hp htake =>
    exact ⟨_, Place.beforeTake_injective _, fun _ _ hc => hc.of_take hp htake⟩
  | released _ hp hd => exact ⟨_, Place.beforeGive_injective _ _, fun _ _ hc => hc.of_give hp hd⟩
  | worked _ _ hp htake hrun =>
    have hbecomes := ((Bench.compile_keeps ..).run_eq hrun).compiler
    exact ⟨_, Place.beforeWork_injective _, fun _ _ hc => hc.of_work hp htake hbecomes⟩
  | @brokenOff p d p' _ b job t _ _ hp htake hrun =>
    refine ⟨_, Place.beforeWork_injective p'.waiting.length, fun place c hc => ?_⟩
    -- those who are there are there also if somebody is given back behind them
    have hc' : Owns { s with world := b.world, pool := some (p'.given d) } k place c := by
      cases place with
      | slot name => exact hc
      | queue i =>
        obtain ⟨⟨_, ⟨⟩, hc⟩, hown⟩ := hc
        exact ⟨⟨_, rfl, Pool.getElem?_given d hc⟩, hown⟩
    exact hc'.of_work hp htake (.refl d)

theorem Turn.reserved (h : s.Turn taken used t s') (hs : s.Reserved k) : s'.Reserved k := by
  refine hs.of_keeps h.keeps ?_
  cases h with
  | course h => exact h.slots hs
  | emptied | failed | filled | acquired | released | worked | brokenOff => exact hs.slots

/-! ## A transformer of one's own -/

/-- If anybody has transformer `k`, it is the compiler `c`, and it is at one place. -/
structure Private (c : Compiler E) (k : TransformerId) (s : Session E) : Prop extends
    Reserved k s where
  same (place : Place) (d : Compiler E) : s.Owns k place d → d = c
  alone (place place' : Place) (d d' : Compiler E) :
    s.Owns k place d → s.Owns k place' d' → place = place'

theorem Turn.private (h : s.Turn taken used t s') (hs : s.Private c k) : s'.Private c k := by
  obtain ⟨origin, hinjective, horigin⟩ := h.origin hs.toReserved
  refine ⟨h.reserved hs.toReserved, fun place d hd => ?_, fun place place' d d' hd hd' => ?_⟩
  · exact hs.same _ d (horigin place d hd)
  · exact hinjective (hs.alone _ _ d d' (horigin place d hd) (horigin place' d' hd'))

/-- After a reset nobody has the transformer. -/
theorem Private.forget (hs : s.Private c k) (hreset : s.CanReset) :
    Private c k { s with world := s.world.forget } := by
  have hnobody (place : Place) (d : Compiler E) :
      ¬ Owns { s with world := s.world.forget } k place d := by
    intro hd
    have hd' : s.Owns k place d := hd.of_compilers_eq rfl rfl
    exact hreset.not_holds place d hd'.1
  refine ⟨⟨hs.coherent.forget hreset, hs.lt, nofun, hs.slots⟩, fun place d hd => ?_,
    fun place place' d d' hd => ?_⟩
  · exact absurd hd (hnobody place d)
  · exact absurd hd (hnobody place d)

/-! ## Calls of its runtime -/

/-- A compiler that reaches a reserved transformer was given it. -/
theorem Reserved.owns_of_reaches (hs : s.Reserved k) (hc : s.Holds place c) {b : Bench E}
    (h : Bench.Used ⟨c, s.world⟩ t b) (hx : x ∈ t) (hreaches : x.reaches k) : s.Owns k place c := by
  have hfits := h.keeps.fits hs.coherent.world (hs.coherent.compilers place c hc)
  have hown := hfits.own_of_ne (h.reaches hx hreaches) (h.keeps.world.shared_ne hs.lt hs.shared)
  have hsame : b.compiler = c := h.keeps.compiler.eq_of_own hown
  exact ⟨hc, hsame ▸ hown⟩

theorem Course.reaches (h : s.Course taken used t s') (hs : s.Reserved k) (hx : x ∈ t)
    (hreaches : x.reaches k) : ∃ place c, used place ∧ s.Owns k place c := by
  induction h with
  | trans h _ ih ih' =>
    have hs₁ := hs.of_keeps h.keeps (h.slots hs)
    rcases List.mem_append.1 hx with hx | hx
    · exact ih hs hx
    · obtain ⟨place, c, hused, hc⟩ := ih' hs₁ hx
      exact ⟨place, c, hused, h.owns hs hc⟩
  | called h => exact absurd hreaches (h.not_reaches x hx)
  | @requested s name id r ending w t hid h =>
    have hx' : x ∈ (r.perform id s.world).trace := by rw [h]; exact hx
    obtain rfl := Request.eq_of_reaches hx' hreaches
    exact absurd hid (hs.slots name)
  | @prepared s name c ending t b hc h =>
    obtain ⟨_, _, _, hrun, hstart, -⟩ := Bench.transformer_cases ⟨c, s.world⟩
    cases h.symm.trans hrun
    exact absurd hreaches (Event.not_reaches_of_isStartUp (hstart x hx))
  | works hused hc h => exact ⟨_, _, hused, hs.owns_of_reaches hc h hx hreaches⟩
  | started h => exact absurd hreaches ((World.Called.start h).not_reaches x hx)
  | shared h => exact absurd hreaches ((World.Called.share h).not_reaches x hx)
  | rest | created | createdWith | dropped => cases hx

/-- Only a compiler that has it reaches a reserved transformer. -/
theorem Turn.reaches (h : s.Turn taken used t s') (hs : s.Reserved k) (hx : x ∈ t)
    (hreaches : x.reaches k) : ∃ place c, used place ∧ s.Owns k place c := by
  have haway {p : Pool E} (hx : x ∈ p.turnedAway) : False :=
    Pool.not_isLibrary_of_mem_turnedAway hx (Event.isLibrary_of_reaches hreaches)
  have hfront {p p' : Pool E} {c : Compiler E} (hp : s.pool = some p)
      (htake : p.take? = some (c, p')) : s.Holds (.queue 0) c :=
    ⟨p, hp, by rw [(Pool.waiting_of_take? htake).1]; rfl⟩
  cases h with
  | course h => exact h.reaches hs hx hreaches
  | emptied | acquired => cases hx
  | failed _ h => exact absurd hreaches (h.not_reaches x hx)
  | filled _ h => exact absurd hreaches ((World.Called.fill h).not_reaches x hx)
  | released => exact (haway hx).elim
  | worked _ hused hp htake hrun =>
    rcases List.mem_append.1 hx with hx | hx
    · exact ⟨_, _, hused, hs.owns_of_reaches (hfront hp htake) (.compiles hrun) hx hreaches⟩
    · exact (haway hx).elim
  | brokenOff _ hused hp htake hrun =>
    exact ⟨_, _, hused, hs.owns_of_reaches (hfront hp htake) (.compiles hrun) hx hreaches⟩

end Session

end Downlevel
