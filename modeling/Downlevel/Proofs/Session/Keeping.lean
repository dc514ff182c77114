/-
  Downlevel — what a session keeps.

  A session goes on from what the ledger of the world says and refers to what is
  there.  Where it puts no other compiler, there still is the one that was there
  before, used at most.

  * `Session.Holds`: which compiler is in a slot, and which one waits in the pool;
  * `Session.Coherent`: the session refers to what is there;
  * `Session.Keeps`: what is kept from one session to a later one, with a lemma for
    each thing that can be done to a session.
-/
import Downlevel.Proofs.Pool.Warming
import Downlevel.Session.Basic

namespace Downlevel

variable {E : Engines}

/-! ## Pools -/

namespace Pool

/-- The pool after a compiler was given back. -/
def given (p : Pool E) (c : Compiler E) : Pool E :=
  if p.waiting.length < p.capacity then { p with waiting := p.waiting ++ [c] } else p

/-- What is logged about a compiler that does not fit. -/
def turnedAway (p : Pool E) : List (Event E) :=
  if p.waiting.length < p.capacity then [] else [.log (.compilerDropped p.capacity)]

theorem release_apply (p : Pool E) (c : Compiler E) :
    release c p = ⟨.returned (), p.given c, p.turnedAway⟩ := by
  simp only [release, Act.get_bind_apply, given, turnedAway]
  split <;> rfl

theorem mem_waiting_given {p : Pool E} {c c' : Compiler E} (h : c' ∈ (p.given c).waiting) :
    c' ∈ p.waiting ∨ c' = c := by
  unfold given at h
  split at h
  · simpa using h
  · exact .inl h

/-- Those who wait keep their places. -/
theorem getElem?_given {p : Pool E} {c' : Compiler E} (c : Compiler E) {i : Nat}
    (h : p.waiting[i]? = some c') : (p.given c).waiting[i]? = some c' := by
  unfold given
  split
  · obtain ⟨hlt, -⟩ := List.getElem?_eq_some_iff.1 h
    rw [List.getElem?_append_left hlt, h]
  · exact h

/-- Who waits then was there before, or was given back and lined up. -/
theorem getElem?_given_cases {p : Pool E} {c c' : Compiler E} {i : Nat}
    (h : (p.given c).waiting[i]? = some c') :
    p.waiting[i]? = some c' ∨ i = p.waiting.length ∧ c' = c := by
  unfold given at h
  split at h
  · rw [List.getElem?_append] at h
    split at h
    · exact .inl h
    · obtain ⟨hlt, hget⟩ := List.getElem?_eq_some_iff.1 h
      simp only [List.length_singleton] at hlt
      refine .inr ⟨by omega, ?_⟩
      simpa using hget.symm
  · exact .inl h

theorem not_isLibrary_of_mem_turnedAway {p : Pool E} {x : Event E} (h : x ∈ p.turnedAway) :
    ¬ x.isLibrary := by
  unfold turnedAway at h
  split at h
  · cases h
  · rw [List.mem_singleton.1 h]
    nofun

theorem waiting_of_take? {p p' : Pool E} {c : Compiler E} (h : p.take? = some (c, p')) :
    p.waiting = c :: p'.waiting ∧ p'.capacity = p.capacity := by
  unfold take? at h
  split at h
  · cases h
  · next hwaiting =>
    cases h
    exact ⟨hwaiting, rfl⟩

end Pool

namespace Session

/-! ## Places -/

/-- Where a compiler can be: in a slot, or in the pool behind `i` others. -/
inductive Place where
  | slot (name : String)
  | queue (i : Nat)

/-- The compiler is at this place. -/
def Holds (s : Session E) : Place → Compiler E → Prop
  | .slot name, c => s.compilers.find? name = some c
  | .queue i, c => ∃ p, s.pool = some p ∧ p.waiting[i]? = some c

theorem holds_of_mem {s : Session E} {p : Pool E} {c : Compiler E} (hp : s.pool = some p)
    (hc : c ∈ p.waiting) : ∃ i, s.Holds (.queue i) c := by
  obtain ⟨i, hi⟩ := List.mem_iff_getElem?.1 hc
  exact ⟨i, p, hp, hi⟩

/-- What the session refers to is there. -/
structure Coherent (s : Session E) : Prop where
  world : s.world.ledger.Coherent
  compilers (place c) : s.Holds place c → c.attachment.Fits s.world
  transformers (name id) : s.transformers.find? name = some id → id < s.world.transformers.length

theorem coherent_fresh (host : E.HostState) (library : E.LibraryState) (files : E.FileState) :
    (fresh (World.fresh host library files)).Coherent where
  world := ⟨nofun, nofun, nofun⟩
  compilers place c h := by
    cases place with
    | slot name => cases h
    | queue i =>
      obtain ⟨p, hp, -⟩ := h
      cases hp
  transformers name id h := by cases h

theorem Coherent.waiting {s : Session E} (hs : s.Coherent) {p : Pool E} {c : Compiler E}
    (hp : s.pool = some p) (hc : c ∈ p.waiting) : c.attachment.Fits s.world := by
  obtain ⟨i, hi⟩ := holds_of_mem hp hc
  exact hs.compilers _ c hi

/-- What a step keeps.  It puts compilers to the places `taken`, or takes them away
    from there. -/
structure Keeps (taken : Place → Prop) (s : Session E) (t : List (Event E)) (s' : Session E) :
    Prop where
  world : s.world.Keeps t s'.world
  coherent : s.Coherent → s'.Coherent
  /-- A compiler at another place still is there. -/
  retained (place c) : ¬ taken place → s.Holds place c → ∃ c', s'.Holds place c' ∧ c.Becomes c'

variable {taken : Place → Prop} {s s₁ s' : Session E} {t u : List (Event E)}

namespace Keeps

theorem trans (h : Keeps taken s t s₁) (h' : Keeps taken s₁ u s') : Keeps taken s (t ++ u) s' where
  world := h.world.trans h'.world
  coherent hs := h'.coherent (h.coherent hs)
  retained place c hnot hc := by
    obtain ⟨c', hc', hbecomes⟩ := h.retained place c hnot hc
    obtain ⟨c'', hc'', hbecomes'⟩ := h'.retained place c' hnot hc'
    exact ⟨c'', hc'', hbecomes.trans hbecomes'⟩

theorem of_world {w : World E} (h : s.world.Keeps t w) : Keeps taken s t { s with world := w } where
  world := h
  coherent hs := ⟨h.coherent hs.world, fun place c hc => (hs.compilers place c (by
      cases place <;> exact hc)).keeps hs.world h,
    fun name id hid => Nat.lt_of_lt_of_le (hs.transformers name id hid) h.length_le⟩
  retained place c _ hc := ⟨c, by cases place <;> exact hc, .refl c⟩

theorem refl (s : Session E) : Keeps taken s [] s := of_world (.refl _)

/-- Something else is in a slot. -/
theorem reslot {name : String} {compilers : Table (Compiler E)} (htaken : taken (.slot name))
    (hothers : ∀ other, other ≠ name → compilers.find? other = s.compilers.find? other)
    (hfits : s.Coherent → ∀ c, compilers.find? name = some c → c.attachment.Fits s.world) :
    Keeps taken s [] { s with compilers := compilers } := by
  have hsame (other : String) (hnot : ¬ taken (.slot other)) :
      compilers.find? other = s.compilers.find? other := by
    refine hothers other ?_
    rintro rfl
    exact hnot htaken
  refine ⟨.refl _, fun hs => ⟨hs.world, fun place c hc => ?_, hs.transformers⟩,
    fun place c hnot hc => ⟨c, ?_, .refl c⟩⟩
  · cases place with
    | queue i => exact hs.compilers (.queue i) c hc
    | slot other =>
      by_cases hname : other = name
      · subst hname
        exact hfits hs c hc
      · exact hs.compilers (.slot other) c ((hothers other hname).symm.trans hc)
  · cases place with
    | queue i => exact hc
    | slot other => exact (hsame other hnot).trans hc

/-- A compiler is put into a slot. -/
theorem insert {name : String} {c : Compiler E} (htaken : taken (.slot name))
    (hfits : s.Coherent → c.attachment.Fits s.world) :
    Keeps taken s [] { s with compilers := s.compilers.insert name c } := by
  refine reslot htaken (fun other hne => ?_) fun hs c' hc' => ?_
  · rw [Table.find?_insert, if_neg hne]
  · rw [Table.find?_insert, if_pos rfl] at hc'
    cases hc'
    exact hfits hs

/-- A slot is cleared. -/
theorem erase {name : String} (htaken : taken (.slot name)) :
    Keeps taken s [] { s with compilers := s.compilers.erase name } := by
  refine reslot htaken (fun other hne => ?_) fun hs c' hc' => ?_
  · rw [Table.find?_erase, if_neg hne]
  · rw [Table.find?_erase, if_pos rfl] at hc'
    cases hc'

/-- The compiler in a slot is at work and stays there. -/
theorem bench {name : String} {c : Compiler E} (hc : s.Holds (.slot name) c) {b : Bench E}
    (h : Bench.Keeps ⟨c, s.world⟩ t b) :
    Keeps taken s t
      { s with world := b.world, compilers := s.compilers.insert name b.compiler } := by
  have hworld : Keeps taken s t { s with world := b.world } := of_world h.world
  refine ⟨h.world, fun hs => ?_, fun place c' hnot hc' => ?_⟩
  · have hs' := hworld.coherent hs
    have hput : Keeps (fun _ => True) { s with world := b.world } []
        { s with world := b.world, compilers := s.compilers.insert name b.compiler } :=
      insert trivial fun _ => h.fits hs.world (hs.compilers _ c hc)
    exact hput.coherent hs'
  · cases place with
    | queue i => exact ⟨c', hc', .refl c'⟩
    | slot other =>
      by_cases hname : other = name
      · subst hname
        obtain rfl : c' = c := by simpa using hc'.symm.trans hc
        exact ⟨b.compiler, by simp [Holds, Table.find?_insert], h.compiler⟩
      · exact ⟨c', by simpa [Holds, Table.find?_insert, hname] using hc', .refl c'⟩

/-- A transformer is put into a slot. -/
theorem insertTransformer {name : String} {id : TransformerId}
    (hid : s.Coherent → id < s.world.transformers.length) :
    Keeps taken s [] { s with transformers := s.transformers.insert name id } where
  world := .refl _
  coherent hs := by
    refine ⟨hs.world, fun place c hc => hs.compilers place c (by cases place <;> exact hc), ?_⟩
    intro other id' hid'
    rw [Table.find?_insert] at hid'
    split at hid'
    · cases hid'
      exact hid hs
    · exact hs.transformers other id' hid'
  retained place c _ hc := ⟨c, by cases place <;> exact hc, .refl c⟩

/-- The pool is replaced. -/
theorem repool {pool : Option (Pool E)}
    (hfits : s.Coherent → ∀ p, pool = some p → ∀ c ∈ p.waiting, c.attachment.Fits s.world)
    (hqueue : ∀ i c, ¬ taken (.queue i) → s.Holds (.queue i) c →
      ∃ p, pool = some p ∧ p.waiting[i]? = some c) :
    Keeps taken s [] { s with pool := pool } where
  world := .refl _
  coherent hs := by
    refine ⟨hs.world, fun place c hc => ?_, hs.transformers⟩
    cases place with
    | slot name => exact hs.compilers (.slot name) c hc
    | queue i =>
      obtain ⟨p, hp, hc⟩ := hc
      exact hfits hs p hp c (List.mem_of_getElem? hc)
  retained place c hnot hc := by
    cases place with
    | slot name => exact ⟨c, hc, .refl c⟩
    | queue i => exact ⟨c, hqueue i c hnot hc, .refl c⟩

end Keeps

end Session

end Downlevel
