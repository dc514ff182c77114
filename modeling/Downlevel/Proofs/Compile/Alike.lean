/-
  Downlevel — attempts in worlds that look alike.

  An attempt at a text asks the host and the loader, and nobody else.  Where the
  states of the host and of the files differ only in what neither of them goes
  by, it takes the same course, event by event, and leaves states that differ no
  more than that.

  * `Act.Respects`: an act goes the same way from states that a relation relates;
  * `Likeness`: which states of the host and of the files look alike;
  * `CompilerOptions.attempt_respects`: attempts in worlds that look alike, to a
    host and a loader that do not tell them apart;
  * `Host.Steady`: a host to which all its states look alike, so that an attempt
    depends on the options, the text and the files alone.
-/
import Downlevel.Proofs.Compile.Course

namespace Downlevel

variable {E : Engines}

/-! ## Runs side by side -/

section
variable {ε σ α β : Type} {R : σ → σ → Prop} {x y : Act ε σ α} {f g : α → Act ε σ β} {s s' : σ}

/-- Two runs end alike, with the same events, and in states that `R` relates. -/
structure Run.Alike (R : σ → σ → Prop) (r r' : Run ε σ α) : Prop where
  ending : r.ending = r'.ending
  trace : r.trace = r'.trace
  state : R r.state r'.state

theorem Run.Alike.bind (h : (x s).Alike R (y s'))
    (hf : ∀ a v v' t, x s = ⟨.returned a, v, t⟩ → R v v' → (f a v).Alike R (g a v')) :
    ((x >>= f) s).Alike R ((y >>= g) s') := by
  rcases hx : x s with ⟨a | text, v, t⟩ <;> rcases hy : y s' with ⟨a' | text', v', t'⟩ <;>
    rw [hx, hy] at h <;> obtain ⟨hending, htrace, hstate⟩ := h
  · obtain rfl : a = a' := by simpa using hending
    obtain rfl : t = t' := htrace
    have hrest := hf a v v' t hx hstate
    rw [Act.bind_of_returned hx, Act.bind_of_returned hy]
    exact ⟨hrest.ending, congrArg (t ++ ·) hrest.trace, hrest.state⟩
  · cases hending
  · cases hending
  · rw [Act.bind_of_panicked hx, Act.bind_of_panicked hy]
    obtain rfl : text = text' := by simpa using hending
    exact ⟨rfl, htrace, hstate⟩

/-- An event in front does not matter. -/
theorem Run.Alike.cons {r r' : Run ε σ α} (h : r.Alike R r') (e : ε) :
    (⟨r.ending, r.state, e :: r.trace⟩ : Run ε σ α).Alike R ⟨r'.ending, r'.state, e :: r'.trace⟩ :=
  ⟨h.ending, congrArg (e :: ·) h.trace, h.state⟩

/-- From states that `R` relates the act goes the same way. -/
def Act.Respects (R : σ → σ → Prop) (x : Act ε σ α) : Prop := ∀ s s', R s s' → (x s).Alike R (x s')

theorem Act.respects_pure (a : α) : Act.Respects R (pure a : Act ε σ α) :=
  fun _ _ h => ⟨rfl, rfl, h⟩

theorem Act.respects_emit (e : ε) : Act.Respects R (emit e : Act ε σ Unit) :=
  fun _ _ h => ⟨rfl, rfl, h⟩

theorem Act.Respects.bind (hx : x.Respects R) (hf : ∀ a, (f a).Respects R) :
    (x >>= f).Respects R :=
  fun s s' h => (hx s s' h).bind fun a v v' _ _ hv => hf a v v' hv

end

/-! ## What looks alike -/

/-- The same questions and the same verdict, and states in the end that `R` relates. -/
inductive Dialogue.Alike {σ α : Type} (R : σ → σ → Prop) : Dialogue σ α → Dialogue σ α → Prop
  | done {verdict s s'} : R s s' → Alike R (.done verdict s) (.done verdict s')
  | ask {url next next'} : (∀ reply, Alike R (next reply) (next' reply)) →
      Alike R (.ask url next) (.ask url next')

/-- The host does not tell states apart that `R` relates. -/
structure Host.Blind {σ Ast Program : Type} (host : Host σ Ast Program) (R : σ → σ → Prop) :
    Prop where
  parse (filename source s s') : R s s' →
    (host.parse filename source s).1 = (host.parse filename source s').1 ∧
      R (host.parse filename source s).2 (host.parse filename source s').2
  parseWithMaps (filename source s s') : R s s' →
    (host.parseWithMaps filename source s).Alike R (host.parseWithMaps filename source s')
  compile (ast strict s s') : R s s' →
    (host.compile ast strict s).1 = (host.compile ast strict s').1 ∧
      R (host.compile ast strict s).2 (host.compile ast strict s').2

/-- The loader does not tell files apart that `R` relates. -/
def Loader.Blind {φ : Type} (find : Loader φ) (R : φ → φ → Prop) : Prop :=
  ∀ path files files', R files files' →
    (find path files).1 = (find path files').1 ∧ R (find path files).2 (find path files').2

/-- Which states of the host and of the files look alike. -/
structure Likeness (E : Engines) where
  host : E.HostState → E.HostState → Prop
  files : E.FileState → E.FileState → Prop

/-- Neither the host nor the loader of the options tells apart what looks alike. -/
structure Likeness.Deceives (l : Likeness E) (o : CompilerOptions E) : Prop where
  host : E.host.Blind l.host
  loader (find) : o.loader = some find → find.Blind l.files

/-- The host and the files of two worlds look alike; the rest may differ. -/
def World.Alike (l : Likeness E) (w w' : World E) : Prop :=
  l.host w.host w'.host ∧ l.files w.files w'.files

/-! ## Attempts -/

section
open Act

variable {l : Likeness E}

theorem MapDesk.load_respects {desk : MapDesk E}
    (hloader : ∀ find, desk.loader = some find → find.Blind l.files) (path : String) :
    (desk.load path).Respects (World.Alike l) := by
  unfold load
  split
  · exact respects_pure _
  · next find hfind =>
    intro w w' hw
    obtain ⟨hanswer, hfiles⟩ := hloader find hfind path w.files w'.files hw.2
    simp only [get_bind_apply, set_bind_apply, emit_bind_apply, pure_apply]
    rw [hanswer]
    exact ⟨rfl, rfl, hw.1, hfiles⟩

theorem MapDesk.answer_respects {desk : MapDesk E}
    (hloader : ∀ find, desk.loader = some find → find.Blind l.files) (url : String) :
    (desk.answer url).Respects (World.Alike l) := by
  unfold answer
  split
  · exact respects_pure _
  · refine (load_respects hloader url).bind fun answer => ?_
    split <;> exact respects_pure _

/-- A desk serves two dialogues that are alike in the same way. -/
theorem MapDesk.converse_alike {d d' : Dialogue E.HostState E.Ast} (hd : d.Alike l.host d')
    {desk : MapDesk E} (hloader : ∀ find, desk.loader = some find → find.Blind l.files)
    {w w' : World E} (hw : w.Alike l w') :
    (desk.converse d w).Alike (World.Alike l) (desk.converse d' w') := by
  induction hd generalizing desk w w' with
  | done hhost => exact ⟨rfl, rfl, hhost, hw.2⟩
  | @ask url next next' _ ih =>
    refine (answer_respects hloader url w w' hw).bind fun a v v' t hanswer hv => ?_
    obtain ⟨reply, desk'⟩ := a
    have hnext := ih reply (loader_of_answer hanswer ▸ hloader) hv
    simp only [emit_bind_apply]
    exact hnext.cons _

theorem parsePlain_respects (hhost : E.host.Blind l.host) (filename code : String) :
    (parsePlain filename code : Act (Event E) (World E) _).Respects (World.Alike l) := by
  intro w w' hw
  obtain ⟨hverdict, hstate⟩ := hhost.parse filename code w.host w'.host hw.1
  rw [parsePlain_apply, parsePlain_apply, hverdict]
  exact ⟨rfl, rfl, hstate, hw.2⟩

theorem parseAsking_respects (hhost : E.host.Blind l.host) (filename code : String)
    {desk : MapDesk E} (hloader : ∀ find, desk.loader = some find → find.Blind l.files) :
    (parseAsking filename code desk).Respects (World.Alike l) := by
  intro w w' hw
  have hconverse := MapDesk.converse_alike
    (hhost.parseWithMaps filename code w.host w'.host hw.1) hloader hw
  simp only [parseAsking, emit_bind_apply, get_bind_apply]
  exact hconverse.cons _

theorem parseText_respects (hhost : E.host.Blind l.host) (filename code : String)
    {desk : MapDesk E} (hloader : ∀ find, desk.loader = some find → find.Blind l.files) :
    (parseText filename code desk).Respects (World.Alike l) := by
  have hplain := parsePlain_respects hhost filename code
  unfold parseText
  split
  · exact hplain.bind fun _ => respects_pure _
  · refine (parseAsking_respects hhost filename code hloader).bind fun answer => ?_
    dsimp only
    split
    · exact (respects_emit _).bind fun _ => hplain.bind fun _ => respects_pure _
    · exact respects_pure _

theorem callCompile_respects (hhost : E.host.Blind l.host) (ast : E.Ast) (strict : Bool) :
    (callCompile ast strict : Act (Event E) (World E) _).Respects (World.Alike l) := by
  intro w w' hw
  obtain ⟨hanswer, hstate⟩ := hhost.compile ast strict w.host w'.host hw.1
  rw [callCompile_apply, callCompile_apply, hanswer]
  exact ⟨rfl, rfl, hstate, hw.2⟩

/-- In worlds that look alike an attempt takes the same course. -/
theorem CompilerOptions.attempt_respects {o : CompilerOptions E} (h : l.Deceives o)
    (source filename : String) (entry : Bool) (map : Option Bytes) :
    (o.attempt source filename entry map).Respects (World.Alike l) := by
  have hparse := parseText_respects h.host filename (unitText entry source)
    (show ∀ find, (MapDesk.opened entry o.loader map).loader = some find → _ from h.loader)
  refine hparse.bind fun answer => ?_
  split
  · exact respects_pure _
  · refine (callCompile_respects h.host _ _).bind fun answer => ?_
    split <;> exact respects_pure _

/-- The mode says what follows a rejection and does not matter before. -/
theorem CompilerOptions.attempt_congr {o o' : CompilerOptions E} (hloader : o'.loader = o.loader)
    (hstrict : o'.strict = o.strict) : o'.attempt = o.attempt := by
  funext source filename entry map
  rw [attempt, attempt, hloader, hstrict]

end

/-! ## Steady hosts -/

/-- The host answers by what it is asked and not by what it was asked before: no
    answer depends on its state. -/
def Host.Steady {σ Ast Program : Type} (host : Host σ Ast Program) : Prop :=
  host.Blind fun _ _ => True

/-- Any states of the host look alike, and no others of the files than the same. -/
def Likeness.ofFiles : Likeness E := ⟨fun _ _ => True, Eq⟩

theorem Likeness.ofFiles_deceives (hhost : E.host.Steady) (o : CompilerOptions E) :
    Likeness.ofFiles.Deceives o where
  host := hhost
  loader find _ path files files' h := by
    cases h
    exact ⟨rfl, rfl⟩

end Downlevel
