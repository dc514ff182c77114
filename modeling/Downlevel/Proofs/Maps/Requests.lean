/-
  Downlevel — sequences of requests for maps.

  During a parse the desk is asked for one map after the other.  Each request ends
  in one of a few ways: the map is handed over, or the desk refuses it for one of
  the reasons in `MapDesk.Refuses`, and only then it notes a failure.  What one
  request keeps and adds carries over to any number of them.

  * `MapDesk.answerAll`: requests answered one after the other;
  * `MapDesk.Refuses`: the reasons for which a request is refused;
  * `MapDesk.answer_answered`: what one request does;
  * `MapDesk.answerAll_attended`: what any sequence of requests does;
  * `MapDesk.attends`: so does a parse, which is such a sequence.
-/
import Downlevel.Proofs.Maps.Service

namespace Downlevel

variable {E : Engines}

/-! ## Calls of a loader -/

/-- A loader was called. -/
def Event.isLoad : Event E → Bool
  | .load .. => true
  | _ => false

/-- A loader called for one path after the other: its answers, and the files that
    this leaves. -/
def Loader.loadAll {φ : Type} (loader : Loader φ) :
    List String → φ → List (String × Except MapError Bytes) × φ
  | [], files => ([], files)
  | path :: paths, files =>
    let (answer, files) := loader path files
    let (answers, files) := loadAll loader paths files
    ((path, answer) :: answers, files)

theorem Loader.loadAll_append {φ : Type} (loader : Loader φ) (paths paths' : List String)
    (files : φ) :
    loader.loadAll (paths ++ paths') files =
      ((loader.loadAll paths files).1 ++
          (loader.loadAll paths' (loader.loadAll paths files).2).1,
        (loader.loadAll paths' (loader.loadAll paths files).2).2) := by
  induction paths generalizing files with
  | nil => rfl
  | cons path paths ih => simp only [List.cons_append, loadAll, ih]

namespace MapDesk

/-- The loader of a desk is called once for each of these addresses but the
    sentinel, in their order, and for nothing else. -/
def Calls (desk : MapDesk E) (urls : List String) (files : E.FileState) (t : List (Event E))
    (files' : E.FileState) : Prop :=
  match desk.loader with
  | none => t = [] ∧ files' = files
  | some loader => ∃ answers,
    loader.loadAll (urls.filter (· ≠ SourceMap.sentinel)) files = (answers, files') ∧
      answers.map Prod.fst = urls.filter (· ≠ SourceMap.sentinel) ∧
      t = answers.map fun a => .load a.1 a.2

section
variable {desk desk₁ : MapDesk E} {urls urls' : List String} {files files₁ files' : E.FileState}
  {t u : List (Event E)}

/-- For the sentinel alone the loader is not called. -/
theorem calls_nothing (h : urls.filter (· ≠ SourceMap.sentinel) = []) :
    desk.Calls urls files [] files := by
  unfold Calls
  split
  · exact ⟨rfl, rfl⟩
  · exact ⟨[], by rw [h]; rfl, h.symm, rfl⟩

theorem calls_of_no_loader (urls : List String) (hloader : desk.loader = none) :
    desk.Calls urls files [] files := by
  simp [Calls, hloader]

theorem calls_of_loader {url : String} {loader : Loader E.FileState}
    (hurl : url ≠ SourceMap.sentinel) (hloader : desk.loader = some loader) :
    desk.Calls [url] files [.load url (loader url files).1] (loader url files).2 := by
  simp [Calls, hloader, hurl, Loader.loadAll]

theorem Calls.append (h : desk.Calls urls files t files₁) (hloader : desk₁.loader = desk.loader)
    (h' : desk₁.Calls urls' files₁ u files') : desk.Calls (urls ++ urls') files (t ++ u) files' := by
  unfold Calls at h h' ⊢
  rw [hloader] at h'
  split at h
  · rename_i hnone
    simp only [hnone] at h'
    obtain ⟨rfl, rfl⟩ := h
    obtain ⟨rfl, rfl⟩ := h'
    exact ⟨rfl, rfl⟩
  · rename_i loader hsome
    simp only [hsome] at h'
    obtain ⟨answers, hload, hpaths, rfl⟩ := h
    obtain ⟨answers', hload', hpaths', rfl⟩ := h'
    refine ⟨answers ++ answers', ?_, ?_, List.map_append.symm⟩
    · rw [List.filter_append, Loader.loadAll_append, hload, hload']
    · rw [List.map_append, hpaths, hpaths', List.filter_append]

/-- Nothing else is recorded. -/
theorem Calls.isLoad (h : desk.Calls urls files t files') : ∀ e ∈ t, e.isLoad := by
  unfold Calls at h
  split at h
  · simp [h.1]
  · obtain ⟨answers, -, -, rfl⟩ := h
    intro e he
    obtain ⟨a, -, rfl⟩ := List.mem_map.1 he
    rfl

end

/-! ## One request -/

/-- The map that an address stands for: the sentinel for the map in hand, and
    any other address for what the loader finds. -/
inductive Finds (desk : MapDesk E) (files : E.FileState) : String → Bytes → Prop
  | inHand {map} : desk.map = some map → Finds desk files SourceMap.sentinel map
  | loaded {loader url map} : desk.loader = some loader → url ≠ SourceMap.sentinel →
      (loader url files).1 = .ok map → Finds desk files url map

/-- The reasons for which a desk refuses a request. -/
inductive Refuses (desk : MapDesk E) (files : E.FileState) : String → MapError → Prop
  /-- The loader fails, and its own error is passed on. -/
  | loader {loader url e} : desk.loader = some loader → url ≠ SourceMap.sentinel →
      (loader url files).1 = .error e → Refuses desk files url e
  /-- There is no loader to ask. -/
  | noLoader {url} : desk.loader = none → url ≠ SourceMap.sentinel →
      Refuses desk files url .unavailable
  /-- No map is in hand for the sentinel. -/
  | noMap : desk.map = none → Refuses desk files SourceMap.sentinel .unavailable
  /-- The map is there but cannot be shifted for a module. -/
  | shift {url map e} : desk.entry = false → desk.Finds files url map →
      SourceMap.shift map = .error e → Refuses desk files url e

/-- A request and what became of it. -/
structure Answered (desk : MapDesk E) (files : E.FileState) (url : String)
    (reply : Except MapError Bytes) (desk' : MapDesk E) (files' : E.FileState)
    (t : List (Event E)) : Prop where
  entry : desk'.entry = desk.entry
  loader : desk'.loader = desk.loader
  failed : desk'.failed = (desk.failed || !reply.isOk)
  refused : ∀ e, reply = .error e ↔ desk.Refuses files url e
  calls : desk.Calls [url] files t files'

section
variable {desk : MapDesk E} {files : E.FileState} {url : String} {e : MapError}

theorem handedOut_eq_error_iff {entry : Bool} {map : Option Bytes} :
    handedOut entry map = .error e ↔
      map = none ∧ e = .unavailable ∨
        ∃ found, map = some found ∧ entry = false ∧ SourceMap.shift found = .error e := by
  cases map with
  | none => simp [handedOut, eq_comm]
  | some found => cases entry <;> simp [handedOut]

/-- The sentinel is refused exactly if the map in hand is not handed out. -/
theorem refuses_sentinel_iff :
    desk.Refuses files SourceMap.sentinel e ↔ handedOut desk.entry desk.map = .error e := by
  rw [handedOut_eq_error_iff]
  constructor
  · intro h
    cases h with
    | loader _ hurl | noLoader _ hurl => exact absurd rfl hurl
    | noMap hmap => exact .inl ⟨hmap, rfl⟩
    | shift hentry hfinds hshift =>
      cases hfinds with
      | inHand hmap => exact .inr ⟨_, hmap, hentry, hshift⟩
      | loaded _ hurl => exact absurd rfl hurl
  · rintro (⟨hmap, rfl⟩ | ⟨found, hmap, hentry, hshift⟩)
    · exact .noMap hmap
    · exact .shift hentry (.inHand hmap) hshift

/-- Without a loader any other address is refused. -/
theorem refuses_iff_of_no_loader (hurl : url ≠ SourceMap.sentinel) (hloader : desk.loader = none) :
    desk.Refuses files url e ↔ e = .unavailable := by
  constructor
  · intro h
    cases h with
    | loader hsome => cases hloader.symm.trans hsome
    | noLoader | noMap => rfl
    | shift _ hfinds =>
      cases hfinds with
      | inHand => exact absurd rfl hurl
      | loaded hsome => cases hloader.symm.trans hsome
  · rintro rfl
    exact .noLoader hloader hurl

/-- With a loader it is refused exactly if the loader fails, or what it finds is
    not handed out. -/
theorem refuses_iff_of_loader {loader : Loader E.FileState} (hurl : url ≠ SourceMap.sentinel)
    (hloader : desk.loader = some loader) :
    desk.Refuses files url e ↔ (loader url files).1 = .error e ∨
      ∃ map, (loader url files).1 = .ok map ∧ handedOut desk.entry (some map) = .error e := by
  constructor
  · intro h
    cases h with
    | loader hsome _ hanswer =>
      cases hloader.symm.trans hsome
      exact .inl hanswer
    | noLoader hnone => cases hloader.symm.trans hnone
    | noMap => exact absurd rfl hurl
    | shift hentry hfinds hshift =>
      cases hfinds with
      | inHand => exact absurd rfl hurl
      | loaded hsome _ hanswer =>
        cases hloader.symm.trans hsome
        exact .inr ⟨_, hanswer, handedOut_eq_error_iff.2 (.inr ⟨_, rfl, hentry, hshift⟩)⟩
  · rintro (hanswer | ⟨map, hanswer, hout⟩)
    · exact .loader hloader hurl hanswer
    · obtain ⟨hnone, -⟩ | ⟨found, hfound, hentry, hshift⟩ := handedOut_eq_error_iff.1 hout
      · cases hnone
      · cases hfound
        exact .shift hentry (.loaded hloader hurl hanswer) hshift

end

/-- Every request is answered: there is no other way for it to end. -/
theorem answer_answered (desk : MapDesk E) (url : String) (w : World E) :
    ∃ reply desk' files' t,
      desk.answer url w = ⟨.returned (reply, desk'), { w with files := files' }, t⟩ ∧
        desk.Answered w.files url reply desk' files' t := by
  by_cases hurl : url = SourceMap.sentinel
  · subst hurl
    refine ⟨handedOut desk.entry desk.map, desk.noting (handedOut desk.entry desk.map), w.files, [],
      ?_, rfl, rfl, rfl, fun e => refuses_sentinel_iff.symm, calls_nothing (by simp)⟩
    simp [answer, handOver_eq]
  cases hloader : desk.loader with
  | none =>
    refine ⟨.error .unavailable, { desk with map := none }.fail, w.files, [], ?_, rfl, rfl, ?_,
      fun e => ?_, calls_of_no_loader _ hloader⟩
    · simp [answer, load, hloader, hurl]
    · simp [fail, Except.isOk, Except.toBool]
    · rw [refuses_iff_of_no_loader hurl hloader, Except.error.injEq, eq_comm]
  | some loader =>
    have hload := load_apply hloader url w
    have hcalls : desk.Calls [url] w.files _ _ := calls_of_loader hurl hloader
    have hrefuses (e : MapError) : desk.Refuses w.files url e ↔ _ :=
      refuses_iff_of_loader hurl hloader
    rcases hanswer : (loader url w.files).1 with e | map
    · rw [hanswer] at hload hcalls
      refine ⟨.error e, { desk with map := none }.fail, _, _, ?_, rfl, rfl, ?_, fun e' => ?_, hcalls⟩
      · simp [answer, hurl, Act.bind_of_returned hload]
      · simp [fail, Except.isOk, Except.toBool]
      · simp [hrefuses, hanswer]
    · rw [hanswer] at hload hcalls
      refine ⟨handedOut desk.entry (some map),
        { desk with map := some map }.noting (handedOut desk.entry (some map)), _, _, ?_, rfl, rfl,
        rfl, fun e => ?_, hcalls⟩
      · simp [answer, hurl, Act.bind_of_returned hload, handOver_eq]
      · simp [hrefuses, hanswer]

/-! ## Any number of requests -/

/-- Answers requests, one after the other. -/
def answerAll : List String → MapDesk E →
    Act (Event E) (World E) (List (Except MapError Bytes) × MapDesk E)
  | [], desk => return ([], desk)
  | url :: urls, desk => do
    let (reply, desk) ← desk.answer url
    let (answers, desk) ← answerAll urls desk
    return (reply :: answers, desk)

/-- A sequence of requests and what became of them. -/
structure Attended (desk : MapDesk E) (urls : List String) (w : World E)
    (answers : List (Except MapError Bytes)) (desk' : MapDesk E) (files' : E.FileState)
    (t : List (Event E)) : Prop where
  run : answerAll urls desk w = ⟨.returned (answers, desk'), { w with files := files' }, t⟩
  entry : desk'.entry = desk.entry
  loader : desk'.loader = desk.loader
  /-- The loader is called for every address but the sentinel, in order. -/
  calls : desk.Calls urls w.files t files'
  /-- There is one answer for each request. -/
  length : answers.length = urls.length
  /-- The desk has failed afterwards if it had before, or refused a request. -/
  failed : desk'.failed ↔ desk.failed ∨ ∃ e, .error e ∈ answers
  /-- After some of the requests the desk has come to `desk₁`; if that has failed,
      so has the desk in the end, and the next request is refused exactly for one of
      the reasons that `desk₁` has. -/
  course : ∀ front back, urls = front ++ back → ∃ earlier desk₁ files₁ t₁,
    answerAll front desk w = ⟨.returned (earlier, desk₁), { w with files := files₁ }, t₁⟩ ∧
    earlier <+: answers ∧ desk₁.entry = desk.entry ∧ desk₁.loader = desk.loader ∧
    (desk₁.failed → desk'.failed) ∧
    ∀ url rest e, back = url :: rest →
      (answers[front.length]? = some (.error e) ↔ desk₁.Refuses files₁ url e)

section
variable {desk desk₁ desk' : MapDesk E} {url : String} {urls : List String} {w w₁ w' : World E}
  {reply : Except MapError Bytes} {answers : List (Except MapError Bytes)}
  {files₁ files' : E.FileState} {t u : List (Event E)}

theorem answerAll_cons_apply (h : desk.answer url w = ⟨.returned (reply, desk₁), w₁, t⟩)
    (h' : answerAll urls desk₁ w₁ = ⟨.returned (answers, desk'), w', u⟩) :
    answerAll (url :: urls) desk w = ⟨.returned (reply :: answers, desk'), w', t ++ u⟩ := by
  rw [answerAll, Act.bind_of_returned h]
  simp [Act.bind_of_returned h']

theorem attended_nil (desk : MapDesk E) (w : World E) : desk.Attended [] w [] desk w.files [] where
  run := rfl
  entry := rfl
  loader := rfl
  calls := calls_nothing rfl
  length := rfl
  failed := by simp
  course front back h := by
    obtain ⟨rfl, rfl⟩ := List.append_eq_nil_iff.1 h.symm
    refine ⟨[], desk, w.files, [], rfl, List.nil_prefix, rfl, rfl, id, ?_⟩
    rintro url rest e ⟨⟩

/-- One request more, in front of others. -/
theorem Answered.attended (hrun : desk.answer url w =
      ⟨.returned (reply, desk₁), { w with files := files₁ }, t⟩)
    (h : desk.Answered w.files url reply desk₁ files₁ t)
    (hrest : desk₁.Attended urls { w with files := files₁ } answers desk' files' u) :
    desk.Attended (url :: urls) w (reply :: answers) desk' files' (t ++ u) := by
  have hfailed : desk'.failed ↔ desk.failed ∨ ∃ e, .error e ∈ reply :: answers := by
    rw [hrest.failed, h.failed]
    cases reply with
    | error e => simp [Except.isOk, Except.toBool]
    | ok map => simp [Except.isOk, Except.toBool]
  refine ⟨answerAll_cons_apply hrun hrest.run, hrest.entry.trans h.entry,
    hrest.loader.trans h.loader, h.calls.append h.loader hrest.calls, ?_, hfailed, ?_⟩
  · rw [List.length_cons, List.length_cons, hrest.length]
  intro front back hurls
  cases front with
  | nil =>
    refine ⟨[], desk, w.files, [], rfl, List.nil_prefix, rfl, rfl, fun hf => hfailed.2 (.inl hf), ?_⟩
    rintro url' rest e rfl
    cases hurls
    simpa using h.refused e
  | cons url' front =>
    cases hurls
    obtain ⟨earlier, desk₂, files₂, t₂, hrun₂, hearlier, hentry, hloader, hstays, hnext⟩ :=
      hrest.course front back rfl
    exact ⟨reply :: earlier, desk₂, files₂, t ++ t₂, answerAll_cons_apply hrun hrun₂,
      List.cons_prefix_cons.2 ⟨rfl, hearlier⟩, hentry.trans h.entry, hloader.trans h.loader, hstays,
      hnext⟩

end

/-- Every sequence of requests is attended to. -/
theorem answerAll_attended (desk : MapDesk E) (urls : List String) (w : World E) :
    ∃ answers desk' files' t, desk.Attended urls w answers desk' files' t := by
  induction urls generalizing desk w with
  | nil => exact ⟨_, _, _, _, attended_nil desk w⟩
  | cons url urls ih =>
    obtain ⟨reply, desk₁, files₁, t, hrun, hanswered⟩ := answer_answered desk url w
    obtain ⟨answers, desk', files', u, hrest⟩ := ih desk₁ { w with files := files₁ }
    exact ⟨_, _, _, _, hanswered.attended hrun hrest⟩

/-! ## Parses -/

/-- What a host asks for during a parse is such a sequence, and what the loader is
    called for during the parse is what it is called for then. -/
theorem converse_attended (d : Dialogue E.HostState E.Ast) (desk : MapDesk E) (w : World E) :
    ∃ urls answers verdict host desk' files' t trace,
      desk.Attended urls w answers desk' files' t ∧ d.Ends (urls.zip answers) verdict host ∧
      converse d desk w = ⟨.returned (verdict, desk'), { w with host := host, files := files' },
        trace ++ [.verdict verdict]⟩ ∧
      trace.filter Event.isLoad = t := by
  induction d generalizing desk w with
  | done verdict host =>
    exact ⟨[], [], verdict, host, desk, w.files, [], [], attended_nil desk w, .done, rfl, rfl⟩
  | ask url next ih =>
    obtain ⟨reply, desk₁, files₁, t, hrun, hanswered⟩ := answer_answered desk url w
    obtain ⟨urls, answers, verdict, host, desk', files', u, trace, hrest, hends, hconverse, htrace⟩ :=
      ih reply desk₁ { w with files := files₁ }
    refine ⟨url :: urls, reply :: answers, verdict, host, desk', files', t ++ u,
      t ++ .map url reply :: trace, hanswered.attended hrun hrest, .ask hends, ?_, ?_⟩
    · rw [converse, Act.bind_of_returned hrun]
      simp [hconverse]
    · have ht : t.filter Event.isLoad = t := List.filter_eq_self.2 hanswered.calls.isLoad
      simp [ht, htrace, Event.isLoad]

/-- **Requests during a parse.**  Whatever a desk was like before, and whatever it
    is asked for: the loader is called once for each address but the sentinel, in
    order; the desk remembers a failure exactly if it had failed before or refused a
    request, and none is forgotten on the way; each refusal is for one of the reasons
    in `Refuses`; and the desk keeps its loader and its kind of unit.  A parse is
    such a sequence of requests, whatever host it belongs to. -/
theorem attends (desk : MapDesk E) (w : World E) :
    (∀ urls, ∃ answers desk' files' t, desk.Attended urls w answers desk' files' t) ∧
    ∀ d : Dialogue E.HostState E.Ast, ∃ urls answers verdict host desk' files' t trace,
      desk.Attended urls w answers desk' files' t ∧ d.Ends (urls.zip answers) verdict host ∧
      converse d desk w = ⟨.returned (verdict, desk'), { w with host := host, files := files' },
        trace ++ [.verdict verdict]⟩ ∧
      trace.filter Event.isLoad = t :=
  ⟨fun urls => answerAll_attended desk urls w, fun d => converse_attended d desk w⟩

end MapDesk

end Downlevel
