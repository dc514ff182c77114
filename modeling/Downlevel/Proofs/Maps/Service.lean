/-
  Downlevel — the service of a map desk during a parse.

  The host decides which maps it asks for, how often and in which order, and
  what it makes of the answers.  `MapDesk.Serves desk t desk'` leaves all that
  open and fixes the other side: the events `t` are requests and their answers,
  one after the other, and they turn `desk` into `desk'`.

  * `Dialogue.Ends`: how a dialogue ends when it is given certain replies;
  * `MapDesk.converse_serves`: every parse with maps is served to its end;
  * `MapDesk.Serves.failed_eq`: the desk remembers a failure exactly if it
    refused a request, whatever it handed out before and after;
  * `MapDesk.Serves.map_eq`: the map in hand is the one the loader found last;
  * `MapDesk.Serves.empty`: from nothing comes nothing;
  * `MapDesk.Serves.fromHand`: each reply is made from the map in hand.
-/
import Downlevel.Proofs.Maps.Hand

namespace Downlevel

variable {E : Engines}

/-! ## Dialogues -/

/-- `d.Ends replies verdict host`: asking for the maps named in `replies` and
    getting these replies, `d` ends with `verdict` and leaves `host`. -/
inductive Dialogue.Ends {σ α : Type} :
    Dialogue σ α → List (String × Except MapError Bytes) → Except Rejection α → σ → Prop
  | done {verdict host} : Ends (.done verdict host) [] verdict host
  | ask {url next reply replies verdict host} : Ends (next reply) replies verdict host →
      Ends (.ask url next) ((url, reply) :: replies) verdict host

/-- The replies in a trace, with what was asked for. -/
def replies (t : List (Event E)) : List (String × Except MapError Bytes) :=
  t.filterMap fun
    | .map url reply => some (url, reply)
    | _ => none

theorem mem_replies {t : List (Event E)} {url : String}
    {reply : Except MapError Bytes} : (url, reply) ∈ replies t ↔ .map url reply ∈ t := by
  rw [replies, List.mem_filterMap]
  constructor
  · rintro ⟨e, he, heq⟩
    split at heq
    · cases heq
      exact he
    · cases heq
  · exact fun h => ⟨_, h, rfl⟩

/-! ## Serving -/

/-- From `w` to `w'` only the host and the files have gone on. -/
def World.HostOnly (w w' : World E) : Prop :=
  ∃ host files, w' = { w with host := host, files := files }

theorem World.HostOnly.refl (w : World E) : w.HostOnly w := ⟨w.host, w.files, rfl⟩

theorem World.HostOnly.trans {w w₁ w₂ : World E} (h : w.HostOnly w₁) (h' : w₁.HostOnly w₂) :
    w.HostOnly w₂ := by
  obtain ⟨host, files, rfl⟩ := h
  obtain ⟨host', files', rfl⟩ := h'
  exact ⟨host', files', rfl⟩

namespace MapDesk

/-- The desk after a reply. -/
def noting (desk : MapDesk E) (reply : Except MapError Bytes) : MapDesk E :=
  { desk with failed := desk.failed || !reply.isOk }

theorem handOver_eq (desk : MapDesk E) :
    desk.handOver =
      (handedOut desk.entry desk.map, desk.noting (handedOut desk.entry desk.map)) := by
  obtain ⟨entry, loader, map, failed⟩ := desk
  cases map with
  | none => simp [handOver, handedOut, noting, fail, Except.isOk, Except.toBool]
  | some map =>
    cases entry with
    | true => simp [handOver, handedOut, noting, Except.isOk, Except.toBool]
    | false =>
      cases h : SourceMap.shift map <;>
        simp [handOver, handedOut, noting, fail, h, Except.isOk, Except.toBool]

/-- The events of a conversation between the host and the desk, from one state
    of the desk to another. -/
inductive Serves : MapDesk E → List (Event E) → MapDesk E → Prop
  | rest {desk} : Serves desk [] desk
  /-- The sentinel stands for the map in hand. -/
  | sentinel {desk desk' t} :
      Serves (desk.noting (handedOut desk.entry desk.map)) t desk' →
      Serves desk (.map SourceMap.sentinel (handedOut desk.entry desk.map) :: t) desk'
  /-- The loader finds the map, which is in hand from then on. -/
  | loaded {desk desk' url map t} : desk.loader.isSome → url ≠ SourceMap.sentinel →
      Serves ({ desk with map := some map }.noting (handedOut desk.entry (some map))) t desk' →
      Serves desk (.load url (.ok map) :: .map url (handedOut desk.entry (some map)) :: t) desk'
  /-- The loader does not find the map. -/
  | missing {desk desk' url e t} : desk.loader.isSome → url ≠ SourceMap.sentinel →
      Serves ({ desk with map := none }.noting (.error e)) t desk' →
      Serves desk (.load url (.error e) :: .map url (.error e) :: t) desk'
  /-- There is no loader. -/
  | unloaded {desk desk' url t} : desk.loader = none → url ≠ SourceMap.sentinel →
      Serves ({ desk with map := none }.noting (.error .unavailable)) t desk' →
      Serves desk (.map url (.error .unavailable) :: t) desk'

theorem load_apply {desk : MapDesk E} {loader : Loader E.FileState} (h : desk.loader = some loader)
    (path : String) (w : World E) :
    desk.load path w =
      ⟨.returned (loader path w.files).1, { w with files := (loader path w.files).2 },
        [.load path (loader path w.files).1]⟩ := by
  simp [load, h]

/-- One request: what the desk answers begins a conversation of the desk. -/
theorem answer_serves (desk : MapDesk E) (url : String) (w : World E) :
    ∃ reply desk₁ w₁ t, desk.answer url w = ⟨.returned (reply, desk₁), w₁, t⟩ ∧ w.HostOnly w₁ ∧
      replies t = [] ∧
      ∀ {u desk'}, desk₁.Serves u desk' → desk.Serves (t ++ .map url reply :: u) desk' := by
  by_cases hurl : url = SourceMap.sentinel
  · subst hurl
    refine ⟨_, _, w, [], ?_, .refl w, rfl, .sentinel⟩
    simp [answer, handOver_eq]
  cases hloader : desk.loader with
  | none =>
    refine ⟨_, _, w, [], ?_, .refl w, rfl, .unloaded hloader hurl⟩
    simp [answer, load, hloader, hurl, noting, fail, Except.isOk, Except.toBool]
  | some loader =>
    have hsome : desk.loader.isSome := by simp [hloader]
    have hload := load_apply hloader url w
    rcases hanswer : (loader url w.files).1 with e | map
    · rw [hanswer] at hload
      refine ⟨_, _, { w with files := (loader url w.files).2 }, [.load url (.error e)], ?_,
        ⟨w.host, _, rfl⟩, rfl, .missing hsome hurl⟩
      simp [answer, hurl, Act.bind_of_returned hload, noting, fail, Except.isOk, Except.toBool]
    · rw [hanswer] at hload
      refine ⟨_, _, { w with files := (loader url w.files).2 }, [.load url (.ok map)], ?_,
        ⟨w.host, _, rfl⟩, rfl, .loaded hsome hurl⟩
      simp [answer, hurl, Act.bind_of_returned hload, handOver_eq]

/-- Whatever the host asks, the desk serves it until the host is done. -/
theorem converse_serves (d : Dialogue E.HostState E.Ast) (desk : MapDesk E) (w : World E) :
    ∃ verdict desk' w' t,
      converse d desk w = ⟨.returned (verdict, desk'), w', t ++ [.verdict verdict]⟩ ∧
      w.HostOnly w' ∧ desk.Serves t desk' ∧ d.Ends (replies t) verdict w'.host := by
  induction d generalizing desk w with
  | done verdict host => exact ⟨verdict, desk, _, [], rfl, ⟨host, w.files, rfl⟩, .rest, .done⟩
  | ask url next ih =>
    obtain ⟨reply, desk₁, w₁, t, hanswer, hw, ht, hserve⟩ := answer_serves desk url w
    obtain ⟨verdict, desk', w', u, hrest, hw', hserve', hends⟩ := ih reply desk₁ w₁
    refine ⟨verdict, desk', w', t ++ .map url reply :: u, ?_, hw.trans hw', hserve hserve', ?_⟩
    · rw [converse, Act.bind_of_returned hanswer]
      simp [hrest]
    · have : replies (t ++ .map url reply :: u) = (url, reply) :: replies u := by
        simp only [replies, List.filterMap_append] at ht ⊢
        simp [ht]
      rw [this]
      exact .ask hends

/-! ## What a conversation keeps and changes -/

namespace Serves

variable {desk desk' : MapDesk E} {t : List (Event E)}

/-- Nothing but requests happens during a conversation. -/
theorem isRequest (h : desk.Serves t desk') : ∀ e ∈ t, e.isRequest := by
  induction h with
  | rest => simp
  | sentinel _ ih | unloaded _ _ _ ih => simpa [Event.isRequest] using ih
  | loaded _ _ _ ih | missing _ _ _ ih => simpa [Event.isRequest] using ih

/-- A desk keeps its loader. -/
theorem loader_eq (h : desk.Serves t desk') : desk'.loader = desk.loader := by
  induction h with
  | rest => rfl
  | sentinel _ ih | loaded _ _ _ ih | missing _ _ _ ih | unloaded _ _ _ ih => exact ih

/-- The desk remembers a failure exactly if it had failed before or refused a
    request; no reply that it makes afterwards clears it. -/
theorem failed_eq (h : desk.Serves t desk') :
    desk'.failed = (desk.failed || t.any Event.isRefusal) := by
  have isRefusal_map (url : String) (reply : Except MapError Bytes) :
      (Event.map url reply : Event E).isRefusal = !reply.isOk := by
    cases reply <;> rfl
  induction h with
  | rest => simp
  | sentinel _ ih | unloaded _ _ _ ih =>
    simp only [ih, noting, List.any_cons, isRefusal_map, Bool.or_assoc]
  | loaded _ _ _ ih | missing _ _ _ ih =>
    simp only [ih, noting, List.any_cons, isRefusal_map, Bool.or_assoc]
    simp [Event.isRefusal]

/-- The map in hand is the last one that the loader was asked for. -/
theorem map_eq (h : desk.Serves t desk') (hloader : desk.loader.isSome) :
    desk'.map = handAfter desk.map t := by
  induction h with
  | rest => rfl
  | sentinel _ ih => exact ih hloader
  | loaded _ _ _ ih | missing _ _ _ ih => exact ih hloader
  | unloaded hnone => simp [hnone] at hloader

/-- Without a map in hand and without one that the loader finds, the host gets
    no map and none is in hand afterwards. -/
theorem empty (h : desk.Serves t desk') (hmap : desk.map = none)
    (ht : ∀ path found, .load path (.ok found) ∉ t) :
    desk'.map = none ∧ ∀ url found, .map url (.ok found) ∉ t := by
  induction h with
  | rest => exact ⟨hmap, fun _ _ => List.not_mem_nil⟩
  | @sentinel desk desk' t hrest ih =>
    obtain ⟨hmap', hnone⟩ := ih hmap fun path found hin => ht path found (by simp [hin])
    refine ⟨hmap', fun url found hin => ?_⟩
    rcases List.mem_cons.1 hin with hin | hin
    · simp [hmap, handedOut] at hin
    · exact hnone url found hin
  | @loaded _ _ url map => exact absurd List.mem_cons_self (ht url map)
  | missing _ _ _ ih | unloaded _ _ _ ih =>
    obtain ⟨hmap', hnone⟩ := ih rfl fun path found hin => ht path found (by simp [hin])
    exact ⟨hmap', fun url found hin => hnone url found (by simpa using hin)⟩

end Serves

/-- Whatever it answers, a desk keeps its loader. -/
theorem loader_of_answer {desk desk' : MapDesk E} {url : String} {w w' : World E}
    {reply : Except MapError Bytes} {t : List (Event E)}
    (h : desk.answer url w = ⟨.returned (reply, desk'), w', t⟩) : desk'.loader = desk.loader := by
  obtain ⟨reply₁, desk₁, w₁, t₁, hanswer, -, -, hserves⟩ := answer_serves desk url w
  rw [hanswer] at h
  cases h
  exact (hserves .rest).loader_eq

end MapDesk

/-! ## Replies -/

/-- Each reply of a conversation that follows `earlier` is made from the map in
    hand where it stands. -/
theorem MapDesk.Serves.fromHand {desk desk' : MapDesk E} {t : List (Event E)}
    (h : desk.Serves t desk') (hloader : desk.loader.isSome) (earlier : List (Event E))
    (hhand : handAfter none earlier = desk.map) :
    Throughout (fun before e _ => e.FromHand desk.entry (earlier ++ before)) t := by
  induction h generalizing earlier with
  | rest => exact throughout_nil
  | @sentinel desk desk' t _ ih =>
    refine throughout_cons.2 ⟨?_, ?_⟩
    · simp [Event.FromHand, hhand]
    · have := ih hloader
        (earlier ++ [.map SourceMap.sentinel (handedOut desk.entry desk.map)])
        (by simpa [Event.hand, Event.supply?, noting] using hhand)
      simpa [noting] using this
  | @loaded desk desk' url map t _ hurl _ ih =>
    refine throughout_cons.2 ⟨trivial, throughout_cons.2 ⟨?_, ?_⟩⟩
    · simp only [Event.FromHand, hurl, if_false]
      exact ⟨earlier, _, rfl, rfl⟩
    · have := ih hloader
        (earlier ++ [.load url (.ok map), .map url (handedOut desk.entry (some map))])
        (by simp [Event.hand, Event.supply?, noting, Except.toOption])
      simpa [noting] using this
  | @missing desk desk' url e t _ hurl _ ih =>
    refine throughout_cons.2 ⟨trivial, throughout_cons.2 ⟨?_, ?_⟩⟩
    · simp only [Event.FromHand, hurl, if_false]
      exact ⟨earlier, _, rfl, rfl⟩
    · have := ih hloader (earlier ++ [.load url (.error e), .map url (.error e)])
        (by simp [Event.hand, Event.supply?, noting, Except.toOption])
      simpa [noting] using this
  | unloaded hnone => simp [hnone] at hloader

end Downlevel
