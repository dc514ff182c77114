/-
  Downlevel — a map never decides a compile.

  When a request for a map is refused, the host may reject the text, or accept
  it, or go on as if nothing had happened.  None of that counts: the same text
  is parsed again, without maps.  What counts is the verdict of a clean parse,
  in which every request was met; a parse without maps makes no request and is
  clean.

  * `ParseCourse.decided`: the verdict that counts is that of a clean parse;
  * `Event.Grounded`: what the host compiles and what is transformed rests on
    the verdict of a clean parse, and a refusal is followed by a parse without
    maps;
  * `Bench.compile_judged`: a compile succeeds or is rejected by such a verdict.
-/
import Downlevel.Proofs.Compile.Calls

namespace Downlevel

variable {E : Engines}

/-! ## Clean parses -/

/-- The events of a parse in which the host was refused no map, and its
    verdict. -/
inductive CleanParse (filename code : String) : List (Event E) → Except Rejection E.Ast → Prop
  | plain {host verdict host'} : E.host.parse filename code host = (verdict, host') →
      CleanParse filename code [.parse filename code false, .verdict verdict] verdict
  | met {host t verdict host'} :
      (E.host.parseWithMaps filename code host).Ends (replies t) verdict host' →
      (∀ e ∈ t, e.isRequest ∧ ¬ e.isRefusal) →
      CleanParse filename code (.parse filename code true :: (t ++ [.verdict verdict])) verdict

/-- The events end in a clean parse of `code` with this verdict. -/
def Decided (filename code : String) (t : List (Event E)) (verdict : Except Rejection E.Ast) :
    Prop :=
  ∃ earlier call, t = earlier ++ call ∧ CleanParse filename code call verdict

theorem Decided.extend {filename code : String} {t : List (Event E)}
    {verdict : Except Rejection E.Ast} (h : Decided filename code t verdict) (x : List (Event E)) :
    Decided filename code (x ++ t) verdict := by
  obtain ⟨earlier, call, rfl, hcall⟩ := h
  exact ⟨x ++ earlier, call, by simp, hcall⟩

/-- The verdict that counts is that of the last parse, which is clean. -/
theorem ParseCourse.decided {filename code : String} {desk : MapDesk E} {t : List (Event E)}
    {verdict : Except Rejection E.Ast} {map : Option Bytes}
    (h : ParseCourse filename code desk t verdict map) : Decided filename code t verdict := by
  cases h with
  | plain _ hparse => exact ⟨[], _, rfl, .plain hparse⟩
  | met _ hserves hends hmet =>
    exact ⟨[], _, rfl, .met hends fun e he => ⟨hserves.isRequest e he, hmet e he⟩⟩
  | @repeated _ t void _ _ _ _ _ _ _ _ hparse =>
    refine ⟨.parse filename code true :: (t ++ [.verdict void,
      .log (.mapMissing filename (errorOf? void))]), _, ?_, .plain hparse⟩
    simp

/-! ## What an event rests on -/

/-- What stands around an event in the compile of a file whose first text is
    `unit`. -/
def Event.Grounded (filename unit : String) (before : List (Event E)) (e : Event E)
    (after : List (Event E)) : Prop :=
  match e with
  -- what is compiled was accepted by a clean parse
  | .compile ast _ _ => ∃ code, Decided filename code before (.ok ast)
  -- what is transformed was rejected by a clean parse
  | .log (.transforming _ _ error) => Decided filename unit before (.error error)
  | .build _ | .start .. | .transform .. => ∃ e ∈ before, e.isFallback
  -- what was parsed with a refusal is parsed again, without maps
  | .map _ (.error _) => ∃ earlier code asked asked' void verdict later,
      before = earlier ++ .parse filename code true :: asked ∧ (∀ e ∈ asked, e.isRequest) ∧
      after = asked' ++ .verdict void :: .log (.mapMissing filename (errorOf? void)) ::
        .parse filename code false :: .verdict verdict :: later ∧
      (∀ e ∈ asked', e.isRequest) ∧ ∃ host host', E.host.parse filename code host = (verdict, host')
  | _ => True

namespace Event.Grounded

variable {filename unit : String} {before after : List (Event E)} {e : Event E}

/-- What an event rests on does not go away when more happens before or after. -/
theorem extend (h : e.Grounded filename unit before after) (x y : List (Event E)) :
    e.Grounded filename unit (x ++ before) (after ++ y) := by
  unfold Grounded at h ⊢
  split at h
  · obtain ⟨code, h⟩ := h
    exact ⟨code, h.extend x⟩
  · exact h.extend x
  · obtain ⟨e, he, h⟩ := h
    exact ⟨e, List.mem_append_right x he, h⟩
  · obtain ⟨e, he, h⟩ := h
    exact ⟨e, List.mem_append_right x he, h⟩
  · obtain ⟨e, he, h⟩ := h
    exact ⟨e, List.mem_append_right x he, h⟩
  · obtain ⟨earlier, code, asked, asked', void, verdict, later, rfl, hasked, rfl, hasked', h⟩ := h
    exact ⟨x ++ earlier, code, asked, asked', void, verdict, later ++ y, by simp, hasked, by simp,
      hasked', h⟩
  · trivial

/-- During a parse only a refusal has to rest on anything. -/
theorem of_parsing (hphase : e.phase = .parsing) (hrefusal : ¬ e.isRefusal) :
    e.Grounded filename unit before after := by
  unfold Grounded
  split
  · cases hphase
  · cases hphase
  · cases hphase
  · cases hphase
  · cases hphase
  · exact absurd rfl hrefusal
  · trivial

/-- A transform comes after a fallback. -/
theorem of_transforming (hphase : e.phase = .transforming) (h : ∃ x ∈ before, x.isFallback) :
    e.Grounded filename unit before after := by
  unfold Grounded
  split
  · cases hphase
  · cases hphase
  · exact h
  · exact h
  · exact h
  · cases hphase
  · trivial

end Event.Grounded

/-- A part of a trace keeps its grounds in the whole. -/
theorem Throughout.grounded_within {filename unit : String} {t : List (Event E)}
    (h : Throughout (fun before e after => e.Grounded filename unit before after) t)
    (x y : List (Event E)) :
    Throughout (fun before e after => e.Grounded filename unit (x ++ before) (after ++ y)) t :=
  h.mono fun _ _ _ he => he.extend x y

/-! ## Parses and attempts -/

/-- A refusal in a parse with maps is followed by a parse without. -/
theorem Event.grounded_of_repeated {filename unit code : String} {asked asked' : List (Event E)}
    {e : Event E} {void verdict : Except Rejection E.Ast} {host host' : E.HostState}
    (hrequest : ∀ x ∈ asked ++ e :: asked', x.isRequest)
    (hparse : E.host.parse filename code host = (verdict, host')) :
    e.Grounded filename unit (.parse filename code true :: asked)
      (asked' ++ [.verdict void, .log (.mapMissing filename (errorOf? void)),
        .parse filename code false, .verdict verdict]) := by
  by_cases hrefusal : e.isRefusal
  · unfold isRefusal at hrefusal
    split at hrefusal
    · refine ⟨[], code, asked, asked', void, verdict, [], rfl, ?_, by simp, ?_, host, host', hparse⟩
      · exact fun x hx => hrequest x (List.mem_append_left _ hx)
      · exact fun x hx => hrequest x (List.mem_append_right _ (List.mem_cons_of_mem _ hx))
    · cases hrefusal
  · have he : e.isRequest := hrequest e (by simp)
    exact .of_parsing (phase_of_isRequest he) hrefusal

theorem ParseCourse.grounded {filename code : String} {desk : MapDesk E} {t : List (Event E)}
    {verdict : Except Rejection E.Ast} {map : Option Bytes}
    (h : ParseCourse filename code desk t verdict map) (unit : String) :
    Throughout (fun before e after => e.Grounded filename unit before after) t := by
  cases h with
  | plain =>
    exact throughout_cons.2 ⟨trivial, throughout_singleton.2 trivial⟩
  | met _ hserves _ hmet =>
    refine throughout_cons.2 ⟨trivial, throughout_append.2 ⟨?_, throughout_singleton.2 trivial⟩⟩
    rintro before e after rfl
    exact .of_parsing (Event.phase_of_isRequest (hserves.isRequest e (by simp))) (hmet e (by simp))
  | repeated _ hserves _ _ hparse =>
    refine throughout_cons.2 ⟨trivial, throughout_append.2 ⟨?_, ?_⟩⟩
    · rintro asked e asked' rfl
      exact Event.grounded_of_repeated hserves.isRequest hparse
    · -- behind the requests there is no refusal
      simp [throughout_cons, throughout_nil, Event.Grounded]

namespace AttemptCourse

variable {o : CompilerOptions E} {source filename : String} {entry : Bool} {map : Option Bytes}
  {t : List (Event E)} {result : AttemptResult E.Program}

theorem grounded (h : AttemptCourse o source filename entry map t result) (unit : String) :
    Throughout (fun before e after => e.Grounded filename unit before after) t := by
  cases h with
  | rejected hparse => exact hparse.grounded unit
  | refused hparse | accepted hparse =>
    refine throughout_append.2 ⟨?_, throughout_singleton.2 ⟨unitText entry source, ?_⟩⟩
    · simpa using (hparse.grounded unit).grounded_within [] [_]
    · simpa using hparse.decided

end AttemptCourse

/-! ## The verdict on a unit -/

/-- The events of a compile end in the host's answer about `code`: a clean
    parse rejects it, or the host compiles what a clean parse made of it. -/
inductive Judged (filename code : String) (strict : Bool) (t : List (Event E)) :
    Except Rejection E.Program → Prop
  | parse {e} : Decided filename code t (.error e) → Judged filename code strict t (.error e)
  | compile {before ast answer host host'} : t = before ++ [.compile ast strict answer] →
      Decided filename code before (.ok ast) → E.host.compile ast strict host = (answer, host') →
      Judged filename code strict t answer

theorem Judged.extend {filename code : String} {strict : Bool} {t : List (Event E)}
    {answer : Except Rejection E.Program} (h : Judged filename code strict t answer)
    (x : List (Event E)) : Judged filename code strict (x ++ t) answer := by
  cases h with
  | parse h => exact .parse (h.extend x)
  | compile ht h hcompile => exact .compile (by rw [ht, List.append_assoc]) (h.extend x) hcompile

/-- What was answered for a unit is the host's answer. -/
def Answered (filename : String) (strict : Bool) (t : List (Event E)) :
    Except CompileError (CompiledUnit E.Program) → Prop
  | .ok unit => Judged filename unit.source strict t (.ok unit.program)
  | .error (.rejected name e code) => name = filename ∧ Judged filename code strict t (.error e)
  | .error _ => True

theorem Answered.extend {filename : String} {strict : Bool} {t : List (Event E)}
    {result : Except CompileError (CompiledUnit E.Program)} (h : Answered filename strict t result)
    (x : List (Event E)) : Answered filename strict (x ++ t) result := by
  unfold Answered at h ⊢
  split at h
  · exact Judged.extend h x
  · exact ⟨h.1, h.2.extend x⟩
  · trivial

theorem AttemptCourse.answered {o : CompilerOptions E} {source filename : String} {entry : Bool}
    {map : Option Bytes} {t : List (Event E)} {result : AttemptResult E.Program}
    (h : AttemptCourse o source filename entry map t result) :
    Answered filename o.strict t (Bench.final filename (unitText entry source) result) := by
  cases h with
  | rejected hparse => exact ⟨rfl, .parse hparse.decided⟩
  | refused hparse hcompile => exact ⟨rfl, .compile rfl hparse.decided hcompile⟩
  | accepted hparse hcompile => exact .compile rfl hparse.decided hcompile

namespace Bench

variable {b b' : Bench E} {source filename : String} {entry : Bool} {t : List (Event E)}
  {ending : Ending (Except CompileError (CompiledUnit E.Program))}

theorem Course.answered {result : Except CompileError (CompiledUnit E.Program)}
    (h : b.Course source filename entry t (.returned result) b') :
    Answered filename b.compiler.options.strict t result := by
  cases h with
  | direct hfirst => exact hfirst.course.answered
  | base _ hfirst => exact hfirst.course.answered
  | @failed _ _ _ _ _ error _ _ _ hu =>
    cases error with
    | rejected name e code => exact absurd rfl (hu.course.ne_rejected name e code)
    | transformFailed | notStarted => trivial
  | @transformed first e _ _ u _ _ _ _ _ _ _ _ hsecond =>
    have := hsecond.course.answered.extend (first ++ .log (.transforming filename .extended e) :: u)
    simpa [final] using this
  | @rejected first e _ _ u _ _ _ _ _ _ _ _ _ hsecond =>
    have := hsecond.course.answered.extend (first ++ .log (.transforming filename .extended e) :: u)
    simpa [final] using this

theorem Course.grounded (h : b.Course source filename entry t ending b') :
    Throughout (fun before e after => e.Grounded filename (unitText entry source) before after)
      t := by
  rcases h.parts with
    ⟨result, hfirst⟩ | ⟨-, first, e, map, u, answer, second, rfl, hfirst, hu, hsecond⟩
  · exact hfirst.grounded _
  · have hrejected : Decided filename (unitText entry source) (first ++ []) (.error e) := by
      cases hfirst with
      | rejected hparse => simpa using hparse.decided
    refine throughout_append.2 ⟨?_, throughout_cons.2 ⟨hrejected, throughout_append.2 ⟨?_, ?_⟩⟩⟩
    · simpa using (hfirst.grounded (unitText entry source)).grounded_within [] _
    · rintro before x after rfl
      exact .of_transforming (hu.phase_eq x (by simp))
        ⟨.log (.transforming filename .extended e), by simp, rfl⟩
    · rcases hsecond with rfl | ⟨output, result, -, hsecond⟩
      · exact throughout_nil
      · have := (hsecond.grounded (unitText entry source)).grounded_within
          (first ++ .log (.transforming filename .extended e) :: u) []
        simpa using this

/-- A map failure never decides a compile.  What the host rejects or compiles
    in the end, and what makes the compiler fall back, comes from a clean parse;
    a parse in which a map was refused is repeated without maps, whatever its
    verdict. -/
theorem compile_judged (source filename : String) (entry : Bool) (b : Bench E) :
    let strict := b.compiler.options.strict
    let run := compile source filename entry b
    (∀ name e code, run.ending = .returned (.error (.rejected name e code)) →
      name = filename ∧ Judged filename code strict run.trace (.error e)) ∧
    (∀ unit, run.ending = .returned (.ok unit) →
      Judged filename unit.source strict run.trace (.ok unit.program)) ∧
    Throughout (fun before e after => e.Grounded filename (unitText entry source) before after)
      run.trace := by
  obtain ⟨ending, b', t, hrun, hcourse⟩ := compile_course source filename entry b
  simp only [hrun]
  refine ⟨?_, ?_, hcourse.grounded⟩
  · rintro name e code rfl
    exact hcourse.answered
  · rintro unit rfl
    exact hcourse.answered

end Bench

end Downlevel
