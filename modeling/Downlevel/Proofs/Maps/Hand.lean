/-
  Downlevel — the map in hand.

  At any point of a compile one map is in hand: the last one that a loader
  found or that transformed code came with, and none after a load that failed.
  So the events say which map it is, without a look at the desk.

  * `handAfter map t`: the map in hand after the events `t`;
  * `handAfter_eq`: it is what was supplied last;
  * `handAfter_none_iff`: there is none exactly if a failed load came after
    every map;
  * `Event.FromHand`: a reply to the host is made from the map in hand.
-/
import Downlevel.Maps.Desk
import Downlevel.Proofs.Events

namespace Downlevel

variable {E : Engines}

/-! ## Supplies -/

/-- The map that transformed code came with. -/
def RawOutput.produced? (raw : RawOutput) : Option Bytes := raw.map.map Json.write

/-- What an event puts in the place of the map in hand: a loader was asked for
    a map, or code was transformed. -/
def Event.supply? : Event E → Option (Option Bytes)
  | .load _ answer => some answer.toOption
  | .transform _ _ _ _ (.returned (.ok raw)) => some raw.produced?
  | _ => none

/-- The map of a transform that returned code. -/
def Event.produced? : Event E → Option Bytes
  | .transform _ _ _ _ (.returned (.ok raw)) => raw.produced?
  | _ => none

theorem Event.supply?_of_produced? {e : Event E} {map : Bytes} (h : e.produced? = some map) :
    e.supply? = some (some map) := by
  unfold produced? at h
  split at h
  · exact congrArg some h
  · cases h

/-- A map is supplied by a loader that found it, or by a transform. -/
theorem Event.load_or_produced?_of_supply? {e : Event E} {map : Bytes}
    (h : e.supply? = some (some map)) :
    (∃ url, e = .load url (.ok map)) ∨ e.produced? = some map := by
  unfold supply? at h
  split at h
  · next url answer =>
    cases answer with
    | error e => simp [Except.toOption] at h
    | ok found =>
      refine .inl ⟨url, ?_⟩
      simpa [Except.toOption] using h
  · exact .inr (by simpa [produced?] using h)
  · cases h

/-- What was supplied last. -/
def lastSupply? (t : List (Event E)) : Option (Option Bytes) := (t.filterMap Event.supply?).getLast?

theorem lastSupply?_cons (e : Event E) (t : List (Event E)) :
    lastSupply? (e :: t) = (lastSupply? t).or e.supply? := by
  unfold lastSupply?
  cases h : e.supply? with
  | none => rw [List.filterMap_cons_none h, Option.or_none]
  | some supply =>
    rw [List.filterMap_cons_some h, List.getLast?_cons]
    cases (t.filterMap Event.supply?).getLast? <;> rfl

/-! ## The map in hand -/

/-- The map in hand after an event. -/
def Event.hand (map : Option Bytes) (e : Event E) : Option Bytes := e.supply?.getD map

/-- The map in hand after some events, if it was `map` before. -/
def handAfter (map : Option Bytes) (t : List (Event E)) : Option Bytes := t.foldl Event.hand map

section
variable {map : Option Bytes} {t : List (Event E)}

@[simp] theorem handAfter_nil : handAfter map ([] : List (Event E)) = map := rfl

@[simp] theorem handAfter_cons (e : Event E) :
    handAfter map (e :: t) = handAfter (e.hand map) t := rfl

@[simp] theorem handAfter_append (u : List (Event E)) :
    handAfter map (t ++ u) = handAfter (handAfter map t) u := List.foldl_append

theorem handAfter_eq : handAfter map t = (lastSupply? t).getD map := by
  induction t generalizing map with
  | nil => rfl
  | cons e t ih =>
    rw [handAfter_cons, ih, lastSupply?_cons, Event.hand]
    cases lastSupply? t <;> simp

/-- A map in hand was there before, or an event put it there. -/
theorem eq_or_supply?_of_handAfter {found : Bytes} (h : handAfter map t = some found) :
    map = some found ∨
      ∃ before e after, t = before ++ e :: after ∧ e.supply? = some (some found) := by
  induction t generalizing map with
  | nil => exact .inl h
  | cons e t ih =>
    rw [handAfter_cons] at h
    rcases ih h with hhand | ⟨before, x, after, rfl, hx⟩
    · cases hsupply : e.supply? with
      | none => exact .inl (by simpa [Event.hand, hsupply] using hhand)
      | some supply =>
        refine .inr ⟨[], e, t, rfl, ?_⟩
        simpa [Event.hand, hsupply] using hhand
    · exact .inr ⟨e :: before, x, after, rfl, hx⟩

/-- Without a supply the map in hand stays. -/
theorem handAfter_of_supply?_eq_none (h : ∀ e ∈ t, e.supply? = none) : handAfter map t = map := by
  have : t.filterMap Event.supply? = [] := List.filterMap_eq_nil_iff.2 h
  rw [handAfter_eq, lastSupply?, this]
  rfl

end

/-! ## Replies -/

/-- What is handed out when this map is in hand. -/
def handedOut (entry : Bool) : Option Bytes → Except MapError Bytes
  | none => .error .unavailable
  | some map => if entry then .ok map else SourceMap.shift map

/-- The map that the host is handed, with the address it asked for. -/
def Event.handed? : Event E → Option (String × Bytes)
  | .map url (.ok reply) => some (url, reply)
  | _ => none

theorem Event.eq_map_of_handed? {e : Event E} {url : String} {reply : Bytes}
    (h : e.handed? = some (url, reply)) : e = .map url (.ok reply) := by
  unfold handed? at h
  split at h
  · cases h
    rfl
  · cases h

/-- A reply is made from what is in hand: the sentinel stands for the map in
    hand, and any other address for what the loader just answered. -/
def Event.FromHand (entry : Bool) (before : List (Event E)) : Event E → Prop
  | .map url reply =>
    if url = SourceMap.sentinel then reply = handedOut entry (handAfter none before)
    else ∃ earlier answer, before = earlier ++ [.load url answer] ∧
      reply = answer.bind fun map => handedOut entry (some map)
  | _ => True

end Downlevel
