/-
  Downlevel — acts: computations with a state, a trace and an ending.

  An `Act ε σ α` starts in a state `σ`, leaves a state, records the events `ε`
  it caused in order, and ends by returning a value or in a panic.  A panic
  stops the act but undoes nothing: the state and the trace reached so far
  stay.  Expected failures are no endings of their own; they are values
  (`Except`) of acts that return.

  * `Act.emit`, `Act.get`, `Act.set`, `Act.modify`, `Act.panic` are the
    primitives;
  * `Act.contain` turns a panic into a value, as the caller of a thread does;
  * `Act.within` runs an act on a part of a larger state;
  * `Act.bind_of_returned` and `Act.bind_of_panicked` are the two rules of
    sequencing, and the monad laws hold.
-/

namespace Downlevel

variable {ε σ τ α β : Type}

/-- How an act ends. -/
inductive Ending (α : Type) where
  /-- It returned a value. -/
  | returned (value : α)
  /-- It was broken off by a panic with this text. -/
  | panicked (text : String)
  deriving DecidableEq

/-- What one run of an act yields. -/
structure Run (ε σ α : Type) where
  ending : Ending α
  state : σ
  trace : List ε

/-- A computation that starts in a state and yields a run. -/
def Act (ε σ α : Type) : Type := σ → Run ε σ α

namespace Act

/-- The run of an act from a state. -/
def run (x : Act ε σ α) (s : σ) : Run ε σ α := x s

/-- Returns a value and does nothing else. -/
protected def pure (a : α) : Act ε σ α := fun s => ⟨.returned a, s, []⟩

/-- One act after another; the second does not start after a panic. -/
protected def bind (x : Act ε σ α) (f : α → Act ε σ β) : Act ε σ β := fun s =>
  match x s with
  | ⟨.returned a, s', t⟩ => let r := f a s'; ⟨r.ending, r.state, t ++ r.trace⟩
  | ⟨.panicked text, s', t⟩ => ⟨.panicked text, s', t⟩

instance : Monad (Act ε σ) where
  pure := Act.pure
  bind := Act.bind

/-! ## Primitives -/

/-- Records an event. -/
def emit (e : ε) : Act ε σ Unit := fun s => ⟨.returned (), s, [e]⟩

/-- The current state. -/
def get : Act ε σ σ := fun s => ⟨.returned s, s, []⟩

/-- Replaces the state. -/
def set (s : σ) : Act ε σ Unit := fun _ => ⟨.returned (), s, []⟩

/-- Changes the state by a function. -/
def modify (f : σ → σ) : Act ε σ Unit := fun s => ⟨.returned (), f s, []⟩

/-- Breaks off with a text. -/
def panic (text : String) : Act ε σ α := fun s => ⟨.panicked text, s, []⟩

/-- Goes on with the value of an ending, or breaks off as it did. -/
def ofEnding : Ending α → Act ε σ α
  | .returned a => Act.pure a
  | .panicked text => panic text

/-- Runs an act and returns how it ended, so that a panic goes no further. -/
def contain (x : Act ε σ α) : Act ε σ (Ending α) := fun s =>
  let r := x s; ⟨.returned r.ending, r.state, r.trace⟩

/-- Runs an act on the part `view s` of the state and puts the part it leaves
    back with `put`, also after a panic. -/
def within (view : σ → τ) (put : τ → σ → σ) (x : Act ε τ α) : Act ε σ α := fun s =>
  let r := x (view s); ⟨r.ending, put r.state s, r.trace⟩

/-! ## Laws -/

theorem bind_of_returned {x : Act ε σ α} {f : α → Act ε σ β} {s s' : σ} {a : α} {t : List ε}
    (h : x s = ⟨.returned a, s', t⟩) :
    (x >>= f) s = ⟨(f a s').ending, (f a s').state, t ++ (f a s').trace⟩ := by
  simp [Bind.bind, Act.bind, h]

theorem bind_of_panicked {x : Act ε σ α} {f : α → Act ε σ β} {s s' : σ} {text : String}
    {t : List ε} (h : x s = ⟨.panicked text, s', t⟩) :
    (x >>= f) s = ⟨.panicked text, s', t⟩ := by
  simp [Bind.bind, Act.bind, h]

/-! How the primitives begin a sequence. -/

@[simp] theorem emit_bind_apply (e : ε) (f : Unit → Act ε σ β) (s : σ) :
    (emit e >>= f) s = ⟨(f () s).ending, (f () s).state, e :: (f () s).trace⟩ := rfl

@[simp] theorem get_bind_apply (f : σ → Act ε σ β) (s : σ) : (get >>= f) s = f s s := rfl

@[simp] theorem set_bind_apply (s' : σ) (f : Unit → Act ε σ β) (s : σ) :
    (set s' >>= f) s = f () s' := rfl

@[simp] theorem modify_bind_apply (g : σ → σ) (f : Unit → Act ε σ β) (s : σ) :
    (modify g >>= f) s = f () (g s) := rfl

@[simp] theorem emit_map_apply (e : ε) (f : Unit → α) (s : σ) :
    (f <$> (emit e : Act ε σ Unit)) s = ⟨.returned (f ()), s, [e]⟩ := rfl

/-! What the primitives do by themselves. -/

@[simp] theorem pure_apply (a : α) (s : σ) :
    (pure a : Act ε σ α) s = ⟨.returned a, s, []⟩ := rfl

@[simp] theorem emit_apply (e : ε) (s : σ) :
    (emit e : Act ε σ Unit) s = ⟨.returned (), s, [e]⟩ := rfl

@[simp] theorem get_apply (s : σ) : (get : Act ε σ σ) s = ⟨.returned s, s, []⟩ := rfl

@[simp] theorem modify_apply (f : σ → σ) (s : σ) :
    (modify f : Act ε σ Unit) s = ⟨.returned (), f s, []⟩ := rfl

@[simp] theorem panic_apply (text : String) (s : σ) :
    (panic text : Act ε σ α) s = ⟨.panicked text, s, []⟩ := rfl

@[simp] theorem contain_apply (x : Act ε σ α) (s : σ) :
    contain x s = ⟨.returned (x s).ending, (x s).state, (x s).trace⟩ := rfl

@[simp] theorem within_apply (view : σ → τ) (put : τ → σ → σ) (x : Act ε τ α) (s : σ) :
    within view put x s = ⟨(x (view s)).ending, put (x (view s)).state s, (x (view s)).trace⟩ :=
  rfl

instance : LawfulMonad (Act ε σ) := LawfulMonad.mk' _
  (fun x => by
    funext s
    rcases h : x s with ⟨_ | _, s', t⟩ <;>
      simp [Functor.map, Act.bind, Act.pure, h])
  (fun a f => by
    funext s
    simp [Bind.bind, Pure.pure, Act.bind, Act.pure])
  (fun x f g => by
    funext s
    rcases h : x s with ⟨a | _, s', t⟩
    · rcases h' : f a s' with ⟨_ | _, s'', t'⟩ <;>
        simp [Bind.bind, Act.bind, h, h', List.append_assoc]
    · simp [Bind.bind, Act.bind, h])

end Act

end Downlevel
