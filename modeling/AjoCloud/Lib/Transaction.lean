import AjoCloud.Lib.Result

/-!
# Transactions

A transaction's body reads and writes the state as it goes along, and what it has written is still
there when it throws.  `serializable` runs a body and decides what becomes of its writes: they are
kept when the body returned, and dropped, all of them, when it threw.
-/

namespace AjoCloud.Lib

variable {ε σ α β : Type}

/-- The body of a transaction over the state `σ`. -/
structure Body (ε σ α : Type) where
  /-- What the body answers, and the state it leaves before anything is rolled back. -/
  run : σ → Except ε α × σ

namespace Body

/-- A statement that reads the state. -/
def read (f : σ → Except ε α) : Body ε σ α := ⟨fun s ↦ (f s, s)⟩

/-- A statement that writes the state. -/
def write (f : σ → σ) : Body ε σ Unit := ⟨fun s ↦ (.ok (), f s)⟩

/-- A part of a body that is written as a transaction of its own; what it writes before it throws
is not recorded. -/
def call (f : σ → Except ε (α × σ)) : Body ε σ α := ⟨fun s ↦
  match f s with
  | .ok (a, s') => (.ok a, s')
  | .error e => (.error e, s)⟩

/-- The second part of a body starts in the state where the first one returned. -/
def andThen (body : Body ε σ α) (next : α → Body ε σ β) : Body ε σ β := ⟨fun s ↦
  match body.run s with
  | (.ok a, s') => (next a).run s'
  | (.error e, s') => (.error e, s')⟩

instance : Monad (Body ε σ) where
  pure a := ⟨fun s ↦ (.ok a, s)⟩
  bind := andThen

@[simp] theorem run_read (f : σ → Except ε α) (s : σ) : (read f).run s = (f s, s) := rfl

theorem run_call (f : σ → Except ε (α × σ)) (s : σ) : (call f).run s =
    match f s with
    | .ok (a, s') => (.ok a, s')
    | .error e => (.error e, s) := rfl

theorem run_bind (body : Body ε σ α) (next : α → Body ε σ β) (s : σ) : (body >>= next).run s =
    match body.run s with
    | (.ok a, s') => (next a).run s'
    | (.error e, s') => (.error e, s') := rfl

/-- A body whose first part returned goes on from there. -/
theorem run_bind_of_ok {body : Body ε σ α} {next : α → Body ε σ β} {s s' : σ} {a : α}
    (h : body.run s = (.ok a, s')) : (body >>= next).run s = (next a).run s' := by
  rw [run_bind, h]

/-- A body whose first part threw does not go on; what was written is still there. -/
theorem run_bind_of_error {body : Body ε σ α} {next : α → Body ε σ β} {s s' : σ} {e : ε}
    (h : body.run s = (.error e, s')) : (body >>= next).run s = (.error e, s') := by
  rw [run_bind, h]

end Body

/-- Run a body as one transaction. -/
def serializable (body : Body ε σ α) (s : σ) : Except ε (α × σ) :=
  match body.run s with
  | (.ok a, s') => .ok (a, s')
  | (.error e, _) => .error e

@[simp] theorem serializable_read (f : σ → Except ε α) (s : σ) :
    serializable (.read f) s = (f s).map fun a ↦ (a, s) := by
  rw [serializable, Body.run_read]
  cases f s with
  | error e => rfl
  | ok a => rfl

@[simp] theorem serializable_call (f : σ → Except ε (α × σ)) (s : σ) :
    serializable (.call f) s = f s := by
  rw [serializable, Body.run_call]
  cases f s with
  | error e => rfl
  | ok p => rfl

/-- Two parts of a body make one transaction: if the first one throws nothing of it is left. -/
@[simp] theorem serializable_bind (body : Body ε σ α) (next : α → Body ε σ β) (s : σ) :
    serializable (body >>= next) s =
      serializable body s >>= fun p ↦ serializable (next p.1) p.2 := by
  rw [serializable, Body.run_bind, serializable]
  rcases body.run s with ⟨e | a, s'⟩
  · rfl
  · rfl

end AjoCloud.Lib
