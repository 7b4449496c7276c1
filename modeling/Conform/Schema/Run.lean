/-! Runs: an outcome together with the calls of supplied functions that led to it. Calls made
before a fault are kept. -/

namespace Conform
set_option autoImplicit false

/-! ## Calls -/

/-- The name of a function that a caller supplied. -/
inductive Callback where
  | named (name : String)
  /-- A function that stands for a schema under a label; the tag makes it unique. -/
  | watched (tag : Nat) (label : String)
  deriving DecidableEq

/-- What a supplied function is called for. -/
inductive Phase where
  | test
  | describe
  deriving DecidableEq

structure Call where
  phase : Phase
  callback : Callback
  deriving DecidableEq

/-- The label of a call that is watched, with the phase in front. -/
def Call.label? (c : Call) : Option String :=
  match c.callback with
  | .named _ => none
  | .watched _ label =>
    match c.phase with
    | .test => some ("test:" ++ label)
    | .describe => some ("describe:" ++ label)

/-! ## Runs -/

structure Run (ε α : Type) where
  outcome : Except ε α
  calls : List Call

namespace Run

variable {ε α β : Type}

theorem ext {x y : Run ε α} (ho : x.outcome = y.outcome) (hc : x.calls = y.calls) : x = y := by
  cases x; cases y; simp_all

/-- No calls. -/
def lift (outcome : Except ε α) : Run ε α := ⟨outcome, []⟩

def fail (e : ε) : Run ε α := lift (.error e)

/-- One call, before anything comes of it. -/
def call (c : Call) : Run ε Unit := ⟨.ok (), [c]⟩

def bind (x : Run ε α) (f : α → Run ε β) : Run ε β :=
  match x.outcome with
  | .ok a => ⟨(f a).outcome, x.calls ++ (f a).calls⟩
  | .error e => ⟨.error e, x.calls⟩

instance : Monad (Run ε) where
  pure a := ⟨.ok a, []⟩
  bind := bind

theorem pure_bind (a : α) (f : α → Run ε β) : (pure a >>= f) = f a := by
  cases h : f a; simp [Bind.bind, bind, pure, h]

theorem outcome_bind (x : Run ε α) (f : α → Run ε β) :
    (x >>= f).outcome = x.outcome >>= fun a => (f a).outcome := by
  cases h : x.outcome <;> simp [Bind.bind, bind, h, Except.bind]

instance : LawfulMonad (Run ε) := LawfulMonad.mk' (Run ε)
  (fun x => by
    change bind x pure = x
    cases x with | mk o c => cases o <;> simp [bind, pure])
  (fun a f => pure_bind a f)
  (fun x f g => by
    cases x with | mk o c => cases o with
      | error e => rfl
      | ok a =>
        cases h : f a with | mk p d => cases p <;> simp [Bind.bind, bind, h])

/-- The test holds of every item; items after the first that fails are not tested. -/
def forAll (p : α → Run ε Bool) : List α → Run ε Bool
  | [] => pure true
  | x :: xs => do if ← p x then forAll p xs else pure false

/-- The answers for all items, in order. -/
def collect (f : α → Run ε β) : List α → Run ε (List β)
  | [] => pure []
  | x :: xs => do
    let y ← f x
    let ys ← collect f xs
    pure (y :: ys)

/-- The same run with its failures renamed. -/
def mapError {ε' : Type} (f : ε → ε') (x : Run ε α) : Run ε' α :=
  ⟨match x.outcome with
    | .ok a => .ok a
    | .error e => .error (f e), x.calls⟩

end Run
end Conform
