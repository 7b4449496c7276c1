import Conform.Value.Basic

/-! Results: a success with a value, or a failure with an error. The functions handed to a result
have effects in a monad of their own. In a chain results are objects, each with a tag; the side
that a function does not concern runs nothing and comes back as the object that it is. -/

namespace Conform
set_option autoImplicit false

inductive Result (ε α : Type) where
  | ok (value : α)
  | err (error : ε)

namespace Result

variable {ε ε' α β γ : Type} {m : Type → Type} [Monad m]

/-! ## Variants -/

def isOk : Result ε α → Bool
  | ok _ => true
  | err _ => false

def isErr (r : Result ε α) : Bool := !r.isOk

/-- The value, or nothing. -/
def toList : Result ε α → List α
  | ok a => [a]
  | err _ => []

def error? : Result ε α → Option ε
  | ok _ => none
  | err e => some e

def unwrapOr (r : Result ε α) (default : α) : α :=
  match r with
  | ok a => a
  | err _ => default

/-- The value; without one, the complaint that the error leads to. -/
def unwrap {φ : Type} (complain : ε → φ) : Result ε α → Except φ α
  | ok a => .ok a
  | err e => .error (complain e)

def unwrapOrElse (f : ε → m α) : Result ε α → m α
  | ok a => pure a
  | err e => f e

/-- One of two functions, by the variant. -/
def fold (onOk : α → m γ) (onErr : ε → m γ) : Result ε α → m γ
  | ok a => onOk a
  | err e => onErr e

/-! ## Chains -/

/-- A result as it is handed around. -/
structure Object (ε α : Type) where
  tag : Tag
  content : Result ε α

/-- A result that is made anew, under a new tag. -/
def make (new : m Tag) (r : Result ε α) : m (Object ε α) := do
  let tag ← new
  pure ⟨tag, r⟩

namespace Object

def map (new : m Tag) (f : α → m β) (r : Object ε α) : m (Object ε β) :=
  match r.content with
  | ok a => do
    let b ← f a
    make new (ok b)
  | err e => pure ⟨r.tag, err e⟩

def mapErr (new : m Tag) (f : ε → m ε') (r : Object ε α) : m (Object ε' α) :=
  match r.content with
  | ok a => pure ⟨r.tag, ok a⟩
  | err e => do
    let e' ← f e
    make new (err e')

def flatMap (f : α → m (Object ε β)) (r : Object ε α) : m (Object ε β) :=
  match r.content with
  | ok a => f a
  | err e => pure ⟨r.tag, err e⟩

/-- Another name for `flatMap`. -/
def andThen (f : α → m (Object ε β)) (r : Object ε α) : m (Object ε β) :=
  match r.content with
  | ok a => f a
  | err e => pure ⟨r.tag, err e⟩

def orElse (f : ε → m (Object ε' α)) (r : Object ε α) : m (Object ε' α) :=
  match r.content with
  | ok a => pure ⟨r.tag, ok a⟩
  | err e => f e

end Object
end Result
end Conform
