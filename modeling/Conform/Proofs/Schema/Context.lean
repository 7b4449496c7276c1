import Conform.Proofs.Schema.Decision

/-! Contexts: schemas with a hole, as lists of frames from the outside to the hole. A frame admits a
value by what the schema in the hole accepts and by nothing else about it. The value that the hole
sees may be a field, an element or undefined in place of the value itself. Main statement: a context
is monotone in its hole, so that schemas which accept the same values can stand for each other. -/

namespace Conform
set_option autoImplicit false

/-- The function answers every value with something true or false. -/
def Env.Answers (env : Env) (t : Callback) : Prop := ∀ v, (env.asks t v).Answers

namespace Schema

variable {env : Env} {s t : Schema}

/-! ## Acceptance -/

def Accepts (env : Env) (s : Schema) (v : Value) : Prop := (s.test env v).Passes

/-- The test ends without a fault for every value. -/
def Answers (env : Env) (s : Schema) : Prop := ∀ v, (s.test env v).Answers

theorem Answers.decides (h : s.Answers env) (v : Value) :
    (s.test env v).Decides (s.Accepts env v) := (h v).decides

/-- One node around the hole, with what stands beside the hole. -/
inductive Frame where
  | nullable
  | undefinable
  /-- The hole words the options. -/
  | type (options : List Value)
  | field (before : List (Value × Schema)) (key : Value) (after : List (Value × Schema))
  | item
  | alternative (before after : List Schema)
  | conjunct (before after : List Schema)
  | bounded (minimum maximum : Value)
  | lengthBounded (minimum maximum : Value)
  | exactLength (size : Value)

namespace Frame

def fill : Frame → Schema → Schema
  | .nullable, s => .nullable s
  | .undefinable, s => .undefinable s
  | .type xs, s => .oneOfType s xs
  | .field before key after, s => .shape (before ++ (key, s) :: after)
  | .item, s => .array s
  | .alternative before after, s => .union (before ++ s :: after)
  | .conjunct before after, s => .intersection (before ++ s :: after)
  | .bounded lower upper, s => .bounded s lower upper
  | .lengthBounded lower upper, s => .lengthBounded s lower upper
  | .exactLength size, s => .exactLength s size

def beside : Frame → List Schema
  | .field before _ after => before.map (·.2) ++ after.map (·.2)
  | .alternative before after | .conjunct before after => before ++ after
  | _ => []

def BoundsLengths : Frame → Prop
  | .lengthBounded lower upper => lower.BoundsLength ∧ upper.BoundsLength
  | .exactLength size => size.BoundsLength
  | _ => True

/-- Outside the hole at most the admitted functions are asked, and lengths are bounded by
integers. -/
structure AsksOnly (admitted : Callback → Prop) (f : Frame) : Prop where
  beside : ∀ s ∈ f.beside, s.Every parts (Schema.AsksOnly admitted)
  bounds : f.BoundsLengths

/-- A frame admits a value, where the hole accepts the values of a set. -/
def Admits (env : Env) : Frame → (Value → Prop) → Value → Prop
  | .nullable, p, v => v = .null ∨ p v
  | .undefinable, p, v => v = .undefined ∨ p v
  | .type xs, _, v => ∃ x ∈ xs, v.strictEquals x = true
  | .field before key after, p, v => v.kind = .object ∧
      (∀ f ∈ before, f.2.Accepts env (v.field f.1)) ∧ p (v.field key) ∧
        ∀ f ∈ after, f.2.Accepts env (v.field f.1)
  | .item, p, v => ∃ xs, v.elements? = some xs ∧ ∀ x ∈ xs, p x
  | .alternative before after, p, v =>
    (∃ s ∈ before, s.Accepts env v) ∨ p v ∨ ∃ s ∈ after, s.Accepts env v
  | .conjunct before after, p, v =>
    (∀ s ∈ before, s.Accepts env v) ∧ p v ∧ ∀ s ∈ after, s.Accepts env v
  | .bounded lower upper, p, v => p v ∧
      (lower = .null ∨ v.compare .atLeast lower = .ok true) ∧
        (upper = .null ∨ v.compare .atMost upper = .ok true)
  | .lengthBounded lower upper, p, v => p v ∧ v.HasLengthWithin lower upper
  | .exactLength size, p, v => p v ∧ v.HasLengthOf size

theorem Admits.mono {f : Frame} {p q : Value → Prop} (h : ∀ v, p v → q v) {v : Value}
    (hv : f.Admits env p v) : f.Admits env q v := by
  cases f with
  | nullable => exact hv.imp id (h v)
  | undefinable => exact hv.imp id (h v)
  | type xs => exact hv
  | field before key after => exact ⟨hv.1, hv.2.1, h _ hv.2.2.1, hv.2.2.2⟩
  | item =>
    obtain ⟨xs, hxs, hp⟩ := hv
    exact ⟨xs, hxs, fun x hx => h x (hp x hx)⟩
  | alternative before after => exact hv.imp id (Or.imp (h v) id)
  | conjunct before after => exact ⟨hv.1, h v hv.2.1, hv.2.2⟩
  | bounded lower upper => exact ⟨h v hv.1, hv.2⟩
  | lengthBounded lower upper => exact ⟨h v hv.1, hv.2⟩
  | exactLength size => exact ⟨h v hv.1, hv.2⟩

end Frame

/-! ## Contexts -/

/-- A schema with a hole, by its frames from the outside to the hole. -/
abbrev Context := List Frame

namespace Context

def fill (c : Context) (s : Schema) : Schema := c.foldr Frame.fill s

def AsksOnly (admitted : Callback → Prop) (c : Context) : Prop := ∀ f ∈ c, f.AsksOnly admitted

/-- A context admits a value, where the hole accepts the values of a set. -/
def Admits (env : Env) (c : Context) (p : Value → Prop) : Value → Prop :=
  c.foldr (Frame.Admits env) p

theorem Admits.mono {c : Context} {p q : Value → Prop} (h : ∀ v, p v → q v) {v : Value}
    (hv : c.Admits env p v) : c.Admits env q v := by
  induction c generalizing v with
  | nil => exact h v hv
  | cons f c ih => exact Frame.Admits.mono (fun w hw => ih hw) hv

end Context

end Schema
end Conform
