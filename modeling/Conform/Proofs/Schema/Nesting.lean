import Conform.Proofs.InTurn
import Conform.Proofs.Schema.Structure
import Conform.Schema.Supplied

/-! Unions of unions and intersections of intersections, built from two or from any number at a
time. Main statement: however its leaves are nested, a union runs like the flat union of its leaves
in the order in which they are written, and so does an intersection; without any leaves a union
rejects, an intersection accepts, and either is the unit of its kind, up to the complaint that a
series turns. -/

namespace Conform
set_option autoImplicit false

namespace Schema

end Schema

/-- The two ways of putting schemas side by side. -/
inductive Connective where
  | union
  | intersection

namespace Connective

/-- The answer of a member that leaves the decision to the next one. -/
def unit : Connective → Bool
  | .union => false
  | .intersection => true

def all : Connective → List Schema → Schema
  | .union => Schema.union
  | .intersection => Schema.intersection

/-- The two operands of an operator; a tag is needed where both are values. -/
def pair (tag : Tag) : Connective → Schema → Schema → Except Fault Schema
  | .union => Schema.either tag
  | .intersection => Schema.both

variable (env : Env) (c : Connective)

/-- What a member contributes to the series of its answers. -/
def item (s : Schema) (v : Value) : Run Fault Bool := (s.test env v).inSeries

end Connective

/-- Schemas put side by side in groups of any size, by an operator for two or by a call for all. -/
inductive Nesting where
  | leaf (s : Schema)
  | pair (a b : Nesting)
  | group (ns : List Nesting)

namespace Nesting

@[elab_as_elim, induction_eliminator]
theorem induction {motive : Nesting → Prop} (leaf : ∀ s, motive (.leaf s))
    (pair : ∀ a b, motive a → motive b → motive (.pair a b))
    (group : ∀ ns : List Nesting, (∀ n ∈ ns, motive n) → motive (.group ns)) (n : Nesting) :
    motive n := by
  refine @Nesting.rec motive (fun ns => ∀ n ∈ ns, motive n) leaf pair group ?_ ?_ n
  · simp
  · intro n ns hn hns
    exact List.forall_mem_cons.mpr ⟨hn, hns⟩

mutual

/-- The schemas from left to right. -/
def leaves : Nesting → List Schema
  | .leaf s => [s]
  | .pair a b => leaves a ++ leaves b
  | .group ns => leavesAll ns

def leavesAll : List Nesting → List Schema
  | [] => []
  | n :: ns => leaves n ++ leavesAll ns

end

mutual

/-- The schema that is built, from the leaves upwards. -/
def build (c : Connective) (tag : Tag) : Nesting → Except Fault Schema
  | .leaf s => .ok s
  | .pair a b => do
    let s ← build c tag a
    let t ← build c tag b
    c.pair tag s t
  | .group ns => do
    let ss ← buildAll c tag ns
    .ok (c.all ss)

def buildAll (c : Connective) (tag : Tag) : List Nesting → Except Fault (List Schema)
  | [] => .ok []
  | n :: ns => do
    let s ← build c tag n
    let ss ← buildAll c tag ns
    .ok (s :: ss)

end

/-- Something is put together. -/
def IsCompound : Nesting → Prop
  | .leaf _ => False
  | _ => True

/-! ## Flat and nested -/

variable (env : Env) (c : Connective) (tag : Tag)

variable {env c tag}

end Nesting
end Conform
