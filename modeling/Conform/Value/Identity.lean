import Conform.Value.Basic

/-! Identity of values: equality of the whole tree, tags included, is decidable. -/

namespace Conform
set_option autoImplicit false

namespace Value

mutual

/-- Equality as a computation. -/
def same : Value → Value → Bool
  | .atom a, .atom b => a = b
  | .symbol t d, .symbol u e => t = u && same d e
  | .list t xs, .list u ys => t = u && sameAll xs ys
  | .tuple t xs, .tuple u ys => t = u && sameAll xs ys
  | .dict t xs, .dict u ys => t = u && sameEntries xs ys
  | .mapping t xs r, .mapping u ys s => t = u && r = s && sameEntries xs ys
  | .object t xs p, .object u ys q => t = u && p = q && sameAttributes xs ys
  | .schema t f xs, .schema u g ys => t = u && f = g && sameAll xs ys
  | _, _ => false

def sameAll : List Value → List Value → Bool
  | [], [] => true
  | x :: xs, y :: ys => same x y && sameAll xs ys
  | _, _ => false

def sameEntries : List (Value × Value) → List (Value × Value) → Bool
  | [], [] => true
  | (k, v) :: xs, (l, w) :: ys => same k l && same v w && sameEntries xs ys
  | _, _ => false

def sameAttributes : List (String × Value) → List (String × Value) → Bool
  | [], [] => true
  | (k, v) :: xs, (l, w) :: ys => k = l && same v w && sameAttributes xs ys
  | _, _ => false

end

mutual

theorem same_iff : ∀ a b : Value, same a b = true ↔ a = b
  | .atom a, b => by cases b <;> simp [same]
  | .symbol t d, b => by cases b <;> simp [same, same_iff d]
  | .list t xs, b => by cases b <;> simp [same, sameAll_iff xs]
  | .tuple t xs, b => by cases b <;> simp [same, sameAll_iff xs]
  | .dict t xs, b => by cases b <;> simp [same, sameEntries_iff xs]
  | .mapping t xs r, b => by cases b <;> simp [same, sameEntries_iff xs]; grind
  | .object t xs p, b => by cases b <;> simp [same, sameAttributes_iff xs]; grind
  | .schema t f xs, b => by cases b <;> simp [same, sameAll_iff xs]; grind

theorem sameAll_iff : ∀ xs ys : List Value, sameAll xs ys = true ↔ xs = ys
  | [], ys => by cases ys <;> simp [sameAll]
  | x :: xs, ys => by cases ys <;> simp [sameAll, same_iff x, sameAll_iff xs]

theorem sameEntries_iff : ∀ xs ys : List (Value × Value), sameEntries xs ys = true ↔ xs = ys
  | [], ys => by cases ys <;> simp [sameEntries]
  | _ :: _, [] => by simp [sameEntries]
  | (k, v) :: xs, (l, w) :: ys => by
    simp [sameEntries, same_iff k, same_iff v, sameEntries_iff xs, and_assoc]

theorem sameAttributes_iff : ∀ xs ys : List (String × Value), sameAttributes xs ys = true ↔ xs = ys
  | [], ys => by cases ys <;> simp [sameAttributes]
  | _ :: _, [] => by simp [sameAttributes]
  | (k, v) :: xs, (l, w) :: ys => by
    simp [sameAttributes, same_iff v, sameAttributes_iff xs, and_assoc]

end

instance : DecidableEq Value := fun a b => decidable_of_iff _ (same_iff a b)

end Value
end Conform
