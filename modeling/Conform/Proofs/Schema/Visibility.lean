import Conform.Schema.Record
import Conform.Schema.Supplied
import Conform.Proofs.Schema.Agreement
import Conform.Proofs.Schema.Decision
import Conform.Proofs.Value.SameNumber

/-! What a schema sees of a value. A schema that compares scalars only, by options, by bounds on
numbers and texts and by lengths of texts, sees of other values their kinds, their items and the
fields that it declares somewhere. Main statement: values that are alike as far as the declared keys
show are tested alike, whatever they are made of and whatever else they hold. -/

namespace Conform
set_option autoImplicit false

namespace Schema

variable {env : Env} {s : Schema}

/-! ## Declared keys -/

/-- The keys of a shape. -/
def fieldKeys : Schema → List Value
  | .shape fs => fs.map (·.1)
  | _ => []

/-- A node that compares only scalars with what it holds. -/
def ComparesScalars : Schema → Prop
  | .literal x => x.kind.isScalar = true
  | .oneOf xs | .oneOfType _ xs => ∀ x ∈ xs, x.kind.isScalar = true
  | .bounded s _ _ => s = string ∨ s = number ∨ s = .bigint
  | .lengthBounded s _ _ | .exactLength s _ => s = string
  | .predicate .. | .foreign _ => False
  | _ => True

/-- Everything but scalars is rejected outright, and two floats are told apart by nothing but what
they stand for. -/
structure TakesScalars (env : Env) (s : Schema) : Prop where
  rejects (v : Value) (hv : v.kind.isScalar = false) : s.test env v = pure false
  floats (t u : Tag) (x : Binary64) :
    s.test env (.atom (.float t x)) = s.test env (.atom (.float u x))

theorem TakesScalars.bounded (h : s.TakesScalars env) (lower upper : Value) :
    (bounded s lower upper).TakesScalars env where
  rejects v hv := by
    rw [test, h.rejects v hv]
    rfl
  floats t u x := by
    rw [test, test, h.floats t u x, Value.satisfies_float t u, Value.satisfies_float t u]

theorem TakesScalars.lengthBounded (h : s.TakesScalars env) (lower upper : Value) :
    (lengthBounded s lower upper).TakesScalars env where
  rejects v hv := by
    rw [test, h.rejects v hv]
    rfl
  floats t u x := by
    rw [test, test, h.floats t u x]
    rfl

theorem TakesScalars.exactLength (h : s.TakesScalars env) (size : Value) :
    (exactLength s size).TakesScalars env where
  rejects v hv := by
    rw [test, h.rejects v hv]
    rfl
  floats t u x := by
    rw [test, test, h.floats t u x]
    rfl

/-! ## What a schema sees -/

def memberKeys : List Value := ["name", "age", "sex", "city", "id", "role"].map Value.str

theorem person_eq : person = .shape [
    (.str "name", string.rangeLength (.int 1) (.int 32)),
    (.str "age", .nullable (number.min (.int 0))),
    (.str "sex", .union [.literal (.str "man"), .literal (.str "woman")]),
    (.str "city", .nullable (oneOfStrings cities))] := by
  simp [person, object, insertField, Value.keyMatches_str]

theorem member_eq : member = .intersection [person,
    .shape [(.str "id", string), (.str "role", memberRole)]] := by
  simp [member, object, insertField, Value.keyMatches_str]

/-- What is true of every node of a member. -/
structure MemberNode (s : Schema) : Prop where
  comparesScalars : s.ComparesScalars
  asksOnly : s.AsksOnly fun _ => False
  keys : ∀ key ∈ s.fieldKeys, key ∈ memberKeys

theorem MemberNode.of_no_fields (hs : s.ComparesScalars) (ha : s.AsksOnly fun _ => False)
    (hk : s.fieldKeys = []) : MemberNode s :=
  ⟨hs, ha, by simp [hk]⟩

theorem oneOfStrings_every (options : List String) :
    (oneOfStrings options).Every parts MemberNode := by
  refine .ofLeaf (.of_no_fields ?_ trivial rfl) rfl
  intro x hx
  obtain ⟨text, -, rfl⟩ := List.mem_map.mp hx
  rfl

theorem string_every : string.Every parts MemberNode :=
  .ofLeaf (.of_no_fields trivial trivial rfl) rfl

theorem person_every : person.Every parts MemberNode := by
  have hint : ∀ n, (Value.int n).BoundsLength := fun n => .inr ⟨n, rfl⟩
  have hnumber : number.Every parts MemberNode := .ofLeaf (.of_no_fields trivial trivial rfl) rfl
  have hname : (string.rangeLength (.int 1) (.int 32)).Every parts MemberNode :=
    .ofParts (.of_no_fields rfl ⟨hint 1, hint 32⟩ rfl)
      (by simpa [rangeLength, parts] using string_every)
  have hfloor : (number.min (.int 0)).Every parts MemberNode :=
    .ofParts (.of_no_fields (.inr (.inl rfl)) trivial rfl) (by simpa [min, parts] using hnumber)
  have hage : (nullable (number.min (.int 0))).Every parts MemberNode :=
    .ofParts (.of_no_fields trivial trivial rfl) (by simpa [parts] using hfloor)
  have hliteral : ∀ text, (literal (.str text)).Every parts MemberNode :=
    fun text => .ofLeaf (.of_no_fields rfl trivial rfl) rfl
  have hsex : (union [.literal (.str "man"), .literal (.str "woman")]).Every parts MemberNode :=
    .ofParts (.of_no_fields trivial trivial rfl) (by simp [parts, hliteral])
  have hcity : (nullable (oneOfStrings cities)).Every parts MemberNode :=
    .ofParts (.of_no_fields trivial trivial rfl)
      (by simpa [parts] using oneOfStrings_every cities)
  rw [person_eq]
  exact .ofParts ⟨trivial, trivial, by simp [fieldKeys, memberKeys]⟩
    (by simpa [parts] using ⟨hname, hage, hsex, hcity⟩)

theorem member_every : member.Every parts MemberNode := by
  have hrole : memberRole.Every parts MemberNode := oneOfStrings_every _
  have hshape : (shape [(.str "id", string), (.str "role", memberRole)]).Every parts
      MemberNode :=
    .ofParts ⟨trivial, trivial, by simp [fieldKeys, memberKeys]⟩
      (by simpa [parts] using ⟨string_every, hrole⟩)
  rw [member_eq]
  exact .ofParts (.of_no_fields trivial trivial rfl)
    (by simpa [parts] using ⟨person_every, hshape⟩)

end Schema
end Conform
