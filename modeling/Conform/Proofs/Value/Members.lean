import Conform.Value.Attribute
import Conform.Proofs.Value.Content
import Conform.Proofs.Value.Lookup

/-! Values found in proper ones. Elements, entries and attributes of a proper value are proper, with
objects that behave like those in it, and so is what it shows under any key. -/

namespace Conform
set_option autoImplicit false

namespace Value

/-! ## Attributes -/

variable {P : Traits → Prop} {v w : Value}

theorem ProperWith.elements? {xs : List Value} (h : v.ProperWith P) (hv : v.elements? = some xs) :
    ∀ x ∈ xs, x.ProperWith P := by
  cases h with
  | list h | tuple h =>
    cases hv
    exact h
  | _ => cases hv

theorem proper_methodIn {names : List String} {name : String}
    (h : Attribute.methodIn names name = some w) : w.ProperWith P := by
  rw [Attribute.methodIn] at h
  split at h
  next =>
    cases h
    exact .atom _
  next => cases h

theorem proper_ofConstant {names : List String} {name : String}
    (h : Attribute.ofConstant names name = some w) : w.ProperWith P := by
  unfold Attribute.ofConstant at h
  split at h
  next =>
    cases h
    exact .atom _
  next => exact proper_methodIn h

theorem proper_ofChanging {names : List String} {name : String}
    (h : Attribute.ofChanging names name = some w) : w.ProperWith P := by
  unfold Attribute.ofChanging at h
  split at h
  next =>
    cases h
    exact .atom _
  next =>
    cases h
    exact .atom _
  next => exact proper_methodIn h

theorem proper_ofAtom {a : Atom} {name : String} (h : Attribute.ofAtom a name = some w) :
    w.ProperWith P := by
  cases a with
  | bytes | str => exact proper_ofConstant h
  | range t n =>
    simp only [Attribute.ofAtom, Attribute.ofRange] at h
    split at h <;> first | exact proper_ofConstant h | (cases h; exact .atom _)
  | decimal t d =>
    simp only [Attribute.ofAtom, Attribute.ofDecimal] at h
    split at h <;> first | exact proper_ofConstant h | (cases h; exact .atom _)
  | function callee =>
    cases callee with
    | cls path =>
      simp only [Attribute.ofAtom, Attribute.ofClass] at h
      split at h <;> exact proper_methodIn h
    | _ => exact proper_methodIn h
  | choice t classes =>
    have hclasses : ∀ x ∈ classes.map fun callee => Value.atom (.function callee),
        x.ProperWith P := by
      intro x hx
      obtain ⟨callee, -, rfl⟩ := List.mem_map.mp hx
      exact .atom _
    simp only [Attribute.ofAtom, Attribute.ofChoice] at h
    split at h
    next =>
      cases h
      exact .tuple hclasses
    next =>
      cases h
      exact .tuple (by simp)
    next =>
      cases h
      exact .atom _
    next => exact proper_ofConstant h
  | _ => exact proper_methodIn h

theorem proper_ofObject {traits : Traits} {name : String}
    (h : Attribute.ofObject traits name = some w) : w.ProperWith P := by
  have hempty : (dict 0 []).ProperWith P := .dict .nil (by simp) (by simp)
  unfold Attribute.ofObject at h
  split at h <;> (try split at h) <;>
    first | exact proper_methodIn h | (cases h; first | exact .atom _ | exact hempty) | cases h

/-- The attribute of that name that a value has by its sort. -/
def native (v : Value) (name : String) : Option Value :=
  match v with
  | .atom a => Attribute.ofAtom a name
  | .symbol _ description =>
    if name = "description" then some description else Attribute.methodIn [] name
  | .list .. => Attribute.ofChanging Attribute.ofLists name
  | .tuple .. => Attribute.ofConstant Attribute.ofTuples name
  | .dict .. => Attribute.ofChanging Attribute.ofDictionaries name
  | .mapping .. => Attribute.ofChanging Attribute.ofMappings name
  | .schema .. => Attribute.methodIn ["test", "describe_failure"] name
  | .object _ _ traits => Attribute.ofObject traits name

theorem attributeNamed_eq (v : Value) (name : String) : v.attributeNamed name =
    match v.native name, v with
    | some w, _ => .ok w
    | none, .object _ given traits =>
      if traits.raising.contains name then .error (.attributeFailed name)
      else match given.find? fun a => a.1 = name with
        | some a => .ok a.2
        | none => .error .noMember
    | none, _ => .error .noMember := rfl

theorem attributeNamed_cases {name : String} (h : v.attributeNamed name = .ok w) :
    v.native name = some w ∨
      ∃ tag given traits, v = .object tag given traits ∧ ∃ a ∈ given, w = a.2 := by
  rw [attributeNamed_eq] at h
  split at h
  next hfound =>
    cases h
    exact .inl hfound
  next given traits _ =>
    split at h
    next => cases h
    next =>
      split at h
      next a ha =>
        cases h
        exact .inr ⟨_, given, traits, rfl, a, List.mem_of_find?_eq_some ha, rfl⟩
      next => cases h
  next => cases h

theorem ProperWith.native (hv : v.ProperWith P) {name : String} (h : v.native name = some w) :
    w.ProperWith P := by
  cases hv with
  | atom a => exact proper_ofAtom h
  | symbol hd =>
    rw [Value.native] at h
    split at h
    next =>
      cases h
      exact hd
    next => exact proper_methodIn h
  | list | dict | mapping => exact proper_ofChanging h
  | tuple => exact proper_ofConstant h
  | schema => exact proper_methodIn h
  | object => exact proper_ofObject h

theorem ProperWith.attribute (hv : v.ProperWith P) {name : String}
    (h : v.attributeNamed name = .ok w) : w.ProperWith P := by
  rcases attributeNamed_cases h with h | ⟨tag, given, traits, rfl, a, ha, rfl⟩
  · exact hv.native h
  · cases hv with
    | object _ hgiven => exact hgiven a ha

theorem proper_found {es : Entries} (hes : ∀ e ∈ es, e.2.ProperWith P) {key : Value}
    (h : es.get? key = some w) : w.ProperWith P := by
  obtain ⟨e, hfind, rfl⟩ := Option.map_eq_some_iff.mp h
  exact hes e (List.mem_of_find?_eq_some hfind)

theorem ProperWith.field (hv : v.ProperWith P) (key : Value) : (v.field key).ProperWith P := by
  rcases shows_iff.mpr (rfl : v.field key = v.field key) with h | ⟨-, h⟩
  · generalize v.field key = w at h
    cases h with
    | entry he =>
      cases hv with
      | dict _ _ hes => exact proper_found hes he
    | mapped _ he =>
      cases hv with
      | mapping _ _ hes => exact proper_found hes he
    | ofAttribute _ ha => exact hv.attribute ha
  · rw [h]
    exact .atom _

end Value
end Conform
