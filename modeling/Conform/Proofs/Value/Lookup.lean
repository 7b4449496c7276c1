import Conform.Value.Attribute

/-! Fields of values. `HasField` says what a look-up finds: an entry of a dictionary or a mapping
whose look-up does not fail, an attribute of any other value that can be read. Main statement: a
value shows the field that it has under a key, and undefined if it has none. -/

namespace Conform
set_option autoImplicit false

namespace Value

/-- A value whose fields are looked up by key. -/
def isKeyed : Value → Bool
  | .dict .. | .mapping .. => true
  | _ => false

inductive HasField : Value → Value → Value → Prop
  | entry {tag : Tag} {es : Entries} {key w : Value} (h : es.get? key = some w) :
      HasField (.dict tag es) key w
  | mapped {tag : Tag} {es : Entries} {raising : List String} {key w : Value}
      (hr : ∀ name ∈ raising, key ≠ .str name) (h : es.get? key = some w) :
      HasField (.mapping tag es raising) key w
  | ofAttribute {v : Value} {name : String} {w : Value} (hv : v.isKeyed = false)
      (h : v.attributeNamed name = .ok w) : HasField v (.str name) w

/-- What a value shows under a key: the field there, or undefined where it has none. -/
def Shows (v key w : Value) : Prop :=
  v.HasField key w ∨ (∀ u, ¬v.HasField key u) ∧ w = .undefined

/-! ## Looking up -/

theorem field_dict (tag : Tag) (es : Entries) (key : Value) :
    field (.dict tag es) key = (es.get? key).getD undefined := rfl

theorem field_mapping_of_raising {raising : List String} {name : String} (h : name ∈ raising)
    (tag : Tag) (es : Entries) : field (.mapping tag es raising) (.str name) = undefined := by
  simp [field, h]

theorem field_mapping {raising : List String} {key : Value}
    (h : ∀ name ∈ raising, key ≠ .str name) (tag : Tag) (es : Entries) :
    field (.mapping tag es raising) key = (es.get? key).getD undefined := by
  simp only [field]
  split
  next name =>
    have hn : raising.contains name = false := by
      rw [List.contains_eq_mem, decide_eq_false_iff_not]
      exact fun hm => h name hm rfl
    rw [hn]
    rfl
  next => rfl

theorem field_attribute {v : Value} (hv : v.isKeyed = false) (name : String) :
    v.field (.str name) = v.member name := by
  cases v <;> first | rfl | simp [isKeyed] at hv

theorem field_other {v : Value} (hv : v.isKeyed = false) {key : Value}
    (hk : ∀ name, key ≠ .str name) : v.field key = undefined := by
  unfold field
  split
  next => simp [isKeyed] at hv
  next => simp [isKeyed] at hv
  next =>
    split
    next name => exact absurd rfl (hk name)
    next => rfl

theorem HasField.field_eq {v key w : Value} (h : v.HasField key w) : v.field key = w := by
  cases h with
  | entry h => rw [field_dict, h, Option.getD_some]
  | mapped hr h => rw [field_mapping hr, h, Option.getD_some]
  | ofAttribute hv h => rw [field_attribute hv, member, h]

theorem keyed_undefined {v key : Value} (hv : v.isKeyed = true) (h : ∀ w, ¬v.HasField key w) :
    v.field key = undefined := by
  cases v with
  | dict tag es =>
    rw [field_dict]
    cases he : Entries.get? key es with
    | none => rfl
    | some w => exact absurd (.entry he) (h w)
  | mapping tag es raising =>
    by_cases hr : ∃ name ∈ raising, key = .str name
    · obtain ⟨name, hn, rfl⟩ := hr
      exact field_mapping_of_raising hn tag es
    · have hr : ∀ name ∈ raising, key ≠ .str name := fun name hn hk => hr ⟨name, hn, hk⟩
      rw [field_mapping hr]
      cases he : Entries.get? key es with
      | none => rfl
      | some w => exact absurd (.mapped hr he) (h w)
  | _ => simp [isKeyed] at hv

theorem field_eq_undefined {v key : Value} (h : ∀ w, ¬v.HasField key w) :
    v.field key = undefined := by
  by_cases hk : ∃ name, key = .str name
  · obtain ⟨name, rfl⟩ := hk
    cases hv : v.isKeyed with
    | false =>
      rw [field_attribute hv, member]
      cases ha : v.attributeNamed name with
      | ok w => exact absurd (.ofAttribute hv ha) (h w)
      | error _ => rfl
    | true => exact keyed_undefined hv h
  · cases hv : v.isKeyed with
    | false => exact field_other hv fun name hn => hk ⟨name, hn⟩
    | true => exact keyed_undefined hv h

theorem shows_iff {v key w : Value} : v.Shows key w ↔ v.field key = w := by
  constructor
  · rintro (h | ⟨h, rfl⟩)
    · exact h.field_eq
    · exact field_eq_undefined h
  · intro h
    by_cases hu : ∃ u, v.HasField key u
    · obtain ⟨u, hu⟩ := hu
      rw [← h, hu.field_eq]
      exact .inl hu
    · have hn : ∀ u, ¬v.HasField key u := fun u h => hu ⟨u, h⟩
      exact .inr ⟨hn, h.symm.trans (field_eq_undefined hn)⟩

end Value
end Conform
