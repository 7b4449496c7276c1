import Mathlib.Data.Option.Basic
import Conform.Proofs.Value.Verdicts

/-! Looking up a name among entries. A text matches no key but itself, whatever else stands among
the entries, so that each operation on entries has one law for what is found under a name. -/

namespace Conform
set_option autoImplicit false

namespace Entries

variable (k v : Value) (es es' : Entries) (name other : String)

theorem get?_nil : get? k [] = none := rfl

theorem get?_cons : get? (.str name) ((k, v) :: es) =
    if k = .str name then some v else es.get? (.str name) := by
  simp only [get?, List.find?_cons, Value.keyMatches_str]
  by_cases hk : k = .str name <;> simp [hk]

theorem get?_append : get? k (es ++ es') = (es.get? k).or (es'.get? k) := by
  simp only [get?, List.find?_append, Option.map_or]

theorem get?_map (f : Value → Value) :
    get? k (es.map fun e => (e.1, f e.2)) = (es.get? k).map f := by
  simp only [get?, List.find?_map, Option.map_map]
  rfl

theorem contains_eq : es.contains k = (es.get? k).isSome := by
  rw [contains, get?, Option.isSome_map, List.isSome_find?]

theorem get?_insert : get? (.str name) (insert k v es) =
    if k = .str name then some v else es.get? (.str name) := by
  induction es with
  | nil => exact get?_cons ..
  | cons e es ih =>
    obtain ⟨l, w⟩ := e
    by_cases hk : k = .str name
    · by_cases hl : l = .str name
      · simp [insert, Value.keyMatches_str, get?_cons, hk, hl]
      · simpa [insert, Value.keyMatches_str, get?_cons, hk, hl] using ih
    · rw [if_neg hk] at ih ⊢
      rw [insert]
      split
      next hlk =>
        -- an entry under the name has a key that matches no other one
        have hl : l ≠ .str name := by
          rintro rfl
          rw [Value.str_keyMatches, decide_eq_true_eq] at hlk
          exact hk hlk
        simp [get?_cons, hl]
      next => rw [get?_cons, get?_cons, ih]

theorem get?_setDefault : get? (.str name) (setDefault k v es) =
    (es.get? (.str name)).or (if k = .str name then some v else none) := by
  have hone : get? (.str name) [(k, v)] = if k = .str name then some v else none :=
    get?_cons ..
  rw [setDefault]
  split
  next hc =>
    by_cases hk : k = .str name
    · rw [hk, contains_eq] at hc
      rw [Option.or_of_isSome hc]
    · rw [if_neg hk, Option.or_none]
  next => rw [get?_append, hone]

theorem get?_erase : get? (.str name) (erase (.str other) es) =
    if other = name then none else es.get? (.str name) := by
  induction es with
  | nil => simp [erase, get?_nil]
  | cons e es ih =>
    obtain ⟨l, w⟩ := e
    rw [erase, List.filter_cons, Value.keyMatches_str, ← erase]
    by_cases ho : other = name
    · subst ho
      by_cases hl : l = .str other
      · simpa [hl] using ih
      · simpa [hl, get?_cons] using ih
    · rw [if_neg ho] at ih ⊢
      by_cases hl : l = .str other
      · simpa [hl, ho, get?_cons] using ih
      · simp [hl, get?_cons, ih]

end Entries
end Conform
