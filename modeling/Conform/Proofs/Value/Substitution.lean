import Mathlib.Data.List.Find
import Conform.Proofs.Value.Lookup
import Conform.Proofs.Value.Measure
import Conform.Proofs.Value.Recognition

/-! Equal values in the place of each other. A bound, a size or a key can be replaced by an equal
value, and a comparison that held still holds, unless an object is compared that tells the two
apart. Comparing with a series stops at the first item that is not equal, so that no item behind it
matters. -/

namespace Conform
set_option autoImplicit false

/-! ## Atoms -/

namespace Comparison

theorem holds_ofNumbers_congr (c : Comparison) {x y : Number} (h : x.value? = y.value?)
    (z : Number) : holds (c.ofNumbers z x) = holds (c.ofNumbers z y) := by
  rw [holds_ofNumbers, holds_ofNumbers, h]

theorem holds_ofNumbers_of_none (c : Comparison) {x y : Number}
    (h : x.value? = none ∨ y.value? = none) : holds (c.ofNumbers x y) = false := by
  rw [holds_ofNumbers]
  rcases h with h | h
  · rw [h]
  · rw [h]
    cases x.value? <;> rfl

end Comparison

namespace Atom

variable {a b : Atom}

/-- The ways in which two atoms are equal. -/
inductive EqualContents : Atom → Atom → Prop
  | same (a : Atom) : EqualContents a a
  | numbers {a b : Atom} {x y : Number} {q : Extended} (hx : a.number? = some x)
      (hy : b.number? = some y) (hxq : x.value? = some q) (hyq : y.value? = some q) :
      EqualContents a b
  | bytes (t u : Tag) (data : List UInt8) : EqualContents (.bytes t data) (.bytes u data)
  | ranges (t u : Tag) (m n : Int) : EqualContents (.range t m) (.range u n)
  | choices (t u : Tag) (xs ys : List Callee) : EqualContents (.choice t xs) (.choice u ys)

theorem equals_cases (h : a.equals b = .ok true) : EqualContents a b := by
  have hsame : ∀ {a b : Atom}, (.ok (decide (a = b)) : Except Fault Bool) = .ok true →
      EqualContents a b := by
    intro a b h
    obtain rfl : a = b := of_decide_eq_true (Except.ok.inj h)
    exact .same a
  cases a with
  | bool | int | float | decimal =>
    cases b with
    | bool | int | float | decimal =>
      obtain ⟨q, hxq, hyq⟩ := number_equals_iff.mp h
      exact .numbers rfl rfl hxq hyq
    | _ => exact hsame h
  | bytes t data =>
    cases b with
    | bytes u data' =>
      obtain rfl : data = data' := of_decide_eq_true (Except.ok.inj h)
      exact .bytes t u data
    | _ => exact hsame h
  | range t m =>
    cases b with
    | range u n => exact .ranges t u m n
    | _ => exact hsame h
  | choice t xs =>
    cases b with
    | choice u ys => exact .choices t u xs ys
    | _ => exact hsame h
  | _ =>
    cases b with
    | _ => exact hsame h

end Atom

theorem Number.value?_of_equals_error {x y : Number} {f : Fault} (h : x.equals y = .error f) :
    x.value? = none ∨ y.value? = none := by
  rw [Number.equals] at h
  split at h
  next hs =>
    exact (Bool.or_eq_true_iff.mp hs).imp Atom.value?_of_signaling Atom.value?_of_signaling
  next => cases h

/-- Atoms that cannot be compared are numbers. -/
theorem Atom.numbers_of_equals_error {a b : Atom} {f : Fault} (h : a.equals b = .error f) :
    ∃ x y, a.number? = some x ∧ b.number? = some y ∧ (x.value? = none ∨ y.value? = none) := by
  unfold Atom.equals at h
  split at h
  next x y hx hy => exact ⟨x, y, hx, hy, Number.value?_of_equals_error h⟩
  next => split at h <;> cases h

theorem Comparison.holds_ofAtoms_congr (c : Comparison) {a b : Atom} (h : a.EqualContents b)
    (z : Atom) : holds (c.ofAtoms z a) = holds (c.ofAtoms z b) := by
  cases h with
  | same => rfl
  | numbers hx hy hxq hyq =>
    cases hz : z.number? with
    | some w =>
      rw [c.ofAtoms_of_numbers hz hx, c.ofAtoms_of_numbers hz hy]
      exact c.holds_ofNumbers_congr (hxq.trans hyq.symm) w
    | none =>
      have hnone : ∀ {b : Atom} {y : Number}, b.number? = some y →
          c.ofAtoms z b = .error .mismatch := by
        intro b y hy
        cases b <;> cases hy <;> cases z <;> cases hz <;> rfl
      rw [hnone hx, hnone hy]
  | bytes => cases z <;> cases c <;> rfl
  | ranges => cases z <;> rfl
  | choices => cases z <;> rfl

namespace Value

section Congruence

variable {v w x y k l : Value} {xs ys zs : List Value}

/-! ## Comparison with a bound -/

/-- A value with items or entries: as a bound it is nothing but itself. -/
structure IsCompound (v : Value) : Prop where
  notAtom : ∀ a, v ≠ .atom a
  number : v.number? = none
  isNull : v.isNull = false
  answer : ∀ c w, answerOfRight c w v = .error .mismatch

theorem compound_of_items {s : Series} (hv : v.items? = some (s, xs)) : v.IsCompound := by
  cases v with
  | list | tuple | schema => exact ⟨by simp, rfl, rfl, fun _ _ => rfl⟩
  | _ => cases hv

theorem compound_of_entries {es : Entries} (hv : v.entries? = some es) : v.IsCompound := by
  cases v with
  | dict | mapping => exact ⟨by simp, rfl, rfl, fun _ _ => rfl⟩
  | _ => cases hv

theorem Equal.cases_compound (h : x.Equal y) : x = y ∨
    (∃ a b, x = .atom a ∧ y = .atom b ∧ a.EqualContents b) ∨ x.IsCompound ∧ y.IsCompound := by
  cases h with
  | refl => exact .inl rfl
  | atoms h => exact .inr (.inl ⟨_, _, rfl, rfl, Atom.equals_cases h⟩)
  | series hx hy => exact .inr (.inr ⟨compound_of_items hx, compound_of_items hy⟩)
  | keyed hx hy => exact .inr (.inr ⟨compound_of_entries hx, compound_of_entries hy⟩)

theorem answerOfRight_congr (c : Comparison) (v : Value) (h : x.Equal y) :
    answerOfRight c v x = answerOfRight c v y := by
  rcases h.cases_compound with rfl | ⟨a, b, rfl, rfl, -⟩ | ⟨hx, hy⟩
  · rfl
  · rfl
  · rw [hx.answer, hy.answer]

theorem compareItems_of_error (c : Comparison) {f : Fault} (h : equalsAll .left xs ys = .error f)
    (m n : Nat) : compareItems c xs ys m n = .error f := by
  induction xs generalizing ys with
  | nil => cases ys <;> cases h
  | cons x xs ih =>
    cases ys with
    | nil => cases h
    | cons y ys =>
      rw [equalsAll] at h
      rw [compareItems]
      by_cases hxy : x = y
      · rw [if_pos hxy] at h ⊢
        exact ih h
      · rw [if_neg hxy] at h ⊢
        rw [equals]
        cases he : equalsAsking .left x y with
        | error g =>
          rw [he] at h
          exact h
        | ok b =>
          rw [he] at h
          cases b with
          | true => exact ih h
          | false => cases h

/-- What cannot be found equal is in no order. -/
theorem holds_compare_of_error (c : Comparison) {f : Fault} (h : v.equals w = .error f) :
    holds (v.compare c w) = false := by
  cases v with
  | atom a =>
    cases w with
    | atom b =>
      obtain ⟨p, q, hp, hq, hnone⟩ := Atom.numbers_of_equals_error h
      rw [compare, c.ofAtoms_of_numbers hp hq]
      exact c.holds_ofNumbers_of_none hnone
    | _ => cases h
  | list t xs =>
    cases w with
    | list u ys =>
      rw [equals, equalsAsking] at h
      split at h
      next =>
        rw [compare, compareItems_of_error c h]
        rfl
      next => cases h
    | _ => cases h
  | tuple t xs =>
    cases w with
    | tuple u ys =>
      rw [equals, equalsAsking] at h
      rw [compare, compareItems_of_error c h]
      rfl
    | _ => cases h
  | dict | mapping =>
    cases w with
    | dict | mapping => rfl
    | _ => cases h
  | schema =>
    cases w with
    | schema => rfl
    | _ => cases h
  | _ =>
    cases w with
    | _ => cases h

theorem holds_compareItems_of_equal (c : Comparison) (hv : v.Proper) (hx : x.Proper)
    (h : v.Equal x) (m n : Nat) :
    compareItems c (v :: zs) (x :: xs) m n = compareItems c zs xs m n := by
  rw [compareItems]
  split
  next => rfl
  next hne =>
    have heq : equals v x = .ok true := ((hv.recognises .left x hx).mpr h).resolve_left hne
    rw [heq]

theorem holds_compareItems_of_not_equal (c : Comparison) (hv : v.Proper) (hx : x.Proper)
    (h : ¬v.Equal x) (m n : Nat) :
    holds (compareItems c (v :: zs) (x :: xs) m n) = holds (v.compare c x) := by
  have hne : v ≠ x := by
    rintro rfl
    exact h (.refl v)
  have heq : equals v x ≠ .ok true := fun he => h ((hv.recognises .left x hx).mp (.inr he))
  rw [compareItems, if_neg hne]
  cases he : equals v x with
  | error f => rw [holds_compare_of_error c he, holds]
  | ok b =>
    cases b with
    | true => exact absurd he heq
    | false => rfl

theorem holds_compareItems_congr (c : Comparison) (hz : ∀ z ∈ zs, z.Proper)
    (hx : ∀ x ∈ xs, x.Proper) (hy : ∀ y ∈ ys, y.Proper)
    (h : ∀ z ∈ zs, ∀ x y, x.Proper → y.Proper → x.Equal y →
      holds (z.compare c x) = holds (z.compare c y))
    (hxy : List.Forall₂ Equal xs ys) (m n : Nat) :
    holds (compareItems c zs xs m n) = holds (compareItems c zs ys m n) := by
  induction zs generalizing xs ys with
  | nil => cases hxy <;> rfl
  | cons z zs ih =>
    cases hxy with
    | nil => rfl
    | @cons x y xs ys hxy hrest =>
      rw [List.forall_mem_cons] at hz hx hy h
      have hcongr := hxy.right_congr hx.1 hy.1 hz.1
      by_cases hzx : z.Equal x
      · rw [holds_compareItems_of_equal c hz.1 hx.1 hzx,
          holds_compareItems_of_equal c hz.1 hy.1 (hcongr.mp hzx)]
        exact ih hz.2 hx.2 hy.2 h.2 hrest
      · rw [holds_compareItems_of_not_equal c hz.1 hx.1 hzx,
          holds_compareItems_of_not_equal c hz.1 hy.1 (fun hzy => hzx (hcongr.mpr hzy))]
        exact h.1 x y hx.1 hy.1 hxy

section Series

variable {s : Series}

theorem compare_items (c : Comparison) (hv : v.items? = some (s, zs)) (hx : x.items? = some (s, xs))
    (hs : ∀ form, s ≠ .record form) :
    v.compare c x = compareItems c zs xs zs.length xs.length := by
  cases v with
  | list | tuple =>
    cases hv
    cases x with
    | list | tuple => cases hx <;> rfl
    | _ => cases hx
  | schema =>
    cases hv
    exact absurd rfl (hs _)
  | _ => cases hv

theorem compare_of_other_items (c : Comparison) (hv : v.items? = some (s, zs))
    (hx : x.items?.map (·.1) ≠ some s) : v.compare c x = answerOfRight c v x := by
  cases v with
  | list | tuple =>
    cases hv
    cases x with
    | list | tuple => first | rfl | exact absurd rfl hx
    | _ => rfl
  | schema => cases x <;> rfl
  | _ => cases hv

theorem Equal.series_eq (h : x.Equal y) : x.items?.map (·.1) = y.items?.map (·.1) := by
  cases h with
  | refl => rfl
  | atoms => rfl
  | series hx hy =>
    rw [hx, hy]
    rfl
  | keyed hx hy => rw [items?_of_entries? hx, items?_of_entries? hy]

theorem holds_compare_items_congr (c : Comparison) (hv : v.items? = some (s, zs))
    (hs : ∀ form, s ≠ .record form) (hz : ∀ z ∈ zs, z.Proper)
    (h : ∀ z ∈ zs, ∀ x y, x.Proper → y.Proper → x.Equal y →
      holds (z.compare c x) = holds (z.compare c y))
    (hx : x.Proper) (hy : y.Proper) (hxy : x.Equal y) :
    holds (v.compare c x) = holds (v.compare c y) := by
  by_cases hseries : x.items?.map (·.1) = some s
  · obtain ⟨⟨s', xs⟩, hxs, rfl⟩ := Option.map_eq_some_iff.mp hseries
    obtain ⟨ys, hys, hitems⟩ := (equal_items_iff hxs).mp hxy
    rw [compare_items c hv hxs hs, compare_items c hv hys hs, hitems.length_eq]
    exact holds_compareItems_congr c hz (hx.items hxs) (hy.items hys) h hitems _ _
  · rw [compare_of_other_items c hv hseries, compare_of_other_items c hv (hxy.series_eq ▸ hseries),
      answerOfRight_congr c v hxy]

end Series

theorem compare_atom_of_not_atom (c : Comparison) (a : Atom) (hx : ∀ b, x ≠ .atom b) :
    compare c (.atom a) x = answerOfRight c (.atom a) x := by
  cases x with
  | atom b => exact absurd rfl (hx b)
  | _ => rfl

theorem holds_compare_atom_congr (c : Comparison) (a : Atom) (h : x.Equal y) :
    holds (compare c (.atom a) x) = holds (compare c (.atom a) y) := by
  rcases h.cases_compound with rfl | ⟨b, b', rfl, rfl, hb⟩ | ⟨hx, hy⟩
  · rfl
  · exact c.holds_ofAtoms_congr hb a
  · rw [compare_atom_of_not_atom c a hx.notAtom, compare_atom_of_not_atom c a hy.notAtom, hx.answer,
      hy.answer]

theorem holds_compare_congr_of_right {c : Comparison} (h : x.Equal y)
    (hv : ∀ w, v.compare c w = answerOfRight c v w) :
    holds (v.compare c x) = holds (v.compare c y) := by
  rw [hv, hv, answerOfRight_congr c v h]

theorem compare_object (c : Comparison) (tag : Tag) (attributes : List (String × Value))
    (traits : Traits) (w : Value) : compare c (.object tag attributes traits) w =
      match traits.answer c w with
      | .unsupported => answerOfRight c (.object tag attributes traits) w
      | r => r.get := by
  cases w <;> rfl

/-- Only an object among the compared values can tell equal ones apart. -/
theorem holds_compare_congr (c : Comparison) (hv : v.ProperWith Traits.Impartial) :
    ∀ x y, x.Proper → y.Proper → x.Equal y → holds (v.compare c x) = holds (v.compare c y) := by
  induction hv with
  | atom a => exact fun x y _ _ h => holds_compare_atom_congr c a h
  | list hz ih =>
    exact fun x y hx hy h =>
      holds_compare_items_congr c rfl (by simp) (fun z hz' => (hz z hz').proper) ih hx hy h
  | tuple hz ih =>
    exact fun x y hx hy h =>
      holds_compare_items_congr c rfl (by simp) (fun z hz' => (hz z hz').proper) ih hx hy h
  | object himpartial =>
    intro x y _ _ h
    rw [compare_object, compare_object, answerOfRight_congr c _ h, himpartial c x y]
  | symbol | dict | mapping | schema =>
    exact fun x y _ _ h => holds_compare_congr_of_right h fun w => by cases w <;> rfl

theorem Equal.isNull_eq (h : x.Equal y) : x.isNull = y.isNull := by
  rcases h.cases_compound with rfl | ⟨a, b, rfl, rfl, hab⟩ | ⟨hx, hy⟩
  · rfl
  · cases hab with
    | numbers ha hb =>
      have hx : (Value.atom a).isNull = false := isNull_of_number ha
      have hy : (Value.atom b).isNull = false := isNull_of_number hb
      rw [hx, hy]
    | _ => rfl
  · rw [hx.isNull, hy.isNull]

theorem satisfies_congr (c : Comparison) (hv : v.ProperWith Traits.Impartial) (hx : x.Proper)
    (hy : y.Proper) (h : x.Equal y) : v.satisfies c x = v.satisfies c y := by
  rw [satisfies, satisfies, h.isNull_eq, holds_compare_congr c hv x y hx hy h]

/-! ## Bounds on a length -/

theorem int_equals (m n : Int) : (int m).equals (.int n) = .ok (decide (m = n)) :=
  Number.int_equals m n

theorem int_equal_iff {m n : Int} : (int m).Equal (.int n) ↔ m = n := by
  constructor
  · intro h
    rcases equal_atom_iff.mp h with h | ⟨b, hb, h⟩
    · cases h
      rfl
    · cases hb
      have h : (int m).equals (.int n) = .ok true := h
      rw [int_equals, Except.ok.injEq, decide_eq_true_iff] at h
      exact h
  · rintro rfl
    exact .refl _

/-- Stored as bounds or sizes the two act alike on values whose objects behave in a certain way. -/
structure ActsAlike (P : Traits → Prop) (x y : Value) : Prop where
  satisfies : ∀ (c : Comparison) (v : Value), v.ProperWith P → v.satisfies c x = v.satisfies c y
  lengthBeyond : ∀ (c : Comparison) (n : Nat), lengthBeyond c n x = lengthBeyond c n y
  equals : ∀ n : Nat, holds ((int n).equals x) = holds ((int n).equals y)

section ActsAlike

variable {P : Traits → Prop} {x' y' : Value}

end ActsAlike

/-! ## Keys -/

theorem get?_congr {es : Entries} (hes : ∀ e ∈ es, e.1.Proper) (hk : k.Proper) (hl : l.Proper)
    (h : k.Equal l) : es.get? k = es.get? l := by
  rw [Entries.get?, Entries.get?,
    List.find?_congr fun e he => keyMatches_congr h hk hl (hes e he)]

/-- Nothing else is equal to a text. -/
theorem Equal.str_iff (h : k.Equal l) (name : String) : k = .str name ↔ l = .str name := by
  rcases h.cases_compound with rfl | ⟨a, b, rfl, rfl, hab⟩ | ⟨hk, hl⟩
  · rfl
  · cases hab with
    | same => rfl
    | numbers ha hb => exact iff_of_false (by rintro ⟨⟩; cases ha) (by rintro ⟨⟩; cases hb)
    | _ => exact iff_of_false (by simp) (by simp)
  · exact iff_of_false (hk.notAtom _) (hl.notAtom _)

/-- A value shows the same under equal keys. -/
theorem field_congr_key (hv : v.Proper) (hk : k.Proper) (hl : l.Proper) (h : k.Equal l) :
    v.field k = v.field l := by
  by_cases hname : ∃ name, k = .str name
  · obtain ⟨name, rfl⟩ := hname
    rw [(h.str_iff name).mp rfl]
  have hk' : ∀ name, k ≠ .str name := fun name hn => hname ⟨name, hn⟩
  have hl' : ∀ name, l ≠ .str name := fun name hn => hk' name ((h.str_iff name).mpr hn)
  cases hv with
  | dict _ hes _ => rw [field_dict, field_dict, get?_congr hes hk hl h]
  | mapping _ hes _ =>
    rw [field_mapping fun name _ => hk' name, field_mapping fun name _ => hl' name,
      get?_congr hes hk hl h]
  | _ => rw [field_other rfl hk', field_other rfl hl']

end Congruence

end Value
end Conform
