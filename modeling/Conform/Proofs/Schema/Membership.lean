import Mathlib.Tactic.MkIffOfInductiveProp
import Conform.Proofs.Schema.Visibility
import Conform.Proofs.Value.Rank
import Conform.Proofs.Value.StrictEquality

/-! Persons and members. `IsPerson` and `IsMember` say by what a value shows under each key whether
it is a record of one, in terms of texts and of the numbers that values denote. Main statement: the
test of a member comes to an end for every value, and is true exactly of the records of members; a
value that shows undefined under a key, because it lacks the field or fails to give it, is none. -/

namespace Conform
set_option autoImplicit false

namespace Value

variable {v w key : Value}

/-! ## Texts and numbers -/

theorem strictEquals_str {text : String} : v.strictEquals (.str text) = true ↔ v = .str text := by
  have hkind : (str text).kind ≠ .number := nofun
  rw [strictEquals_comm, strictEquals_of_not_number hkind, eq_comm]

theorem hasLengthWithin_str (text : String) (m n : Nat) :
    (str text).HasLengthWithin (.int m) (.int n) ↔ m ≤ text.length ∧ text.length ≤ n := by
  have hlength : (str text).length = .ok text.length := rfl
  have hinteger (k : Int) : (int k).integer = .ok k := rfl
  simp only [HasLengthWithin, hlength, hinteger, Except.ok.injEq, exists_eq_left', forall_eq',
    Int.ofNat_le]

theorem compare_int_iff (hv : v.kind = .number) (n : Int) :
    v.compare .atLeast (.int n) = .ok true ↔
      ∃ q, v.Denotes q ∧ (((n : ℚ) : WithTop ℚ) : Extended) ≤ q := by
  obtain ⟨a, ha⟩ := isNumber_of_kind hv
  have hcompare : v.compare .atLeast (.int n) = (Number.int n).le a := ha.compare_eq ..
  rw [hcompare, number_le_iff, Number.value?_int]
  constructor
  · rintro ⟨_, q, ⟨⟩, hq, h⟩
    exact ⟨q, ha.denotes_iff.mpr hq, h⟩
  · rintro ⟨q, hq, h⟩
    exact ⟨_, q, rfl, ha.denotes_iff.mp hq, h⟩

/-! ## Records -/

/-- An integer or a float that is a number, and not below zero. -/
def IsNonnegative (v : Value) : Prop := ∃ q, v.Denotes q ∧ 0 ≤ q

/-- The age and the city may be given as null, but have to be given. -/
@[mk_iff]
structure IsPerson (v : Value) : Prop where
  object : v.kind = .object
  name : ∃ text, v.Shows (.str "name") (.str text) ∧ 1 ≤ text.length ∧ text.length ≤ 32
  age : ∃ w, v.Shows (.str "age") w ∧ (w = .null ∨ w.IsNonnegative)
  sex : ∃ text ∈ ["man", "woman"], v.Shows (.str "sex") (.str text)
  city : ∃ w, v.Shows (.str "city") w ∧ (w = .null ∨ ∃ text ∈ Schema.cities, w = .str text)

@[mk_iff]
structure IsMember (v : Value) : Prop extends v.IsPerson where
  id : ∃ text, v.Shows (.str "id") (.str text)
  role : ∃ text ∈ ["admin", "moderator", "user"], v.Shows (.str "role") (.str text)

theorem Shows.not_undefined (h : v.Shows key w) (hw : w ≠ .undefined) :
    ¬v.Shows key .undefined := by
  rw [shows_iff] at *
  rwa [h]

/-- Undefined is no part of a record. -/
theorem IsMember.not_shows_undefined (h : v.IsMember) (hkey : key ∈ Schema.memberKeys) :
    ¬v.Shows key .undefined := by
  obtain ⟨⟨-, ⟨name, hname, -⟩, ⟨age, hage, hnumber⟩, ⟨sex, -, hsex⟩, ⟨city, hcity, htext⟩⟩,
    ⟨id, hid⟩, ⟨role, -, hrole⟩⟩ := h
  have hstr (text : String) : str text ≠ .undefined := by simp
  have hage' : age ≠ .undefined := by
    rintro rfl
    rcases hnumber with hnull | ⟨q, hq, -⟩
    · cases hnull
    · cases hq
  have hcity' : city ≠ .undefined := by
    rintro rfl
    rcases htext with hnull | ⟨text, -, hcity⟩
    · cases hnull
    · cases hcity
  simp only [Schema.memberKeys, List.map_cons, List.map_nil, List.mem_cons, List.not_mem_nil,
    or_false] at hkey
  rcases hkey with rfl | rfl | rfl | rfl | rfl | rfl
  · exact hname.not_undefined (hstr name)
  · exact hage.not_undefined hage'
  · exact hsex.not_undefined (hstr sex)
  · exact hcity.not_undefined hcity'
  · exact hid.not_undefined (hstr id)
  · exact hrole.not_undefined (hstr role)

end Value

namespace Schema

variable {given : Callback → Value → Prop} {v : Value}

/-! ## Schemas of texts and numbers -/

theorem holdsOf_string : string.HoldsOf given v ↔ ∃ text, v = .str text := by
  rw [string, holdsOf_kind, ← Value.kind_eq_string_iff]
  exact ⟨Kind.name_inj, congrArg Kind.name⟩

theorem holdsOf_textWithin (m n : Nat) : (string.rangeLength (.int m) (.int n)).HoldsOf given v ↔
    ∃ text, v = .str text ∧ m ≤ text.length ∧ text.length ≤ n := by
  rw [rangeLength, holdsOf_lengthBounded, holdsOf_string]
  constructor
  · rintro ⟨⟨text, rfl⟩, h⟩
    exact ⟨text, rfl, (Value.hasLengthWithin_str text m n).mp h⟩
  · rintro ⟨text, rfl, h⟩
    exact ⟨⟨text, rfl⟩, (Value.hasLengthWithin_str text m n).mpr h⟩

theorem holdsOf_oneOfStrings {options : List String} :
    (oneOfStrings options).HoldsOf given v ↔ ∃ text ∈ options, v = .str text := by
  simp only [oneOfStrings, holdsOf_oneOf, List.mem_map, exists_exists_and_eq_and,
    Value.strictEquals_str]

theorem holdsOf_literals (options : List String) :
    (union (options.map fun text => literal (.str text))).HoldsOf given v ↔
      ∃ text ∈ options, v = .str text := by
  simp only [holdsOf_union, List.mem_map, exists_exists_and_eq_and, holdsOf_literal,
    Value.strictEquals_str]

/-- Only an integer or a float is compared at all, and what is not a number is in no order. -/
theorem holdsOf_floor (n : Int) : (number.min (.int n)).HoldsOf given v ↔
    ∃ q, v.Denotes q ∧ (((n : ℚ) : WithTop ℚ) : Extended) ≤ q := by
  have hkind : v.kind.name = Kind.number.name ↔ v.kind = .number :=
    ⟨Kind.name_inj, congrArg Kind.name⟩
  have hbound : (.int n : Value) ≠ .null := nofun
  rw [min, number, holdsOf_bounded, holdsOf_kind, hkind, or_iff_right hbound]
  constructor
  · rintro ⟨hv, h, -⟩
    exact (Value.compare_int_iff hv n).mp h
  · rintro ⟨q, hq, h⟩
    exact ⟨hq.kind_eq, (Value.compare_int_iff hq.kind_eq n).mpr ⟨q, hq, h⟩, .inl rfl⟩

/-! ## Persons and members -/

theorem person_holdsOf_iff : person.HoldsOf given v ↔ v.IsPerson := by
  have hname (w : Value) : (string.rangeLength (.int 1) (.int 32)).HoldsOf given w ↔
      ∃ text, w = .str text ∧ 1 ≤ text.length ∧ text.length ≤ 32 := holdsOf_textWithin 1 32
  have hage (w : Value) : (number.min (.int 0)).HoldsOf given w ↔ w.IsNonnegative :=
    holdsOf_floor 0
  have hsex (w : Value) : (union [literal (.str "man"), literal (.str "woman")]).HoldsOf given w ↔
      ∃ text ∈ ["man", "woman"], w = .str text := holdsOf_literals ["man", "woman"]
  rw [person_eq, holdsOf_shape, Value.isPerson_iff]
  simp only [Value.shows_iff, List.forall_mem_cons, List.not_mem_nil, false_implies, implies_true,
    and_true, exists_eq_left', holdsOf_nullable, holdsOf_oneOfStrings, hname, hage, hsex]

theorem member_holdsOf_iff : member.HoldsOf given v ↔ v.IsMember := by
  rw [member_eq, holdsOf_intersection, Value.isMember_iff]
  simp only [List.forall_mem_cons, List.not_mem_nil, false_implies, implies_true, and_true,
    holdsOf_shape, Value.shows_iff, person_holdsOf_iff, holdsOf_string, memberRole,
    holdsOf_oneOfStrings]
  -- that a member is an object is asked twice
  constructor
  · rintro ⟨hperson, -, hrest⟩
    exact ⟨hperson, hrest⟩
  · rintro ⟨hperson, hrest⟩
    exact ⟨hperson, hperson.object, hrest⟩

theorem member_testsAlone : member.TestsAlone :=
  StandsAlone.testsAlone fun t ht => (member_every t ht).asksOnly

/-- The test of a member answers every value with a truth value, which is true exactly for the
records of members. A field that is missing or that fails to be read is not taken for null. -/
theorem verdict_member (env : Env) (v : Value) :
    ∃ b, (member.verdict env v).outcome = .ok (.bool b) ∧ (b = true ↔ v.IsMember) ∧
      ((∃ key ∈ memberKeys, v.Shows key .undefined) → b = false) := by
  have hdecides : (member.test env v).Decides (member.HoldsOf (fun _ _ => False) v) :=
    test_decides (fun _ h => h.elim) member_testsAlone v
  obtain ⟨b, hb, hmember⟩ := hdecides.congr member_holdsOf_iff
  refine ⟨b, verdict_outcome member_testsAlone.handsOn_eq_false hb, hmember, ?_⟩
  rintro ⟨key, hkey, hundefined⟩
  rw [Bool.eq_false_iff]
  exact fun ht => (hmember.mp ht).not_shows_undefined hkey hundefined

/-- A member may be of any age, without end even. -/
example : (member.verdict Env.stock (.mapping 2 [(.str "name", .str "Ada"),
    (.str "age", .atom (.float 1 (.infinity false))), (.str "sex", .str "woman"),
    (.str "city", .str "Kuala, Lumpur"), (.str "id", .str ""), (.str "role", .str "moderator")]
    [])).outcome = .ok (.bool true) := by
  decide +kernel

end Schema
end Conform
