import Conform.Schema.AsValue
import Conform.Schema.Supplied
import Conform.Proofs.Schema.Structure
import Conform.Proofs.Value.Members
import Conform.Proofs.Value.StrictEquality
import Conform.Proofs.Value.Substitution

/-! Schemas whose records are equal. They have the same nodes in the same places, with equal values
stored beside each other. Sizes and keys act by equality, and so do bounds, unless what is compared
with them is an object that tells equal ones apart, so that it does not matter which of two equal
ones is stored; what a value has to be strictly equal to acts by strict equality, so that it does
matter there. -/

namespace Conform
set_option autoImplicit false

/-- A function that is known by a tag bears the label of that tag. -/
def Callback.LabelledBy (label : Nat → String) : Callback → Prop
  | .named _ => True
  | .watched tag name => name = label tag

namespace Schema

/-! ## Records -/

/-- A node of the library's own. A kind that is not given by a name is no text. -/
def Recorded (label : Nat → String) : Schema → Prop
  | .unnamedKind x => x.kind ≠ .string
  | .predicate t _ => t.LabelledBy label
  | .foreign _ => False
  | _ => True

/-- A schema of such nodes, in which proper values are stored. -/
structure WellFormed (label : Nat → String) (s : Schema) : Prop where
  nodes : s.Every testedParts (Recorded label)
  proper : (s.toValue 0).Proper

theorem memberValues_eq (ss : List Schema) : memberValues ss = ss.map (toValue 0) := by
  induction ss with
  | nil => rfl
  | cons s ss ih => rw [memberValues, ih, List.map_cons]

theorem fieldValues_eq (fs : List (Value × Schema)) :
    fieldValues fs = fs.map fun f => .tuple 0 [f.1, f.2.toValue 0] := by
  induction fs with
  | nil => rfl
  | cons f fs ih => rw [fieldValues, ih, List.map_cons]

section WellFormed

variable {label : Nat → String} {s t : Schema}

theorem proper_field {fs : List (Value × Schema)} (h : ((shape fs).toValue 0).Proper) :
    ∀ f ∈ fs, f.1.Proper ∧ (f.2.toValue 0).Proper := by
  intro f hf
  have htuple : (Value.tuple 0 (fieldValues fs)).Proper := h.items rfl _ (by simp)
  have hfield : (Value.tuple 0 [f.1, f.2.toValue 0]).Proper := by
    refine htuple.items rfl _ ?_
    rw [fieldValues_eq]
    exact List.mem_map_of_mem hf
  exact ⟨hfield.items rfl _ (by simp), hfield.items rfl _ (by simp)⟩

theorem proper_member {ss : List Schema} (h : (Value.tuple 0 (memberValues ss)).Proper) :
    ∀ s ∈ ss, (s.toValue 0).Proper := by
  intro s hs
  refine h.items rfl _ ?_
  rw [memberValues_eq]
  exact List.mem_map_of_mem hs

theorem WellFormed.part (h : s.WellFormed label) (ht : t ∈ s.testedParts) : t.WellFormed label := by
  refine ⟨h.nodes.part ht, ?_⟩
  have hproper := h.proper
  cases s with
  | nullable | undefinable | array | bounded | lengthBounded | exactLength =>
    obtain rfl : t = _ := List.mem_singleton.mp ht
    exact hproper.items rfl _ List.mem_cons_self
  | shape fs =>
    obtain ⟨f, hf, rfl⟩ := List.mem_map.mp ht
    exact (proper_field hproper f hf).2
  | union ss | intersection ss => exact proper_member (hproper.items rfl _ List.mem_cons_self) t ht
  | _ => cases ht

end WellFormed

/-! ## Nodes with equal records -/

/-- The records are equal. -/
def EqualRecords (s t : Schema) : Prop := (s.toValue 0).Equal (t.toValue 0)

/-- Two nodes of one sort, with equal records of their parts and equal values beside each other. -/
inductive EqualNodes : Schema → Schema → Prop
  | kind (name : String) : EqualNodes (.kind name) (.kind name)
  | unnamedKind (x y : Value) : EqualNodes (.unnamedKind x) (.unnamedKind y)
  | bigint : EqualNodes .bigint .bigint
  | nullable {s t : Schema} (h : s.EqualRecords t) : EqualNodes (.nullable s) (.nullable t)
  | undefinable {s t : Schema} (h : s.EqualRecords t) : EqualNodes (.undefinable s) (.undefinable t)
  | literal {x y : Value} (h : x.Equal y) : EqualNodes (.literal x) (.literal y)
  | oneOf {xs ys : List Value} (h : List.Forall₂ Value.Equal xs ys) :
      EqualNodes (.oneOf xs) (.oneOf ys)
  | oneOfType {s t : Schema} {xs ys : List Value} (h : List.Forall₂ Value.Equal xs ys) :
      EqualNodes (.oneOfType s xs) (.oneOfType t ys)
  | shape {fs gs : List (Value × Schema)}
      (h : List.Forall₂ (fun f g => f.1.Equal g.1 ∧ f.2.EqualRecords g.2) fs gs) :
      EqualNodes (.shape fs) (.shape gs)
  | array {s t : Schema} (h : s.EqualRecords t) : EqualNodes (.array s) (.array t)
  | union {ss ts : List Schema} (h : List.Forall₂ EqualRecords ss ts) :
      EqualNodes (.union ss) (.union ts)
  | intersection {ss ts : List Schema} (h : List.Forall₂ EqualRecords ss ts) :
      EqualNodes (.intersection ss) (.intersection ts)
  | bounded {s t : Schema} {x x' y y' : Value} (h : s.EqualRecords t) (hx : x.Equal y)
      (hx' : x'.Equal y') : EqualNodes (.bounded s x x') (.bounded t y y')
  | lengthBounded {s t : Schema} {x x' y y' : Value} (h : s.EqualRecords t) (hx : x.Equal y)
      (hx' : x'.Equal y') : EqualNodes (.lengthBounded s x x') (.lengthBounded t y y')
  | exactLength {s t : Schema} {x y : Value} (h : s.EqualRecords t) (hx : x.Equal y) :
      EqualNodes (.exactLength s x) (.exactLength t y)
  | predicate (f : Callback) (d d' : Callback) : EqualNodes (.predicate f d) (.predicate f d')

section EqualRecords

variable {label : Nat → String} {s t : Schema} {xs ys : List Value}

theorem equal_tuple_iff {a b : Tag} : (Value.tuple a xs).Equal (.tuple b ys) ↔
    List.Forall₂ Value.Equal xs ys := by
  rw [Value.equal_items_iff rfl]
  simp [Value.items?]

theorem equal_members {ss ts : List Schema}
    (h : (Value.tuple 0 (memberValues ss)).Equal (.tuple 0 (memberValues ts))) :
    List.Forall₂ EqualRecords ss ts := by
  rw [equal_tuple_iff, memberValues_eq, memberValues_eq, List.forall₂_map_left_iff,
    List.forall₂_map_right_iff] at h
  exact h

theorem equal_fields {fs gs : List (Value × Schema)}
    (h : (Value.tuple 0 (fieldValues fs)).Equal (.tuple 0 (fieldValues gs))) :
    List.Forall₂ (fun f g => f.1.Equal g.1 ∧ f.2.EqualRecords g.2) fs gs := by
  rw [equal_tuple_iff, fieldValues_eq, fieldValues_eq, List.forall₂_map_left_iff,
    List.forall₂_map_right_iff] at h
  refine h.imp fun f g hfg => ?_
  rw [equal_tuple_iff] at hfg
  cases hfg with
  | cons hkey hrest =>
    cases hrest with
    | cons hs _ => exact ⟨hkey, hs⟩

/-- Equal records have one form, and equal parts. -/
theorem EqualRecords.record (h : s.EqualRecords t) {form : Form}
    (hs : s.toValue 0 = .schema 0 form xs) :
    ∃ ys, (t.toValue 0).items? = some (.record form, ys) ∧ List.Forall₂ Value.Equal xs ys := by
  rw [EqualRecords, hs] at h
  exact (Value.equal_items_iff rfl).mp h

theorem equal_named {f g : Callback} (hf : f.LabelledBy label) (hg : g.LabelledBy label)
    (h : f.toValue.Equal g.toValue) : f = g := by
  cases f with
  | named name =>
    have hname := (h.str_iff name).mp rfl
    cases g with
    | named name' =>
      cases hname
      rfl
    | watched => cases hname
  | watched tag name =>
    cases g with
    | named name' => cases (h.str_iff name').mpr rfl
    | watched tag' name' =>
      have htag : (tag : Int) = tag' := Value.int_equal_iff.mp h
      obtain rfl : tag = tag' := Int.ofNat.inj htag
      have hname : name = name' := hf.trans hg.symm
      rw [hname]

theorem EqualRecords.nodes (hs : s.Recorded label) (ht : t.Recorded label)
    (h : s.EqualRecords t) : EqualNodes s t := by
  cases s
  case foreign => exact hs.elim
  all_goals
    obtain ⟨ys, hys, hparts⟩ := h.record rfl
    cases t
    case foreign => exact ht.elim
    all_goals cases hys
  case bigint.bigint => exact .bigint
  all_goals obtain ⟨hpart, hrest⟩ := List.forall₂_cons.mp hparts
  case kind.kind name name' =>
    cases (hpart.str_iff name).mp rfl
    exact .kind name
  case kind.unnamedKind name y =>
    cases (hpart.str_iff name).mp rfl
    exact absurd rfl ht
  case unnamedKind.kind x name =>
    cases (hpart.str_iff name).mpr rfl
    exact absurd rfl hs
  case unnamedKind.unnamedKind x y => exact .unnamedKind x y
  case nullable.nullable => exact .nullable hpart
  case undefinable.undefinable => exact .undefinable hpart
  case literal.literal => exact .literal hpart
  case oneOf.oneOf => exact .oneOf (equal_tuple_iff.mp hpart)
  case oneOfType.oneOfType =>
    obtain ⟨hoptions, -⟩ := List.forall₂_cons.mp hrest
    exact .oneOfType (equal_tuple_iff.mp hoptions)
  case shape.shape => exact .shape (equal_fields hpart)
  case array.array => exact .array hpart
  case union.union => exact .union (equal_members hpart)
  case intersection.intersection => exact .intersection (equal_members hpart)
  case exactLength.exactLength =>
    obtain ⟨hsize, -⟩ := List.forall₂_cons.mp hrest
    exact .exactLength hpart hsize
  case predicate.predicate f d g d' =>
    obtain rfl := equal_named hs ht hpart
    exact .predicate f d d'
  -- what is left are the two nodes with two bounds
  all_goals
    obtain ⟨hlower, hrest⟩ := List.forall₂_cons.mp hrest
    obtain ⟨hupper, -⟩ := List.forall₂_cons.mp hrest
  case bounded.bounded => exact .bounded hpart hlower hupper
  case lengthBounded.lengthBounded => exact .lengthBounded hpart hlower hupper

end EqualRecords

/-! ## Stored values -/

/-- The values that a tested one is held against by strict equality. -/
def options : Schema → List Value
  | .literal x => [x]
  | .oneOf xs | .oneOfType _ xs => xs
  | _ => []

/-- The values that a tested one, or its length, is compared with. -/
def bounds : Schema → List Value
  | .bounded _ lower upper | .lengthBounded _ lower upper => [lower, upper]
  | .exactLength _ size => [size]
  | _ => []

/-- One value is stored in one schema where another is stored in the other. -/
inductive Beside (stored : Schema → List Value) (x y : Value) : Schema → Schema → Prop
  | here {s t : Schema} (h : (x, y) ∈ (stored s).zip (stored t)) : Beside stored x y s t
  | inPart {s t s' t' : Schema} (hp : (s', t') ∈ s.testedParts.zip t.testedParts)
      (h : Beside stored x y s' t') : Beside stored x y s t

section Stored

variable {P : Traits → Prop} {label : Nat → String} {s t : Schema}

/-- Schemas with equal records, where what is held against tested values is strictly equal, and
bounds act alike on values whose objects behave in a certain way. -/
structure Exchangeable (P : Traits → Prop) (label : Nat → String) (s t : Schema) : Prop where
  left : s.WellFormed label
  right : t.WellFormed label
  records : s.EqualRecords t
  stored : ∀ x y, Beside options x y s t → x = y ∨ x.strictEquals y = true
  compared : ∀ x y, Beside bounds x y s t → Value.ActsAlike P x y

theorem Exchangeable.part (h : Exchangeable P label s t) {s' t' : Schema}
    (hp : (s', t') ∈ s.testedParts.zip t.testedParts) (hr : s'.EqualRecords t') :
    Exchangeable P label s' t' := by
  obtain ⟨hs, ht⟩ := List.of_mem_zip hp
  exact ⟨h.left.part hs, h.right.part ht, hr, fun x y hxy => h.stored x y (.inPart hp hxy),
    fun x y hxy => h.compared x y (.inPart hp hxy)⟩

theorem Exchangeable.nodes (h : Exchangeable P label s t) : EqualNodes s t :=
  h.records.nodes h.left.nodes.node h.right.nodes.node

theorem Exchangeable.members (h : Exchangeable P label s t)
    (hparts : List.Forall₂ EqualRecords s.testedParts t.testedParts) :
    List.Forall₂ (fun s' t' => s' ∈ s.testedParts ∧ Exchangeable P label s' t')
      s.testedParts t.testedParts := by
  obtain ⟨hlen, hparts⟩ := List.forall₂_iff_zip.mp hparts
  exact List.forall₂_iff_zip.mpr
    ⟨hlen, fun hp => ⟨(List.of_mem_zip hp).1, h.part hp (hparts hp)⟩⟩

/-- A shape shows the same under keys that are equal, though they may be stored in one schema as
integers and in the other one as floats. -/
theorem Exchangeable.fields {fs gs : List (Value × Schema)}
    (h : Exchangeable P label (.shape fs) (.shape gs))
    (hfields : List.Forall₂ (fun f g => f.1.Equal g.1 ∧ f.2.EqualRecords g.2) fs gs) {v : Value}
    (hv : v.ProperWith P) : List.Forall₂ (fun f g => f ∈ fs ∧ v.field f.1 = v.field g.1 ∧
      Exchangeable P label f.2 g.2) fs gs := by
  obtain ⟨hlen, hfields⟩ := List.forall₂_iff_zip.mp hfields
  refine List.forall₂_iff_zip.mpr ⟨hlen, fun {f g} hp => ?_⟩
  obtain ⟨hf, hg⟩ := List.of_mem_zip hp
  obtain ⟨hkey, hrecords⟩ := hfields hp
  have hparts : (f.2, g.2) ∈ (shape fs).testedParts.zip (shape gs).testedParts := by
    change (f.2, g.2) ∈ (fs.map (·.2)).zip (gs.map (·.2))
    rw [List.zip_map]
    exact List.mem_map_of_mem (f := Prod.map (·.2) (·.2)) hp
  refine ⟨hf, ?_, h.part hparts hrecords⟩
  exact Value.field_congr_key hv.proper (proper_field h.left.proper f hf).1
    (proper_field h.right.proper g hg).1 hkey

end Stored

/-! ## Equal schemas -/

section Equals

variable {label : Nat → String} {s t : Schema}

theorem EqualNodes.testedParts (h : EqualNodes s t) :
    List.Forall₂ EqualRecords s.testedParts t.testedParts := by
  cases h with
  | nullable h | undefinable h | array h | bounded h | lengthBounded h | exactLength h =>
    exact .cons h .nil
  | shape h =>
    refine List.forall₂_map_left_iff.mpr (List.forall₂_map_right_iff.mpr ?_)
    exact h.imp fun f g hfg => hfg.2
  | union h | intersection h => exact h
  | _ => exact .nil

theorem EqualNodes.bounds (h : EqualNodes s t) : List.Forall₂ Value.Equal s.bounds t.bounds := by
  cases h with
  | bounded _ hl hu | lengthBounded _ hl hu => exact .cons hl (.cons hu .nil)
  | exactLength _ hsize => exact .cons hsize .nil
  | _ => exact .nil

theorem WellFormed.bounds (h : s.WellFormed label) : ∀ x ∈ s.bounds, x.Proper := by
  cases s with
  | bounded | lengthBounded | exactLength =>
    have hitems := h.proper.items rfl
    exact fun x hx => hitems x (List.mem_cons_of_mem _ hx)
  | _ => simp [Schema.bounds]

end Equals

end Schema
end Conform
