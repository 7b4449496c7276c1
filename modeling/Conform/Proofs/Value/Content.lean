import Mathlib.Data.List.Forall2
import Mathlib.Data.List.Nodup
import Mathlib.Data.List.Pairwise
import Mathlib.Data.Set.Defs
import Conform.Proofs.Value.Verdicts

/-! Equality of content as a relation. `Equal` has one rule for each way of being equal: numbers by
value, series item by item, dictionaries and mappings by their entries in whatever order, records by
their parts. A value is `Proper` if no dictionary in it has two keys that are equal. -/

namespace Conform
set_option autoImplicit false

/-! ## Items that correspond -/

section Items

variable {α : Type} {R S : α → α → Prop} {xs ys zs : List α}

theorem forall₂_imp_mem (h : List.Forall₂ R xs ys)
    (hS : ∀ x ∈ xs, ∀ y ∈ ys, R x y → S x y) : List.Forall₂ S xs ys := by
  induction h with
  | nil => exact .nil
  | cons hxy h ih =>
    refine .cons (hS _ List.mem_cons_self _ List.mem_cons_self hxy) (ih fun x hx y hy => ?_)
    exact hS x (List.mem_cons_of_mem _ hx) y (List.mem_cons_of_mem _ hy)

theorem forall₂_symm_mem (h : List.Forall₂ R xs ys)
    (hR : ∀ x ∈ xs, ∀ y ∈ ys, R x y → R y x) : List.Forall₂ R ys xs :=
  (forall₂_imp_mem h hR).flip

theorem forall₂_trans_mem (h : List.Forall₂ R xs ys) (h' : List.Forall₂ R ys zs)
    (hR : ∀ x ∈ xs, ∀ y ∈ ys, ∀ z ∈ zs, R x y → R y z → R x z) : List.Forall₂ R xs zs := by
  induction h generalizing zs with
  | nil =>
    cases h'
    exact .nil
  | cons hxy h ih =>
    cases h' with
    | cons hyz h' =>
      refine .cons (hR _ List.mem_cons_self _ List.mem_cons_self _ List.mem_cons_self hxy hyz) ?_
      exact ih h' fun x hx y hy z hz => hR x (List.mem_cons_of_mem _ hx) y
        (List.mem_cons_of_mem _ hy) z (List.mem_cons_of_mem _ hz)

theorem eq_of_pairwise_not {x y : α} (h : xs.Pairwise fun x y => ¬R x y) (hx : x ∈ xs)
    (hy : y ∈ xs) (hxy : R x y) (hyx : R y x) : x = y := by
  by_contra hne
  have hpair : xs.Pairwise fun x y => ¬(R x y ∧ R y x) := h.imp fun hxy h => hxy h.1
  have : Std.Symm fun x y => ¬(R x y ∧ R y x) := ⟨fun _ _ h h' => h h'.symm⟩
  exact hpair.forall hx hy hne ⟨hxy, hyx⟩

/-- As many items as have a counterpart of their own leave none without. -/
theorem exists_of_injective {β : Type} {R : α → β → Prop} {ys : List β} (hx : xs.Nodup)
    (hlen : ys.length ≤ xs.length) (h : ∀ x ∈ xs, ∃ y ∈ ys, R x y)
    (hinj : ∀ x ∈ xs, ∀ x' ∈ xs, ∀ y, R x y → R x' y → x = x') : ∀ y ∈ ys, ∃ x ∈ xs, R x y := by
  have hg : ∀ x : { x // x ∈ xs }, ∃ y ∈ ys, R x.1 y := fun x => h x.1 x.2
  choose g hmem hR using hg
  have hinj' : Function.Injective g := fun x x' he =>
    Subtype.ext (hinj x.1 x.2 x'.1 x'.2 (g x) (hR x) (he ▸ hR x'))
  have hnodup : (xs.attach.map g).Nodup := hx.attach.map hinj'
  have hsub : xs.attach.map g ⊆ ys := by
    intro y hy
    obtain ⟨x, -, rfl⟩ := List.mem_map.mp hy
    exact hmem x
  have hle : ys.length ≤ (xs.attach.map g).length := by
    rw [List.length_map, List.length_attach]
    exact hlen
  have hperm : (xs.attach.map g).Perm ys :=
    (List.subperm_of_subset hnodup hsub).perm_of_length_le hle
  intro y hy
  obtain ⟨x, -, rfl⟩ := List.mem_map.mp (hperm.mem_iff.mpr hy)
  exact ⟨x.1, x.2, hR x⟩

end Items

/-! ## Atoms -/

/-- What an atom is compared by. -/
inductive Atom.Content where
  | number (x : Extended)
  | bytes (data : List UInt8)
  | range (count : Int)
  | choice (classes : Set Callee)
  | other (a : Atom)

namespace Atom

/-- Only what is not a number among the numbers has no content. -/
def content? (a : Atom) : Option Content :=
  match a.number? with
  | some x => x.value?.map .number
  | none =>
    match a with
    | .bytes _ data => some (.bytes data)
    | .range _ stop => some (.range (max stop 0))
    | .choice _ classes => some (.choice (Set.ofPred (· ∈ classes)))
    | a => some (.other a)

theorem value?_of_signaling {x : Number} (h : x.isSignaling = true) : x.value? = none := by
  cases x with
  | decimal d => cases d <;> first | rfl | cases h
  | _ => cases h

theorem number_equals_iff {x y : Number} :
    x.equals y = .ok true ↔ ∃ q, x.value? = some q ∧ y.value? = some q := by
  rw [Number.equals]
  split
  next h =>
    refine iff_of_false (by simp) ?_
    rintro ⟨q, hx, hy⟩
    rcases Bool.or_eq_true_iff.mp h with h | h
    · rw [value?_of_signaling h] at hx
      cases hx
    · rw [value?_of_signaling h] at hy
      cases hy
  next => rw [Except.ok.injEq, Number.samePosition_iff]

theorem equals_iff {a b : Atom} :
    a.equals b = .ok true ↔ ∃ c, a.content? = some c ∧ b.content? = some c := by
  cases a <;> cases b <;> simp [equals, content?, number?, number_equals_iff, Set.ext_iff] <;> grind

theorem equals_symm {a b : Atom} (h : a.equals b = .ok true) : b.equals a = .ok true := by
  obtain ⟨c, ha, hb⟩ := equals_iff.mp h
  exact equals_iff.mpr ⟨c, hb, ha⟩

theorem equals_trans {a b c : Atom} (h : a.equals b = .ok true) (h' : b.equals c = .ok true) :
    a.equals c = .ok true := by
  obtain ⟨x, ha, hb⟩ := equals_iff.mp h
  obtain ⟨y, hb', hc⟩ := equals_iff.mp h'
  rw [hb, Option.some.injEq] at hb'
  exact equals_iff.mpr ⟨x, ha, hb' ▸ hc⟩

end Atom

namespace Value

/-! ## The relation -/

/-- What holds items one after the other. -/
inductive Series where
  | list
  | tuple
  | record (form : Form)

def items? : Value → Option (Series × List Value)
  | .list _ xs => some (.list, xs)
  | .tuple _ xs => some (.tuple, xs)
  | .schema _ form xs => some (.record form, xs)
  | _ => none

/-- The entries of a dictionary, or of a mapping that can be read to the end. -/
def entries? : Value → Option Entries
  | .dict _ es => some es
  | .mapping _ es raising => if unreadable es raising then none else some es
  | _ => none

/-- Two values of the same content. A value is equal to itself, whatever it is. -/
inductive Equal : Value → Value → Prop
  | refl (v : Value) : Equal v v
  | atoms {a b : Atom} (h : a.equals b = .ok true) : Equal (.atom a) (.atom b)
  | series {v w : Value} {s : Series} {xs ys : List Value} (hv : v.items? = some (s, xs))
      (hw : w.items? = some (s, ys)) (hlen : xs.length = ys.length)
      (h : ∀ p ∈ xs.zip ys, Equal p.1 p.2) : Equal v w
  /-- As many entries on both sides, and a counterpart for each of them. -/
  | keyed {v w : Value} {es fs : Entries} (hv : v.entries? = some es) (hw : w.entries? = some fs)
      (hlen : es.length = fs.length) (counterpart : Value × Value → Value × Value)
      (hmem : ∀ e ∈ es, counterpart e ∈ fs) (hk : ∀ e ∈ es, Equal e.1 (counterpart e).1)
      (h : ∀ e ∈ es, Equal e.2 (counterpart e).2) : Equal v w

/-- The same entries on both sides, in whatever order. -/
def EqualEntries (es fs : Entries) : Prop :=
  es.length = fs.length ∧ ∀ e ∈ es, ∃ f ∈ fs, e.1.Equal f.1 ∧ e.2.Equal f.2

section Equal

variable {a : Atom} {s : Series} {xs : List Value} {es fs : Entries} {v w : Value}

theorem equal_atom_iff : (atom a).Equal w ↔
    w = .atom a ∨ ∃ b, w = .atom b ∧ a.equals b = .ok true := by
  constructor
  · intro h
    cases h with
    | refl => exact .inl rfl
    | atoms h => exact .inr ⟨_, rfl, h⟩
    | series hv => cases hv
    | keyed hv => cases hv
  · rintro (rfl | ⟨b, rfl, h⟩)
    · exact .refl _
    · exact .atoms h

theorem entries?_of_items? (hv : v.items? = some (s, xs)) : v.entries? = none := by
  cases v <;> first | rfl | cases hv

theorem items?_of_entries? (hv : v.entries? = some es) : v.items? = none := by
  cases v <;> first | rfl | cases hv

theorem equal_items_iff (hv : v.items? = some (s, xs)) :
    v.Equal w ↔ ∃ ys, w.items? = some (s, ys) ∧ List.Forall₂ Equal xs ys := by
  constructor
  · intro h
    cases h with
    | refl => exact ⟨xs, hv, List.forall₂_same.mpr fun x _ => .refl x⟩
    | atoms => cases hv
    | series hv' hw hlen h =>
      rw [hv, Option.some.injEq, Prod.mk.injEq] at hv'
      obtain ⟨rfl, rfl⟩ := hv'
      exact ⟨_, hw, List.forall₂_iff_zip.mpr ⟨hlen, fun hp => h _ hp⟩⟩
    | keyed hv' =>
      rw [entries?_of_items? hv] at hv'
      cases hv'
  · rintro ⟨ys, hw, h⟩
    obtain ⟨hlen, h⟩ := List.forall₂_iff_zip.mp h
    exact .series hv hw hlen fun p hp => h hp

theorem equal_entries_iff (hv : v.entries? = some es) :
    v.Equal w ↔ ∃ fs, w.entries? = some fs ∧ EqualEntries es fs := by
  constructor
  · intro h
    cases h with
    | refl => exact ⟨es, hv, rfl, fun e he => ⟨e, he, .refl _, .refl _⟩⟩
    | atoms => cases hv
    | series hv' =>
      rw [entries?_of_items? hv'] at hv
      cases hv
    | keyed hv' hw hlen g hmem hk h =>
      rw [hv, Option.some.injEq] at hv'
      subst hv'
      exact ⟨_, hw, hlen, fun e he => ⟨g e, hmem e he, hk e he, h e he⟩⟩
  · rintro ⟨fs, hw, hlen, h⟩
    have hone : ∀ e, ∃ f, e ∈ es → f ∈ fs ∧ e.1.Equal f.1 ∧ e.2.Equal f.2 := by
      intro e
      by_cases he : e ∈ es
      · obtain ⟨f, hf, h⟩ := h e he
        exact ⟨f, fun _ => ⟨hf, h⟩⟩
      · exact ⟨e, fun h => absurd h he⟩
    choose g hg using hone
    exact .keyed hv hw hlen g (fun e he => (hg e he).1) (fun e he => (hg e he).2.1)
      fun e he => (hg e he).2.2

/-- What is no atom and has neither items nor entries. -/
theorem eq_of_equal (ha : ∀ a, v ≠ .atom a) (hi : v.items? = none) (he : v.entries? = none)
    (h : v.Equal w) : v = w := by
  cases h with
  | refl => rfl
  | atoms => exact absurd rfl (ha _)
  | series hv =>
    rw [hi] at hv
    cases hv
  | keyed hv =>
    rw [he] at hv
    cases hv

end Equal

/-! ## Values with proper dictionaries -/

/-- No two keys are equal. -/
def Distinct (es : Entries) : Prop := es.Pairwise fun e f => ¬e.1.Equal f.1

/-- The keys of every dictionary and mapping in the value are distinct, and the objects in it behave
in a certain way. -/
inductive ProperWith (P : Traits → Prop) : Value → Prop
  | atom (a : Atom) : ProperWith P (.atom a)
  | symbol {tag : Tag} {description : Value} (h : ProperWith P description) :
      ProperWith P (.symbol tag description)
  | list {tag : Tag} {xs : List Value} (h : ∀ x ∈ xs, ProperWith P x) : ProperWith P (.list tag xs)
  | tuple {tag : Tag} {xs : List Value} (h : ∀ x ∈ xs, ProperWith P x) :
      ProperWith P (.tuple tag xs)
  | dict {tag : Tag} {es : Entries} (hd : Distinct es) (hk : ∀ e ∈ es, ProperWith P e.1)
      (h : ∀ e ∈ es, ProperWith P e.2) : ProperWith P (.dict tag es)
  | mapping {tag : Tag} {es : Entries} {raising : List String} (hd : Distinct es)
      (hk : ∀ e ∈ es, ProperWith P e.1) (h : ∀ e ∈ es, ProperWith P e.2) :
      ProperWith P (.mapping tag es raising)
  | object {tag : Tag} {attributes : List (String × Value)} {traits : Traits} (hp : P traits)
      (h : ∀ a ∈ attributes, ProperWith P a.2) : ProperWith P (.object tag attributes traits)
  | schema {tag : Tag} {form : Form} {parts : List Value} (h : ∀ x ∈ parts, ProperWith P x) :
      ProperWith P (.schema tag form parts)

/-- The keys of every dictionary and mapping in the value are distinct. -/
abbrev Proper : Value → Prop := ProperWith fun _ => True

section Proper

variable {P : Traits → Prop} {v : Value}

theorem ProperWith.proper (h : v.ProperWith P) : v.Proper := by
  induction h with
  | atom a => exact .atom a
  | symbol _ ih => exact .symbol ih
  | list _ ih => exact .list ih
  | tuple _ ih => exact .tuple ih
  | dict hd _ _ ihk ih => exact .dict hd ihk ih
  | mapping hd _ _ ihk ih => exact .mapping hd ihk ih
  | object _ _ ih => exact .object trivial ih
  | schema _ ih => exact .schema ih

theorem ProperWith.items {s : Series} {xs : List Value} (h : v.ProperWith P)
    (hv : v.items? = some (s, xs)) : ∀ x ∈ xs, x.ProperWith P := by
  cases h with
  | list h | tuple h | schema h =>
    cases hv
    exact h
  | _ => cases hv

end Proper

/-- Distinct keys, and proper ones with proper values. -/
structure ProperEntries (es : Entries) : Prop where
  distinct : Distinct es
  key : ∀ e ∈ es, e.1.Proper
  value : ∀ e ∈ es, e.2.Proper

theorem Proper.entries {v : Value} {es : Entries} (h : v.Proper) (hv : v.entries? = some es) :
    ProperEntries es := by
  cases h with
  | dict hd hk h =>
    cases hv
    exact ⟨hd, hk, h⟩
  | mapping hd hk h =>
    rw [entries?] at hv
    split at hv
    next => cases hv
    next =>
      cases hv
      exact ⟨hd, hk, h⟩
  | _ => cases hv

theorem Distinct.nodup {es : Entries} (h : Distinct es) : es.Nodup :=
  h.imp fun {e f} hne he => by
    subst he
    exact hne (.refl _)

theorem Distinct.eq_of_equal {es : Entries} (h : Distinct es) {e f : Value × Value} (he : e ∈ es)
    (hf : f ∈ es) (hef : e.1.Equal f.1) (hfe : f.1.Equal e.1) : e = f :=
  eq_of_pairwise_not h he hf hef hfe

/-! ## An equivalence -/

/-- Equality with the value can be turned round and carried on. -/
structure Transports (v : Value) : Prop where
  symm : ∀ w, w.Proper → v.Equal w → w.Equal v
  trans : ∀ w x, w.Proper → x.Proper → v.Equal w → w.Equal x → v.Equal x

section Transports

variable {v : Value} {s : Series} {xs : List Value} {es fs : Entries}

theorem transports_atom (a : Atom) : Transports (.atom a) where
  symm w _ h := by
    rcases equal_atom_iff.mp h with rfl | ⟨b, rfl, hab⟩
    · exact .refl _
    · exact .atoms (Atom.equals_symm hab)
  trans w x _ _ h h' := by
    rcases equal_atom_iff.mp h with rfl | ⟨b, rfl, hab⟩
    · exact h'
    rcases equal_atom_iff.mp h' with rfl | ⟨c, rfl, hbc⟩
    · exact h
    · exact .atoms (Atom.equals_trans hab hbc)

theorem transports_items (hv : v.items? = some (s, xs)) (h : ∀ x ∈ xs, Transports x) :
    Transports v where
  symm w hw hvw := by
    obtain ⟨ys, hws, hxy⟩ := (equal_items_iff hv).mp hvw
    have hys := hw.items hws
    refine (equal_items_iff hws).mpr ⟨xs, hv, forall₂_symm_mem hxy fun x hx y hy => ?_⟩
    exact (h x hx).symm y (hys y hy)
  trans w x hw hx hvw hwx := by
    obtain ⟨ys, hws, hxy⟩ := (equal_items_iff hv).mp hvw
    obtain ⟨zs, hxs, hyz⟩ := (equal_items_iff hws).mp hwx
    have hys := hw.items hws
    have hzs := hx.items hxs
    refine (equal_items_iff hv).mpr ⟨zs, hxs, forall₂_trans_mem hxy hyz fun x hx y hy z hz => ?_⟩
    exact (h x hx).trans y z (hys y hy) (hzs z hz)

/-- Distinct keys have counterparts of their own, so that no entry on the other side is left
over. -/
theorem EqualEntries.back (hes : Distinct es) (hp : ∀ e ∈ es, e.1.Proper)
    (hk : ∀ e ∈ es, Transports e.1) (hfs : ∀ f ∈ fs, f.1.Proper) (hef : EqualEntries es fs) :
    ∀ f ∈ fs, ∃ e ∈ es, e.1.Equal f.1 ∧ e.2.Equal f.2 := by
  have hback : ∀ f ∈ fs, ∃ e ∈ es, f ∈ fs ∧ e.1.Equal f.1 ∧ e.2.Equal f.2 := by
    refine exists_of_injective hes.nodup hef.1.ge (fun e he => ?_) ?_
    · obtain ⟨f, hf, hef⟩ := hef.2 e he
      exact ⟨f, hf, hf, hef⟩
    · rintro e he e' he' f ⟨hf, hef, -⟩ ⟨-, hef', -⟩
      have hpf := hfs f hf
      refine hes.eq_of_equal he he' ?_ ?_
      · exact (hk e he).trans f.1 e'.1 hpf (hp e' he') hef ((hk e' he').symm f.1 hpf hef')
      · exact (hk e' he').trans f.1 e.1 hpf (hp e he) hef' ((hk e he).symm f.1 hpf hef)
  intro f hf
  obtain ⟨e, he, -, hef⟩ := hback f hf
  exact ⟨e, he, hef⟩

theorem EqualEntries.symm (hes : ProperEntries es) (hfs : ProperEntries fs)
    (hk : ∀ e ∈ es, Transports e.1) (h : ∀ e ∈ es, Transports e.2) (hef : EqualEntries es fs) :
    EqualEntries fs es := by
  refine ⟨hef.1.symm, fun f hf => ?_⟩
  obtain ⟨e, he, hkey, hvalue⟩ := hef.back hes.distinct hes.key hk hfs.key f hf
  exact ⟨e, he, (hk e he).symm f.1 (hfs.key f hf) hkey,
    (h e he).symm f.2 (hfs.value f hf) hvalue⟩

theorem transports_entries (hv : v.entries? = some es) (hes : ProperEntries es)
    (hk : ∀ e ∈ es, Transports e.1) (h : ∀ e ∈ es, Transports e.2) : Transports v where
  symm w hw hvw := by
    obtain ⟨fs, hws, hef⟩ := (equal_entries_iff hv).mp hvw
    exact (equal_entries_iff hws).mpr
      ⟨es, hv, hef.symm hes (hw.entries hws) hk h⟩
  trans w x hw hx hvw hwx := by
    obtain ⟨fs, hws, hlen, hef⟩ := (equal_entries_iff hv).mp hvw
    obtain ⟨gs, hxs, hlen', hfg⟩ := (equal_entries_iff hws).mp hwx
    have hfs := hw.entries hws
    have hgs := hx.entries hxs
    refine (equal_entries_iff hv).mpr ⟨gs, hxs, hlen.trans hlen', fun e he => ?_⟩
    obtain ⟨f, hf, hk1, hv1⟩ := hef e he
    obtain ⟨g, hg, hk2, hv2⟩ := hfg f hf
    exact ⟨g, hg, (hk e he).trans f.1 g.1 (hfs.key f hf) (hgs.key g hg) hk1 hk2,
      (h e he).trans f.2 g.2 (hfs.value f hf) (hgs.value g hg) hv1 hv2⟩

theorem transports_of_eq (h : ∀ w, v.Equal w → v = w) : Transports v where
  symm w _ hvw := h w hvw ▸ .refl v
  trans w _ _ _ hvw hwx := h w hvw ▸ hwx

theorem entries?_mapping (tag : Tag) (es : Entries) (raising : List String) :
    entries? (.mapping tag es raising) = if unreadable es raising then none else some es := rfl

theorem Proper.transports (h : v.Proper) : Transports v := by
  induction h with
  | atom a => exact transports_atom a
  | symbol => exact transports_of_eq fun w => eq_of_equal (by simp) rfl rfl
  | object => exact transports_of_eq fun w => eq_of_equal (by simp) rfl rfl
  | list _ ih | tuple _ ih | schema _ ih => exact transports_items rfl ih
  | dict hd hk h ihk ih => exact transports_entries rfl ⟨hd, hk, h⟩ ihk ih
  | mapping hd hk h ihk ih =>
    rename_i tag es raising
    by_cases hr : unreadable es raising
    · have hnone := (entries?_mapping tag es raising).trans (if_pos hr)
      exact transports_of_eq fun w => eq_of_equal (by simp) rfl hnone
    · have hsome := (entries?_mapping tag es raising).trans (if_neg hr)
      exact transports_entries hsome ⟨hd, hk, h⟩ ihk ih

theorem Equal.symm {v w : Value} (h : v.Equal w) (hv : v.Proper) (hw : w.Proper) : w.Equal v :=
  hv.transports.symm w hw h

theorem Equal.trans {v w x : Value} (h : v.Equal w) (h' : w.Equal x) (hv : v.Proper)
    (hw : w.Proper) (hx : x.Proper) : v.Equal x :=
  hv.transports.trans w x hw hx h h'

theorem Equal.right_congr {v w : Value} (h : v.Equal w) (hv : v.Proper) (hw : w.Proper) {x : Value}
    (hx : x.Proper) : x.Equal v ↔ x.Equal w :=
  ⟨fun hxv => hxv.trans h hx hv hw, fun hxw => hxw.trans (h.symm hv hw) hx hw hv⟩

end Transports

end Value
end Conform
