import Mathlib.Data.List.ReduceOption
import Conform.Proofs.Value.Content
import Conform.Proofs.Value.Verdicts

/-! Equality of content as it is computed. Among proper values the computation finds out what is
equal, whichever operand is asked and in whatever order entries are gone through. So do keys: they
match if they are equal. -/

namespace Conform
set_option autoImplicit false

namespace Value

/-! ## Items and entries -/

/-- One and the same, or found to be equal. -/
def Matches (asked : Side) (v w : Value) : Prop := v = w ∨ equalsAsking asked v w = .ok true

/-- The computation finds out what is equal to the value. -/
def Recognises (asked : Side) (v : Value) : Prop := ∀ w, w.Proper → (Matches asked v w ↔ v.Equal w)

section Recognises

variable {asked : Side} {v w : Value} {xs ys : List Value} {es fs : Entries}

theorem equalsAll_iff : equalsAll asked xs ys = .ok true ↔ List.Forall₂ (Matches asked) xs ys := by
  induction xs generalizing ys with
  | nil => cases ys <;> simp [equalsAll]
  | cons x xs ih =>
    cases ys with
    | nil => simp [equalsAll]
    | cons y ys =>
      rw [equalsAll, List.forall₂_cons, ← ih, Matches]
      by_cases hxy : x = y
      · simp [hxy]
      · rw [if_neg hxy]
        split
        next he => simp [hxy, he]
        next he =>
          have he : equalsAsking asked x y ≠ .ok true := he
          simp [hxy, he]

theorem equalsAll_iff_equal (hx : ∀ x ∈ xs, x.Recognises asked) (hy : ∀ y ∈ ys, y.Proper) :
    equalsAll asked xs ys = .ok true ↔ List.Forall₂ Equal xs ys := by
  rw [equalsAll_iff]
  constructor
  · exact fun h => forall₂_imp_mem h fun x hx' y hy' => (hx x hx' y (hy y hy')).mp
  · exact fun h => forall₂_imp_mem h fun x hx' y hy' => (hx x hx' y (hy y hy')).mpr

/-- The counterpart of one entry. -/
def counterpart (asked : Side) (fs : Entries) (e : Value × Value) : Option Counterpart :=
  (fs.find? fun f => e.1 = f.1 || holds (equalsAsking asked e.1 f.1)).map fun f =>
    (f.1, if e.2 = f.2 then .ok true else equalsAsking asked e.2 f.2)

theorem counterparts_eq (asked : Side) (es fs : Entries) :
    counterparts asked es fs = es.map (counterpart asked fs) := by
  induction es with
  | nil => rfl
  | cons e es ih => rw [counterparts, ih, List.map_cons, counterpart]

theorem firstObjection_iff {found : List (Option (Except Fault Bool))} :
    Counterpart.firstObjection found = .ok true ↔ ∀ r ∈ found, r = some (.ok true) := by
  induction found with
  | nil => simp [Counterpart.firstObjection]
  | cons r found ih =>
    rw [List.forall_mem_cons, ← ih]
    match r with
    | none => simp [Counterpart.firstObjection]
    | some (.ok true) => simp [Counterpart.firstObjection]
    | some (.ok false) => simp [Counterpart.firstObjection]
    | some (.error f) => simp [Counterpart.firstObjection]

theorem matches_iff : (decide (v = w) || holds (equalsAsking asked v w)) = true ↔
    Matches asked v w := by
  rw [Bool.or_eq_true, decide_eq_true_iff, holds_iff, Matches]

section Counterpart

variable {e f : Value × Value} {c : Counterpart}

theorem counterpart_some (hfs : ProperEntries fs) (hk : e.1.Recognises asked)
    (h : e.2.Recognises asked) (hc : counterpart asked fs e = some c) :
    ∃ f ∈ fs, c.1 = f.1 ∧ e.1.Equal f.1 ∧ (c.2 = .ok true → e.2.Equal f.2) := by
  obtain ⟨f, hf, rfl⟩ := Option.map_eq_some_iff.mp hc
  have hmem := List.mem_of_find?_eq_some hf
  have hkey := List.find?_some hf
  have hkey := (hk f.1 (hfs.key f hmem)).mp (matches_iff.mp hkey)
  refine ⟨f, hmem, rfl, hkey, fun hc => ?_⟩
  refine (h f.2 (hfs.value f hmem)).mp ?_
  by_cases he : e.2 = f.2
  · exact .inl he
  · exact .inr ((if_neg he).symm.trans hc)

theorem counterpart_of_equal (hfs : ProperEntries fs) (hk : e.1.Recognises asked)
    (h : e.2.Recognises asked) (hp : e.1.Proper) (hf : f ∈ fs) (hkey : e.1.Equal f.1)
    (hvalue : e.2.Equal f.2) : counterpart asked fs e = some (f.1, .ok true) := by
  have hfind : fs.find? (fun f => e.1 = f.1 || holds (equalsAsking asked e.1 f.1)) = some f := by
    have hsome : (fs.find? fun f => e.1 = f.1 || holds (equalsAsking asked e.1 f.1)).isSome := by
      rw [List.find?_isSome]
      exact ⟨f, hf, matches_iff.mpr ((hk f.1 (hfs.key f hf)).mpr hkey)⟩
    obtain ⟨g, hg⟩ := Option.isSome_iff_exists.mp hsome
    -- the key that is found first is the only one that is equal
    have hmem := List.mem_of_find?_eq_some hg
    have hpg := hfs.key g hmem
    have hpf := hfs.key f hf
    have hkg := List.find?_some hg
    have hkg := (hk g.1 hpg).mp (matches_iff.mp hkg)
    have hgf : g = f := hfs.distinct.eq_of_equal hmem hf
      ((hkg.symm hp hpg).trans hkey hpg hp hpf) ((hkey.symm hp hpf).trans hkg hpf hp hpg)
    rw [hg, hgf]
  have hverdict : (if e.2 = f.2 then .ok true else equalsAsking asked e.2 f.2) = .ok true := by
    split
    next => rfl
    next hne => exact ((h f.2 (hfs.value f hf)).mpr hvalue).resolve_left hne
  rw [counterpart, hfind, Option.map_some, hverdict]

end Counterpart

theorem counterpart_of_find {f : Value × Value} {c : Counterpart}
    (hc : (es.map (counterpart asked fs)).reduceOption.find? (fun c => c.1 = f.1) = some c) :
    c.1 = f.1 ∧ ∃ e ∈ es, counterpart asked fs e = some c := by
  have hkey := List.find?_some hc
  have hmem := List.reduceOption_mem_iff.mp (List.mem_of_find?_eq_some hc)
  exact ⟨of_decide_eq_true hkey, List.mem_map.mp hmem⟩

theorem settle_left_iff {found : List (Option Counterpart)} :
    Counterpart.settle .left found fs = .ok true ↔
      ∀ r ∈ found, r.map (·.2) = some (.ok true) := by
  change Counterpart.firstObjection (List.map _ _) = .ok true ↔ _
  rw [firstObjection_iff, List.forall_mem_map]

theorem settle_right_iff {found : List (Option Counterpart)} :
    Counterpart.settle .right found fs = .ok true ↔ ∀ f ∈ fs,
      (found.reduceOption.find? fun c => c.1 = f.1).map (·.2) = some (.ok true) := by
  change Counterpart.firstObjection (List.map _ _) = .ok true ↔ _
  rw [firstObjection_iff, List.forall_mem_map]

section Settle

variable (hes : ProperEntries es) (hfs : ProperEntries fs)
  (hk : ∀ e ∈ es, e.1.Recognises asked) (h : ∀ e ∈ es, e.2.Recognises asked)

include hes hfs hk h

theorem settle_left_iff_equalEntries (hlen : es.length = fs.length) :
    Counterpart.settle .left (counterparts asked es fs) fs = .ok true ↔ EqualEntries es fs := by
  rw [counterparts_eq, settle_left_iff, List.forall_mem_map]
  constructor
  · refine fun hall => ⟨hlen, fun e he => ?_⟩
    obtain ⟨c, hc, hverdict⟩ := Option.map_eq_some_iff.mp (hall e he)
    obtain ⟨f, hf, -, hkey, hvalue⟩ := counterpart_some hfs (hk e he) (h e he) hc
    exact ⟨f, hf, hkey, hvalue hverdict⟩
  · rintro ⟨-, hall⟩ e he
    obtain ⟨f, hf, hkey, hvalue⟩ := hall e he
    rw [counterpart_of_equal hfs (hk e he) (h e he) (hes.key e he) hf hkey hvalue, Option.map_some]

theorem equalEntries_of_found (hlen : es.length = fs.length)
    (hall : ∀ f ∈ fs, ((es.map (counterpart asked fs)).reduceOption.find? fun c =>
      c.1 = f.1).map (·.2) = some (.ok true)) : EqualEntries es fs := by
  have hback : ∀ f ∈ fs, ∃ e ∈ es, e ∈ es ∧ e.1.Equal f.1 ∧ e.2.Equal f.2 := by
    intro f hf
    obtain ⟨c, hc, hverdict⟩ := Option.map_eq_some_iff.mp (hall f hf)
    obtain ⟨hcf, e, he, hce⟩ := counterpart_of_find hc
    obtain ⟨g, hg, hcg, hkey, hvalue⟩ := counterpart_some hfs (hk e he) (h e he) hce
    have hgf : g.1 = f.1 := hcg.symm.trans hcf
    have hgf : g = f := hfs.distinct.eq_of_equal hg hf (hgf ▸ .refl _) (hgf ▸ .refl _)
    exact ⟨e, he, he, hgf ▸ hkey, hgf ▸ hvalue hverdict⟩
  have hforth := exists_of_injective hfs.distinct.nodup hlen.le hback ?_
  · refine ⟨hlen, fun e he => ?_⟩
    obtain ⟨f, hf, -, hef⟩ := hforth e he
    exact ⟨f, hf, hef⟩
  · rintro f hf g hg e ⟨he, hef, -⟩ ⟨-, heg, -⟩
    have hpe := hes.key e he
    have hpf := hfs.key f hf
    have hpg := hfs.key g hg
    exact hfs.distinct.eq_of_equal hf hg ((hef.symm hpe hpf).trans heg hpf hpe hpg)
      ((heg.symm hpe hpg).trans hef hpg hpe hpf)

/-- Whichever counterpart is found, the verdict on it is in favour. -/
theorem found_of_equalEntries (hef : EqualEntries es fs) {f : Value × Value} (hf : f ∈ fs) :
    ((es.map (counterpart asked fs)).reduceOption.find? fun c => c.1 = f.1).map (·.2) =
      some (.ok true) := by
  have hcounterpart : ∀ e ∈ es, ∀ g ∈ fs, e.1.Equal g.1 ∧ e.2.Equal g.2 →
      counterpart asked fs e = some (g.1, .ok true) := fun e he g hg heg =>
    counterpart_of_equal hfs (hk e he) (h e he) (hes.key e he) hg heg.1 heg.2
  obtain ⟨e, he, hequal⟩ := hef.back hes.distinct hes.key
    (fun e he => (hes.key e he).transports) hfs.key f hf
  have hsome : ((es.map (counterpart asked fs)).reduceOption.find? fun c =>
      c.1 = f.1).isSome := by
    rw [List.find?_isSome]
    refine ⟨(f.1, .ok true), List.reduceOption_mem_iff.mpr ?_, decide_eq_true rfl⟩
    exact List.mem_map.mpr ⟨e, he, hcounterpart e he f hf hequal⟩
  obtain ⟨c, hc⟩ := Option.isSome_iff_exists.mp hsome
  obtain ⟨-, e', he', hce⟩ := counterpart_of_find hc
  obtain ⟨g, hg, heg⟩ := hef.2 e' he'
  rw [hcounterpart e' he' g hg heg, Option.some.injEq] at hce
  rw [hc, Option.map_some, ← hce]

/-- Going through the entries of either side comes to the same. -/
theorem settle_iff (order : Side) (hlen : es.length = fs.length) :
    Counterpart.settle order (counterparts asked es fs) fs = .ok true ↔ EqualEntries es fs := by
  cases order with
  | left => exact settle_left_iff_equalEntries hes hfs hk h hlen
  | right =>
    rw [counterparts_eq, settle_right_iff]
    exact ⟨equalEntries_of_found hes hfs hk h hlen,
      fun hef f hf => found_of_equalEntries hes hfs hk h hef hf⟩

end Settle

theorem matches_of_equalsAsking (h : equalsAsking asked v w = .ok (decide (v = w))) :
    Matches asked v w ↔ v = w := by
  rw [Matches, h, Except.ok.injEq, decide_eq_true_iff, or_self]

theorem matches_series {s : Series} (hv : v.items? = some (s, xs)) (hw : w.items? = some (s, ys))
    (hx : ∀ x ∈ xs, x.Recognises asked) (hy : ∀ y ∈ ys, y.Proper)
    (h : equalsAsking asked v w = .ok true ↔ equalsAll asked xs ys = .ok true) :
    Matches asked v w ↔ v.Equal w := by
  have hequal : equalsAsking asked v w = .ok true ↔ v.Equal w := by
    rw [h, equalsAll_iff_equal hx hy, equal_items_iff hv, hw]
    simp
  rw [Matches, hequal, or_iff_right_iff_imp]
  rintro rfl
  exact .refl v

theorem matches_keyed {order : Side} {asked' : Side} (hv : v.entries? = some es)
    (hw : w.entries? = some fs) (hes : ProperEntries es) (hfs : ProperEntries fs)
    (hk : ∀ e ∈ es, e.1.Recognises asked') (hr : ∀ e ∈ es, e.2.Recognises asked')
    (h : equalsAsking asked v w = if es.length = fs.length then
      Counterpart.settle order (counterparts asked' es fs) fs else .ok false) :
    Matches asked v w ↔ v.Equal w := by
  have hequal : equalsAsking asked v w = .ok true ↔ v.Equal w := by
    have hiff : v.Equal w ↔ EqualEntries es fs := by
      rw [equal_entries_iff hv, hw]
      simp
    rw [h, hiff]
    split
    next hlen => exact settle_iff hes hfs hk hr order hlen
    next hlen => exact iff_of_false (by simp) fun he => hlen he.1
  rw [Matches, hequal, or_iff_right_iff_imp]
  rintro rfl
  exact .refl v

theorem recognises_atom (a : Atom) : Recognises asked (.atom a) := by
  intro w _
  cases w with
  | atom b =>
    rw [equal_atom_iff, Matches, equalsAsking]
    grind
  | _ =>
    rw [matches_of_equalsAsking rfl, equal_atom_iff]
    simp

theorem recognises_list {tag : Tag} (h : ∀ x ∈ xs, x.Recognises asked) :
    Recognises asked (.list tag xs) := by
  intro w hw
  cases w with
  | list u ys =>
    refine matches_series rfl rfl h (hw.items rfl) ?_
    rw [equalsAsking]
    split
    next => rfl
    next hlen => exact iff_of_false (by simp) fun he => hlen (equalsAll_iff.mp he).length_eq
  | _ =>
    rw [matches_of_equalsAsking rfl, equal_items_iff rfl]
    simp [items?]

theorem recognises_tuple {tag : Tag} (h : ∀ x ∈ xs, x.Recognises asked) :
    Recognises asked (.tuple tag xs) := by
  intro w hw
  cases w with
  | tuple u ys => exact matches_series rfl rfl h (hw.items rfl) (by rw [equalsAsking])
  | _ =>
    rw [matches_of_equalsAsking rfl, equal_items_iff rfl]
    simp [items?]

theorem recognises_schema {tag : Tag} {form : Form} (h : ∀ x ∈ xs, x.Recognises asked) :
    Recognises asked (.schema tag form xs) := by
  intro w hw
  cases w with
  | schema u form' ys =>
    by_cases hf : form = form'
    · subst hf
      exact matches_series rfl rfl h (hw.items rfl) (by rw [equalsAsking, if_pos rfl])
    · rw [equal_items_iff rfl, Matches, equalsAsking, if_neg hf]
      simp [items?, hf, Ne.symm hf]
  | _ =>
    rw [matches_of_equalsAsking rfl, equal_items_iff rfl]
    simp [items?]

/-- What is equal to nothing but itself. -/
theorem recognises_of_eq (he : ∀ w, v.Equal w → v = w)
    (h : ∀ w, equalsAsking asked v w = .ok true → v = w) : v.Recognises asked := by
  intro w _
  constructor
  · rintro (rfl | hw)
    · exact .refl v
    · exact h w hw ▸ .refl v
  · exact fun hw => .inl (he w hw)

end Recognises

theorem recognises_dict {tag : Tag} {es : Entries} (hes : ProperEntries es)
    (hk : ∀ e ∈ es, ∀ asked, e.1.Recognises asked) (h : ∀ e ∈ es, ∀ asked, e.2.Recognises asked)
    (asked : Side) : Recognises asked (.dict tag es) := by
  intro w hw
  cases w with
  | dict u fs =>
    exact matches_keyed rfl rfl hes (hw.entries rfl) (fun e he => hk e he asked)
      (fun e he => h e he asked) (by rw [equalsAsking])
  | mapping u fs raising =>
    by_cases hr : unreadable fs raising
    · rw [Matches, equalsAsking, if_pos hr, equal_entries_iff rfl]
      simp [entries?, hr]
    · have hfs : entries? (.mapping u fs raising) = some fs := if_neg hr
      exact matches_keyed rfl hfs hes (hw.entries hfs) (fun e he => hk e he .right)
        (fun e he => h e he .right) (by rw [equalsAsking, if_neg hr])
  | _ =>
    rw [matches_of_equalsAsking rfl, equal_entries_iff rfl]
    simp [entries?]

theorem recognises_mapping {tag : Tag} {es : Entries} {raising : List String}
    (hes : ProperEntries es) (hk : ∀ e ∈ es, ∀ asked, e.1.Recognises asked)
    (h : ∀ e ∈ es, ∀ asked, e.2.Recognises asked) (asked : Side) :
    Recognises asked (.mapping tag es raising) := by
  by_cases hr : unreadable es raising
  · refine recognises_of_eq (fun w => eq_of_equal (by simp) rfl (if_pos hr)) fun w hw => ?_
    cases w with
    | dict u fs =>
      rw [equalsAsking, if_pos hr] at hw
      cases hw
    | mapping u fs raising' =>
      rw [equalsAsking, hr, Bool.true_or, if_pos rfl] at hw
      cases hw
    | _ => exact of_decide_eq_true (Except.ok.inj hw)
  · have hv : entries? (.mapping tag es raising) = some es := if_neg hr
    intro w hw
    cases w with
    | dict u fs =>
      exact matches_keyed hv rfl hes (hw.entries rfl) (fun e he => hk e he .left)
        (fun e he => h e he .left) (by rw [equalsAsking, if_neg hr])
    | mapping u fs raising' =>
      by_cases hs : unreadable fs raising'
      · rw [equal_entries_iff hv, Matches, equalsAsking]
        simp [entries?, hs]
        rintro rfl rfl rfl
        exact hr hs
      · have hfs : entries? (.mapping u fs raising') = some fs := if_neg hs
        have hboth : ¬(unreadable es raising || unreadable fs raising') := by simp [hr, hs]
        exact matches_keyed hv hfs hes (hw.entries hfs) (fun e he => hk e he asked)
          (fun e he => h e he asked) (by rw [equalsAsking, if_neg hboth])
    | _ =>
      rw [matches_of_equalsAsking rfl, equal_entries_iff hv]
      simp [entries?]

theorem Proper.recognises {v : Value} (h : v.Proper) : ∀ asked, v.Recognises asked := by
  induction h with
  | atom a => exact fun asked => recognises_atom a
  | symbol | object =>
    refine fun asked => recognises_of_eq (fun w => eq_of_equal (by simp) rfl rfl) fun w hw => ?_
    cases w <;> exact of_decide_eq_true (Except.ok.inj hw)
  | list _ ih => exact fun asked => recognises_list fun x hx => ih x hx asked
  | tuple _ ih => exact fun asked => recognises_tuple fun x hx => ih x hx asked
  | schema _ ih => exact fun asked => recognises_schema fun x hx => ih x hx asked
  | dict hd hk h ihk ih => exact recognises_dict ⟨hd, hk, h⟩ ihk ih
  | mapping hd hk h ihk ih => exact recognises_mapping ⟨hd, hk, h⟩ ihk ih

/-! ## Keys -/

theorem keyMatches_iff {k l : Value} (hk : k.Proper) (hl : l.Proper) :
    k.keyMatches l = true ↔ k.Equal l := by
  rw [← hk.recognises .left l hl, ← matches_iff]
  rfl

theorem keyMatches_congr {k l m : Value} (h : k.Equal l) (hk : k.Proper) (hl : l.Proper)
    (hm : m.Proper) : m.keyMatches k = m.keyMatches l := by
  rw [Bool.eq_iff_iff, keyMatches_iff hm hk, keyMatches_iff hm hl]
  exact h.right_congr hk hl hm

end Value
end Conform
