import Mathlib.Data.List.Induction
import Conform.Proofs.Journal.Redaction

/-! What redaction changes. A place in an event is given by positions, from the outside in. A value
is hidden if it stands under a sensitive key of a dictionary with at most five containers around it.
Main statement: redaction puts the marker at the outermost hidden places and leaves what is to be
seen at all others as it is, so that a second redaction changes nothing, and the library's entries
can be added before redaction or after it. -/

namespace Conform
set_option autoImplicit false

/-! ## Places -/

/-- What is to be seen of a value from outside: the keys of a dictionary, the length of a list, any
other value itself. -/
inductive Face where
  | dict (keys : List Value)
  | list (length : Nat)
  | leaf (v : Value)

namespace Value

def face : Value → Face
  | dict _ es => .dict (es.map (·.1))
  | list _ xs => .list xs.length
  | v => .leaf v

/-- The value at a place. -/
def at? (v : Value) : List Nat → Option Value
  | [] => some v
  | i :: place => v.entered[i]?.bind fun u => u.at? place

theorem at?_append (v : Value) (place rest : List Nat) :
    v.at? (place ++ rest) = (v.at? place).bind fun u => u.at? rest := by
  induction place generalizing v with
  | nil => rfl
  | cons i place ih =>
    rw [List.cons_append, at?, at?, Option.bind_assoc]
    exact congrArg _ (funext fun u => ih u)

theorem at?_concat (v : Value) (place : List Nat) (i : Nat) :
    v.at? (place ++ [i]) = (v.at? place).bind fun u => u.entered[i]? := by
  rw [at?_append]
  refine congrArg _ (funext fun u => ?_)
  rw [at?]
  cases u.entered[i]? <;> rfl

/-- The key has a text, which is a sensitive name in some letter case. -/
def NamesSecret (k : Value) : Prop :=
  ∃ name, k.text = .ok name ∧ Case.lower name ∈ Redaction.sensitiveKeys

/-- What stands at the position stands under a sensitive key. -/
def Guards (v : Value) (i : Nat) : Prop :=
  ∃ tag es k w, v = .dict tag es ∧ es[i]? = some (k, w) ∧ k.NamesSecret

end Value

namespace Redaction
open Value

/-- The value at the place stands under a sensitive key of a dictionary that has at most five
containers around it. -/
def Hidden (event : Value) (place : List Nat) : Prop :=
  ∃ outer i v, place = outer ++ [i] ∧ outer.length ≤ maxDepth ∧ event.at? outer = some v ∧
    v.Guards i

/-- Neither the value at the place nor a value around it is hidden. -/
def Kept (event : Value) (place : List Nat) : Prop := ∀ q, q <+: place → ¬Hidden event q

/-- The value at the place is hidden, and no value around it is. -/
def Replaced (event : Value) (place : List Nat) : Prop :=
  Hidden event place ∧ ∀ q, q <+: place → q ≠ place → ¬Hidden event q

section Places

variable {event : Value} {place : List Nat} {i : Nat}

theorem hidden_concat : Hidden event (place ++ [i]) ↔
    place.length ≤ maxDepth ∧ ∃ v, event.at? place = some v ∧ v.Guards i := by
  constructor
  · rintro ⟨outer, j, v, hplace, hlength, hv, hguards⟩
    obtain ⟨rfl, hij⟩ := List.append_inj' hplace rfl
    rw [List.singleton_inj.mp hij]
    exact ⟨hlength, v, hv, hguards⟩
  · rintro ⟨hlength, v, hv, hguards⟩
    exact ⟨place, i, v, rfl, hlength, hv, hguards⟩

theorem not_hidden_nil : ¬Hidden event [] := by
  rintro ⟨outer, i, v, hplace, -⟩
  simp at hplace

theorem kept_nil : Kept event [] := by
  intro q hq
  rw [List.prefix_nil.mp hq]
  exact not_hidden_nil

theorem kept_concat : Kept event (place ++ [i]) ↔
    Kept event place ∧ ¬Hidden event (place ++ [i]) := by
  simp only [Kept, List.prefix_concat_iff]
  constructor
  · intro h
    exact ⟨fun q hq => h q (.inr hq), h _ (.inl rfl)⟩
  · rintro ⟨hkept, hlast⟩ q (rfl | hq)
    · exact hlast
    · exact hkept q hq

theorem replaced_concat : Replaced event (place ++ [i]) ↔
    Kept event place ∧ Hidden event (place ++ [i]) := by
  constructor
  · rintro ⟨hhidden, houter⟩
    refine ⟨fun q hq => houter q (hq.trans (List.prefix_append place [i])) ?_, hhidden⟩
    rintro rfl
    have hlength := hq.length_le
    simp only [List.length_append, List.length_singleton] at hlength
    omega
  · rintro ⟨hkept, hhidden⟩
    refine ⟨hhidden, fun q hq hne => hkept q ?_⟩
    exact (List.prefix_concat_iff.mp hq).resolve_left hne

end Places

/-! ## One step inwards -/

section Steps

variable {depth : Nat} {v w : Value} {k : Value}

theorem namesSecret_iff {name : String} (h : k.text = .ok name) :
    k.NamesSecret ↔ isSensitive name = true := by
  rw [isSensitive, List.contains_iff_mem]
  constructor
  · rintro ⟨name', hname, hmem⟩
    rw [h] at hname
    exact Except.ok.inj hname ▸ hmem
  · exact fun hmem => ⟨name, h, hmem⟩

theorem redactAt_deep (h : maxDepth < depth) (v : Value) : redactAt depth v = .ok v := by
  cases v with
  | dict tag es => rw [redactAt, if_pos h]
  | list tag xs => rw [redactAt, if_pos h]
  | _ => rfl

theorem redactAt_dict (h : depth ≤ maxDepth) (tag : Tag) (es : Entries) :
    redactAt depth (.dict tag es) = (es.mapM (redactEntry depth)).map (.dict tag) := by
  rw [redactAt, if_neg (Nat.not_lt.mpr h), redactEntries_eq]

theorem redactAt_list (h : depth ≤ maxDepth) (tag : Tag) (xs : List Value) :
    redactAt depth (.list tag xs) = (xs.mapM (redactAt (depth + 1))).map (.list tag) := by
  rw [redactAt, if_neg (Nat.not_lt.mpr h), redactItems_eq]

theorem redactEntry_key {e e' : Value × Value} (h : redactEntry depth e = .ok e') : e'.1 = e.1 := by
  obtain ⟨name, -, ⟨-, rfl⟩ | ⟨-, w, -, rfl⟩⟩ := (redactEntry_ok_iff depth e.1 e.2 e').mp h <;> rfl

theorem redactEntry_value {e e' : Value × Value} (h : redactEntry depth e = .ok e') :
    e.1.NamesSecret ∧ e'.2 = marker ∨
      ¬e.1.NamesSecret ∧ redactAt (depth + 1) e.2 = .ok e'.2 := by
  obtain ⟨name, hname, h⟩ := (redactEntry_ok_iff depth e.1 e.2 e').mp h
  rw [namesSecret_iff hname]
  rcases h with ⟨hs, rfl⟩ | ⟨hs, w, hw, rfl⟩
  · exact .inl ⟨hs, rfl⟩
  · exact .inr ⟨by simp [hs], hw⟩

/-- What redaction makes of a value, by the sort of the value. -/
theorem redactAt_cases (h : redactAt depth v = .ok w) :
    maxDepth < depth ∧ w = v ∨
    depth ≤ maxDepth ∧ ((∃ tag es es', v = .dict tag es ∧ w = .dict tag es' ∧
        es.mapM (redactEntry depth) = .ok es') ∨
      (∃ tag xs ys, v = .list tag xs ∧ w = .list tag ys ∧
        xs.mapM (redactAt (depth + 1)) = .ok ys) ∨
      w = v ∧ v.face = .leaf v ∧ v.entered = []) := by
  rcases Nat.lt_or_ge maxDepth depth with hd | hd
  · rw [redactAt_deep hd] at h
    exact .inl ⟨hd, (Except.ok.inj h).symm⟩
  refine .inr ⟨hd, ?_⟩
  cases v with
  | dict tag es =>
    rw [redactAt_dict hd] at h
    obtain ⟨es', hes, rfl⟩ := map_ok h
    exact .inl ⟨tag, es, es', rfl, rfl, hes⟩
  | list tag xs =>
    rw [redactAt_list hd] at h
    obtain ⟨ys, hys, rfl⟩ := map_ok h
    exact .inr (.inl ⟨tag, xs, ys, rfl, rfl, hys⟩)
  | _ =>
    cases h
    exact .inr (.inr ⟨rfl, rfl, rfl⟩)

theorem redactEntries_keys {es es' : Entries} (h : es.mapM (redactEntry depth) = .ok es') :
    es'.map (·.1) = es.map (·.1) := by
  induction es generalizing es' with
  | nil =>
    cases h
    rfl
  | cons e es ih =>
    obtain ⟨e', es', rfl, he, hes⟩ := mapM_cons_ok h
    rw [List.map_cons, List.map_cons, redactEntry_key he, ih hes]

theorem redactAt_face (h : redactAt depth v = .ok w) : w.face = v.face := by
  rcases redactAt_cases h with
    ⟨-, rfl⟩ | ⟨-, ⟨tag, es, es', rfl, rfl, hes⟩ | ⟨tag, xs, ys, rfl, rfl, hys⟩ | ⟨rfl, -⟩⟩
  · rfl
  · exact congrArg Face.dict (redactEntries_keys hes)
  · exact congrArg Face.list (length_mapM_ok hys)
  · rfl

theorem guards_dict {tag : Tag} {es : Entries} {i : Nat} {e : Value × Value}
    (he : es[i]? = some e) : (dict tag es).Guards i ↔ e.1.NamesSecret := by
  constructor
  · rintro ⟨_, _, k, w, ⟨⟩, hi, hk⟩
    rw [he] at hi
    exact congrArg Prod.fst (Option.some.inj hi) ▸ hk
  · exact fun hk => ⟨tag, es, e.1, e.2, rfl, he, hk⟩

/-- The values inside, which have one container more around them. -/
theorem redactAt_entered (h : redactAt depth v = .ok w) (i : Nat) :
    Option.Rel (fun u u' => (depth ≤ maxDepth ∧ v.Guards i) ∧ u' = marker ∨
        ¬(depth ≤ maxDepth ∧ v.Guards i) ∧ redactAt (depth + 1) u = .ok u')
      v.entered[i]? w.entered[i]? := by
  rcases redactAt_cases h with
    ⟨hd, rfl⟩ | ⟨hd, ⟨tag, es, es', rfl, rfl, hes⟩ | ⟨tag, xs, ys, rfl, rfl, hys⟩ | ⟨rfl, -, hv⟩⟩
  · cases w.entered[i]? with
    | none => exact .none
    | some u => exact .some (.inr ⟨fun hg => by omega, redactAt_deep (by omega) u⟩)
  · have hi := getElem?_mapM_ok hes i
    simp only [entered, List.getElem?_map]
    cases he : es[i]? with
    | none =>
      rw [he] at hi
      rw [rel_none hi]
      exact .none
    | some e =>
      rw [he] at hi
      obtain ⟨e', he', hstep⟩ := rel_some hi
      rw [he', guards_dict he, and_iff_right hd]
      exact .some (redactEntry_value hstep)
  · have hguards : ¬(list tag xs).Guards i := fun ⟨_, _, _, _, hv, _⟩ => nomatch hv
    have hi := getElem?_mapM_ok hys i
    simpa only [entered, hguards, and_false, false_and, false_or, not_false_eq_true, true_and]
  · rw [hv]
    exact .none

end Steps

/-! ## Whole events -/

section Events

variable {event out : Value} {place : List Nat}

/-- At a place that is kept stands the redaction of what stood there, which has as many containers
around it as the place has positions. -/
theorem redact_at_kept (h : redact event = .ok out) (hk : Kept event place) :
    Option.Rel (fun v w => redactAt place.length v = .ok w) (event.at? place) (out.at? place) := by
  induction place using List.reverseRecOn with
  | nil => exact .some h
  | append_singleton outer i ih =>
    obtain ⟨houter, hi⟩ := kept_concat.mp hk
    have hrel := ih houter
    rw [at?_concat, at?_concat, List.length_append, List.length_singleton]
    cases hv : event.at? outer with
    | none =>
      rw [hv] at hrel
      rw [rel_none hrel]
      exact .none
    | some v =>
      rw [hv] at hrel
      obtain ⟨w, hw, hvw⟩ := rel_some hrel
      have hopen : ¬(outer.length ≤ maxDepth ∧ v.Guards i) := fun hg =>
        hi (hidden_concat.mpr ⟨hg.1, v, hv, hg.2⟩)
      have hstep := redactAt_entered hvw i
      simp only [hopen, false_and, false_or, not_false_eq_true, true_and] at hstep
      rw [hw]
      exact hstep

theorem face_of_kept (h : redact event = .ok out) (hk : Kept event place) :
    (out.at? place).map face = (event.at? place).map face :=
  map_eq_of_rel (redact_at_kept h hk) fun _ _ hvw => redactAt_face hvw

theorem marker_of_replaced (h : redact event = .ok out) (hr : Replaced event place) :
    out.at? place = some marker := by
  obtain ⟨⟨outer, i, v, rfl, hlength, hv, hguards⟩, -⟩ := id hr
  have hrel := redact_at_kept h (replaced_concat.mp hr).1
  rw [hv] at hrel
  obtain ⟨w, hw, hvw⟩ := rel_some hrel
  obtain ⟨tag, es, k, u, rfl, hi, -⟩ := id hguards
  have hstep := redactAt_entered hvw i
  have hu : (dict tag es).entered[i]? = some u := by simp [entered, hi]
  rw [hu] at hstep
  obtain ⟨u', hu', ⟨-, rfl⟩ | ⟨hopen, -⟩⟩ := rel_some hstep
  · rw [at?_concat, hw, Option.bind_some, hu']
  · exact absurd ⟨hlength, hguards⟩ hopen

/-! ## Redaction once more -/

theorem redactEntry_again {depth : Nat} {e e' : Value × Value}
    (hv : ∀ w, redactAt (depth + 1) e.2 = .ok w → redactAt (depth + 1) w = .ok w)
    (h : redactEntry depth e = .ok e') : redactEntry depth e' = .ok e' := by
  obtain ⟨name, hname, ⟨hs, rfl⟩ | ⟨hs, w, hw, rfl⟩⟩ :=
    (redactEntry_ok_iff depth e.1 e.2 e').mp h
  · exact (redactEntry_ok_iff ..).mpr ⟨name, hname, .inl ⟨hs, rfl⟩⟩
  · exact (redactEntry_ok_iff ..).mpr ⟨name, hname, .inr ⟨hs, w, hv w hw, rfl⟩⟩

theorem redactAt_again {v w : Value} {depth : Nat} (h : redactAt depth v = .ok w) :
    redactAt depth w = .ok w := by
  induction v generalizing depth w with
  | dict tag es ih =>
    rcases Nat.lt_or_ge maxDepth depth with hd | hd
    · exact redactAt_deep hd w
    · rw [redactAt_dict hd] at h
      obtain ⟨es', hes, rfl⟩ := map_ok h
      have hself : es'.mapM (redactEntry depth) = .ok es' := by
        refine mapM_eq_self fun e' he' => ?_
        obtain ⟨e, he, hstep⟩ := mem_mapM_ok hes he'
        exact redactEntry_again (fun w hw => (ih e he).2 hw) hstep
      rw [redactAt_dict hd, hself]
      rfl
  | list tag xs ih =>
    rcases Nat.lt_or_ge maxDepth depth with hd | hd
    · exact redactAt_deep hd w
    · rw [redactAt_list hd] at h
      obtain ⟨ys, hys, rfl⟩ := map_ok h
      have hself : ys.mapM (redactAt (depth + 1)) = .ok ys := by
        refine mapM_eq_self fun y hy => ?_
        obtain ⟨x, hx, hstep⟩ := mem_mapM_ok hys hy
        exact ih x hx hstep
      rw [redactAt_list hd, hself]
      rfl
  | _ =>
    cases h
    rfl

end Events

/-! ## The library's entries -/

section Library

theorem contains_of_keys {es es' : Entries} (h : es'.map (·.1) = es.map (·.1)) (k : Value) :
    es'.contains k = es.contains k := by
  have hany (es : Entries) : es.contains k = (es.map (·.1)).any fun l => l.keyMatches k := by
    rw [Entries.contains, List.any_map]
    rfl
  rw [hany, hany, h]

/-- An entry that redaction keeps can be added before it or after it. -/
theorem redactEntries_setDefault {depth : Nat} {k v : Value}
    (hkv : redactEntry depth (k, v) = .ok (k, v)) (es : Entries) :
    (es.setDefault k v).mapM (redactEntry depth) =
      (es.mapM (redactEntry depth)).map (Entries.setDefault k v) := by
  cases hes : es.mapM (redactEntry depth) with
  | error f =>
    rw [Entries.setDefault]
    split
    next => rw [hes]; rfl
    next => rw [List.mapM_append, hes]; rfl
  | ok es' =>
    have hkeys := contains_of_keys (redactEntries_keys hes) k
    simp only [Except.map, Entries.setDefault, hkeys]
    split
    next => exact hes
    next => rw [List.mapM_append, hes, List.mapM_cons, hkv]; rfl

theorem addLibrary_redact (tag : Tag) (es : Entries) :
    (addLibrary (.dict tag es) >>= redact) = redact (.dict tag es) >>= addLibrary := by
  have hname : redactEntry 0 (.str "library", .str Release.name) =
      .ok (.str "library", .str Release.name) := rfl
  have hversion : redactEntry 0 (.str "version", .str Release.version) =
      .ok (.str "version", .str Release.version) := rfl
  have hadd : (addLibrary (.dict tag es) >>= redact) = redact (.dict tag (addLibraryEntries es)) :=
    rfl
  rw [hadd, redact, redact, redactAt_dict (Nat.zero_le _), redactAt_dict (Nat.zero_le _),
    addLibraryEntries, redactEntries_setDefault hversion, redactEntries_setDefault hname]
  cases es.mapM (redactEntry 0) <;> rfl

end Library

/-! ## Exactness -/

/-- Redaction of an event whose keys have texts puts the marker exactly at the outermost places that
stand under a sensitive key of a dictionary with at most five containers around it. Every other
dictionary keeps its keys in their order, every other list its length, and every other value stays
as it is; so does the whole event if it is redacted once more. Whether the library's entries are
added before redaction or after it makes no difference. -/
theorem redact_exact :
    (∀ event : Value, (∀ n tag es, n ≤ maxDepth → Inside entered (.dict tag es) n event →
        ∀ e ∈ es, e.1.HasText) →
      ∃ out, redact event = .ok out ∧ ∀ place,
        (Kept event place → (out.at? place).map face = (event.at? place).map face) ∧
        (Replaced event place → out.at? place = some marker)) ∧
    (∀ event out, redact event = .ok out → redact out = .ok out) ∧
    ∀ tag es, (addLibrary (.dict tag es) >>= redact) = redact (.dict tag es) >>= addLibrary := by
  refine ⟨fun event h => ?_, fun event out h => redactAt_again h, addLibrary_redact⟩
  have hkeys : Throughout TextKeys 0 event := fun n tag es hn hes =>
    h n tag es (by omega) hes
  obtain ⟨out, hout⟩ := redactAt_succeeds hkeys
  refine ⟨out, hout, fun place => ⟨fun hk => ?_, fun hr => ?_⟩⟩
  · exact face_of_kept hout hk
  · exact marker_of_replaced hout hr

/-! ## A password at the limit -/

theorem passwordUnder_at (n j : Nat) :
    (passwordUnder (j + n)).at? (List.replicate j 0) = some (passwordUnder n) := by
  induction j with
  | zero => rw [Nat.zero_add]; rfl
  | succ j ih =>
    rw [List.replicate_succ, Nat.succ_add]
    exact ih

theorem passwordUnder_guards (n : Nat) : (passwordUnder n).Guards 0 ↔ n = 0 := by
  cases n with
  | zero =>
    rw [passwordUnder, guards_dict rfl, namesSecret_iff rfl]
    exact iff_of_true (by decide) rfl
  | succ n =>
    rw [passwordUnder, guards_dict rfl, namesSecret_iff rfl]
    exact iff_of_false (by decide) (Nat.succ_ne_zero n)

theorem passwordUnder_hidden {n j : Nat} (h : j ≤ n) :
    Hidden (passwordUnder n) (List.replicate j 0 ++ [0]) ↔ j ≤ maxDepth ∧ j = n := by
  obtain ⟨m, rfl⟩ := Nat.exists_eq_add_of_le h
  rw [hidden_concat, List.length_replicate, passwordUnder_at]
  simp only [Option.some.injEq, exists_eq_left', passwordUnder_guards]
  omega

theorem passwordUnder_kept {n j : Nat} (h : j ≤ n) :
    Kept (passwordUnder n) (List.replicate j 0) := by
  induction j with
  | zero => exact kept_nil
  | succ j ih =>
    rw [List.replicate_succ', kept_concat, passwordUnder_hidden (by omega)]
    exact ⟨ih (by omega), by omega⟩

/-- With five dictionaries around its own the password is replaced, with six it is kept. -/
theorem redact_exact_password : ∃ five six,
    redact (passwordUnder 5) = .ok five ∧
      five.at? (List.replicate 5 0 ++ [0]) = some marker ∧
      redact (passwordUnder 6) = .ok six ∧
      (six.at? (List.replicate 6 0 ++ [0])).map face = some (.leaf (.str "hunter2")) ∧
      redact five = .ok five := by
  have hkeys (n : Nat) := fun m tag es (hm : m ≤ maxDepth) hes =>
    passwordUnder_textKeys n 0 m tag es (by omega) hes
  obtain ⟨five, hfive, hplaces⟩ := redact_exact.1 (passwordUnder 5) (hkeys 5)
  obtain ⟨six, hsix, hplaces'⟩ := redact_exact.1 (passwordUnder 6) (hkeys 6)
  refine ⟨five, six, hfive, ?_, hsix, ?_, redact_exact.2.1 _ _ hfive⟩
  · have hhidden := (passwordUnder_hidden (Nat.le_refl 5)).mpr ⟨Nat.le_refl 5, rfl⟩
    exact (hplaces _).2 (replaced_concat.mpr ⟨passwordUnder_kept (Nat.le_refl 5), hhidden⟩)
  · have hopen := mt (passwordUnder_hidden (Nat.le_refl 6)).mp fun h => absurd h.1 (by decide)
    rw [(hplaces' _).1 (kept_concat.mpr ⟨passwordUnder_kept (Nat.le_refl 6), hopen⟩)]
    rfl

end Redaction
end Conform
