import Conform.Journal.Redaction
import Conform.Proofs.Value.Written

/-! How far redaction reaches. It goes through the values of dictionaries and the items of lists, as
long as no more than five of these are around; a dictionary that it comes to keeps no value under a
sensitive key. Dictionaries further inside, and those inside tuples, stay as they are. -/

namespace Conform
set_option autoImplicit false

/-! ## Values inside values -/

namespace Value

/-- The values that redaction goes on to. -/
def entered : Value → List Value
  | dict _ es => es.map (·.2)
  | list _ xs => xs
  | _ => []

def contained : Value → List Value
  | tuple _ xs => xs
  | v => v.entered

/-- A value stands inside another one, with a number of containers around it. -/
inductive Inside (parts : Value → List Value) (w : Value) : Nat → Value → Prop
  | here : Inside parts w 0 w
  | under {n : Nat} {u v : Value} (hu : u ∈ parts v) (h : Inside parts w n u) :
      Inside parts w (n + 1) v

theorem Inside.contained {w v : Value} {n : Nat} (h : Inside entered w n v) :
    Inside contained w n v := by
  induction h with
  | here => exact .here
  | @under n u v hu _ ih =>
    refine .under ?_ ih
    cases v with
    | tuple tag xs => exact absurd hu List.not_mem_nil
    | _ => exact hu

end Value

namespace Redaction
open Value

/-- Of every dictionary that redaction comes to, in a value with `depth` containers around it. -/
def Throughout (p : Entries → Prop) (depth : Nat) (v : Value) : Prop :=
  ∀ n tag es, depth + n ≤ maxDepth → Inside entered (.dict tag es) n v → p es

section Throughout

variable {p : Entries → Prop} {depth : Nat} {v : Value}

theorem Throughout.part (h : Throughout p depth v) {u : Value} (hu : u ∈ v.entered) :
    Throughout p (depth + 1) u := by
  intro n tag es hn hes
  have hsum : depth + (n + 1) ≤ maxDepth := by omega
  exact h (n + 1) tag es hsum (.under hu hes)

theorem Throughout.ofParts (hv : ∀ tag es, v = .dict tag es → p es)
    (h : ∀ u ∈ v.entered, Throughout p (depth + 1) u) : Throughout p depth v := by
  intro n tag es hn hes
  cases hes with
  | here => exact hv tag es rfl
  | @under n u _ hu hes =>
    have hsum : depth + 1 + n ≤ maxDepth := by omega
    exact h u hu n tag es hsum hes

theorem Throughout.ofLeaf (hv : ∀ tag es, v ≠ .dict tag es) (h : v.entered = []) :
    Throughout p depth v := by
  refine .ofParts (fun tag es hd => absurd hd (hv tag es)) fun u hu => ?_
  rw [h] at hu
  exact absurd hu List.not_mem_nil

theorem Throughout.ofDeep (h : maxDepth < depth) : Throughout p depth v := by
  intro n tag es hn _
  omega

theorem throughout_str (s : String) : Throughout p depth (.str s) := .ofLeaf nofun rfl

end Throughout

/-! ## Single steps -/

def redactEntry (depth : Nat) (e : Value × Value) : Except Fault (Value × Value) := do
  let name ← e.1.text
  if isSensitive name then .ok (e.1, marker) else (redactAt (depth + 1) e.2).map (e.1, ·)

theorem redactEntries_eq (depth : Nat) (es : Entries) :
    redactEntries depth es = es.mapM (redactEntry depth) := by
  induction es with
  | nil => rfl
  | cons e es ih =>
    rw [List.mapM_cons, ← ih, redactEntries, redactEntry]
    cases e.1.text with
    | error f => rfl
    | ok name =>
      cases hs : isSensitive name with
      | true => simp only [bind, Except.bind, hs, if_true]; rfl
      | false =>
        simp only [bind, Except.bind, hs, Bool.false_eq_true, if_false]
        cases redactAt (depth + 1) e.2 <;> rfl

theorem redactItems_eq (depth : Nat) (xs : List Value) :
    redactItems depth xs = xs.mapM (redactAt (depth + 1)) := by
  induction xs with
  | nil => rfl
  | cons x xs ih =>
    rw [List.mapM_cons, ← ih, redactItems]
    rfl

theorem redactEntry_ok_iff (depth : Nat) (k v : Value) (e' : Value × Value) :
    redactEntry depth (k, v) = .ok e' ↔ ∃ name, k.text = .ok name ∧
      (isSensitive name = true ∧ e' = (k, marker) ∨
        isSensitive name = false ∧ ∃ w, redactAt (depth + 1) v = .ok w ∧ e' = (k, w)) := by
  have hbind : redactEntry depth (k, v) = k.text.bind fun name =>
      if isSensitive name then .ok (k, marker) else (redactAt (depth + 1) v).map (k, ·) := rfl
  rw [hbind]
  cases k.text with
  | error f => simp [Except.bind]
  | ok name =>
    cases hs : isSensitive name with
    | true =>
      simp only [Except.bind, hs, Except.ok.injEq, exists_eq_left']
      simpa using eq_comm
    | false =>
      simp only [Except.bind, hs, Except.ok.injEq, exists_eq_left']
      cases redactAt (depth + 1) v with
      | error f => simp [Except.map]
      | ok w => simpa [Except.map] using eq_comm

/-! ## Keys -/

def TextKeys (es : Entries) : Prop := ∀ e ∈ es, e.1.HasText

/-- Nothing but the marker stands under a sensitive key. -/
def Redacted (es : Entries) : Prop :=
  ∀ k v, (k, v) ∈ es → ∀ name, k.text = .ok name → Case.lower name ∈ sensitiveKeys → v = marker

theorem redactEntries_redacted {depth : Nat} {es es' : Entries}
    (h : redactEntries depth es = .ok es') : Redacted es' := by
  rw [redactEntries_eq] at h
  intro k w hkw name hname hs
  obtain ⟨⟨l, v⟩, _, hstep⟩ := mem_mapM_ok h hkw
  obtain ⟨name', ht, ⟨_, heq⟩ | ⟨hs', _, _, heq⟩⟩ := (redactEntry_ok_iff ..).mp hstep
  · exact congrArg Prod.snd heq
  -- the entry was kept, so its key is not sensitive
  · have hkey : k = l := congrArg Prod.fst heq
    have hsame : name' = name := Except.ok.inj (ht.symm.trans (hkey ▸ hname))
    simp [isSensitive, hsame, hs] at hs'

theorem redactEntries_value {depth : Nat} {es es' : Entries}
    (h : redactEntries depth es = .ok es') {e' : Value × Value} (he' : e' ∈ es') :
    e'.2 = marker ∨ ∃ e ∈ es, redactAt (depth + 1) e.2 = .ok e'.2 := by
  rw [redactEntries_eq] at h
  obtain ⟨⟨k, v⟩, he, hstep⟩ := mem_mapM_ok h he'
  obtain ⟨name, _, ⟨_, rfl⟩ | ⟨_, w, hw, rfl⟩⟩ := (redactEntry_ok_iff ..).mp hstep
  · exact .inl rfl
  · exact .inr ⟨(k, v), he, hw⟩

/-! ## Whole values -/

theorem redactAt_succeeds {v : Value} {depth : Nat} (h : Throughout TextKeys depth v) :
    ∃ out, redactAt depth v = .ok out := by
  induction v generalizing depth with
  | list tag xs ih =>
    rw [redactAt]
    split
    next => exact ⟨_, rfl⟩
    next =>
      have hxs : ∀ x ∈ xs, ∃ y, redactAt (depth + 1) x = .ok y := fun x hx =>
        ih x hx (h.part hx)
      obtain ⟨ys, hys⟩ := mapM_ok_of_forall hxs
      exact ⟨.list tag ys, by rw [redactItems_eq, hys]; rfl⟩
  | dict tag es ih =>
    rw [redactAt]
    split
    next => exact ⟨_, rfl⟩
    next hd =>
      have hkeys : TextKeys es := h 0 tag es (Nat.le_of_not_lt hd) .here
      have hes : ∀ e ∈ es, ∃ e', redactEntry depth e = .ok e' := by
        rintro ⟨k, v⟩ he
        obtain ⟨name, hname⟩ := text_of_hasText (hkeys (k, v) he)
        obtain ⟨w, hw⟩ := (ih (k, v) he).2 (h.part (List.mem_map_of_mem he))
        cases hs : isSensitive name with
        | true => exact ⟨_, (redactEntry_ok_iff ..).mpr ⟨name, hname, .inl ⟨hs, rfl⟩⟩⟩
        | false => exact ⟨_, (redactEntry_ok_iff ..).mpr ⟨name, hname, .inr ⟨hs, w, hw, rfl⟩⟩⟩
      obtain ⟨es', hes'⟩ := mapM_ok_of_forall hes
      exact ⟨.dict tag es', by rw [redactEntries_eq, hes']; rfl⟩
  | _ => exact ⟨_, rfl⟩

theorem redactAt_redacted {v out : Value} {depth : Nat} (h : redactAt depth v = .ok out) :
    Throughout Redacted depth out := by
  induction v generalizing depth out with
  | list tag xs ih =>
    rw [redactAt] at h
    split at h
    -- beyond the limit a list stays as it is, and nothing is said of its insides
    next hd => exact .ofDeep hd
    next =>
      rw [redactItems_eq] at h
      cases hys : xs.mapM (redactAt (depth + 1)) with
      | error f => simp [hys, Except.map] at h
      | ok ys =>
        rw [hys] at h
        cases h
        refine .ofParts nofun fun y hy => ?_
        obtain ⟨x, hx, hxy⟩ := mem_mapM_ok hys hy
        exact ih x hx hxy
  | dict tag es ih =>
    rw [redactAt] at h
    split at h
    next hd => exact .ofDeep hd
    next =>
      cases hes : redactEntries depth es with
      | error f => simp [hes, Except.map] at h
      | ok es' =>
        rw [hes] at h
        cases h
        refine .ofParts ?_ ?_
        · rintro _ _ ⟨⟩
          exact redactEntries_redacted hes
        · intro u hu
          obtain ⟨e', he', rfl⟩ := List.mem_map.mp hu
          obtain hmarker | ⟨e, he, hw⟩ := redactEntries_value hes he'
          · rw [hmarker]
            exact throughout_str _
          · exact (ih e he).2 hw
  | _ =>
    cases h
    exact .ofLeaf nofun rfl

/-! ## Completeness -/

/-- An event whose keys have texts is redacted, and then nothing but the marker stands under a
sensitive key of a dictionary that is reached through at most five dictionaries and lists. -/
theorem redact_complete {event : Value} (h : ∀ n tag es, n ≤ maxDepth →
      Inside entered (.dict tag es) n event → ∀ e ∈ es, e.1.HasText) :
    ∃ out, redact event = .ok out ∧ ∀ n tag es, n ≤ maxDepth →
      Inside entered (.dict tag es) n out → ∀ k v, (k, v) ∈ es →
        ∀ name, k.text = .ok name → Case.lower name ∈ sensitiveKeys → v = marker := by
  have hkeys : Throughout TextKeys 0 event := fun n tag es hn hes =>
    h n tag es (by omega) hes
  obtain ⟨out, hout⟩ := redactAt_succeeds hkeys
  refine ⟨out, hout, fun n tag es hn hes => ?_⟩
  exact redactAt_redacted hout n tag es (by omega) hes

def passwordEntries : Entries := [(.str "Password", .str "hunter2")]

/-- A password that has some dictionaries around its own. -/
def passwordUnder : Nat → Value
  | 0 => .dict 0 passwordEntries
  | n + 1 => .dict 0 [(.str "a", passwordUnder n)]

theorem passwordUnder_inside (n : Nat) :
    Inside entered (.dict 0 passwordEntries) n (passwordUnder n) := by
  induction n with
  | zero => exact .here
  | succ n ih => exact .under List.mem_cons_self ih

theorem passwordUnder_textKeys (n depth : Nat) : Throughout TextKeys depth (passwordUnder n) := by
  have hkey (s : String) (v : Value) : TextKeys [(.str s, v)] := by
    intro e he
    rw [List.mem_singleton.mp he]
    exact hasText_str s
  induction n generalizing depth with
  | zero =>
    refine .ofParts ?_ ?_
    · rintro _ _ ⟨⟩
      exact hkey _ _
    · intro u hu
      rw [List.mem_singleton.mp hu]
      exact throughout_str _
  | succ n ih =>
    refine .ofParts ?_ ?_
    · rintro _ _ ⟨⟩
      exact hkey _ _
    · intro u hu
      rw [List.mem_singleton.mp hu]
      exact ih (depth + 1)

theorem redact_complete_password : ∃ out, redact (passwordUnder 5) = .ok out ∧
    ∀ n tag es, n ≤ maxDepth → Inside entered (.dict tag es) n out →
      ∀ v, (.str "Password", v) ∈ es → v = marker := by
  have h := redact_complete fun n tag es hn hes =>
    passwordUnder_textKeys 5 0 n tag es (by omega) hes
  obtain ⟨out, hout, hredacted⟩ := h
  refine ⟨out, hout, fun n tag es hn hes v hv => ?_⟩
  exact hredacted n tag es hn hes _ v hv "Password" rfl (by decide)

/-- One dictionary more, or a tuple, and the password stays. -/
theorem redact_incomplete :
    let tupled : Value := .dict 0 [(.str "a", .tuple 0 [.dict 0 passwordEntries])]
    redact (passwordUnder 6) = .ok (passwordUnder 6) ∧
      Inside contained (.dict 0 passwordEntries) 6 (passwordUnder 6) ∧
      redact tupled = .ok tupled ∧
      Inside contained (.dict 0 passwordEntries) 2 tupled ∧
      ¬Redacted passwordEntries := by
  refine ⟨rfl, (passwordUnder_inside 6).contained, rfl, ?_, fun h => ?_⟩
  · exact .under List.mem_cons_self (.under List.mem_cons_self .here)
  · have hmarker :=
      h (.str "Password") (.str "hunter2") List.mem_cons_self "Password" rfl (by decide)
    simp [marker] at hmarker

end Redaction
end Conform
