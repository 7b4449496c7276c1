import Conform.Value.Text
import Conform.Proofs.Outcomes

/-! Values that can be written out. `HasText` says of which values there is a text: integers up to
the limit of digits, objects that offer one, and whatever is built from such values. Main statement:
exactly these values are written, and a value made of built-in values can fail only by an integer
with too many digits. -/

namespace Conform
set_option autoImplicit false

/-- Under a condition nothing but the number of digits can go wrong. -/
def DigitsOnly (c : Prop) (f : Fault) : Prop := c → f = .tooManyDigits

theorem Ends.under {α : Type} {x : Except Fault α} {p c c' : Prop} {r : α → Prop}
    (h : Ends x p r (DigitsOnly c)) (hc : c' → c) : Ends x p r (DigitsOnly c') :=
  h.weaken fun _ hf h' => hf (hc h')

theorem DigitsOnly.inSeries {c : Prop} {f : Fault} (h : DigitsOnly c f) : DigitsOnly c f.inSeries :=
  fun hc => congrArg Fault.inSeries (h hc)

/-- The limit on digits concerns integers alone. -/
def Atom.HasText : Atom → Prop
  | .int n | .range _ n => n.natAbs < integerLimit
  | _ => True

namespace Value

/-! ## Induction -/

@[elab_as_elim, induction_eliminator]
theorem induction {motive : Value → Prop}
    (atom : ∀ a, motive (.atom a))
    (symbol : ∀ tag description, motive description → motive (.symbol tag description))
    (list : ∀ tag (xs : List Value), (∀ x ∈ xs, motive x) → motive (.list tag xs))
    (tuple : ∀ tag (xs : List Value), (∀ x ∈ xs, motive x) → motive (.tuple tag xs))
    (dict : ∀ tag (es : List (Value × Value)), (∀ e ∈ es, motive e.1 ∧ motive e.2) →
      motive (.dict tag es))
    (mapping : ∀ tag es raising, motive (.mapping tag es raising))
    (object : ∀ tag attributes traits, motive (.object tag attributes traits))
    (schema : ∀ tag form (parts : List Value), (∀ x ∈ parts, motive x) →
      motive (.schema tag form parts)) (v : Value) : motive v := by
  refine @Value.rec motive (fun xs => ∀ x ∈ xs, motive x)
    (fun es => ∀ e ∈ es, motive e.1 ∧ motive e.2) (fun _ => True) (fun e => motive e.1 ∧ motive e.2)
    (fun _ => True) atom symbol list tuple dict (fun tag es raising _ => mapping tag es raising)
    (fun tag attributes traits _ => object tag attributes traits) schema ?_ ?_ ?_ ?_ trivial
    (fun _ _ _ _ => trivial) (fun _ _ hk hw => ⟨hk, hw⟩) (fun _ _ _ => trivial) v
  · simp
  · intro x xs hx hxs
    exact List.forall_mem_cons.mpr ⟨hx, hxs⟩
  · simp
  · intro e es he hes
    exact List.forall_mem_cons.mpr ⟨he, hes⟩

/-! ## Values with a text -/

inductive HasText : Value → Prop
  | atom {a : Atom} (h : a.HasText) : HasText (.atom a)
  | bare {tag : Tag} {description : Value} (h : description.truthy = .ok false) :
      HasText (.symbol tag description)
  | described {tag : Tag} {description : Value} (h : description.truthy = .ok true)
      (hd : HasText description) : HasText (.symbol tag description)
  | list {tag : Tag} {xs : List Value} (h : ∀ x ∈ xs, HasText x) : HasText (.list tag xs)
  | tuple {tag : Tag} {xs : List Value} (h : ∀ x ∈ xs, HasText x) : HasText (.tuple tag xs)
  | dict {tag : Tag} {es : List (Value × Value)} (hk : ∀ e ∈ es, HasText e.1)
      (hw : ∀ e ∈ es, HasText e.2) : HasText (.dict tag es)
  | mapping {tag : Tag} {es : List (Value × Value)} {raising : List String} :
      HasText (.mapping tag es raising)
  | object {tag : Tag} {attributes : List (String × Value)} {traits : Traits} {text : String}
      (h : traits.text = .gives text) : HasText (.object tag attributes traits)
  | schema {tag : Tag} {form : Form} {parts : List Value}
      (h : ∀ x ∈ parts.take form.fieldNames.length, HasText x) : HasText (.schema tag form parts)

/-- Made of atoms by lists, tuples and dictionaries alone. -/
inductive BuiltIn : Value → Prop
  | atom {a : Atom} : BuiltIn (.atom a)
  | list {tag : Tag} {xs : List Value} (h : ∀ x ∈ xs, BuiltIn x) : BuiltIn (.list tag xs)
  | tuple {tag : Tag} {xs : List Value} (h : ∀ x ∈ xs, BuiltIn x) : BuiltIn (.tuple tag xs)
  | dict {tag : Tag} {es : List (Value × Value)} (hk : ∀ e ∈ es, BuiltIn e.1)
      (hw : ∀ e ∈ es, BuiltIn e.2) : BuiltIn (.dict tag es)

section HasText

variable {tag : Tag} {xs : List Value} {es : List (Value × Value)}

theorem hasText_atom {a : Atom} : (Value.atom a).HasText ↔ a.HasText :=
  ⟨fun | .atom h => h, .atom⟩

theorem hasText_str (s : String) : (Value.str s).HasText := .atom trivial

theorem hasText_list : (Value.list tag xs).HasText ↔ ∀ x ∈ xs, x.HasText :=
  ⟨fun | .list h => h, .list⟩

theorem hasText_tuple : (Value.tuple tag xs).HasText ↔ ∀ x ∈ xs, x.HasText :=
  ⟨fun | .tuple h => h, .tuple⟩

theorem hasText_dict : (Value.dict tag es).HasText ↔ ∀ e ∈ es, e.1.HasText ∧ e.2.HasText :=
  ⟨fun | .dict hk hw => fun e he => ⟨hk e he, hw e he⟩,
    fun h => .dict (fun e he => (h e he).1) fun e he => (h e he).2⟩

theorem hasText_schema {form : Form} :
    (Value.schema tag form xs).HasText ↔ ∀ x ∈ xs.take form.fieldNames.length, x.HasText :=
  ⟨fun | .schema h => h, .schema⟩

theorem builtIn_list : (Value.list tag xs).BuiltIn ↔ ∀ x ∈ xs, x.BuiltIn :=
  ⟨fun | .list h => h, .list⟩

theorem builtIn_tuple : (Value.tuple tag xs).BuiltIn ↔ ∀ x ∈ xs, x.BuiltIn :=
  ⟨fun | .tuple h => h, .tuple⟩

theorem builtIn_dict : (Value.dict tag es).BuiltIn ↔ ∀ e ∈ es, e.1.BuiltIn ∧ e.2.BuiltIn :=
  ⟨fun | .dict hk hw => fun e he => ⟨hk e he, hw e he⟩,
    fun h => .dict (fun e he => (h e he).1) fun e he => (h e he).2⟩

end HasText

/-! ## Writing the parts -/

section Parts

variable {p : Value → Prop} {q : Fault → Prop} {xs : List Value}

theorem reprAll_ends (h : ∀ x ∈ xs, Ends x.repr (p x) Anything q) :
    Ends (reprAll xs) (∀ x ∈ xs, p x) Anything q := by
  induction xs with
  | nil => exact .ok (by simp) trivial
  | cons x xs ih =>
    obtain ⟨hx, hxs⟩ := List.forall_mem_cons.mp h
    rw [reprAll, List.forall_mem_cons]
    exact hx.bind fun t _ => (ih hxs).map fun _ _ => trivial

theorem reprEntries_ends {es : List (Value × Value)}
    (hk : ∀ e ∈ es, Ends e.1.repr (p e.1) Anything q)
    (hw : ∀ e ∈ es, Ends e.2.repr (p e.2) Anything q) :
    Ends (reprEntries es) (∀ e ∈ es, p e.1 ∧ p e.2) Anything q := by
  induction es with
  | nil => exact .ok (by simp) trivial
  | cons e es ih =>
    obtain ⟨hk, hks⟩ := List.forall_mem_cons.mp hk
    obtain ⟨hw, hws⟩ := List.forall_mem_cons.mp hw
    rw [reprEntries, List.forall_mem_cons, and_assoc]
    exact hk.bind fun _ _ => hw.bind fun _ _ => (ih hks hws).map fun _ _ => trivial

theorem reprFields_ends (names : List String) (h : ∀ x ∈ xs, Ends x.repr (p x) Anything q) :
    Ends (reprFields names xs) (∀ x ∈ xs.take names.length, p x) Anything q := by
  induction xs generalizing names with
  | nil => exact .ok (by simp) trivial
  | cons x xs ih =>
    obtain ⟨hx, hxs⟩ := List.forall_mem_cons.mp h
    cases names with
    | nil => exact .ok (by simp) trivial
    | cons name names =>
      rw [reprFields, List.length_cons, List.take_succ_cons, List.forall_mem_cons]
      exact hx.bind fun t _ => (ih names hxs).map fun _ _ => trivial

end Parts

/-! ## Writing a value -/

theorem integerText_ends (n : Int) :
    Ends (integerText n) (n.natAbs < integerLimit) Anything (· = .tooManyDigits) := by
  unfold integerText
  split
  next h => exact .ok h trivial
  next h => exact .error h rfl

theorem atomRepr_ends (a : Atom) : Ends a.repr a.HasText Anything (· = .tooManyDigits) := by
  cases a with
  | int n => exact integerText_ends n
  | range tag stop => exact (integerText_ends stop).map fun _ _ => trivial
  | _ => exact .ok trivial trivial

theorem repr_ends (v : Value) : Ends v.repr v.HasText Anything (DigitsOnly v.BuiltIn) := by
  induction v with
  | atom a =>
    rw [repr]
    exact ((atomRepr_ends a).weaken fun f hf _ => hf).congr hasText_atom.symm
  | symbol tag description ih =>
    rw [repr]
    cases ht : description.truthy with
    | error f =>
      refine .error (fun h => ?_) nofun
      cases h with
      | bare h => simp [ht] at h
      | described h _ => simp [ht] at h
    | ok b =>
      cases b with
      | false => exact .ok (.bare ht) trivial
      | true =>
        have h : description.HasText ↔ (Value.symbol tag description).HasText := by
          refine ⟨.described ht, fun h => ?_⟩
          cases h with
          | bare h => simp [ht] at h
          | described _ hd => exact hd
        exact ((ih.map fun _ _ => trivial).under nofun).congr h
  | list tag xs ih =>
    have h := reprAll_ends fun x hx =>
      (ih x hx).under fun hb : (Value.list tag xs).BuiltIn => builtIn_list.mp hb x hx
    rw [repr]
    exact (h.map fun _ _ => trivial).congr hasText_list.symm
  | tuple tag xs ih =>
    have h := reprAll_ends fun x hx =>
      (ih x hx).under fun hb : (Value.tuple tag xs).BuiltIn => builtIn_tuple.mp hb x hx
    rw [repr]
    refine (h.andThen fun texts _ => ?_).congr hasText_tuple.symm
    split <;> exact ⟨_, rfl, trivial⟩
  | dict tag es ih =>
    have hb : ∀ e ∈ es, (Value.dict tag es).BuiltIn → e.1.BuiltIn ∧ e.2.BuiltIn :=
      fun e he h => builtIn_dict.mp h e he
    have h := reprEntries_ends (fun e he => (ih e he).1.under fun h => (hb e he h).1)
      (fun e he => (ih e he).2.under fun h => (hb e he h).2)
    rw [repr]
    exact (h.map fun _ _ => trivial).congr hasText_dict.symm
  | mapping tag es raising => exact .ok .mapping trivial
  | object tag attributes traits =>
    rw [repr]
    cases ht : traits.text with
    | gives text => exact .ok (.object ht) trivial
    | unsupported =>
      refine .error (fun h => ?_) nofun
      cases h with
      | object h => simp [ht] at h
    | fails f =>
      refine .error (fun h => ?_) nofun
      cases h with
      | object h => simp [ht] at h
  | schema tag form parts ih =>
    have h := reprFields_ends form.fieldNames fun x hx =>
      (ih x hx).under fun hb : (Value.schema tag form parts).BuiltIn => nomatch hb
    rw [repr]
    exact (h.map fun _ _ => trivial).congr hasText_schema.symm

theorem text_ends (v : Value) : Ends v.text v.HasText Anything (DigitsOnly v.BuiltIn) := by
  unfold text
  split
  next => exact .ok (.atom trivial) trivial
  next => exact .ok (.atom trivial) trivial
  next => exact v.repr_ends

theorem text_of_hasText {v : Value} (h : v.HasText) : ∃ t, v.text = .ok t := by
  rcases v.text_ends with ⟨_, t, ht, _⟩ | ⟨hn, _⟩
  · exact ⟨t, ht⟩
  · exact absurd h hn

theorem display_ends (v : Value) : Ends v.display v.HasText Anything (DigitsOnly v.BuiltIn) := by
  unfold display
  split
  next => exact .ok (.atom trivial) trivial
  next => exact .ok (.atom trivial) trivial
  next => exact .ok (.atom trivial) trivial
  next => exact .ok (.atom trivial) trivial
  next => exact v.text_ends

end Value
end Conform
