import Conform.Numeric.Notation
import Conform.Value.Text

/-! The form of a value on its own and its form in messages. They differ for null, undefined and
truth values, for floats that are not finite, and for whole floats that are not too large: on its
own a float has a point or an exponent, which the form in messages leaves out. -/

namespace Conform
set_option autoImplicit false

/-! ## Floats on their own -/

namespace Layout

theorem mem_positional (ds : List Char) (k : Int) : '.' ∈ positional ds k := by
  unfold positional
  split
  next => simp
  next =>
    split
    next => simp
    next => simp

theorem mem_scientific (layout : Layout) (ds : List Char) (e : Int) :
    'e' ∈ layout.scientific ds e := by
  simp [scientific]

theorem mem_render (layout : Layout) (ds : List Char) (k : Int) :
    '.' ∈ layout.render ds k ∨ 'e' ∈ layout.render ds k := by
  simp only [render]
  split
  next => exact .inl (mem_positional ds k)
  next => exact .inr (mem_scientific layout ds _)

end Layout

theorem Binary64.mem_text {x : Binary64} {negative : Bool} {m : Nat} {e : Int}
    (h : x.unpack = .finite negative m e) : '.' ∈ x.text.toList ∨ 'e' ∈ x.text.toList := by
  have hbody : ∀ body : List Char, '.' ∈ body ∨ 'e' ∈ body →
      '.' ∈ (String.ofList (if negative then '-' :: body else body)).toList ∨
        'e' ∈ (String.ofList (if negative then '-' :: body else body)).toList := by
    intro body hmem
    rw [String.toList_ofList]
    cases negative with
    | true => exact hmem.imp (List.mem_cons_of_mem _) (List.mem_cons_of_mem _)
    | false => exact hmem
  simp only [Binary64.text, h]
  refine hbody _ ?_
  split
  next => exact .inl (by simp)
  next => exact floatLayout.mem_render _ _

/-- An integer is written with digits, and a sign if it is negative. -/
theorem mem_toString_int {n : Int} {c : Char} (h : c ∈ (toString n).toList) :
    c = '-' ∨ c.isDigit = true := by
  have hdigits : ∀ {m : Nat}, c ∈ m.repr.toList → c.isDigit = true := by
    intro m hm
    rw [Nat.toList_repr] at hm
    exact Nat.isDigit_of_mem_toDigits (by omega) (by omega) hm
  rw [Int.toString_eq_repr] at h
  cases n with
  | ofNat m => exact .inr (hdigits h)
  | negSucc m =>
    have h : c ∈ ("-" ++ m.succ.repr).toList := h
    rw [String.toList_append, List.mem_append] at h
    rcases h with h | h
    · exact .inl (List.mem_singleton.mp h)
    · exact .inr (hdigits h)

theorem Binary64.text_ne_toString {x : Binary64} {negative : Bool} {m : Nat} {e : Int}
    (h : x.unpack = .finite negative m e) (n : Int) : x.text ≠ toString n := by
  intro heq
  rcases mem_text h with hmem | hmem
  · rw [heq] at hmem
    rcases mem_toString_int hmem with hc | hc
    · cases hc
    · cases hc
  · rw [heq] at hmem
    rcases mem_toString_int hmem with hc | hc
    · cases hc
    · cases hc

/-! ## The two forms -/

namespace Value

/-- Messages write the value in another form than the one it has on its own. -/
inductive Respelled : Value → Prop
  | null : Respelled .null
  | undefined : Respelled .undefined
  | bool (b : Bool) : Respelled (.bool b)
  | nan {tag : Tag} {x : Binary64} (h : x.unpack = .nan) : Respelled (.atom (.float tag x))
  | infinite {tag : Tag} {x : Binary64} {negative : Bool} (h : x.unpack = .infinite negative) :
      Respelled (.atom (.float tag x))
  | whole {tag : Tag} {x : Binary64} {negative : Bool} {m : Nat} {e : Int}
      (h : x.unpack = .finite negative m e) (hwhole : Binary64.isWhole m e = true)
      (hsmall : (Binary64.whole negative m e).natAbs < Nat.pow 10 21) :
      Respelled (.atom (.float tag x))

theorem float_respelled_iff {tag : Tag} {x : Binary64} :
    x.text = x.display ↔ ¬Respelled (.atom (.float tag x)) := by
  cases hx : x.unpack with
  | nan =>
    have htext : x.text = "nan" := by simp [Binary64.text, hx]
    have hdisplay : x.display = "NaN" := by simp [Binary64.display, hx]
    rw [htext, hdisplay]
    exact iff_of_false (by decide) (not_not_intro (.nan hx))
  | infinite negative =>
    refine iff_of_false ?_ (not_not_intro (.infinite hx))
    simp only [Binary64.text, Binary64.display, hx]
    cases negative with
    | true => decide
    | false => decide
  | finite negative m e =>
    have hdisplay : x.display = if Binary64.isWhole m e &&
        (Binary64.whole negative m e).natAbs < Nat.pow 10 21 then
          toString (Binary64.whole negative m e) else x.text := by
      simp only [Binary64.display, hx]
    rw [hdisplay]
    split
    next h =>
      rw [Bool.and_eq_true, decide_eq_true_iff] at h
      exact iff_of_false (Binary64.text_ne_toString hx _) (not_not_intro (.whole hx h.1 h.2))
    next h =>
      refine iff_of_true rfl fun hr => h ?_
      rw [Bool.and_eq_true, decide_eq_true_iff]
      cases hr with
      | nan h' | infinite h' =>
        rw [hx] at h'
        cases h'
      | whole h' hwhole hsmall =>
        rw [hx] at h'
        cases h'
        exact ⟨hwhole, hsmall⟩

/-- A value with a form in messages has a form on its own, the same unless it is respelled. -/
theorem text_of_display {v : Value} {d : String} (h : v.display = .ok d) :
    ∃ t, v.text = .ok t ∧ (t = d ↔ ¬v.Respelled) := by
  have hsame : v.display = v.text → ¬v.Respelled →
      ∃ t, v.text = .ok t ∧ (t = d ↔ ¬v.Respelled) :=
    fun he hr => ⟨d, he ▸ h, iff_of_true rfl hr⟩
  cases v with
  | atom a =>
    cases a with
    | null =>
      cases h
      exact ⟨"None", rfl, iff_of_false (by decide) (not_not_intro .null)⟩
    | undefined =>
      cases h
      exact ⟨"UNDEFINED", rfl, iff_of_false (by decide) (not_not_intro .undefined)⟩
    | bool b =>
      cases h
      refine ⟨if b then "True" else "False", rfl, iff_of_false ?_ (not_not_intro (.bool b))⟩
      cases b with
      | true => decide
      | false => decide
    | float tag x =>
      cases h
      exact ⟨x.text, rfl, float_respelled_iff⟩
    | _ => exact hsame rfl (by rintro ⟨⟩)
  | _ => exact hsame rfl (by rintro ⟨⟩)

end Value
end Conform
