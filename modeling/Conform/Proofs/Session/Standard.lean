import Mathlib.Data.List.Induction
import Conform.Proofs.Outcomes
import Conform.Proofs.Value.Entries
import Conform.Session.Standard

/-! The standard facilities are lawful: each of their steps is looked at by what it leaves under a
name that is not its own. -/

namespace Conform
set_option autoImplicit false

namespace Standard
open Entries

variable {es es' : Entries} {name : String}

/-! ## The context -/

theorem get?_bind (name : String) (fields context : Entries) :
    (bind fields context).get? (.str name) =
      (Entries.get? (.str name) fields.reverse).or (context.get? (.str name)) := by
  -- from the end, where the binding that counts stands
  induction fields using List.reverseRecOn with
  | nil => rfl
  | append_singleton fields e ih =>
    obtain ⟨k, v⟩ := e
    have hstep : bind (fields ++ [(k, v)]) context = (bind fields context).insert k v :=
      List.foldl_append ..
    rw [hstep, get?_insert, ih, List.reverse_append, List.reverse_singleton,
      List.singleton_append, get?_cons]
    split <;> rfl

theorem get?_merge (name : String) (context es : Entries) :
    (merge context es).get? (.str name) =
      (es.get? (.str name)).or (context.get? (.str name)) := by
  induction context generalizing es with
  | nil => exact (Option.or_none ..).symm
  | cons e context ih =>
    obtain ⟨k, v⟩ := e
    have hstep : merge ((k, v) :: context) es = merge context (es.setDefault k v) := rfl
    rw [hstep, ih, get?_setDefault, Option.or_assoc, get?_cons]
    split <;> rfl

/-! ## Calls of loggers -/

theorem get?_call {configured : Bool} {template text : Value} {arguments : List Value}
    {fields fields' : Entries} (h : call configured template arguments fields = .ok (text, fields'))
    (hname : name ≠ "positional_args") :
    fields'.get? (.str name) = fields.get? (.str name) := by
  obtain ⟨-, -, h⟩ := bind_ok h
  cases configured with
  | true =>
    obtain ⟨-, -, h⟩ := bind_ok h
    cases h
    split
    next => rfl
    next => simp [argumentsKey, get?_insert, hname.symm]
  | false =>
    obtain ⟨filled, -, h⟩ := bind_ok h
    obtain ⟨-, -, h⟩ := bind_ok h
    cases h
    rfl

/-! ## Steps of the processing -/

theorem get?_addLevel (severity : Severity) (hname : name ≠ "level") :
    (addLevel severity es).get? (.str name) = es.get? (.str name) := by
  simp [addLevel, get?_insert, hname.symm]

theorem get?_addLogger {outside : Bool} {logger : String}
    (h : addLogger outside logger es = .ok es') (hname : name ≠ "logger") :
    es'.get? (.str name) = es.get? (.str name) := by
  obtain ⟨told, -, h⟩ := bind_ok h
  cases h
  simp [get?_insert, hname.symm]

theorem get?_addTime (hname : name ≠ "timestamp") :
    (addTime es).get? (.str name) = es.get? (.str name) := by
  simp [addTime, get?_insert, hname.symm]

theorem get?_fillText (h : fillText es = .ok es') (htext : name ≠ "event")
    (harguments : name ≠ "positional_args") : es'.get? (.str name) = es.get? (.str name) := by
  have herase (es : Entries) : (erase argumentsKey es).get? (.str name) = es.get? (.str name) := by
    rw [argumentsKey, get?_erase, if_neg harguments.symm]
  unfold fillText at h
  split at h
  next =>
    cases h
    rfl
  next arguments _ =>
    obtain ⟨b, -, h⟩ := bind_ok h
    cases b with
    | true =>
      obtain ⟨filling, -, h⟩ := bind_ok h
      split at h
      next => cases h
      next text _ =>
        obtain ⟨filled, -, h⟩ := bind_ok h
        cases h
        rw [herase, get?_insert]
        simp [htext.symm]
    | false =>
      cases h
      split
      next => rfl
      next => exact herase es

theorem get?_tellCalls (h : tellCalls es = .ok es') (hasked : name ≠ "stack_info")
    (htold : name = "stack" → ¬Event.AsksForCalls es) :
    es'.get? (.str name) = es.get? (.str name) := by
  unfold tellCalls at h
  split at h
  next =>
    cases h
    rfl
  next asked ha =>
    obtain ⟨b, hb, h⟩ := bind_ok h
    cases h
    cases b with
    | true =>
      have hname : name ≠ "stack" := fun hname => htold hname ⟨asked, ha, hb⟩
      simp [get?_insert, get?_erase, hname.symm, hasked.symm]
    | false => simp [get?_erase, hasked.symm]

theorem decoded_cases (v : Value) : v.IsBytes ∨ v = decoded v := by
  unfold decoded
  split
  next tag data => exact .inl ⟨tag, data, rfl⟩
  next => exact .inr rfl

theorem get?_decodeBytes (es : Entries) (name : String) :
    Option.Rel (fun v w => v.IsBytes ∨ v = w) (es.get? (.str name))
      ((decodeBytes es).get? (.str name)) := by
  rw [decodeBytes, get?_map]
  cases es.get? (.str name) with
  | none => exact .none
  | some v => exact .some (decoded_cases v)

instance : Facilities.Lawful where
  get?_bind := get?_bind
  get?_clear _ _ := rfl
  get?_call := get?_call
  get?_merge := get?_merge
  get?_addLevel severity _ _ := get?_addLevel severity
  get?_addLogger := get?_addLogger
  get?_fillText := get?_fillText
  get?_addTime _ _ := get?_addTime
  get?_tellCalls := get?_tellCalls
  get?_decodeBytes := get?_decodeBytes

end Standard
end Conform
