import Conform.Proofs.Journal.Places
import Conform.Proofs.Value.Entries
import Conform.Session.Facilities

/-! What processing makes of the entries of an event, name by name. Of each step no more is known
than that it leaves alone what stands under the names of others. Main statement: under any name
that no step uses stands the redaction of what the event or the context has there, or else of what
the library says of itself. -/

namespace Conform
set_option autoImplicit false

open Entries

/-! ## Redaction of one entry -/

namespace Redaction

theorem redact_singleton (k v w : Value) : redact (.dict 0 [(k, v)]) = .ok (.dict 0 [(k, w)]) ↔
    redactEntry 0 (k, v) = .ok (k, w) := by
  rw [redact, redactAt_dict (Nat.zero_le _), List.mapM_cons, List.mapM_nil]
  cases redactEntry 0 (k, v) with
  | error f => simp [bind, Except.bind, Except.map]
  | ok e => simp [bind, Except.bind, pure, Except.pure, Except.map]

theorem get?_redactEntries {depth : Nat} {es es' : Entries}
    (h : redactEntries depth es = .ok es') (name : String) :
    Option.Rel (fun v w => redactEntry depth (.str name, v) = .ok (.str name, w))
      (es.get? (.str name)) (es'.get? (.str name)) := by
  rw [redactEntries_eq] at h
  induction es generalizing es' with
  | nil =>
    cases h
    exact .none
  | cons e es ih =>
    obtain ⟨e', es', rfl, he, hes⟩ := mapM_cons_ok h
    obtain ⟨k, v⟩ := e
    obtain ⟨l, w⟩ := e'
    obtain rfl : l = k := redactEntry_key he
    rw [get?_cons, get?_cons]
    by_cases hl : l = .str name
    · rw [if_pos hl, if_pos hl]
      exact .some (hl ▸ he)
    · rw [if_neg hl, if_neg hl]
      exact ih hes

end Redaction

namespace Event
open Redaction Facilities

/-- What the library tells of itself. -/
def libraryValue? (name : String) : Option Value :=
  if name = "library" then some (.str Release.name)
  else if name = "version" then some (.str Release.version) else none

/-- The names that are settled when an event has its text, its level, its logger and its time. -/
def filledNames : List String := ["event", "level", "logger", "timestamp", "positional_args"]

/-- The names under which processing writes entries or takes them away, whatever the event is. -/
def processedNames : List String := filledNames ++ ["stack_info"]

/-- A sensitive name is neither used by processing nor one under which the library tells of itself. -/
theorem not_own_of_sensitive {name : String} (h : isSensitive name = true) :
    name ∉ processedNames ∧ name ≠ "stack" ∧ libraryValue? name = none := by
  have hfree : ∀ other ∈ "stack" :: "library" :: "version" :: processedNames,
      isSensitive other = false := by decide
  have hother : name ∉ "stack" :: "library" :: "version" :: processedNames := by
    intro hmem
    rw [hfree name hmem] at h
    cases h
  simp only [List.mem_cons, not_or] at hother
  obtain ⟨hstack, hlibrary, hversion, hname⟩ := hother
  exact ⟨hname, hstack, by rw [libraryValue?, if_neg hlibrary, if_neg hversion]⟩

/-! ## The library's own steps -/

theorem get?_entries (e : Event) {name : String} (h : name ≠ "event") :
    e.entries.get? (.str name) = Entries.get? (.str name) e.fields := by
  rw [entries]
  split
  next => rfl
  next => simp [get?_insert, h.symm]

theorem get?_addLibraryEntries (es : Entries) (name : String) :
    (addLibraryEntries es).get? (.str name) = (es.get? (.str name)).or (libraryValue? name) := by
  rw [addLibraryEntries, get?_setDefault, get?_setDefault, Option.or_assoc, libraryValue?]
  simp only [Value.atom.injEq, Atom.str.injEq, eq_comm (b := name)]
  split <;> rfl

/-! ## All steps -/

section Process

variable [Facilities] [Lawful] {context filled told out : Entries} {e : Event} {name : String}
  {outside : Bool}

/-- What there is under a name before the first step: what the event says, or else the context. -/
def merged? (context : Entries) (e : Event) (name : String) : Option Value :=
  (Entries.get? (.str name) e.fields).or (context.get? (.str name))

theorem get?_merged (h : name ≠ "event") :
    (merge context e.entries).get? (.str name) = merged? context e name := by
  rw [Lawful.get?_merge, get?_entries e h, merged?]

omit [Lawful] in
theorem process_steps (h : e.process outside context = .ok out) : ∃ named filled told,
    addLogger outside e.loggerName (addLevel e.severity (merge context e.entries)) = .ok named ∧
      fillText named = .ok filled ∧ tellCalls (addTime filled) = .ok told ∧
      redactEntries 0 (addLibraryEntries (decodeBytes told)) = .ok out := by
  obtain ⟨named, hnamed, h⟩ := bind_ok h
  obtain ⟨filled, hfilled, h⟩ := bind_ok h
  obtain ⟨told, htold, h⟩ := bind_ok h
  exact ⟨named, filled, told, hnamed, hfilled, htold, h⟩

theorem get?_filled {named : Entries} (hnamed : addLogger outside e.loggerName
      (addLevel e.severity (merge context e.entries)) = .ok named)
    (hfilled : fillText named = .ok filled) (hname : name ∉ filledNames) :
    (addTime filled).get? (.str name) = merged? context e name := by
  simp only [filledNames, List.mem_cons, List.not_mem_nil, or_false, not_or] at hname
  obtain ⟨htext, hlevel, hlogger, htime, harguments⟩ := hname
  rw [Lawful.get?_addTime _ htime, Lawful.get?_fillText hfilled htext harguments,
    Lawful.get?_addLogger hnamed hlogger, Lawful.get?_addLevel _ _ hlevel, get?_merged htext]

/-- Bytes may be read as texts before they are redacted; another value is redacted as it is. -/
theorem get?_process (h : e.process outside context = .ok out) (hname : name ∉ processedNames)
    (hstack : name = "stack" →
      ¬∃ v, merged? context e "stack_info" = some v ∧ v.truthy = .ok true) :
    Option.Rel (fun v w => ∃ u, (v.IsBytes ∨ v = u) ∧
        redactEntry 0 (.str name, u) = .ok (.str name, w))
      ((merged? context e name).or (libraryValue? name)) (out.get? (.str name)) := by
  obtain ⟨named, filled, told, hnamed, hfilled, htold, hout⟩ := process_steps h
  -- the calls are asked for by an entry that is there from the start
  have hasks : AsksForCalls (addTime filled) ↔
      ∃ v, merged? context e "stack_info" = some v ∧ v.truthy = .ok true := by
    rw [AsksForCalls, get?_filled hnamed hfilled (by decide)]
  have hasked : name ≠ "stack_info" := fun hn => hname (by rw [hn]; decide)
  have hkept : told.get? (.str name) = merged? context e name := by
    rw [Lawful.get?_tellCalls htold hasked fun hn => mt hasks.mp (hstack hn),
      get?_filled hnamed hfilled fun hn => hname (List.mem_append_left _ hn)]
  have hdecoded := Lawful.get?_decodeBytes told name
  have hdefault := rel_or hdecoded (fun v => .inr rfl) (libraryValue? name)
  have hredacted := get?_redactEntries hout name
  rw [hkept] at hdefault
  rw [get?_addLibraryEntries] at hredacted
  exact rel_trans hdefault hredacted

end Process

end Event
end Conform
