import Mathlib.Data.List.Induction
import Conform.Proofs.Journal.Processing
import Conform.Proofs.Session.Actions
import Conform.Proofs.Session.Standard

/-! Runs of calls that bind names to values, clear the context and log. The context of a session is
what was bound since it was last cleared, the last value under each name. Main statement: an event
that is logged says under a name what it was given there, or else what was last bound there, or else
what the library says of itself, and in any case with redaction. -/

namespace Conform
set_option autoImplicit false

/-! ## Calls -/

/-- Calls that use the context of a session or change it. -/
inductive ContextCall where
  | bind (fields : Entries)
  | clear
  | log (logger : String) (severity : Severity) (template : Value) (arguments : List Value)
      (fields : Entries)
  | logPlain (logger : String) (severity : Severity) (template : Value) (arguments : List Value)
      (fields : Entries)

namespace ContextCall
open Session

def isClear : ContextCall → Bool
  | clear => true
  | _ => false

/-- The value that the call binds to the name. -/
def bound? (name : String) : ContextCall → Option Value
  | bind fields => Entries.get? (.str name) fields.reverse
  | _ => none

/-- The last value that was bound to the name since the context was last cleared. -/
def lastBound (calls : List ContextCall) (name : String) : Option Value :=
  (calls.reverse.takeWhile fun c => !c.isClear).findSome? (bound? name)

/-- What there is under the name for an event with these fields: its own value, or else the bound
one. -/
def given (calls : List ContextCall) (fields : Entries) (name : String) : Option Value :=
  (fields.get? (.str name)).or (lastBound calls name)

variable {name : String} {calls : List ContextCall} {fields es : Entries}

theorem findSome?_cons_eq_or {α β : Type} (f : α → Option β) (x : α) (xs : List α) :
    (x :: xs).findSome? f = (f x).or (xs.findSome? f) := by
  rw [List.findSome?_cons]
  cases f x <;> rfl

theorem lastBound_concat (c : ContextCall) : lastBound (calls ++ [c]) name =
    if c.isClear then none else (c.bound? name).or (lastBound calls name) := by
  rw [lastBound, List.reverse_append, List.reverse_singleton, List.singleton_append,
    List.takeWhile_cons]
  cases c.isClear with
  | true => rfl
  | false => exact findSome?_cons_eq_or ..

theorem given_congr {fields' : Entries} (h : fields'.get? (.str name) = fields.get? (.str name)) :
    given calls fields' name = given calls fields name := by rw [given, given, h]

/-! ## Steps and runs -/

section Runs

variable [Facilities]

/-- The session after the call, whether that succeeded or not. -/
def step : ContextCall → Session → Session
  | bind fields, p => p.bindContext fields
  | clear, p => p.clearContext
  | log logger severity template arguments fields, p =>
    p.after (Session.log logger severity template arguments fields)
  | logPlain logger severity template arguments fields, p =>
    p.logPlain logger severity template arguments fields

def run (calls : List ContextCall) (p : Session) : Session := calls.foldl (fun p c => c.step p) p

variable (p : Session)

/-- Calls that log leave alone what records are made by. -/
theorem step_cases (c : ContextCall) : (∃ fields, c = bind fields) ∨ c = clear ∨
    c.isClear = false ∧ (∀ name, c.bound? name = none) ∧ RecordsLike (c.step p) p := by
  cases c with
  | bind fields => exact .inl ⟨fields, rfl⟩
  | clear => exact .inr (.inl rfl)
  | log logger severity template arguments fields =>
    exact .inr (.inr ⟨rfl, fun _ => rfl, log_recordsLike ..⟩)
  | logPlain logger severity template arguments fields =>
    exact .inr (.inr ⟨rfl, fun _ => rfl, logPlain_recordsLike ..⟩)

theorem step_context [Facilities.Lawful] (name : String) (c : ContextCall) :
    (c.step p).context.get? (.str name) =
      if c.isClear then none else (c.bound? name).or (p.context.get? (.str name)) := by
  rcases step_cases p c with ⟨fields, rfl⟩ | rfl | ⟨hclear, hbound, hlike⟩
  · exact Facilities.Lawful.get?_bind name fields p.context
  · exact Facilities.Lawful.get?_clear name p.context
  · rw [hclear, hbound, hlike.context]
    rfl

theorem step_configured (c : ContextCall) : (c.step p).configured = p.configured := by
  rcases step_cases p c with ⟨fields, rfl⟩ | rfl | ⟨-, -, hlike⟩
  · rfl
  · rfl
  · exact hlike.configured

variable {p}

theorem run_concat (calls : List ContextCall) (c : ContextCall) (p : Session) :
    run (calls ++ [c]) p = c.step (run calls p) := List.foldl_append ..

theorem run_configured : (run calls p).configured = p.configured := by
  induction calls using List.reverseRecOn with
  | nil => rfl
  | append_singleton calls c ih => rw [run_concat, step_configured, ih]

theorem run_context [Facilities.Lawful] (hp : p.context = []) :
    (run calls p).context.get? (.str name) = lastBound calls name := by
  -- from the end, as both sides ask what the last call did
  induction calls using List.reverseRecOn with
  | nil =>
    change Entries.get? (.str name) p.context = none
    rw [hp, Entries.get?_nil]
  | append_singleton calls c ih => rw [run_concat, step_context, lastBound_concat, ih]

end Runs

/-! ## What is propagated -/

/-- The entries of an event with these fields after the calls, once it is processed. -/
structure Propagated (calls : List ContextCall) (fields es : Entries) : Prop where
  /-- Under every name that processing does not use itself stands what is given there, or else what
  the library says of itself, redacted as an entry of the event; where nothing is given, nothing
  stands. Bytes are read as texts, of which no more is told. If the calls that led to the event are
  asked for, they have a name of their own. -/
  stands {name : String} (hname : name ∉ Event.processedNames)
    (hstack : name = "stack" →
      ¬∃ v, given calls fields "stack_info" = some v ∧ v.truthy = .ok true) :
    Option.Rel (fun v w => ¬v.IsBytes →
        Redaction.redact (.dict 0 [(.str name, v)]) = .ok (.dict 0 [(.str name, w)]))
      ((given calls fields name).or (Event.libraryValue? name)) (es.get? (.str name))
  /-- Under a sensitive name stands the marker, wherever the value comes from and whatever it is. -/
  marked {name : String} (hs : Case.lower name ∈ Redaction.sensitiveKeys) :
    es.get? (.str name) = (given calls fields name).map fun _ => Redaction.marker

theorem Propagated.congr {fields' : Entries} (h : Propagated calls fields' es)
    (hf : ∀ name, name ≠ "positional_args" →
      fields'.get? (.str name) = fields.get? (.str name)) : Propagated calls fields es where
  stands hname hstack := by
    rw [← given_congr (hf _ fun hn => hname (by rw [hn]; decide))]
    refine h.stands hname fun hn => ?_
    rw [given_congr (hf "stack_info" (by decide))]
    exact hstack hn
  marked hs := by
    rw [← given_congr (hf _ fun hn => absurd (hn ▸ hs) (by decide))]
    exact h.marked hs

/-- Where nothing is given and the library has nothing to say, nothing stands. -/
theorem Propagated.get?_of_none (h : Propagated calls fields es)
    (hname : name ∉ Event.processedNames) (hstack : name ≠ "stack")
    (hg : (given calls fields name).or (Event.libraryValue? name) = none) :
    es.get? (.str name) = none := by
  have hrel := h.stands hname fun hn => absurd hn hstack
  rw [hg] at hrel
  exact rel_none hrel

/-- Texts under names that are not sensitive stay as they are. -/
theorem Propagated.get?_of_text (h : Propagated calls fields es)
    (hname : name ∉ Event.processedNames) (hstack : name ≠ "stack")
    (hs : Redaction.isSensitive name = false) {t : String}
    (hg : (given calls fields name).or (Event.libraryValue? name) = some (.str t)) :
    es.get? (.str name) = some (.str t) := by
  have hrel := h.stands hname fun hn => absurd hn hstack
  rw [hg] at hrel
  obtain ⟨w, hw, hredact⟩ := rel_some hrel
  have hkept : Redaction.redactEntry 0 (.str name, .str t) = .ok (.str name, .str t) :=
    (Redaction.redactEntry_ok_iff ..).mpr ⟨name, rfl, .inr ⟨hs, .str t, rfl, rfl⟩⟩
  have hredacted := (Redaction.redact_singleton ..).mp (hredact fun ⟨_, _, h⟩ => by cases h)
  rw [hkept] at hredacted
  have hw' : Value.str t = w := congrArg Prod.snd (Except.ok.inj hredacted)
  rw [hw, hw']

section Processing

variable [Facilities] [Facilities.Lawful] {p : Session} {e : Event} {outside : Bool}

theorem merged?_run (hp : p.context = []) (e : Event) (name : String) :
    Event.merged? (run calls p).context e name = given calls e.fields name := by
  rw [Event.merged?, run_context hp, given]

theorem marked_of_process (hp : p.context = [])
    (h : e.process outside (run calls p).context = .ok es)
    (hs : Case.lower name ∈ Redaction.sensitiveKeys) :
    es.get? (.str name) = (given calls e.fields name).map fun _ => Redaction.marker := by
  have hsensitive : Redaction.isSensitive name = true := List.contains_iff_mem.mpr hs
  obtain ⟨hname, hstack, hnone⟩ := Event.not_own_of_sensitive hsensitive
  have hrel := Event.get?_process h hname fun hn => absurd hn hstack
  rw [merged?_run hp, hnone, Option.or_none] at hrel
  have hmarked : ∀ v w, (∃ u, (v.IsBytes ∨ v = u) ∧
      Redaction.redactEntry 0 (.str name, u) = .ok (.str name, w)) → w = Redaction.marker := by
    rintro v w ⟨u, -, hredact⟩
    have hmarker : Redaction.redactEntry 0 (.str name, u) = .ok (.str name, Redaction.marker) :=
      (Redaction.redactEntry_ok_iff ..).mpr ⟨name, rfl, .inl ⟨hsensitive, rfl⟩⟩
    rw [hmarker] at hredact
    exact (congrArg Prod.snd (Except.ok.inj hredact)).symm
  simpa using map_eq_of_rel (g := id) hrel hmarked

theorem propagated_of_process (hp : p.context = [])
    (h : e.process outside (run calls p).context = .ok es) : Propagated calls e.fields es where
  stands hname hstack := by
    have hrel := Event.get?_process h hname
    simp only [merged?_run hp] at hrel
    refine rel_mono (hrel hstack) fun v w hvw hbytes => ?_
    obtain ⟨u, hu, hredact⟩ := hvw
    obtain rfl : v = u := hu.resolve_left hbytes
    exact (Redaction.redact_singleton ..).mpr hredact
  marked := marked_of_process hp h

/-- After calls in a session in which nothing was bound before: whatever event is processed with the
context, of the library or from outside, under every name that processing does not use itself stands
what the event says there, or else what was last bound since the context was last cleared, or else
what the library says of itself, with redaction, and nothing else. So the marker stands under a
sensitive name whichever of these the value comes from. Every call of a logger that succeeds has
logged an event that was processed in this way, with the fields of the call. -/
theorem context_propagates (calls : List ContextCall) (p : Session) (hp : p.context = [])
    (hc : p.configured = true) :
    (∀ (outside : Bool) (e : Event) (es : Entries),
      e.process outside (run calls p).context = .ok es →
        Propagated calls e.fields es) ∧
    (∀ logger severity template arguments fields,
      (run calls p).outcome (Session.log logger severity template arguments fields) = .ok () →
        ∃ e es, ((run calls p).after
            (Session.log logger severity template arguments fields)).events =
              (run calls p).events ++ [e] ∧
          e.process false (run calls p).context = .ok es ∧ Propagated calls fields es) := by
  refine ⟨fun outside e es h => propagated_of_process hp h,
    fun logger severity template arguments fields h => ?_⟩
  have hconfigured : (run calls p).configured = true := run_configured.trans hc
  obtain ⟨text, fields', hcall, hrecords, hevents⟩ := log_ok h
  rw [hconfigured] at hcall
  obtain ⟨out, hout⟩ := hrecords hconfigured
  obtain ⟨es, hes, -⟩ := bind_ok hout
  refine ⟨_, es, hevents, hes, (propagated_of_process hp hes).congr fun name hn => ?_⟩
  exact Facilities.Lawful.get?_call hcall hn

end Processing

/-! ## A request -/

def texts (es : List (String × String)) : Entries := es.map fun e => (.str e.1, .str e.2)

theorem get?_texts (es : List (String × String)) (name : String) :
    (texts es).get? (.str name) = (es.lookup name).map .str := by
  induction es with
  | nil => rfl
  | cons e es ih =>
    obtain ⟨k, s⟩ := e
    rw [texts, List.map_cons, Entries.get?_cons, ← texts, ih, List.lookup_cons]
    by_cases hk : k = name
    · simp [hk]
    · simp [hk, beq_eq_false_iff_ne.mpr (Ne.symm hk)]

/-- A session with logging set up. -/
def ready : Session := { Session.initial with configured := true, root := ⟨10, some .json⟩ }

def requestCalls : List ContextCall := [
  .bind (texts [("token", "old"), ("tenant", "north")]),
  .log "tests" .info (.str "before") [] [],
  .clear,
  .bind (texts [("request", "1"), ("Cookie", "crumbs"), ("user", "al")]),
  .log "tests" .info (.str "first") [] [],
  .bind (texts [("request", "2"), ("version", "9")])]

def requestFields : Entries := texts [("user", "bo"), ("password", "hunter2")]

/-- What the calls leave for an event with these fields, the first entry under a name counting. -/
def requestGiven : List (String × String) := [("user", "bo"), ("password", "hunter2"),
  ("version", "9"), ("request", "2"), ("user", "al"), ("Cookie", "crumbs"), ("request", "1")]

theorem given_request (name : String) :
    given requestCalls requestFields name = (requestGiven.lookup name).map .str := by
  have hlast : lastBound requestCalls name =
      (Entries.get? (.str name) (texts [("version", "9"), ("request", "2")])).or
        (Entries.get? (.str name)
          (texts [("user", "al"), ("Cookie", "crumbs"), ("request", "1")])) := by
    simp only [lastBound, requestCalls, List.reverse_cons, List.reverse_nil, List.nil_append,
      List.cons_append, List.takeWhile_cons, isClear, Bool.not_false, Bool.not_true, if_true,
      Bool.false_eq_true, if_false, findSome?_cons_eq_or, List.findSome?_nil, bound?,
      Option.none_or, Option.or_none]
    rfl
  rw [given, hlast, ← Entries.get?_append, ← Entries.get?_append]
  exact get?_texts requestGiven name

theorem log_request : (run requestCalls ready).outcome
    (Session.log "tests" .info (.str "second") [] requestFields) = .ok () := by
  have hends : ((run requestCalls ready).outcome
      (Session.log "tests" .info (.str "second") [] requestFields)).toBool = true := by
    decide +kernel
  cases ho : (run requestCalls ready).outcome
      (Session.log "tests" .info (.str "second") [] requestFields) with
  | ok u => rfl
  | error f =>
    rw [ho] at hends
    cases hends

/-- What was bound before the context was cleared is gone, what was bound twice has the later value,
the fields of the call come first, and secrets are hidden wherever they come from. -/
theorem context_propagates_request :
    let q := run requestCalls ready
    q.outcome (Session.log "tests" .info (.str "second") [] requestFields) = .ok () ∧
      ∃ e es, (q.after (Session.log "tests" .info (.str "second") [] requestFields)).events =
          q.events ++ [e] ∧
        e.process false q.context = .ok es ∧
        es.get? (.str "tenant") = none ∧ es.get? (.str "token") = none ∧
        es.get? (.str "request") = some (.str "2") ∧ es.get? (.str "user") = some (.str "bo") ∧
        es.get? (.str "Cookie") = some Redaction.marker ∧
        es.get? (.str "password") = some Redaction.marker ∧
        es.get? (.str "library") = some (.str Release.name) ∧
        es.get? (.str "version") = some (.str "9") := by
  intro q
  obtain ⟨e, es, hevents, hes, hpropagated⟩ :=
    (context_propagates requestCalls ready rfl rfl).2 _ _ _ _ _ log_request
  have hsecret {name : String} (hs : Case.lower name ∈ Redaction.sensitiveKeys) :
      es.get? (.str name) = ((requestGiven.lookup name).map Value.str).map fun _ =>
        Redaction.marker := by
    rw [← given_request]
    exact hpropagated.marked hs
  have htext {name text : String} (hname : name ∉ Event.processedNames) (hstack : name ≠ "stack")
      (hs : Redaction.isSensitive name = false)
      (hg : ((requestGiven.lookup name).map Value.str).or (Event.libraryValue? name) =
        some (.str text)) : es.get? (.str name) = some (.str text) := by
    rw [← given_request] at hg
    exact hpropagated.get?_of_text hname hstack hs hg
  have htenant : es.get? (.str "tenant") = none :=
    hpropagated.get?_of_none (by decide) (by decide) (by rw [given_request]; rfl)
  refine ⟨log_request, e, es, hevents, hes, htenant, ?_, ?_, ?_, ?_, ?_, ?_, ?_⟩
  · exact hsecret (by decide)
  · exact htext (by decide) (by decide) (by decide) rfl
  · exact htext (by decide) (by decide) (by decide) rfl
  · exact hsecret (by decide)
  · exact hsecret (by decide)
  · exact htext (by decide) (by decide) (by decide) rfl
  · exact htext (by decide) (by decide) (by decide) rfl

end ContextCall
end Conform
