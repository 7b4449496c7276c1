import Conform.Proofs.Session.RejectionLog

/-! Readings of the settings over runs of a session in which they are not cleared. An operation
reads them outright or because it rejects a value. Main statement: the first reading that succeeds
decides for good, by the surroundings that it finds; until then every reading tries again, and what
is accepted reads nothing. -/

namespace Conform
set_option autoImplicit false

namespace Operation
open Session

variable (env : Env)

/-- What there is to tell of the operation if it rejects a value. -/
def announcement? (op : Operation) : Option Event :=
  op.admits?.bind fun admitted =>
    match admitted.1.schema.ruling env admitted.2 with
    | .rejected m => some (admitted.1.announcement m)
    | _ => none

/-- The operation asks for the settings whatever comes of it. -/
def asksSettings : Operation → Bool
  | settings | configureFromSettings => true
  | _ => false

def readsSettings (op : Operation) : Bool := op.asksSettings || (op.announcement? env).isSome

theorem asksSettings_of_admits (op : Operation) {admitted : Boundary × Value}
    (h : op.admits? = some admitted) : op.asksSettings = false := by
  cases op with
  | settings => cases h
  | configureFromSettings => cases h
  | _ => rfl

section
variable [Facilities]

/-- The surroundings that each reading of a run finds. -/
def readings : List Operation → Session → List Surroundings
  | [], _ => []
  | op :: ops, p =>
    (if op.readsSettings env then [p.surroundings] else []) ++ readings ops (op.step env p)

/-- The settings by the first of several surroundings from which they load. -/
def firstLoaded (found : List Surroundings) : Option Settings :=
  found.findSome? fun s => (Settings.load s).toOption

/-! ## Steps -/

variable (op : Operation) (p : Session)

theorem settings_cache : (p.after Session.settings).cache =
    p.cache.or (Settings.load p.surroundings).toOption := by
  change (p.after Session.settings).ledger.cache = _
  rw [settings_ledger, settings_outcome]
  cases hc : p.cache with
  | some s => rfl
  | none =>
    cases Settings.load p.surroundings with
    | ok s => rfl
    | error f => exact hc

theorem parse_cache (b : Boundary) (v : Value) : (p.after (b.parse env v)).cache =
    match b.schema.ruling env v with
    | .rejected _ => (p.after Session.settings).cache
    | _ => p.cache := by
  change (p.after (b.parse env v)).ledger.cache = _
  rw [b.parse_ledger]
  cases b.schema.ruling env v with
  | accepted => rfl
  | failed f => rfl
  | rejected m =>
    change _ = (p.after Session.settings).ledger.cache
    rw [settings_ledger]
    cases p.outcome Session.settings with
    | error f => rfl
    | ok s =>
      change Ledger.cache (if s.logRejections then _ else _) = _
      split <;> rfl

/-- A reading enters what it finds, unless there are settings already. -/
theorem step_cache (h : op ≠ clearSettings) : (op.step env p).cache =
    if op.readsSettings env then p.cache.or (Settings.load p.surroundings).toOption
    else p.cache := by
  cases ha : op.admits? with
  | some admitted =>
    obtain ⟨b, v⟩ := admitted
    have hstep : (op.step env p).cache = (p.after (b.parse env v)).cache :=
      congrArg Ledger.cache (step_ledger_of_admits env op p ha)
    rw [hstep, parse_cache, readsSettings, asksSettings_of_admits op ha, announcement?, ha]
    cases hr : b.schema.ruling env v with
    | rejected m => simpa [hr] using settings_cache p
    | _ => simp [hr]
  | none =>
    have hnone : op.announcement? env = none := by rw [announcement?, ha, Option.bind_none]
    rw [readsSettings, hnone]
    cases op with
    | clearSettings => exact absurd rfl h
    | settings => exact settings_cache p
    | configureFromSettings =>
      exact (congrArg Ledger.cache (configureFromSettings_ledger p)).trans (settings_cache p)
    | boundary b v => cases ha
    | boundaryOrRaise b v => cases ha
    | guarded b function keeps a =>
      simp only [admits?] at ha
      split at ha
      next => cases ha
      next f hf => exact congrArg Session.cache (b.guard_unfit env p hf)
    | configure level jsonLogs => exact congrArg Ledger.cache (configureWith_keeps level jsonLogs p)
    | log logger other severity template arguments fields =>
      exact congrArg Ledger.cache (log_keeps other severity template arguments fields p)
    | logPlain logger severity template arguments fields =>
      exact congrArg Ledger.cache (logPlain_ledger logger severity template arguments fields p)
    | _ => rfl

/-! ## Runs -/

variable {env op p} {ops : List Operation}

theorem run_cons : run env (op :: ops) p = run env ops (op.step env p) := rfl

theorem firstLoaded_append (found found' : List Surroundings) :
    firstLoaded (found ++ found') = (firstLoaded found).or (firstLoaded found') :=
  List.findSome?_append

theorem run_cache (h : clearSettings ∉ ops) :
    (run env ops p).cache = p.cache.or (firstLoaded (readings env ops p)) := by
  induction ops generalizing p with
  | nil => exact (Option.or_none ..).symm
  | cons op ops ih =>
    have hop : op ≠ clearSettings := (List.ne_of_not_mem_cons h).symm
    have hops : clearSettings ∉ ops := List.not_mem_of_not_mem_cons h
    rw [run_cons, ih hops, step_cache env op p hop, readings, firstLoaded_append]
    cases op.readsSettings env with
    | false => rfl
    | true =>
      have hone : firstLoaded [p.surroundings] = (Settings.load p.surroundings).toOption := by
        simp [firstLoaded]
      rw [if_pos rfl, if_pos rfl, hone, Option.or_assoc]

theorem outcome_of_cache {s : Settings} (h : p.cache = some s) :
    p.outcome Session.settings = .ok s := by
  rw [settings_outcome, h]

/-- With settings at hand it is up to them alone whether rejections are told of. -/
theorem rejections_of_cache {s : Settings} (h : clearSettings ∉ ops) (hc : p.cache = some s) :
    rejections env ops p = if s.logRejections then ops.filterMap (announcement? env) else [] := by
  induction ops generalizing p with
  | nil => simp [rejections]
  | cons op ops ih =>
    have hop : op ≠ clearSettings := (List.ne_of_not_mem_cons h).symm
    have hops : clearSettings ∉ ops := List.not_mem_of_not_mem_cons h
    have hcache : (op.step env p).cache = some s := by
      rw [step_cache env op p hop, hc]
      simp
    have hnow : op.rejection? env p = if s.logRejections then op.announcement? env else none := by
      rw [rejection?, announcement?]
      cases op.admits? with
      | none => simp
      | some admitted =>
        rw [Option.bind_some, Option.bind_some, Boundary.rejection?, outcome_of_cache hc]
        cases admitted.1.schema.ruling env admitted.2 <;> simp
    rw [rejections, ih hops hcache, hnow]
    cases s.logRejections with
    | false => rfl
    | true => cases ha : op.announcement? env <;> simp [ha]

/-- Once a reading has succeeded, every later one gives the same settings, and these alone decide
which rejections are logged. -/
theorem run_of_loaded {s : Settings} (h : clearSettings ∉ ops) (hr : op.readsSettings env = true)
    (hs : p.outcome Session.settings = .ok s) :
    (run env (op :: ops) p).outcome Session.settings = .ok s ∧
      (run env (op :: ops) p).ledger.events = (op.step env p).ledger.events ++
        if s.logRejections then ops.filterMap (announcement? env) else [] := by
  have hop : op ≠ clearSettings := by
    rintro rfl
    cases hr
  have hcache : (op.step env p).cache = some s := by
    rw [step_cache env op p hop, hr, if_pos rfl]
    rw [settings_outcome] at hs
    cases hc : p.cache with
    | some t =>
      simp only [hc] at hs
      rw [Except.ok.inj hs]
      rfl
    | none =>
      simp only [hc] at hs
      rw [hs]
      rfl
  refine ⟨outcome_of_cache ?_, ?_⟩
  · rw [run_cons, run_cache h, hcache]
    rfl
  · rw [run_cons, run_events, rejections_of_cache h hcache]

theorem cache_of_failed {f : Fault} (h : p.outcome Session.settings = .error f) :
    (op.step env p).cache = none := by
  rw [settings_outcome] at h
  cases hc : p.cache with
  | some s =>
    simp only [hc] at h
    cases h
  | none =>
    simp only [hc] at h
    by_cases hop : op = clearSettings
    · rw [hop]
      rfl
    · rw [step_cache env op p hop, hc, h]
      split <;> rfl

/-- Over a run in which the settings are not cleared: they are those of the first reading that
succeeds, by the surroundings that it finds, and as long as none has succeeded they are read from
the surroundings of the moment. Once a reading has succeeded, explicit or by a rejection, every
later one gives the same settings, and these alone decide which rejections are logged. A reading
that fails leaves nothing behind, and what is accepted is no reading. -/
theorem settings_read_once (env : Env) (ops : List Operation) (p : Session)
    (h : clearSettings ∉ ops) :
    (run env ops p).outcome Session.settings =
        (match p.cache.or (firstLoaded (readings env ops p)) with
          | some s => .ok s
          | none => Settings.load (run env ops p).surroundings) ∧
    (∀ op s, op.readsSettings env = true → p.outcome Session.settings = .ok s →
      (run env (op :: ops) p).outcome Session.settings = .ok s ∧
        (run env (op :: ops) p).ledger.events = (op.step env p).ledger.events ++
          if s.logRejections then ops.filterMap (announcement? env) else []) ∧
    (∀ (op : Operation) f, p.outcome Session.settings = .error f →
      (op.step env p).cache = none ∧
        (op.step env p).outcome Session.settings = Settings.load (op.step env p).surroundings) ∧
    (∀ (op : Operation) b v, op.admits? = some (b, v) →
      (b.schema.test env v).outcome = .ok true →
        op.readsSettings env = false ∧ p.after (b.parse env v) = p) := by
  refine ⟨?_, fun op s hr hs => run_of_loaded h hr hs, fun op f hf => ?_, fun op b v ha ht => ?_⟩
  · rw [← run_cache h]
    exact settings_outcome (run env ops p)
  · have hcache : (op.step env p).cache = none := cache_of_failed hf
    refine ⟨hcache, ?_⟩
    rw [settings_outcome, hcache]
  · have hr : b.schema.ruling env v = .accepted := (b.schema.ruling_accepted_iff env v).mpr ht
    refine ⟨?_, ?_⟩
    · rw [readsSettings, asksSettings_of_admits op ha, announcement?, ha, Option.bind_some, hr]
      rfl
    · rw [b.parse_after, hr]

end

/-- A session in which the settings cannot be read. -/
def unsettled : Session :=
  { Session.initial with surroundings := ⟨[("MINISCHEMA_LOG_REJECTIONS", "perhaps")], none⟩ }

/-- A rejection for which the settings cannot be read, one value that is accepted while they could
be, and rejections before and after they would ask for events. -/
def unsettledOps : List Operation := [
  .boundary (.evens "const") (.str "odd"),
  .surround ⟨[], none⟩,
  .boundary (.evens "const") (.int 2),
  .surround ⟨[("MINISCHEMA_LOG_LEVEL", "DEBUG"), ("MINISCHEMA_LOG_REJECTIONS", "no")], none⟩,
  .boundary (.evens "const") (.str "odd"),
  .surround ⟨[], none⟩,
  .configureFromSettings,
  .boundary (.evens "const") (.str "odd")]

theorem settings_read_once_unsettled :
    let p := unsettled
    let q := run Env.stock unsettledOps p
    p.outcome Session.settings = .error (.settings ["LOG_REJECTIONS"]) ∧
      q.surroundings.environment = [] ∧
      q.outcome Session.settings = .ok ⟨"DEBUG", false, false⟩ ∧
      (run Env.stock (.boundary (.evens "const") (.str "odd") :: unsettledOps) q).ledger.events =
        [] := by
  have hops : clearSettings ∉ unsettledOps := by simp [unsettledOps]
  have hfirst := (settings_read_once Env.stock unsettledOps unsettled hops).1.trans rfl
  have hlater := (settings_read_once Env.stock unsettledOps
    (run Env.stock unsettledOps unsettled) hops).2.1 (.boundary (.evens "const") (.str "odd"))
    ⟨"DEBUG", false, false⟩ rfl hfirst
  exact ⟨rfl, rfl, hfirst, hlater.2.trans rfl⟩

end Operation
end Conform
