import Conform.Proofs.Journal.Redaction
import Conform.Proofs.Schema.Wording
import Conform.Proofs.Session.RejectionLog
import Conform.Proofs.Value.Verdicts

/-! What the log of rejections tells of a value. The reason of a rejection is one text, and
redaction leaves texts as they are, so that it hides nothing of a value that the message shows;
what it hides in dictionaries is told there. Main statement: rejections of two values of one kind
are told apart exactly by what the message shows of them, with redaction or without. -/

namespace Conform
set_option autoImplicit false

/-- The event after redaction. -/
def Event.redacted (e : Event) : Except Fault Value := Redaction.redact (.dict 0 e.entries)

namespace Boundary
open Session

theorem announcement_entries (b : Boundary) (m : Value) : (b.announcement m).entries =
    [(.str "boundary", b.name), (.str "origin", b.origin), (.str "reason", m),
      (.str "event", .str "validation.rejected")] := by
  have htext : (b.announcement m).text.isNull = false := rfl
  rw [Event.entries, htext]
  simp [announcement, rejection, Entries.insert, Value.keyMatches_str]

variable (env : Env) (b : Boundary) {v w : Value} {p q : Session} {e e' : Event}

/-- An event that is noted tells of a rejection. -/
theorem rejected_of_noted [Facilities]
    (h : (p.after (b.parse env v)).ledger.events = p.ledger.events ++ [e]) :
    ∃ m, b.schema.ruling env v = .rejected m ∧ e = b.announcement m := by
  rw [parse_events, List.append_cancel_left_eq] at h
  exact b.rejection_of_some env v p (Option.toList_eq_singleton_iff.mp h)

/-- Redaction keeps the reason. -/
theorem reason_of_redacted {t : String} {out : Value}
    (h : (b.announcement (.str t)).redacted = .ok out) :
    ∃ e₁ e₂ e₄, out = .dict 0 [e₁, e₂, (.str "reason", .str t), e₄] := by
  have hreason : Redaction.redactEntry 0 (.str "reason", .str t) = .ok (.str "reason", .str t) :=
    rfl
  rw [Event.redacted, announcement_entries, Redaction.redact, Redaction.redactAt,
    if_neg (Nat.not_lt_zero _), Redaction.redactEntries_eq] at h
  cases hm : [(Value.str "boundary", b.name), (.str "origin", b.origin), (.str "reason", .str t),
      (.str "event", .str "validation.rejected")].mapM (Redaction.redactEntry 0) with
  | error f => simp [hm, Except.map] at h
  | ok es =>
    rw [hm] at h
    obtain ⟨e₁, es₁, rfl, _, h₁⟩ := mapM_cons_ok hm
    obtain ⟨e₂, es₂, rfl, _, h₂⟩ := mapM_cons_ok h₁
    obtain ⟨e₃, es₃, rfl, h₃, h₄⟩ := mapM_cons_ok h₂
    obtain ⟨e₄, es₄, rfl, _, h₅⟩ := mapM_cons_ok h₄
    have hnil : [] = es₄ := Except.ok.inj h₅
    have hkept : e₃ = (.str "reason", .str t) := Except.ok.inj (h₃.symm.trans hreason)
    exact ⟨e₁, e₂, e₄, by rw [← Except.ok.inj h, ← hnil, hkept]⟩

/-- Rejections of two values of one kind, dictionaries say, are logged alike exactly if the message
shows no value or the values show alike; redaction makes no difference to that. -/
theorem rejections_alike_iff [Facilities] (hs : b.schema.Every Schema.describedParts Schema.IsOwn)
    (hk : v.kind = w.kind) (he : (p.after (b.parse env v)).ledger.events = p.ledger.events ++ [e])
    (he' : (q.after (b.parse env w)).ledger.events = q.ledger.events ++ [e']) :
    (e = e' ↔ (b.schema.showsValue = true → v.display = w.display)) ∧
      ∀ out, e.redacted = .ok out → (e'.redacted = .ok out ↔ e = e') := by
  obtain ⟨m, hr, rfl⟩ := b.rejected_of_noted env he
  obtain ⟨m', hr', rfl⟩ := b.rejected_of_noted env he'
  have hm := ((b.schema.ruling_rejected_iff env v m).mp hr).2
  have hm' := ((b.schema.ruling_rejected_iff env w m').mp hr').2
  obtain ⟨t, rfl⟩ := Schema.describe_isText hs hm
  obtain ⟨t', rfl⟩ := Schema.describe_isText hs hm'
  have hevents : b.announcement (.str t) = b.announcement (.str t') ↔ Value.str t = .str t' := by
    simp [announcement, rejection]
  refine ⟨?_, fun out ho => ⟨fun ho' => ?_, fun heq => ?_⟩⟩
  · rw [hevents]
    exact Schema.describe_eq_iff env hs hk hm hm'
  · obtain ⟨e₁, e₂, e₄, hout⟩ := b.reason_of_redacted ho
    obtain ⟨e₁', e₂', e₄', hout'⟩ := b.reason_of_redacted ho'
    have hsame : [e₁, e₂, (.str "reason", .str t), e₄] =
        [e₁', e₂', (.str "reason", .str t'), e₄'] := by simpa [hout] using hout'
    have hreason : Value.str t = .str t' := by
      injection hsame with _ hsame
      injection hsame with _ hsame
      injection hsame with hsame _
      exact congrArg Prod.snd hsame
    exact hevents.mpr hreason
  · rw [← heq, ho]

/-- A boundary that lets nothing but null pass. -/
def login : Boundary where
  schema := .literal .null
  name := .str "login"
  origin := .str "ingress"

def password (text : String) : Value := .dict 0 [(.str "password", .str text)]

def passwordRejection (text : String) : Event :=
  login.announcement (.str ("Expected null, got \x7b'password': '" ++ text ++ "'\x7d"))

theorem rejections_alike_iff_password :
    (passwordRejection "a" = passwordRejection "b" ↔
        (login.schema.showsValue = true → (password "a").display = (password "b").display)) ∧
      ∀ out, (passwordRejection "a").redacted = .ok out →
        ((passwordRejection "b").redacted = .ok out ↔
          passwordRejection "a" = passwordRejection "b") := by
  have hs : login.schema.Every Schema.describedParts Schema.IsOwn := .ofLeaf trivial rfl
  have ha : (Session.initial.after (login.parse Env.stock (password "a"))).ledger.events =
      Session.initial.ledger.events ++ [passwordRejection "a"] := rfl
  have hb : (Session.initial.after (login.parse Env.stock (password "b"))).ledger.events =
      Session.initial.ledger.events ++ [passwordRejection "b"] := rfl
  exact rejections_alike_iff Env.stock login hs rfl ha hb

theorem passwordRejection_redacted (text : String) : (passwordRejection text).redacted =
    .ok (.dict 0 (passwordRejection text).entries) := by
  rw [Event.redacted, passwordRejection, announcement_entries]
  rfl

/-- Redaction makes the same of both values, but not of the events of their rejections. -/
theorem passwords_disclosed :
    Redaction.redact (password "a") = .ok (.dict 0 [(.str "password", Redaction.marker)]) ∧
      Redaction.redact (password "b") = .ok (.dict 0 [(.str "password", Redaction.marker)]) ∧
      (Session.initial.after (login.parse Env.stock (password "a"))).ledger.events =
        [passwordRejection "a"] ∧
      (Session.initial.after (login.parse Env.stock (password "b"))).ledger.events =
        [passwordRejection "b"] ∧
      (passwordRejection "a").redacted ≠ (passwordRejection "b").redacted := by
  refine ⟨rfl, rfl, rfl, rfl, ?_⟩
  rw [passwordRejection_redacted, passwordRejection_redacted, passwordRejection,
    passwordRejection, announcement_entries, announcement_entries]
  simp

end Boundary
end Conform
