import Conform.Proofs.Session.Actions

/-! Setting up logging by the name of a level. A name is one of a level in any letter case, and
every other name stands for information, but for two under which something else is found. The way
of writing is set before the level is, so that such a name sets the one and leaves the other, which
is then told as a fault. -/

namespace Conform
set_option autoImplicit false

namespace LevelEntry

/-! ## Names -/

/-- The standard levels, by their names. -/
def standard : List (String × Nat) :=
  [("CRITICAL", 50), ("FATAL", 50), ("ERROR", 40), ("WARNING", 30), ("WARN", 30), ("INFO", 20),
    ("DEBUG", 10), ("NOTSET", 0)]

/-- The standard level of a name in any letter case; information if there is none. -/
def standardLevel (name : String) : Nat := (standard.lookup (Case.upper name)).getD 20

/-- The names under which something else is found, with the fault of taking that for a level. -/
def misleading : List (String × Fault) :=
  [("BASIC_FORMAT", .unknownLevel "'%(levelname)s:%(name)s:%(message)s'"), ("_STYLES", .mismatch)]

theorem level_of_misleading {name : String} {f : Fault}
    (h : (Case.upper name, f) ∈ misleading) : (ofName name).level = .error f := by
  have hquoted : quoted "%(levelname)s:%(name)s:%(message)s" =
      "'%(levelname)s:%(name)s:%(message)s'" := by decide +kernel
  unfold ofName
  rcases List.mem_pair.mp h with h | h
  · rw [(Prod.mk.inj h).1, (Prod.mk.inj h).2, ← hquoted]
    rfl
  · rw [(Prod.mk.inj h).1, (Prod.mk.inj h).2]
    rfl

theorem level_of_not_misleading {name : String} (h : Case.upper name ∉ misleading.map (·.1)) :
    (ofName name).level = .ok (standardLevel name) := by
  simp only [misleading, List.map_cons, List.map_nil, List.mem_cons, List.not_mem_nil, or_false,
    not_or] at h
  unfold ofName standardLevel lookup
  split
  case h_9 hformat => exact absurd hformat h.1
  case h_10 htable => exact absurd htable h.2
  case h_11 =>
    -- a name that is none of the ten
    have hnone : standard.lookup (Case.upper name) = none := by
      rw [List.lookup_eq_none_iff]
      simp_all [standard]
    rw [hnone]
    rfl
  all_goals
    next hname =>
      rw [hname]
      rfl

end LevelEntry

namespace Session

/-! ## Setting up -/

/-- The way of writing that is chosen with a level. -/
def rendererFor (jsonLogs : Bool) : Renderer := if jsonLogs then .json else .console

theorem configure_run (level : String) (jsonLogs : Bool) (p : Session) :
    (configure level jsonLogs).run p = match (LevelEntry.ofName level).level with
      | .ok n => (.ok (), { p with
          configured := true, root := ⟨n, some (rendererFor jsonLogs)⟩ })
      | .error f => (.error f, { p with
          configured := true, root := ⟨p.root.level, some (rendererFor jsonLogs)⟩ }) := by
  unfold configure
  rw [run_bind]
  cases LevelEntry.level (LevelEntry.ofName level) <;> rfl

section Configure

variable {level : String} (jsonLogs : Bool) (p : Session)

theorem configure_of_level {n : Nat} (h : (LevelEntry.ofName level).level = .ok n) :
    p.outcome (configure level jsonLogs) = .ok () ∧ p.after (configure level jsonLogs) =
      { p with configured := true, root := ⟨n, some (rendererFor jsonLogs)⟩ } := by
  simp only [outcome, after, configure_run, h, and_self]

/-- The level is kept, but not the way of writing. -/
theorem configure_of_fault {f : Fault} (h : (LevelEntry.ofName level).level = .error f) :
    p.outcome (configure level jsonLogs) = .error f ∧ p.after (configure level jsonLogs) =
      { p with configured := true, root := ⟨p.root.level, some (rendererFor jsonLogs)⟩ } := by
  simp only [outcome, after, configure_run, h, and_self]

/-- Every name but two sets up logging with the standard level of that name, or with information if
it names none. The other two end in a fault that leaves the level and nothing else of the setup. -/
theorem configure_by_name (level : String) :
    (Case.upper level ∉ LevelEntry.misleading.map (·.1) →
      p.outcome (configure level jsonLogs) = .ok () ∧ p.after (configure level jsonLogs) =
        { p with configured := true,
                 root := ⟨LevelEntry.standardLevel level, some (rendererFor jsonLogs)⟩ }) ∧
    ∀ f, (Case.upper level, f) ∈ LevelEntry.misleading →
      p.outcome (configure level jsonLogs) = .error f ∧ p.after (configure level jsonLogs) =
        { p with configured := true, root := ⟨p.root.level, some (rendererFor jsonLogs)⟩ } :=
  ⟨fun h => configure_of_level jsonLogs p (LevelEntry.level_of_not_misleading h),
    fun _ h => configure_of_fault jsonLogs p (LevelEntry.level_of_misleading h)⟩

/-- A dotless letter has a dotted capital, so that this is the name of a level; the other name is
that of a table. -/
theorem configure_by_name_dotless :
    Case.upper "warnıng" ∉ LevelEntry.misleading.map (·.1) ∧
      (Session.initial.after (configure "warnıng" true)).root = ⟨30, some .json⟩ ∧
      (Case.upper "_styles", .mismatch) ∈ LevelEntry.misleading ∧
      Session.initial.outcome (configure "_styles" true) = .error .mismatch := by
  have hlevel : Case.upper "warnıng" ∉ LevelEntry.misleading.map (·.1) := by decide +kernel
  have htable : (Case.upper "_styles", .mismatch) ∈ LevelEntry.misleading := by decide +kernel
  have hroot := ((configure_by_name true Session.initial "warnıng").1 hlevel).2
  refine ⟨hlevel, ?_, htable, ((configure_by_name true Session.initial "_styles").2 _ htable).1⟩
  rw [hroot]
  decide +kernel

/-- The name of a format is no level, and yet changes how events are written. -/
theorem configure_basic_format :
    Session.initial.outcome (configure "basic_format" false) =
        .error (.unknownLevel "'%(levelname)s:%(name)s:%(message)s'") ∧
      (Session.initial.after (configure "basic_format" false)).root = ⟨30, some .console⟩ ∧
      Session.initial.root = ⟨30, none⟩ := by
  decide +kernel

end Configure

end Session
end Conform
