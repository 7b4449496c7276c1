import Conform.Result.Admission
import Conform.Proofs.Schema.Context
import Conform.Proofs.Schema.Explanation

/-! The two walks over a schema, one for each phase. A walk calls the functions of its own phase,
of the predicates that it reaches, and nothing else: the other functions of the same predicates,
and all functions of parts that it passes by, could be exchanged unnoticed. Main statement: the
walks are separate in this sense, and to admit a value is to test it and then, if the test came out
false, to describe it. -/

namespace Conform
set_option autoImplicit false

namespace Schema

/-! ## Reach -/

/-- Shapes and arrays are described without their parts. -/
def describedParts : Schema → List Schema
  | .shape _ | .array _ => []
  | s => s.parts

end Schema

namespace Phase

/-- The parts of a schema that the walk goes on to. -/
def parts : Phase → Schema → List Schema
  | test => Schema.testedParts
  | describe => Schema.describedParts

/-- Of the two functions of a predicate, the one for the phase. -/
def callback : Phase → Callback → Callback → Callback
  | test, t, _ => t
  | describe, _, d => d

def supplied (env : Env) : Phase → Callback → Value → Run Fault Value
  | test => env.test
  | describe => env.describe

/-- The name by which a foreign value is asked. -/
def question : Phase → String
  | test => "test"
  | describe => "describe_failure"

end Phase

namespace Schema

/-- The calls that a walk leads to: the function of a predicate that it reaches, and what this
function, or a foreign value that is reached, calls in turn. -/
inductive Leads (env : Env) (phase : Phase) (s : Schema) : Call → Prop
  | own {t d : Callback} (h : Occurs phase.parts (.predicate t d) s) :
      Leads env phase s ⟨phase, phase.callback t d⟩
  | inner {t d : Callback} {v : Value} {c : Call} (h : Occurs phase.parts (.predicate t d) s)
      (hc : c ∈ (phase.supplied env (phase.callback t d) v).calls) : Leads env phase s c
  | foreign {x v : Value} {c : Call} (h : Occurs phase.parts (.foreign x) s)
      (hc : c ∈ (env.ask x phase.question v).calls) : Leads env phase s c

/-- A node whose own function has the property, and everything that it calls in turn. -/
def CallsAt (env : Env) (phase : Phase) (p : Call → Prop) : Schema → Prop
  | .predicate t d => p ⟨phase, phase.callback t d⟩ ∧
      ∀ v, (phase.supplied env (phase.callback t d) v).CallsOnly p
  | .foreign x => ∀ v, (env.ask x phase.question v).CallsOnly p
  | _ => True

theorem every_leads (env : Env) (phase : Phase) (s : Schema) :
    s.Every phase.parts (CallsAt env phase (Leads env phase s)) := by
  intro u hu
  cases u with
  | predicate t d => exact ⟨.own hu, fun v c hc => .inner hu hc⟩
  | foreign x => exact fun v c hc => .foreign hu hc
  | _ => trivial

variable {env other : Env} {p : Call → Prop} {s : Schema}

/-! ## Calls of a walk -/

theorem test_callsOnly (hs : s.Every testedParts (CallsAt env .test p)) (v : Value) :
    (s.test env v).CallsOnly p := by
  induction s generalizing v with
  | nullable s ih =>
    have hinner := ih (hs.part (by simp [testedParts, parts])) v
    rw [test]
    split
    next => exact Run.callsOnly_pure true
    next => exact hinner
  | undefinable s ih =>
    have hinner := ih (hs.part (by simp [testedParts, parts])) v
    rw [test]
    split
    next => exact Run.callsOnly_pure true
    next => exact hinner
  | shape fs ih =>
    rw [test_shape]
    split
    next =>
      refine Run.callsOnly_forAll fun f hf => ?_
      have hpart := hs.part (t := f.2) (by simpa [testedParts, parts] using ⟨f.1, hf⟩)
      exact ih f hf hpart (v.field f.1)
    next => exact Run.callsOnly_pure false
  | array s ih =>
    have hitem := ih (hs.part (by simp [testedParts, parts]))
    rw [test]
    split
    next xs _ => exact Run.callsOnly_forAll fun x _ => hitem x
    next => exact Run.callsOnly_pure false
  | union ss ih =>
    rw [test_union]
    exact Run.callsOnly_forAny fun s hs' =>
      ih s hs' (hs.part (by simpa [testedParts, parts])) v
  | intersection ss ih =>
    rw [test_intersection]
    exact Run.callsOnly_forAll fun s hs' =>
      ih s hs' (hs.part (by simpa [testedParts, parts])) v
  | bounded s lower upper ih =>
    have hinner := ih (hs.part (by simp [testedParts, parts])) v
    rw [test]
    exact hinner.branch (Run.callsOnly_pure _) (Run.callsOnly_pure false)
  | lengthBounded s lower upper ih =>
    have hinner := ih (hs.part (by simp [testedParts, parts])) v
    rw [test]
    exact hinner.branch (Run.callsOnly_lift _) (Run.callsOnly_pure false)
  | exactLength s size ih =>
    have hinner := ih (hs.part (by simp [testedParts, parts])) v
    rw [test]
    exact hinner.branch (Run.callsOnly_pure _) (Run.callsOnly_pure false)
  | predicate t d =>
    obtain ⟨hown, hinner⟩ := hs.node
    rw [test]
    exact (Run.callsOnly_call hown).bind fun _ =>
      (hinner v).bind fun answer => Run.callsOnly_lift answer.truthy
  | foreign x =>
    have hask : ∀ w, (env.ask x "test" w).CallsOnly p := hs.node
    rw [test]
    exact (hask v).bind fun answer => Run.callsOnly_lift answer.truthy
  | kind | unnamedKind | bigint | literal | oneOf | oneOfType =>
    rw [test]
    exact Run.callsOnly_pure _

theorem describe_callsOnly (hs : s.Every describedParts (CallsAt env .describe p)) (v : Value) :
    (s.describe env v).CallsOnly p := by
  induction s generalizing v with
  | nullable s ih =>
    have hinner := ih (hs.part (by simp [describedParts, parts])) v
    rw [describe]
    exact hinner.bind fun w => (Run.callsOnly_lift w.text).bind fun _ => Run.callsOnly_pure _
  | undefinable s ih =>
    have hinner := ih (hs.part (by simp [describedParts, parts])) v
    rw [describe]
    exact hinner.bind fun w => (Run.callsOnly_lift w.text).bind fun _ => Run.callsOnly_pure _
  | oneOfType s xs ih =>
    -- the walk goes on into the type, with the options in place of the value
    have htype := ih (hs.part (by simp [describedParts, parts]))
    rw [describe]
    have hoptions : ∀ x ∈ xs, (s.describe env x).inSeries.CallsOnly p :=
      fun x _ => (htype x).inSeries
    exact (Run.callsOnly_collect hoptions).bind fun _ => Run.callsOnly_lift _
  | union ss ih =>
    rw [describe, describeAll_eq]
    have hmembers : ∀ s ∈ ss, (s.describe env v).inSeries.CallsOnly p := fun s hs' =>
      (ih s hs' (hs.part (by simpa [describedParts, parts])) v).inSeries
    exact (Run.callsOnly_collect hmembers).bind fun _ => Run.callsOnly_lift _
  | intersection ss ih =>
    rw [describe, describeAll_eq]
    have hmembers : ∀ s ∈ ss, (s.describe env v).inSeries.CallsOnly p := fun s hs' =>
      (ih s hs' (hs.part (by simpa [describedParts, parts])) v).inSeries
    exact (Run.callsOnly_collect hmembers).bind fun _ => Run.callsOnly_lift _
  | bounded s lower upper ih | lengthBounded s lower upper ih =>
    have hinner := ih (hs.part (by simp [describedParts, parts])) v
    rw [describe]
    exact hinner.bind fun _ => Run.callsOnly_lift _
  | exactLength s size ih =>
    have hinner := ih (hs.part (by simp [describedParts, parts])) v
    rw [describe]
    exact hinner.bind fun _ => Run.callsOnly_lift _
  | predicate t d =>
    obtain ⟨hown, hinner⟩ := hs.node
    rw [describe]
    exact (Run.callsOnly_call hown).bind fun _ => hinner v
  | foreign x =>
    have hask : ∀ w, (env.ask x "describe_failure" w).CallsOnly p := hs.node
    rw [describe]
    exact hask v
  | kind | unnamedKind | bigint | literal | oneOf | shape | array =>
    rw [describe]
    exact Run.callsOnly_lift _

/-! ## What a walk depends on -/

/-- A node for which two environments supply the same function in a phase. -/
def SuppliedAlike (env other : Env) (phase : Phase) : Schema → Prop
  | .predicate t d =>
    phase.supplied other (phase.callback t d) = phase.supplied env (phase.callback t d)
  | _ => True

theorem test_congr_env (hcall : other.call = env.call)
    (hs : s.Every testedParts (SuppliedAlike env other .test)) (v : Value) :
    s.test other v = s.test env v := by
  induction s generalizing v with
  | nullable s ih =>
    have hinner := ih (hs.part (by simp [testedParts, parts])) v
    rw [test, test, hinner]
  | undefinable s ih =>
    have hinner := ih (hs.part (by simp [testedParts, parts])) v
    rw [test, test, hinner]
  | shape fs ih =>
    rw [test_shape, test_shape]
    have hfields : ∀ f ∈ fs, (f.2.test other (v.field f.1)).inSeries =
        (f.2.test env (v.field f.1)).inSeries := by
      intro f hf
      have hpart := hs.part (t := f.2) (by simpa [testedParts, parts] using ⟨f.1, hf⟩)
      rw [ih f hf hpart (v.field f.1)]
    rw [Run.forAll_congr hfields]
  | array s ih =>
    have hitem := ih (hs.part (by simp [testedParts, parts]))
    simp only [test, hitem]
  | union ss ih =>
    rw [test_union, test_union]
    have hmembers : ∀ s ∈ ss, (s.test other v).inSeries = (s.test env v).inSeries := fun s hs' =>
      congrArg _ (ih s hs' (hs.part (by simpa [testedParts, parts])) v)
    exact Run.forAny_congr hmembers
  | intersection ss ih =>
    rw [test_intersection, test_intersection]
    have hmembers : ∀ s ∈ ss, (s.test other v).inSeries = (s.test env v).inSeries := fun s hs' =>
      congrArg _ (ih s hs' (hs.part (by simpa [testedParts, parts])) v)
    exact Run.forAll_congr hmembers
  | bounded s lower upper ih | lengthBounded s lower upper ih =>
    have hinner := ih (hs.part (by simp [testedParts, parts])) v
    rw [test, test, hinner]
  | exactLength s size ih =>
    have hinner := ih (hs.part (by simp [testedParts, parts])) v
    rw [test, test, hinner]
  | predicate t d =>
    have hsame : other.test t = env.test t := hs.node
    rw [test, test, hsame]
  | foreign x => simp only [test, Env.ask, hcall]
  | kind | unnamedKind | bigint | literal | oneOf | oneOfType => rw [test, test]

theorem describe_congr_env (hcall : other.call = env.call)
    (hs : s.Every describedParts (SuppliedAlike env other .describe)) (v : Value) :
    s.describe other v = s.describe env v := by
  induction s generalizing v with
  | nullable s ih =>
    have hinner := ih (hs.part (by simp [describedParts, parts])) v
    rw [describe, describe, hinner]
  | undefinable s ih =>
    have hinner := ih (hs.part (by simp [describedParts, parts])) v
    rw [describe, describe, hinner]
  | oneOfType s xs ih =>
    have htype := ih (hs.part (by simp [describedParts, parts]))
    simp only [describe, htype]
  | union ss ih =>
    rw [describe, describe, describeAll_eq, describeAll_eq]
    have hmembers : ∀ s ∈ ss, (s.describe other v).inSeries = (s.describe env v).inSeries :=
      fun s hs' => congrArg _ (ih s hs' (hs.part (by simpa [describedParts, parts])) v)
    rw [Run.collect_congr hmembers]
  | intersection ss ih =>
    rw [describe, describe, describeAll_eq, describeAll_eq]
    have hmembers : ∀ s ∈ ss, (s.describe other v).inSeries = (s.describe env v).inSeries :=
      fun s hs' => congrArg _ (ih s hs' (hs.part (by simpa [describedParts, parts])) v)
    rw [Run.collect_congr hmembers]
  | bounded s lower upper ih | lengthBounded s lower upper ih =>
    have hinner := ih (hs.part (by simp [describedParts, parts])) v
    rw [describe, describe, hinner]
  | exactLength s size ih =>
    have hinner := ih (hs.part (by simp [describedParts, parts])) v
    rw [describe, describe, hinner]
  | predicate t d =>
    have hsame : other.describe d = env.describe d := hs.node
    rw [describe, describe, hsame]
  | foreign x => simp only [describe, Env.ask, hcall]
  | kind | unnamedKind | bigint | literal | oneOf | shape | array => rw [describe, describe]

theorem suppliedAlike_of_reached (phase : Phase)
    (h : ∀ t d, Occurs phase.parts (.predicate t d) s →
      phase.supplied other (phase.callback t d) = phase.supplied env (phase.callback t d)) :
    s.Every phase.parts (SuppliedAlike env other phase) := by
  intro u hu
  cases u with
  | predicate t d => exact h t d hu
  | _ => trivial

/-! ## Parts that a walk passes by -/

section Context

variable {t : Schema}

theorem Frame.test_fill_congr (h : ∀ v, s.test env v = t.test env v) (f : Frame) (v : Value) :
    (f.fill s).test env v = (f.fill t).test env v := by
  cases f with
  | type xs => rfl
  | field before key after =>
    have hfields :
        (before ++ (key, s) :: after).map (fun f => (f.2.test env (v.field f.1)).inSeries) =
          (before ++ (key, t) :: after).map fun f => (f.2.test env (v.field f.1)).inSeries := by
      simp only [List.map_append, List.map_cons, h]
    rw [Frame.fill, Frame.fill, test_shape, test_shape, Run.forAll_congr_map hfields]
  | alternative before after =>
    rw [Frame.fill, Frame.fill, test_union, test_union]
    exact Run.forAny_congr_map (by simp only [List.map_append, List.map_cons, h])
  | conjunct before after =>
    rw [Frame.fill, Frame.fill, test_intersection, test_intersection]
    exact Run.forAll_congr_map (by simp only [List.map_append, List.map_cons, h])
  | _ => simp only [Frame.fill, test, h]

theorem Frame.describe_fill_congr (h : ∀ v, s.describe env v = t.describe env v) (f : Frame)
    (v : Value) : (f.fill s).describe env v = (f.fill t).describe env v := by
  have hmembers (before after : List Schema) :
      describeAll env (before ++ s :: after) v = describeAll env (before ++ t :: after) v := by
    rw [describeAll_eq, describeAll_eq]
    exact Run.collect_congr_map (by simp only [List.map_append, List.map_cons, h])
  cases f with
  | field before key after => rfl
  | item => rfl
  | alternative before after => rw [Frame.fill, Frame.fill, describe, describe, hmembers]
  | conjunct before after => rw [Frame.fill, Frame.fill, describe, describe, hmembers]
  | _ => simp only [Frame.fill, describe, h]

/-- Schemas that are tested alike are so in every context. -/
theorem Context.test_fill_congr (h : ∀ v, s.test env v = t.test env v) (c : Context) (v : Value) :
    (c.fill s).test env v = (c.fill t).test env v := by
  induction c generalizing v with
  | nil => exact h v
  | cons f c ih => exact Frame.test_fill_congr ih f v

theorem Context.describe_fill_congr (h : ∀ v, s.describe env v = t.describe env v) (c : Context)
    (v : Value) : (c.fill s).describe env v = (c.fill t).describe env v := by
  induction c generalizing v with
  | nil => exact h v
  | cons f c ih => exact Frame.describe_fill_congr ih f v

end Context

/-! ## Admission -/

/-- The calls of one test, followed by those of one description if the test came out false. -/
def callsInTurn (env : Env) (s : Schema) (v : Value) : List Call :=
  (s.test env v).calls ++
    if (s.test env v).outcome = .ok false then (s.describe env v).calls else []

theorem parse_calls (env : Env) (s : Schema) (v : Value) :
    (s.parse env v).calls = s.callsInTurn env v := by
  unfold parse callsInTurn
  have htest : ((s.test env v).mapError Refusal.fault).outcome =
      (s.test env v).outcome.mapError .fault := Run.outcome_mapError _ _
  cases ho : (s.test env v).outcome with
  | error f =>
    rw [ho] at htest
    rw [Run.calls_bind_error htest, Run.calls_mapError]
    simp
  | ok b =>
    rw [ho] at htest
    rw [Run.calls_bind_ok htest, Run.calls_mapError]
    cases b with
    | true => rfl
    | false =>
      -- nothing is called after the description, whether it fails or not
      have hdescribe : ∀ m : Value, (Run.fail (.rejected m) : Run Refusal Value).calls = [] :=
        fun _ => rfl
      simp only [Bool.false_eq_true, if_false, if_true]
      cases hd : ((s.describe env v).mapError Refusal.fault).outcome with
      | error f => rw [Run.calls_bind_error hd, Run.calls_mapError]
      | ok m => rw [Run.calls_bind_ok hd, Run.calls_mapError, hdescribe, List.append_nil]

/-- Testing and describing are separate walks. Each calls functions of its own phase alone, depends
on no other ones, and passes by the type of options, or the parts of shapes and arrays, wherever
they stand. To admit a value is to test it once and, if and only if the test came out false, to
describe it once. -/
theorem walks_separate (env : Env) (s : Schema) (v : Value) :
    ((∀ c ∈ (s.test env v).calls, Leads env .test s c) ∧
      ∀ other : Env, other.call = env.call →
        (∀ t d, Occurs testedParts (.predicate t d) s → other.test t = env.test t) →
        s.test other v = s.test env v) ∧
    (∀ (c : Context) (t u : Schema) (xs : List Value),
      (c.fill (oneOfType t xs)).test env v = (c.fill (oneOfType u xs)).test env v) ∧
    ((∀ c ∈ (s.describe env v).calls, Leads env .describe s c) ∧
      ∀ other : Env, other.call = env.call →
        (∀ t d, Occurs describedParts (.predicate t d) s → other.describe d = env.describe d) →
        s.describe other v = s.describe env v) ∧
    (∀ (c : Context) (fs gs : List (Value × Schema)),
      (c.fill (shape fs)).describe env v = (c.fill (shape gs)).describe env v) ∧
    (∀ (c : Context) (t u : Schema),
      (c.fill (array t)).describe env v = (c.fill (array u)).describe env v) ∧
    (s.parse env v).calls = s.callsInTurn env v ∧
      (s.parseUnknown env v).calls = s.callsInTurn env v ∧
      (s.tryParse env v).calls = s.callsInTurn env v := by
  have hparse : (s.parse env v).calls = s.callsInTurn env v := parse_calls env s v
  refine ⟨⟨?_, ?_⟩, ?_, ⟨?_, ?_⟩, ?_, ?_, hparse, hparse, hparse⟩
  · exact test_callsOnly (every_leads env .test s) v
  · intro other hcall h
    exact test_congr_env hcall (suppliedAlike_of_reached .test h) v
  · intro c t u xs
    have hoptions : ∀ w, (oneOfType t xs).test env w = (oneOfType u xs).test env w :=
      fun _ => rfl
    exact c.test_fill_congr hoptions v
  · exact describe_callsOnly (every_leads env .describe s) v
  · intro other hcall h
    exact describe_congr_env hcall (suppliedAlike_of_reached .describe h) v
  · intro c fs gs
    have hshape : ∀ w, (shape fs).describe env w = (shape gs).describe env w := fun _ => rfl
    exact c.describe_fill_congr hshape v
  · intro c t u
    have harray : ∀ w, (array t).describe env w = (array u).describe env w := fun _ => rfl
    exact c.describe_fill_congr harray v

def evenOption : Schema :=
  .union [.predicate (.named "even") (.named "kind"),
    .oneOfType (.predicate (.named "raise") (.named "const")) [.int 3]]

/-- The type of the options is described but not tested, so that its test, which fails, does no
harm; and a test is the same where nothing can be described. -/
theorem walks_separate_evenOption :
    evenOption.test { Env.stock with describe := fun _ _ => Run.fail .noMember } (.str "odd") =
        evenOption.test Env.stock (.str "odd") ∧
      (evenOption.test Env.stock (.str "odd")).calls = [⟨.test, .named "even"⟩] ∧
      (evenOption.tryParse Env.stock (.str "odd")).calls =
        [⟨.test, .named "even"⟩, ⟨.describe, .named "kind"⟩, ⟨.describe, .named "const"⟩] := by
  obtain ⟨⟨-, htest⟩, -, -, -, -, -, -, hcalls⟩ := walks_separate Env.stock evenOption (.str "odd")
  refine ⟨htest _ rfl fun _ _ _ => rfl, rfl, ?_⟩
  rw [hcalls]
  rfl

end Schema
end Conform
