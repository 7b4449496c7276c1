import Conform.Result.Chain
import Conform.Schema.Supplied

/-! The laws of results. The functions that are handed to a result have effects in any lawful
monad: they may fail, call others or change a state. Values chain as in a monad by `flatMap`,
errors by `orElse`, and a step of the side that a result is not on hands on the very object without
an effect: its tag is the old one, and none is drawn. What is read off a result in the end goes by
its variant. -/

namespace Conform
set_option autoImplicit false

namespace Result

/-! ## The two sides -/

section Sides

variable {m : Type → Type} [Monad m] (new : m Tag)

/-- Values make a monad, of which `map` is the functor and `andThen` another name. A success that is
wrapped up again has the same content under a new tag. -/
structure ChainsValues : Prop where
  unit_left : ∀ {ε α β : Type} (tag : Tag) (v : α) (f : α → m (Object ε β)),
    (Object.mk tag (ok v)).flatMap f = f v
  unit_right : ∀ {ε α : Type} (r : Object ε α), r.flatMap (fun v => make new (ok v)) =
    make (if r.content.isOk then new else pure r.tag) r.content
  assoc : ∀ {ε α β γ : Type} (r : Object ε α) (f : α → m (Object ε β)) (g : β → m (Object ε γ)),
    (r.flatMap f >>= fun s => s.flatMap g) = r.flatMap fun v => f v >>= fun s => s.flatMap g
  map_eq : ∀ {ε α β : Type} (r : Object ε α) (f : α → m β),
    r.map new f = r.flatMap fun v => f v >>= fun w => make new (ok w)
  andThen_eq : ∀ {ε α β : Type} (r : Object ε α) (f : α → m (Object ε β)), r.andThen f = r.flatMap f

/-- Errors make a monad, too. -/
structure ChainsErrors : Prop where
  unit_left : ∀ {ε ε' α : Type} (tag : Tag) (e : ε) (f : ε → m (Object ε' α)),
    (Object.mk tag (err e)).orElse f = f e
  unit_right : ∀ {ε α : Type} (r : Object ε α), r.orElse (fun e => make new (err e)) =
    make (if r.content.isErr then new else pure r.tag) r.content
  assoc : ∀ {ε ε' ε'' α : Type} (r : Object ε α) (f : ε → m (Object ε' α))
    (g : ε' → m (Object ε'' α)),
    (r.orElse f >>= fun s => s.orElse g) = r.orElse fun e => f e >>= fun s => s.orElse g
  map_eq : ∀ {ε ε' α : Type} (r : Object ε α) (f : ε → m ε'),
    r.mapErr new f = r.orElse fun e => f e >>= fun d => make new (err d)

variable [LawfulMonad m]

theorem chainsValues : ChainsValues new where
  unit_left tag v f := rfl
  unit_right r := by
    obtain ⟨tag, v | e⟩ := r
    · rfl
    · exact (pure_bind tag fun tag => pure (Object.mk tag (err e))).symm
  assoc r f g := by
    obtain ⟨tag, v | e⟩ := r
    · rfl
    · exact pure_bind (Object.mk tag (err e)) _
  map_eq r f := by obtain ⟨tag, v | e⟩ := r <;> rfl
  andThen_eq r f := by obtain ⟨tag, v | e⟩ := r <;> rfl

theorem chainsErrors : ChainsErrors new where
  unit_left tag e f := rfl
  unit_right r := by
    obtain ⟨tag, v | e⟩ := r
    · exact (pure_bind tag fun tag => pure (Object.mk tag (ok v))).symm
    · rfl
  assoc r f g := by
    obtain ⟨tag, v | e⟩ := r
    · exact pure_bind (Object.mk tag (ok v)) _
    · rfl
  map_eq r f := by obtain ⟨tag, v | e⟩ := r <;> rfl

end Sides

/-! ## Chains -/

/-- A step from result to result, over one type of values and one type of errors. -/
inductive Link (m : Type → Type) (ε α : Type) where
  | map (f : α → m α)
  | mapErr (f : ε → m ε)
  | flatMap (f : α → m (Object ε α))
  | andThen (f : α → m (Object ε α))
  | orElse (f : ε → m (Object ε α))

namespace Link

variable {m : Type → Type} [Monad m] {ε α : Type} (new : m Tag)

def run : Link m ε α → Object ε α → m (Object ε α)
  | map f, r => r.map new f
  | mapErr f, r => r.mapErr new f
  | flatMap f, r => r.flatMap f
  | andThen f, r => r.andThen f
  | orElse f, r => r.orElse f

/-- The step is about values and not about errors. -/
def onValue : Link m ε α → Bool
  | map _ | flatMap _ | andThen _ => true
  | mapErr _ | orElse _ => false

/-- The steps in order, as far as their functions come to an end. -/
def runAll (ls : List (Link m ε α)) (r : Object ε α) : m (Object ε α) :=
  ls.foldlM (fun s l => l.run new s) r

theorem run_of_other_side {l : Link m ε α} {r : Object ε α} (h : l.onValue ≠ r.content.isOk) :
    l.run new r = pure r := by
  obtain ⟨tag, v | e⟩ := r
  · cases l with
    | map | flatMap | andThen => exact absurd rfl h
    | mapErr | orElse => rfl
  · cases l with
    | map | flatMap | andThen => rfl
    | mapErr | orElse => exact absurd rfl h

theorem runAll_of_other_side [LawfulMonad m] {ls : List (Link m ε α)} {r : Object ε α}
    (h : ∀ l ∈ ls, l.onValue ≠ r.content.isOk) (rest : List (Link m ε α)) :
    runAll new (ls ++ rest) r = runAll new rest r := by
  induction ls with
  | nil => rfl
  | cons l ls ih =>
    obtain ⟨hl, hls⟩ := List.forall_mem_cons.mp h
    rw [List.cons_append, runAll, List.foldlM_cons, run_of_other_side new hl, pure_bind]
    exact ih hls

end Link

end Result

/-! ## Reported chains -/

namespace Step

/-- Whether a step from result to result is about values; other steps only report. -/
def onValue? : Step → Option Bool
  | map _ | flatMap _ | andThen _ => some true
  | mapErr _ | orElse _ => some false
  | _ => none

/-- The reports of steps that are taken one after another, and the last result. -/
def runAll (env : Env) : List Step → Result.Object Term Term →
    Making (List Report × Result.Object Term Term)
  | [], r => pure ([], r)
  | s :: ss, r => do
    let (report, r) ← s.run env r
    let (reports, r) ← runAll env ss r
    pure (report :: reports, r)

variable {env : Env} {r : Result.Object Term Term}

/-- That it is the same is seen from the tag that comes back. -/
theorem settle_self : settle r (pure r) = pure (.moved (.ofObject r) true, r) := by
  have h : settle r (pure r) = pure (.moved (.ofObject r) (r.tag == r.tag), r) := rfl
  rw [h, beq_self_eq_true]

theorem run_of_other_side {s : Step} {side : Bool} (hs : s.onValue? = some side)
    (h : side ≠ r.content.isOk) : s.run env r = pure (.moved (.ofObject r) true, r) := by
  refine Eq.trans ?_ settle_self
  obtain ⟨tag, t | t⟩ := r
  · cases s with
    | map | flatMap | andThen => cases hs; exact absurd rfl h
    | mapErr | orElse => rfl
    | _ => cases hs
  · cases s with
    | map | flatMap | andThen => rfl
    | mapErr | orElse => cases hs; exact absurd rfl h
    | _ => cases hs

theorem runAll_of_other_side {ss : List Step}
    (h : ∀ s ∈ ss, s.onValue? = some (!r.content.isOk)) :
    runAll env ss r = pure (ss.map fun _ => .moved (.ofObject r) true, r) := by
  induction ss with
  | nil => rfl
  | cons s ss ih =>
    obtain ⟨hs, hss⟩ := List.forall_mem_cons.mp h
    rw [runAll, run_of_other_side hs (by simp), pure_bind]
    change (runAll env ss r >>= _) = _
    rw [ih hss, pure_bind]
    rfl

end Step

/-! ## Readings -/

namespace Result

section Readings

variable (m : Type → Type) [Monad m] {ε α : Type}

/-- Whatever is read off the result is the value. -/
structure ReadsValue (r : Result ε α) (v : α) : Prop where
  isOk : r.isOk = true
  isErr : r.isErr = false
  fold : ∀ {γ : Type} (f : α → m γ) (g : ε → m γ), r.fold f g = f v
  unwrap : ∀ {φ : Type} (complain : ε → φ), r.unwrap complain = .ok v
  unwrapOr : ∀ default, r.unwrapOr default = v
  unwrapOrElse : ∀ h : ε → m α, r.unwrapOrElse h = pure v
  toList : r.toList = [v]

/-- Whatever is read off the result is made of the error or given in its place. -/
structure ReadsError (r : Result ε α) (e : ε) : Prop where
  isOk : r.isOk = false
  isErr : r.isErr = true
  fold : ∀ {γ : Type} (f : α → m γ) (g : ε → m γ), r.fold f g = g e
  unwrap : ∀ {φ : Type} (complain : ε → φ), r.unwrap complain = .error (complain e)
  unwrapOr : ∀ default, r.unwrapOr default = default
  unwrapOrElse : ∀ h : ε → m α, r.unwrapOrElse h = h e
  toList : r.toList = []

theorem readsValue (v : α) : ReadsValue m (ok v : Result ε α) v :=
  ⟨rfl, rfl, fun _ _ => rfl, fun _ => rfl, fun _ => rfl, fun _ => rfl, rfl⟩

theorem readsError (e : ε) : ReadsError m (err e : Result ε α) e :=
  ⟨rfl, rfl, fun _ _ => rfl, fun _ => rfl, fun _ => rfl, fun _ => rfl, rfl⟩

end Readings

/-! ## All laws -/

/-- Results chain lawfully on both sides. A chain hands its result over the steps of the other side
without an effect, as the very object that it was, and what is read off goes by the variant. -/
theorem results_lawful (m : Type → Type) [Monad m] [LawfulMonad m] (new : m Tag) :
    (ChainsValues new ∧ ChainsErrors new) ∧
    (∀ {ε α : Type} (r : Object ε α) (ls rest : List (Link m ε α)),
      (∀ l ∈ ls, l.onValue ≠ r.content.isOk) →
        Link.runAll new ls r = pure r ∧ Link.runAll new (ls ++ rest) r = Link.runAll new rest r) ∧
    (∀ env (r : Object Term Term) (ss : List Step),
      (∀ s ∈ ss, s.onValue? = some (!r.content.isOk)) →
        Step.runAll env ss r = pure (ss.map fun _ => .moved (.ofObject r) true, r)) ∧
    ∀ {ε α : Type} (r : Object ε α),
      (∃ v, r.content = ok v ∧ ReadsValue m r.content v) ∨
        ∃ e, r.content = err e ∧ ReadsError m r.content e := by
  refine ⟨⟨chainsValues new, chainsErrors new⟩, fun r ls rest h => ⟨?_, ?_⟩, fun env r ss h => ?_,
    fun r => ?_⟩
  · have hall := Link.runAll_of_other_side new h []
    rw [List.append_nil] at hall
    exact hall
  · exact Link.runAll_of_other_side new h rest
  · exact Step.runAll_of_other_side h
  · obtain ⟨tag, v | e⟩ := r
    · exact .inl ⟨v, rfl, readsValue m v⟩
    · exact .inr ⟨e, rfl, readsError m e⟩

/-- Effects in which tags are drawn, functions are called and faults arise. -/
abbrev Calling := StateT Tag (Run Fault)

def Calling.tag : Calling Tag := modifyGet fun tag => (tag, tag + 1)

/-- What comes of a call that is made under a name. -/
def calling {α : Type} (name : String) (outcome : Except Fault α) : Calling α := do
  StateT.lift (Run.call ⟨.test, .named name⟩)
  StateT.lift (Run.lift outcome)

/-- Two functions of which the second one fails, and a chain that changes sides; the failure that it
starts from is the first object, and what comes in its place the next one. -/
theorem results_lawful_calling :
    let f (v : Int) : Calling (Object String Int) := do
      make Calling.tag (ok (← calling "f" (.ok (v + 1))))
    let g (_ : Int) : Calling (Object String Int) := calling "g" (.error .zeroPower)
    let h (e : String) : Calling (Object String Int) := do
      make Calling.tag (ok (← calling "h" (.ok (e.length : Int))))
    let called (name : String) : Call := ⟨.test, .named name⟩
    let failure : Object String Int := ⟨0, err "none"⟩
    let across : List (Link Calling String Int) := [.map fun _ => calling "k" (.ok 0), .flatMap g]
    ((Object.mk 0 (ok 1)).flatMap f >>= fun r => r.flatMap g).run 1 =
        ⟨.error .zeroPower, [called "f", called "g"]⟩ ∧
      (Link.runAll Calling.tag across failure).run 1 = ⟨.ok (failure, 1), []⟩ ∧
      (Link.runAll Calling.tag (across ++ [.orElse h, .andThen f]) failure).run 1 =
        ⟨.ok (⟨2, ok 5⟩, 3), [called "h", called "f"]⟩ ∧
      (Step.runAll Env.stock [.map (.raise "a"), .flatMap .identity]
          ⟨0, err (.value (.int 1))⟩).run 1 =
        .ok (([.moved (.err 0 (.value (.int 1))) true, .moved (.err 0 (.value (.int 1))) true],
          ⟨0, err (.value (.int 1))⟩), 1) ∧
      ReadsValue Calling (ok 5 : Result String Int) 5 := by
  intro f g h called failure across
  have hlaws := results_lawful Calling Calling.tag
  have hacross : ∀ l ∈ across, l.onValue ≠ failure.content.isOk := by
    simp [across, failure, Link.onValue, isOk]
  refine ⟨?_, ?_, ?_, ?_, ?_⟩
  · rw [hlaws.1.1.assoc, hlaws.1.1.unit_left]
    rfl
  · rw [(hlaws.2.1 failure across [] hacross).1]
    rfl
  · rw [(hlaws.2.1 failure across _ hacross).2]
    rfl
  · rw [hlaws.2.2.1 _ _ _ (by simp [Step.onValue?, isOk])]
    rfl
  · obtain ⟨v, hv, hr⟩ | ⟨e, he, -⟩ := hlaws.2.2.2 (Object.mk 0 (ok 5) : Object String Int)
    · cases hv
      exact hr
    · cases he

end Result
end Conform
