import Conform.Proofs.Schema.Walks

/-! The wording of explanations. What a schema of the library's own nodes says of values of one kind
is a fixed wording with holes, into which the form of the value in messages is filled. There is a
hole exactly where the message shows the value; kinds, shapes and arrays show its kind alone. -/

namespace Conform
set_option autoImplicit false

/-- A text in pieces; a piece that is missing is a hole. -/
abbrev Wording := List (Option String)

namespace Wording

def fill (d : String) : Wording → String
  | [] => ""
  | piece :: w => piece.getD d ++ fill d w

variable {d e : String} {w : Wording}

theorem fill_append (w' : Wording) : fill d (w ++ w') = fill d w ++ fill d w' := by
  induction w with
  | nil => simp [fill]
  | cons piece w ih => simp [fill, ih, String.append_assoc]

theorem fill_joined (separator : String) (ws : List Wording) :
    fill d ([some separator].intercalate ws) = joined separator (ws.map (fill d)) := by
  unfold joined
  induction ws with
  | nil => simp [fill]
  | cons w ws ih =>
    cases ws with
    | nil => simp
    | cons w' ws =>
      have hpieces : [some separator].intercalate (w :: w' :: ws) =
          w ++ some separator :: [some separator].intercalate (w' :: ws) := by
        simp [List.intercalate]
      rw [hpieces, fill_append, fill, ih]
      simp [String.append_assoc]

/-! ## Holes -/

theorem fill_length :
    (fill d w).length = (fill "" w).length + w.count none * d.length := by
  induction w with
  | nil => simp [fill]
  | cons piece w ih =>
    cases piece with
    | none =>
      simp only [fill, String.length_append, Option.getD_none, List.count_cons_self, ih]
      have hempty : "".length = 0 := rfl
      rw [hempty, Nat.add_mul]
      omega
    | some t =>
      have hcount : (some t :: w).count none = w.count none := by simp
      simp only [fill, String.length_append, Option.getD_some, hcount, ih]
      omega

theorem length_eq_of_fill_eq (hw : none ∈ w) (h : fill d w = fill e w) : d.length = e.length := by
  have hlength := congrArg String.length h
  rw [fill_length, @fill_length e, Nat.add_left_cancel_iff] at hlength
  exact Nat.eq_of_mul_eq_mul_left (List.count_pos_iff.mpr hw) hlength

theorem append_inj {s t u v : String} (h : s ++ t = u ++ v) (hlength : s.length = u.length) :
    s = u ∧ t = v := by
  have hchars : s.toList ++ t.toList = u.toList ++ v.toList := by
    rw [← String.toList_append, h, String.toList_append]
  have hcount : s.toList.length = u.toList.length := by
    rw [String.length_toList, hlength, String.length_toList]
  obtain ⟨hs, ht⟩ := List.append_inj hchars hcount
  exact ⟨String.toList_inj.mp hs, String.toList_inj.mp ht⟩

theorem fill_injective (hw : none ∈ w) (h : fill d w = fill e w) : d = e := by
  -- the length of a text tells that of what was filled in, so that the first hole can be cut off
  have hlength := length_eq_of_fill_eq hw h
  induction w with
  | nil => exact absurd hw List.not_mem_nil
  | cons piece w ih =>
    cases piece with
    | none => exact (append_inj h hlength).1
    | some t =>
      have hrest : fill d w = fill e w := (String.append_right_inj t).mp h
      have hmem : none ∈ w := by simpa using hw
      exact ih hmem hrest

/-- The wording of an expectation, by what was expected and what there is instead. -/
def expected (want : Wording) (got : Option String) : Wording :=
  some "Expected " :: (want ++ [some ", got ", got])

theorem fill_expected (want : Wording) (got : Option String) :
    .str (fill d (expected want got)) = Describe.expected (fill d want) (got.getD d) := by
  have hpieces : fill d (expected want got) =
      "Expected " ++ fill d want ++ ", got " ++ got.getD d := by
    simp [expected, fill, fill_append, String.append_assoc]
  rw [hpieces]
  simp [Describe.expected, String.append_assoc]

theorem none_mem_expected (want : Wording) : none ∈ expected want none := by
  simp [expected]

end Wording

namespace Schema

/-- A node of the library's own, no supplied function and no value in the place of a schema. -/
def IsOwn : Schema → Prop
  | .predicate .. | .foreign _ => False
  | _ => True

/-- The explanation shows the value itself, not only its kind. -/
def showsValue : Schema → Bool
  | .nullable s | .undefinable s => s.showsValue
  | .kind _ | .unnamedKind _ | .bigint | .shape _ | .array _ => false
  | _ => true

variable (env : Env) (k : Kind)

/-- What the schema says of values of a kind is the wording, filled with the form of the value. -/
structure Words (s : Schema) (w : Wording) : Prop where
  shows : s.showsValue = true → none ∈ w
  spells {v : Value} {d : String} {m : Value} (hk : v.kind = k)
    (hd : s.showsValue = true → v.display = .ok d) (hm : (s.describe env v).outcome = .ok m) :
    m = .str (w.fill d)
  displays {v m : Value} (hs : s.showsValue = true) (hm : (s.describe env v).outcome = .ok m) :
    ∃ d, v.display = .ok d

/-! ## Nodes -/

section Nodes

variable {env k} {s : Schema} {w : Wording}

theorem words_of_none (h : ∀ v m, (s.describe env v).outcome ≠ .ok m) :
    ∃ w, Words env k s w :=
  ⟨[none], fun _ => List.mem_singleton_self none, fun _ _ hm => absurd hm (h _ _),
    fun _ hm => absurd hm (h _ _)⟩

theorem words_kind (want : String) (hdescribe : ∀ v, (s.describe env v).outcome =
    .ok (Describe.expected want v.kind.name)) (hs : s.showsValue = false) :
    ∃ w, Words env k s w := by
  have hnot {p : Prop} (h : s.showsValue = true) : p := by
    rw [hs] at h
    cases h
  refine ⟨.expected [some want] (some k.name), hnot, fun {v d m} hk _ hm => ?_, fun h _ => hnot h⟩
  rw [hdescribe] at hm
  rw [Wording.fill_expected, ← Except.ok.inj hm, hk]
  simp [Wording.fill]

/-- The rule for nodes that show the value. -/
theorem words_got {α : Type} (w : Wording) (x : Value → Except Fault α) (what : α → String)
    (hs : s.showsValue = true)
    (hdescribe : ∀ v, (s.describe env v).outcome =
      (do let a ← x v; let got ← v.display; .ok (Describe.expected (what a) got)))
    (hx : ∀ v d a, v.kind = k → v.display = .ok d → x v = .ok a → what a = w.fill d) :
    Words env k s (.expected w none) := by
  refine ⟨fun _ => Wording.none_mem_expected w, fun hk hd hm => ?_, fun _ hm => ?_⟩
  · rw [hdescribe] at hm
    obtain ⟨a, ha, hm⟩ := bind_ok hm
    rw [hd hs] at hm
    rw [Wording.fill_expected, ← hx _ _ a hk (hd hs) ha]
    exact (Except.ok.inj hm).symm
  · rw [hdescribe] at hm
    obtain ⟨a, _, hm⟩ := bind_ok hm
    obtain ⟨got, hgot, _⟩ := bind_ok hm
    exact ⟨got, hgot⟩

theorem words_constant {α : Type} (x : Except Fault α) (what : α → String)
    (hs : s.showsValue = true)
    (hdescribe : ∀ v, (s.describe env v).outcome =
      (do let a ← x; let got ← v.display; .ok (Describe.expected (what a) got))) :
    ∃ w, Words env k s w := by
  cases x with
  | error f => exact words_of_none fun v m hm => by simp [hdescribe, bind, Except.bind] at hm
  | ok a =>
    refine ⟨_, words_got [some (what a)] (fun _ => .ok a) what hs hdescribe fun v d b _ _ hb => ?_⟩
    rw [← Except.ok.inj hb]
    simp [Wording.fill]

/-- What was expected is what a part says, with something behind it. -/
theorem words_behind {part : Schema} (hw : ∃ w, Words env k part w) (hs : s.showsValue = true)
    {f : Value → Except Fault String} (behind : Except Fault String)
    (hf : ∀ t, f (.str t) = behind.map (t ++ ·))
    (hdescribe : ∀ v, (s.describe env v).outcome =
      (do let inner ← (part.describe env v).outcome
          let want ← f inner
          let got ← v.display
          .ok (Describe.expected want got))) :
    ∃ w, Words env k s w := by
  obtain ⟨w, hw⟩ := hw
  refine ⟨_, words_got (w ++ [some (behind.toOption.getD "")])
    (fun v => (part.describe env v).outcome >>= f) id hs ?_ ?_⟩
  · intro v
    rw [hdescribe, bind_assoc]
    rfl
  · intro v d a hk hd ha
    obtain ⟨inner, hinner, ha⟩ := bind_ok ha
    rw [hw.spells hk (fun _ => hd) hinner, hf] at ha
    cases behind with
    | error e => cases ha
    | ok text =>
      rw [id, ← Except.ok.inj ha, Wording.fill_append]
      simp [Wording.fill, Except.toOption]

/-- A part's explanation goes into that of the whole, which shows the kind of the value. -/
theorem words_around {part : Schema} (hw : ∃ w, Words env k part w)
    (hs : s.showsValue = part.showsValue) (before : String)
    (hdescribe : ∀ v, (s.describe env v).outcome =
      (do let inner ← (part.describe env v).outcome
          let text ← inner.text
          .ok (Describe.expected (before ++ text) v.kind.name))) :
    ∃ w, Words env k s w := by
  obtain ⟨w, hw⟩ := hw
  refine ⟨.expected (some before :: w) (some k.name), fun h => ?_, fun {v d m} hk hd hm => ?_,
    fun h hm => ?_⟩
  · have hmem : none ∈ w := hw.shows (hs ▸ h)
    simp [Wording.expected, hmem]
  · rw [hdescribe] at hm
    obtain ⟨inner, hinner, hm⟩ := bind_ok hm
    rw [hs] at hd
    rw [hw.spells hk hd hinner] at hm
    rw [Wording.fill_expected, ← hk]
    exact (Except.ok.inj hm).symm
  · rw [hdescribe] at hm
    obtain ⟨inner, hinner, _⟩ := bind_ok hm
    exact hw.displays (hs ▸ h) hinner

theorem reasons_texts (ts : List String) :
    Describe.reasons (ts.map .str) = .ok (joined ", " ts) := by
  have hstrings : Describe.strings? (ts.map .str) = some ts := by
    induction ts with
    | nil => rfl
    | cons t ts ih => rw [List.map_cons, Describe.strings?, ih, Option.map_some]
  rw [Describe.reasons, hstrings]

theorem collect_spells {ss : List Schema} (h : ∀ s ∈ ss, ∃ w, Words env k s w) :
    ∃ ws : List Wording, ∀ v d whys, v.kind = k → v.display = .ok d →
      (Run.collect (fun s => (s.describe env v).inSeries) ss).outcome = .ok whys →
        whys = (ws.map (Wording.fill d)).map .str := by
  induction ss with
  | nil => exact ⟨[], fun v d whys _ _ hc => (Except.ok.inj hc).symm⟩
  | cons s ss ih =>
    obtain ⟨⟨w, hw⟩, hrest⟩ := List.forall_mem_cons.mp h
    obtain ⟨ws, hws⟩ := ih hrest
    refine ⟨w :: ws, fun v d whys hk hd hc => ?_⟩
    rw [Run.collect, Run.outcome_bind] at hc
    obtain ⟨why, hseries, hc⟩ := bind_ok hc
    have hwhy : (s.describe env v).outcome = .ok why :=
      (Run.UpToSeries.inSeries _).ok_iff.mp hseries
    rw [Run.outcome_bind] at hc
    obtain ⟨whys', hwhys, hc⟩ := bind_ok hc
    rw [← Except.ok.inj hc, hw.spells hk (fun _ => hd) hwhy, hws v d whys' hk hd hwhys]
    rfl

theorem words_reasons {members : List Schema} (h : ∀ t ∈ members, ∃ w, Words env k t w)
    (hs : s.showsValue = true) (before : String)
    (hdescribe : ∀ v, (s.describe env v).outcome =
      (do let whys ← (Run.collect (fun t => (t.describe env v).inSeries) members).outcome
          let text ← Describe.reasons whys
          let got ← v.display
          .ok (Describe.expected (before ++ text) got))) :
    ∃ w, Words env k s w := by
  obtain ⟨ws, hws⟩ := collect_spells h
  refine ⟨_, words_got (some before :: [some ", "].intercalate ws)
    (fun v => (Run.collect (fun t => (t.describe env v).inSeries) members).outcome >>=
      Describe.reasons)
    (before ++ ·) hs ?_ ?_⟩
  · intro v
    rw [hdescribe, bind_assoc]
  · intro v d text hk hd ha
    obtain ⟨whys, hwhys, ha⟩ := bind_ok ha
    rw [hws v d whys hk hd hwhys, reasons_texts] at ha
    rw [← Except.ok.inj ha, Wording.fill, Wording.fill_joined]
    rfl

end Nodes

theorem bounds_behind (lower upper : Value) (suffix : String) : ∃ behind : Except Fault String,
    ∀ t, Describe.bounds (.str t) lower upper suffix = behind.map (t ++ ·) := by
  have htext (t : String) : (Value.str t).text = .ok t := rfl
  cases hl : lower.isNull with
  | true =>
    refine ⟨upper.display.map (suffix ++ " <= " ++ ·), fun t => ?_⟩
    simp only [Describe.bounds, htext, hl, if_true]
    cases upper.display <;> simp [bind, Except.bind, Except.map, String.append_assoc]
  | false =>
    cases hu : upper.isNull with
    | true =>
      refine ⟨lower.display.map (suffix ++ " >= " ++ ·), fun t => ?_⟩
      simp only [Describe.bounds, htext, hl, hu, if_true, Bool.false_eq_true, if_false]
      cases lower.display <;> simp [bind, Except.bind, Except.map, String.append_assoc]
    | false =>
      refine ⟨do .ok (suffix ++ " >= " ++ (← lower.display) ++ " && <= " ++ (← upper.display)),
        fun t => ?_⟩
      simp only [Describe.bounds, htext, hl, hu, Bool.false_eq_true, if_false]
      cases lower.display <;> cases upper.display <;>
        simp [bind, Except.bind, Except.map, String.append_assoc]

/-! ## Whole schemas -/

/-- Each own node makes a wording of those of the parts that it describes. -/
theorem exists_words {s : Schema} (hs : s.Every describedParts IsOwn) : ∃ w, Words env k s w := by
  induction s with
  | kind name => exact words_kind name (fun _ => rfl) rfl
  | unnamedKind x =>
    cases hx : x.text with
    | error f =>
      refine words_of_none fun v m hm => ?_
      rw [describe, Run.outcome_lift, hx] at hm
      cases hm
    | ok t =>
      refine words_kind t (fun v => ?_) rfl
      rw [describe, Run.outcome_lift, hx]
      rfl
  | bigint => exact words_kind "bigint" (fun _ => rfl) rfl
  | nullable s ih =>
    have hpart := ih (hs.part (by simp [describedParts, parts]))
    refine words_around hpart rfl "null or " fun v => ?_
    simp only [describe, Run.outcome_bind, Run.outcome_lift, Run.outcome_pure]
  | undefinable s ih =>
    have hpart := ih (hs.part (by simp [describedParts, parts]))
    refine words_around hpart rfl "undefined or " fun v => ?_
    simp only [describe, Run.outcome_bind, Run.outcome_lift, Run.outcome_pure]
  | literal x => exact words_constant x.display id rfl fun v => rfl
  | oneOf xs =>
    exact words_constant ((Describe.displayed xs).mapError Fault.inSeries) _ rfl fun v => rfl
  | oneOfType s xs ih =>
    -- the type describes the options in place of the value
    refine words_constant ((Run.collect (fun x => (s.describe env x).inSeries) xs).outcome >>=
      Describe.reasons) ("one of " ++ ·) rfl fun v => ?_
    simp only [describe, Run.outcome_bind, Run.outcome_lift, bind_assoc]
  | shape fs _ => exact words_kind "object" (fun _ => rfl) rfl
  | array s _ => exact words_kind "array" (fun _ => rfl) rfl
  | union ss ih =>
    have hparts : ∀ s ∈ ss, ∃ w, Words env k s w := fun s hp =>
      ih s hp (hs.part (by simpa [describedParts, parts]))
    refine words_reasons hparts rfl "one of " fun v => ?_
    simp only [describe, Run.outcome_bind, Run.outcome_lift, describeAll_eq]
  | intersection ss ih =>
    have hparts : ∀ s ∈ ss, ∃ w, Words env k s w := fun s hp =>
      ih s hp (hs.part (by simpa [describedParts, parts]))
    refine words_reasons hparts rfl "intersection of " fun v => ?_
    simp only [describe, Run.outcome_bind, Run.outcome_lift, describeAll_eq]
  | bounded s lower upper ih =>
    have hpart := ih (hs.part (by simp [describedParts, parts]))
    obtain ⟨behind, hbehind⟩ := bounds_behind lower upper ""
    refine words_behind hpart rfl (f := (Describe.bounds · lower upper "")) behind hbehind
      fun v => ?_
    simp only [describe, Run.outcome_bind, Run.outcome_lift]
  | lengthBounded s lower upper ih =>
    have hpart := ih (hs.part (by simp [describedParts, parts]))
    obtain ⟨behind, hbehind⟩ := bounds_behind lower upper ".length"
    refine words_behind hpart rfl (f := (Describe.bounds · lower upper ".length")) behind hbehind
      fun v => ?_
    simp only [describe, Run.outcome_bind, Run.outcome_lift]
  | exactLength s size ih =>
    have hpart := ih (hs.part (by simp [describedParts, parts]))
    refine words_behind hpart rfl (size.text.map (".length === " ++ ·))
      (f := fun inner => do
        let text ← inner.text
        let want ← size.text
        .ok (text ++ ".length === " ++ want)) (fun t => ?_) fun v => ?_
    · cases size.text <;> simp [bind, Except.bind, Except.map, Value.text, String.append_assoc]
    · simp only [describe, Run.outcome_bind, Run.outcome_lift, bind_assoc]
      rfl
  | predicate t d => exact hs.node.elim
  | foreign x => exact hs.node.elim

section Explained

variable {env k} {s : Schema} {w : Wording} {v m : Value}

theorem Words.exists_form (hw : Words env k s w) (hm : (s.describe env v).outcome = .ok m) :
    ∃ d, s.showsValue = true → v.display = .ok d := by
  cases hs : s.showsValue with
  | true =>
    obtain ⟨d, hd⟩ := hw.displays hs hm
    exact ⟨d, fun _ => hd⟩
  | false => exact ⟨"", nofun⟩

theorem describe_isText (hs : s.Every describedParts IsOwn)
    (hm : (s.describe env v).outcome = .ok m) : m.IsText := by
  obtain ⟨w, hw⟩ := exists_words env v.kind hs
  obtain ⟨d, hd⟩ := hw.exists_form hm
  exact ⟨w.fill d, hw.spells rfl hd hm⟩

end Explained

/-- Values of one kind are explained alike exactly if they show alike, where they are shown at
all. -/
theorem describe_eq_iff {s : Schema} (hs : s.Every describedParts IsOwn) {v w m m' : Value}
    (hk : v.kind = w.kind) (hm : (s.describe env v).outcome = .ok m)
    (hm' : (s.describe env w).outcome = .ok m') :
    m = m' ↔ (s.showsValue = true → v.display = w.display) := by
  obtain ⟨words, hwords⟩ := exists_words env v.kind hs
  obtain ⟨d, hd⟩ := hwords.exists_form hm
  obtain ⟨d', hd'⟩ := hwords.exists_form hm'
  constructor
  · intro heq hshow
    have hfill : words.fill d = words.fill d' := by
      simpa [hwords.spells rfl hd hm, hwords.spells hk.symm hd' hm'] using heq
    rw [hd hshow, hd' hshow, Wording.fill_injective (hwords.shows hshow) hfill]
  · intro hdisplay
    have hwd : s.showsValue = true → w.display = .ok d := fun h =>
      (hdisplay h).symm.trans (hd h)
    rw [hwords.spells rfl hd hm, hwords.spells hk.symm hwd hm']

end Schema
end Conform
