/-
This file develops runs of a machine that takes one input at a time. What every
step keeps under a condition on the state and the input, a run keeps whose steps
all meet that condition; and what a step adds to a history, a run adds to it. A
recording machine keeps its own history, the states it was in and the inputs that
came to them. A monitor reads a history entry by entry and gives up at the first
one it does not allow.
-/

import Mathlib.Algebra.Group.Nat.Defs
import Mathlib.Data.List.Basic
import Mathlib.Data.List.Induction

namespace KetPhone

open List

section Runs

variable {State Input : Type} (step : State → Input → State)

/-- The state after a list of inputs. -/
def run (start : State) (inputs : List Input) : State := inputs.foldl step start

@[simp]
theorem run_nil (start : State) : run step start [] = start := rfl

theorem run_cons (start : State) (input : Input) (inputs : List Input) :
    run step start (input :: inputs) = run step (step start input) inputs := rfl

theorem run_append (start : State) (first second : List Input) :
    run step start (first ++ second) = run step (run step start first) second :=
  foldl_append ..

/-- Every step of a run meets a condition on the state before it and its input. -/
def StepsMeet (condition : State → Input → Prop) : State → List Input → Prop
  | _, [] => True
  | state, input :: inputs =>
    condition state input ∧ StepsMeet condition (step state input) inputs

variable {step}

theorem run_keeps {condition : State → Input → Prop} {invariant : State → Prop}
    (kept : ∀ state input, invariant state → condition state input → invariant (step state input))
    {start : State} (holds : invariant start) {inputs : List Input}
    (meets : StepsMeet step condition start inputs) : invariant (run step start inputs) := by
  induction inputs generalizing start with
  | nil => exact holds
  | cons input inputs hypothesis =>
    exact hypothesis (kept start input holds meets.1) meets.2

theorem loop_keeps (invariant : State → Prop) (inputs : List Input)
    (kept : ∀ state, ∀ input ∈ inputs, invariant state → invariant (step state input))
    {start : State} (holds : invariant start) : invariant (inputs.foldl step start) := by
  induction inputs generalizing start with
  | nil => exact holds
  | cons input inputs hypothesis =>
    exact hypothesis
      (fun state later member => kept state later (mem_cons_of_mem _ member))
      (kept start input mem_cons_self holds)

theorem run_relates (relation : State → State → Prop) (refl : ∀ state, relation state state)
    (trans : ∀ {first second third}, relation first second → relation second third →
      relation first third)
    (stepped : ∀ state input, relation state (step state input)) (start : State)
    (inputs : List Input) : relation start (run step start inputs) := by
  induction inputs generalizing start with
  | nil => exact refl start
  | cons input inputs hypothesis =>
    exact trans (stepped start input) (hypothesis (step start input))

/-- Conditions that agree in the states of an invariant are met by the same runs, when each step
that meets one of them keeps the invariant. Only runs within bounds count, which no step enters from
outside. -/
theorem stepsMeet_iff_within {condition other : State → Input → Prop}
    (within invariant : State → Prop)
    (back : ∀ state input, within (step state input) → within state)
    (kept : ∀ state input, within (step state input) → invariant state → condition state input →
      invariant (step state input))
    (same : ∀ state input, within (step state input) → invariant state →
      (condition state input ↔ other state input))
    {start : State} (holds : invariant start) {inputs : List Input}
    (bounded : within (run step start inputs)) :
    StepsMeet step condition start inputs ↔ StepsMeet step other start inputs := by
  induction inputs generalizing start with
  | nil => exact Iff.rfl
  | cons input inputs hypothesis =>
    have near : within (step start input) :=
      run_relates (fun early late => within late → within early) (fun _ => id)
        (fun first second => first ∘ second) back (step start input) inputs bounded
    have first := same start input near holds
    constructor
    · rintro ⟨met, rest⟩
      exact ⟨first.mp met, (hypothesis (kept start input near holds met) bounded).mp rest⟩
    · rintro ⟨met, rest⟩
      have meets := first.mpr met
      exact ⟨meets, (hypothesis (kept start input near holds meets) bounded).mpr rest⟩

theorem stepsMeet_iff {condition other : State → Input → Prop} (invariant : State → Prop)
    (kept : ∀ state input, invariant state → condition state input → invariant (step state input))
    (same : ∀ state input, invariant state → (condition state input ↔ other state input))
    {start : State} (holds : invariant start) {inputs : List Input} :
    StepsMeet step condition start inputs ↔ StepsMeet step other start inputs :=
  stepsMeet_iff_within (fun _ => True) invariant (fun _ _ => id)
    (fun state input _ => kept state input)
    (fun state input _ => same state input) holds trivial

theorem stepsMeet_congr {condition other : State → Input → Prop} (invariant : State → Prop)
    (kept : ∀ state input, invariant state → invariant (step state input))
    (same : ∀ state input, invariant state → (condition state input ↔ other state input))
    {start : State} (holds : invariant start) {inputs : List Input} :
    StepsMeet step condition start inputs ↔ StepsMeet step other start inputs :=
  stepsMeet_iff invariant (fun state input fits _ => kept state input fits) same holds

theorem stepsMeet_of_forall {condition : State → Input → Prop}
    (meets : ∀ state input, condition state input) {start : State} {inputs : List Input} :
    StepsMeet step condition start inputs := by
  induction inputs generalizing start with
  | nil => trivial
  | cons input inputs hypothesis => exact ⟨meets start input, hypothesis⟩

theorem stepsMeet_append {condition : State → Input → Prop} {start : State}
    {first second : List Input} :
    StepsMeet step condition start (first ++ second) ↔
      StepsMeet step condition start first ∧
        StepsMeet step condition (run step start first) second := by
  induction first generalizing start with
  | nil => simp [StepsMeet]
  | cons input first hypothesis =>
    simp only [cons_append, StepsMeet, hypothesis, run_cons, and_assoc]

end Runs

section Records

variable {State Input : Type} (step : State → Input → State)

/-- A machine that remembers the states it was in, each with the input that came to it. -/
def recording (recorded : List (State × Input) × State) (input : Input) :
    List (State × Input) × State :=
  (recorded.1 ++ [(recorded.2, input)], step recorded.2 input)

/-- The moments of a run: its states but the last, each with the input that came to it. -/
def moments (start : State) (inputs : List Input) : List (State × Input) :=
  (run (recording step) ([], start) inputs).1

@[simp]
theorem moments_nil (start : State) : moments step start [] = [] := rfl

theorem run_recording_snd (recorded : List (State × Input) × State) (inputs : List Input) :
    (run (recording step) recorded inputs).2 = run step recorded.2 inputs := by
  induction inputs generalizing recorded with
  | nil => rfl
  | cons input inputs hypothesis => exact hypothesis (recording step recorded input)

theorem moments_concat (start : State) (inputs : List Input) (input : Input) :
    moments step start (inputs ++ [input]) =
      moments step start inputs ++ [(run step start inputs, input)] := by
  unfold moments
  rw [run_append, ← run_recording_snd step ([], start)]
  rfl

theorem moments_append (start : State) (first second : List Input) :
    moments step start (first ++ second) =
      moments step start first ++ moments step (run step start first) second := by
  induction second using List.reverseRecOn with
  | nil => rw [append_nil, moments_nil, append_nil]
  | append_singleton second input hypothesis =>
    rw [← append_assoc, moments_concat, hypothesis, moments_concat, run_append,
      append_assoc]

variable {step}

theorem moments_keep (invariant : List (State × Input) → State → Prop) {start : State}
    (initial : invariant [] start)
    (kept : ∀ past state input, invariant past state →
      invariant (past ++ [(state, input)]) (step state input))
    (inputs : List Input) : invariant (moments step start inputs) (run step start inputs) := by
  let whole (recorded : List (State × Input) × State) : Prop := invariant recorded.1 recorded.2
  have holds : whole (run (recording step) ([], start) inputs) :=
    loop_keeps whole inputs (fun recorded input _ => kept recorded.1 recorded.2 input) initial
  exact run_recording_snd step ([], start) inputs ▸ holds

end Records

section Histories

variable {Entry : Type}

/-- A history grew by entries that all satisfy a predicate. -/
def Grows (allowed : Entry → Prop) (before after : List Entry) : Prop :=
  ∃ added, after = before ++ added ∧ ∀ entry ∈ added, allowed entry

variable {allowed : Entry → Prop} {first second third : List Entry}

namespace Grows

theorem refl (history : List Entry) : Grows allowed history history :=
  ⟨[], (append_nil history).symm, fun _ member => absurd member not_mem_nil⟩

theorem single (history : List Entry) {entry : Entry} (holds : allowed entry) :
    Grows allowed history (history ++ [entry]) :=
  ⟨[entry], rfl, fun _ member => mem_singleton.mp member ▸ holds⟩

theorem trans (early : Grows allowed first second) (late : Grows allowed second third) :
    Grows allowed first third := by
  obtain ⟨added, rfl, holds⟩ := early
  obtain ⟨more, rfl, holdsMore⟩ := late
  refine ⟨added ++ more, append_assoc .., fun entry member => ?_⟩
  rcases mem_append.mp member with member | member
  · exact holds entry member
  · exact holdsMore entry member

theorem mono {wider : Entry → Prop} (grows : Grows allowed first second)
    (widens : ∀ entry, allowed entry → wider entry) : Grows wider first second := by
  obtain ⟨added, equal, holds⟩ := grows
  exact ⟨added, equal, fun entry member => widens entry (holds entry member)⟩

theorem mem (grows : Grows allowed first second) {entry : Entry} (member : entry ∈ second) :
    entry ∈ first ∨ allowed entry := by
  obtain ⟨added, rfl, holds⟩ := grows
  exact (mem_append.mp member).imp_right (holds entry)

theorem mem_of_mem (grows : Grows allowed first second) {entry : Entry} (member : entry ∈ first) :
    entry ∈ second := by
  obtain ⟨added, rfl, holds⟩ := grows
  exact mem_append_left _ member

theorem of_mem_drop (grows : Grows allowed first second) {entry : Entry}
    (member : entry ∈ second.drop first.length) : allowed entry := by
  obtain ⟨added, rfl, holds⟩ := grows
  rw [drop_left] at member
  exact holds entry member

theorem split (whole : Grows allowed first third) (before : Grows (fun _ => True) first second)
    (after : Grows (fun _ => True) second third) :
    Grows allowed first second ∧ Grows allowed second third := by
  obtain ⟨added, rfl, -⟩ := before
  obtain ⟨more, rfl, -⟩ := after
  obtain ⟨all, equal, holds⟩ := whole
  rw [append_assoc, append_cancel_left_eq] at equal
  subst equal
  exact ⟨⟨added, rfl, fun entry member => holds entry (mem_append_left _ member)⟩,
    ⟨more, rfl, fun entry member => holds entry (mem_append_right _ member)⟩⟩

end Grows

/-- When each step pays for the counted entries it adds out of a potential, so does a run. -/
theorem run_spends {State Input : Type} (step : State → Input → State)
    (history : State → List Entry) (counted : Entry → Bool) (potential : State → Nat)
    {inputs : List Input}
    (spends : ∀ state, ∀ input ∈ inputs, ∃ added,
      history (step state input) = history state ++ added ∧
        added.countP counted + potential (step state input) ≤ potential state) (start : State) :
    ∃ added, history (run step start inputs) = history start ++ added ∧
      added.countP counted + potential (run step start inputs) ≤ potential start := by
  induction inputs generalizing start with
  | nil => exact ⟨[], (append_nil _).symm, Nat.le_of_eq (Nat.zero_add _)⟩
  | cons input inputs hypothesis =>
    obtain ⟨early, grew, paid⟩ := spends start input mem_cons_self
    obtain ⟨late, grewMore, paidMore⟩ := hypothesis
      (fun state later member => spends state later (mem_cons_of_mem _ member))
      (step start input)
    refine ⟨early ++ late, ?_, ?_⟩
    · rw [run_cons, grewMore, grew, append_assoc]
    · rw [run_cons, countP_append]
      omega

/-- Every entry of a history has a property, which may depend on what stands before it. -/
def Each (property : List Entry → Entry → Prop) (history : List Entry) : Prop :=
  ∀ past entry future, history = past ++ entry :: future → property past entry

namespace Each

variable {property : List Entry → Entry → Prop} {entry : Entry}

theorem of_forall {history : List Entry} (holds : ∀ entry ∈ history, ∀ past, property past entry) :
    Each property history := by
  rintro past entry future rfl
  exact holds entry (mem_append_right _ mem_cons_self) past

theorem before {past future : List Entry} (each : Each property (past ++ future)) :
    Each property past := by
  rintro early entry late rfl
  exact each early entry (late ++ future) (by simp)

theorem append (early : Each property first)
    (late : Each (fun past => property (first ++ past)) second) :
    Each property (first ++ second) := by
  intro past entry future whole
  rcases append_eq_append_iff.mp whole with ⟨middle, rfl, rest⟩ | ⟨middle, rfl, rest⟩
  · exact late middle entry future rest
  · rcases cons_eq_append_iff.mp rest with ⟨rfl, rest⟩ | ⟨more, rfl, -⟩
    · simpa using late [] entry future rest.symm
    · exact early past entry more rfl

theorem concat (early : Each property first) (late : property first entry) :
    Each property (first ++ [entry]) := by
  refine early.append fun past other future whole => ?_
  obtain ⟨rfl, rfl⟩ : past = [] ∧ other = entry := by
    cases past with
    | nil => exact ⟨rfl, (List.cons.inj whole).1.symm⟩
    | cons head tail => exact absurd (congrArg List.length whole) (by simp)
  rw [append_nil]
  exact late

end Each

end Histories

section Monitors

variable {State Entry : Type} {next : State → Entry → Option State} {start : State}

/-- The state of a monitor after a history that it allows. -/
def watch (next : State → Entry → Option State) (start : State) (history : List Entry) :
    Option State :=
  history.foldlM next start

@[simp]
theorem watch_nil : watch next start [] = some start := rfl

@[simp]
theorem watch_cons (entry : Entry) (history : List Entry) :
    watch next start (entry :: history) =
      (next start entry).bind fun state => watch next state history :=
  foldlM_cons

theorem watch_append (past future : List Entry) :
    watch next start (past ++ future) =
      (watch next start past).bind fun state => watch next state future :=
  foldlM_append

theorem watch_keeps (invariant : List Entry → State → Prop) (initial : invariant [] start)
    (kept : ∀ past state entry after, invariant past state → next state entry = some after →
      invariant (past ++ [entry]) after)
    {history : List Entry} {state : State} (watched : watch next start history = some state) :
    invariant history state := by
  induction history using List.reverseRecOn generalizing state with
  | nil =>
    cases watched
    exact initial
  | append_singleton past entry hypothesis =>
    rw [watch_append, Option.bind_eq_some_iff] at watched
    obtain ⟨before, early, late⟩ := watched
    rw [watch_cons, Option.bind_eq_some_iff] at late
    obtain ⟨after, allowed, last⟩ := late
    cases last
    exact kept past before entry _ (hypothesis early) allowed

theorem watch_split {past future : List Entry} {entry : Entry} {state : State}
    (watched : watch next start (past ++ entry :: future) = some state) :
    ∃ before after, watch next start past = some before ∧ next before entry = some after := by
  rw [watch_append, Option.bind_eq_some_iff] at watched
  obtain ⟨before, early, late⟩ := watched
  rw [watch_cons, Option.bind_eq_some_iff] at late
  obtain ⟨after, allowed, -⟩ := late
  exact ⟨before, after, early, allowed⟩

end Monitors

end KetPhone
