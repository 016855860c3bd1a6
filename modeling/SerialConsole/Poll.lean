import SerialConsole.Duration
import SerialConsole.Failure

/-!
# Polling

A condition is polled by sampling an operation, with pauses between the samples, until it yields
what is wanted or the time is up. `Poll.next` runs to the next value that the operation yields;
failures of the operation are passed over unless they are definite. `Poll.seek` runs to the first
value that is accepted, and `Poll.waitFor` to the first that satisfies a test.

Samples are counted in a word of 32 bits. A poll that has counted none takes the next at once, so
this happens at the start and again after every `2 ^ 32` samples.
-/

namespace SerialConsole

/-- A word keeps a number modulo `2 ^ 32`. -/
instance natToWord : Coe Nat UInt32 := ⟨UInt32.ofNat⟩

instance wordToNat : CoeOut UInt32 Nat := ⟨UInt32.toNat⟩

/-- What is known about the samples taken so far. Their number is kept in a word, so it begins anew
after `2 ^ 32` of them. Values and failures are noted as reports show them. -/
structure Attempt where
  number : UInt32 := 0
  elapsed : Duration := 0
  lastValue : Option String := none
  lastError : Option String := none
  deriving DecidableEq, Repr, Inhabited

def Attempt.lastState (a : Attempt) : String :=
  match a.lastError, a.lastValue with
  | some reason, _ => s!"error: {reason}"
  | none, some value => s!"value: {value}"
  | none, none => "no samples"

/-- Why a poll ended without a value. -/
inductive PollError (ε : Type) where
  | expired (timeout : Duration) (attempt : Attempt)
  | aborted (cause : ε)
  deriving DecidableEq, Repr

namespace PollError

def message {ε : Type} (describe : ε → String) : PollError ε → String
  | .expired timeout attempt =>
    s!"Timed out after {timeout.render} ({attempt.number} attempts); last {attempt.lastState}"
  | .aborted cause => s!"Sampled operation failed: {describe cause}"

def map {ε δ : Type} (into : ε → δ) : PollError ε → PollError δ
  | .expired timeout attempt => .expired timeout attempt
  | .aborted cause => .aborted (into cause)

/-- The end of a poll as a failure of the console: a definite failure stays what it is. -/
def toFailure : PollError Failure → Failure
  | .expired timeout attempt =>
    .conditionExpired timeout.millis attempt.number attempt.lastState
  | .aborted cause => cause

end PollError

inductive Sample (ε α : Type) where
  | ready (value : α)
  | transient (cause : ε)
  | definite (cause : ε)
  deriving DecidableEq, Repr

/-- How an operation is polled. -/
structure PollPlan (ε α : Type) where
  timeout : Duration
  interval : Duration := Duration.ofMillis 100
  retries : ε → Bool := fun _ => true
  describe : ε → String
  render : α → String

/-- What one call of the sampled operation came to: its outcome, and the time that it took. -/
abbrev Call (ε α : Type) := Except ε α × Duration

/-- A poll under way. -/
structure Poll where
  clock : Duration := 0
  attempt : Attempt := {}
  finished : Bool := false
  deriving DecidableEq, Repr, Inhabited

namespace Poll

variable {ε α σ : Type}

def judge (plan : PollPlan ε α) : Except ε α → Sample ε α
  | .ok value => .ready value
  | .error cause => if plan.retries cause then .transient cause else .definite cause

/-- Calls the sampled operation once, outside any poll. -/
def sample (plan : PollPlan ε α) (op : σ → Call ε α × σ) (s : σ) : Sample ε α × σ :=
  let (call, s) := op s
  (judge plan call.1, s)

/-- The pause before a further sample: the interval, cut at the end of the time. Even the shortest
pause takes time. -/
def pause (plan : PollPlan ε α) (p : Poll) : Duration :=
  min (max plan.interval 1) (plan.timeout - p.clock)

def afterPause (plan : PollPlan ε α) (p : Poll) : Poll := { p with clock := p.clock + p.pause plan }

/-- The poll at the start of its next sample, or none if the time is up before it. When no samples
are counted, the next is taken at once. -/
def atNextSample (plan : PollPlan ε α) (p : Poll) : Option Poll :=
  if p.attempt.number = 0 then some p
  else if plan.timeout ≤ p.clock ∨ plan.timeout ≤ (p.afterPause plan).clock then none
  else some (p.afterPause plan)

/-- The poll when a call begun at its clock has taken `spent`. -/
def afterCall (p : Poll) (spent : Duration) : Poll :=
  { p with
    clock := p.clock + spent
    attempt := { p.attempt with number := p.attempt.number + 1, elapsed := p.clock } }

def withValue (plan : PollPlan ε α) (p : Poll) (value : α) : Poll :=
  { p with attempt :=
    { p.attempt with lastValue := some (plan.render value), lastError := none } }

def withError (plan : PollPlan ε α) (p : Poll) (cause : ε) : Poll :=
  { p with attempt := { p.attempt with lastError := some (plan.describe cause) } }

/-- A bound on the samples that are left. Between two samples that are taken at once there are
others, each with a pause before it. -/
def budget (plan : PollPlan ε α) (p : Poll) : Nat :=
  2 * (plan.timeout - p.clock) + if p.attempt.number = 0 then 1 else 0

theorem budget_of_uncounted {plan : PollPlan ε α} {p : Poll} (h : p.attempt.number = 0) :
    p.budget plan = 2 * (plan.timeout - p.clock) + 1 := by rw [budget, if_pos h]

theorem budget_of_counted {plan : PollPlan ε α} {p : Poll} (h : p.attempt.number ≠ 0) :
    p.budget plan = 2 * (plan.timeout - p.clock) := by rw [budget, if_neg h, Nat.add_zero]

theorem budget_le (plan : PollPlan ε α) (p : Poll) :
    p.budget plan ≤ 2 * (plan.timeout - p.clock) + 1 := by
  unfold budget
  split <;> omega

/-- Every sample leaves room for fewer. -/
theorem budget_afterCall_lt {plan : PollPlan ε α} {p q : Poll} (h : p.atNextSample plan = some q)
    (spent : Duration) : (q.afterCall spent).budget plan < p.budget plan := by
  unfold atNextSample at h
  split at h
  · next first =>
    cases h
    have counted : (p.afterCall spent).attempt.number ≠ 0 := by simp [afterCall, first]
    rw [budget_of_uncounted first, budget_of_counted counted]
    simp only [afterCall]
    omega
  · next later =>
    split at h
    · cases h
    · next early =>
      cases h
      have left := budget_le plan ((p.afterPause plan).afterCall spent)
      rw [budget_of_counted later]
      simp only [not_or, Nat.not_le, afterPause, pause] at early
      simp only [afterCall, afterPause, pause] at left ⊢
      omega

def expire (plan : PollPlan ε α) (p : Poll) : PollError ε × Poll :=
  (.expired plan.timeout p.attempt, { p with finished := true })

/-- What a call of `next` came to: the item that it yields, the poll and the state after it. -/
abbrev Yield (ε α σ : Type) := Option (Except (PollError ε) α) × Poll × σ

/-- Samples until there is a value, a definite failure, or no time. In the last case the pause
before the sample that is not taken is over. -/
def run (plan : PollPlan ε α) (op : σ → Call ε α × σ) (p : Poll) (s : σ) : Yield ε α σ :=
  match _h : p.atNextSample plan with
  | none =>
    let (e, p) := (p.afterPause plan).expire plan
    (some (.error e), p, s)
  | some q =>
    let (call, s) := op s
    let q' := q.afterCall call.2
    match judge plan call.1 with
    | .ready value => (some (.ok value), q'.withValue plan value, s)
    | .transient cause => run plan op (q'.withError plan cause) s
    | .definite cause => (some (.error (.aborted cause)), { q' with finished := true }, s)
termination_by p.budget plan
decreasing_by exact budget_afterCall_lt ‹_› _

/-- The next item of a poll: a value, or once the reason why there are no more. A poll that is over
yields nothing. -/
def next (plan : PollPlan ε α) (op : σ → Call ε α × σ) (p : Poll) (s : σ) : Yield ε α σ :=
  if p.finished then (none, p, s) else run plan op p s

/-- A poll that yields a value has room for fewer samples afterwards. -/
theorem budget_run_lt (plan : PollPlan ε α) (op : σ → Call ε α × σ) (p : Poll) (s : σ) {value : α}
    {p' : Poll} {s' : σ} (h : run plan op p s = (some (.ok value), p', s')) :
    p'.budget plan < p.budget plan := by
  fun_induction run plan op p s with
  | case1 => simp at h
  | case2 p s q hq call s1 hop q' v hv =>
    simp only [Prod.mk.injEq] at h
    rw [← h.2.1]
    exact budget_afterCall_lt hq _
  | case3 p s q hq call s1 hop q' cause hc ih =>
    exact Nat.lt_trans (ih h) (budget_afterCall_lt hq _)
  | case4 => simp at h

/-- The poll when something else than a call or a pause has taken `spent`. -/
def later (p : Poll) (spent : Duration) : Poll := { p with clock := p.clock + spent }

@[simp] theorem later_zero (p : Poll) : p.later 0 = p := rfl

theorem budget_later_le (plan : PollPlan ε α) (p : Poll) (spent : Duration) :
    (p.later spent).budget plan ≤ p.budget plan :=
  Nat.add_le_add_right (Nat.mul_le_mul_left 2 (Nat.sub_le_sub_left (Nat.le_add_right _ _) _)) _

/-- Samples until `accepts` takes a value. It is shown every value as it comes, may take its time,
and may use the state as the operation does. -/
def seek (plan : PollPlan ε α) (op : σ → Call ε α × σ) (accepts : α → σ → (Bool × Duration) × σ)
    (p : Poll) (s : σ) : Except (PollError ε) α × Poll × σ :=
  match _h : next plan op p s with
  | (some (.ok value), p', s') =>
    match accepts value s' with
    | ((true, spent), s'') => (.ok value, p'.later spent, s'')
    | ((false, spent), s'') => seek plan op accepts (p'.later spent) s''
  | (some (.error e), p', s') => (.error e, p', s')
  | (none, p', s') =>
    let (e, p'') := p'.expire plan
    (.error e, p'', s')
termination_by p.budget plan
decreasing_by
  have h := ‹next plan op p s = _›
  refine Nat.lt_of_le_of_lt (budget_later_le plan p' spent) ?_
  unfold next at h
  split at h
  · simp at h
  · exact budget_run_lt plan op p s h

def waitFor (plan : PollPlan ε α) (op : σ → Call ε α × σ) (accepts : α → Bool) (p : Poll) (s : σ) :
    Except (PollError ε) α × Poll × σ :=
  seek plan op (fun value s => ((accepts value, 0), s)) p s

def waitUntilTrue (plan : PollPlan ε Bool) (op : σ → Call ε Bool × σ) (p : Poll) (s : σ) :
    Except (PollError ε) Unit × Poll × σ :=
  let (result, p, s) := waitFor plan op id p s
  (result.map fun _ => (), p, s)

end Poll

end SerialConsole
