import Mathlib.Algebra.Order.Floor.Div
import SerialConsole.Proofs.Poll.Items

/-!
# How a poll spends its time

The clock of a poll advances in pauses and in calls of the operation, and `Step` says what comes
next: a sample at once, a sample after a whole pause, a pause that the end of the time cuts short,
or nothing at all, if the time is up already. Whatever items are asked for, the poll takes such
steps (`nexts_course`). So the time is accounted for without a gap (`Course.follows`), samples are
taken at intervals (`Course.successive`), and their number is bounded (`Paced.le_most`).

A poll whose count has begun anew takes the next sample at once. This happens after `2 ^ 32` samples
for the first time, so a poll that takes fewer is not concerned.
-/

namespace SerialConsole.Poll

variable {ε α σ : Type} {plan : PollPlan ε α} {op : σ → Call ε α × σ}

/-- What a poll spends time on, with its clock at the start. -/
inductive Spell (ε α : Type) where
  | pause (start length : Duration)
  | call (start : Duration) (call : Call ε α)

namespace Spell

def start : Spell ε α → Duration
  | pause start _ => start
  | call start _ => start

def length : Spell ε α → Duration
  | pause _ length => length
  | call _ made => made.2

def finish (spell : Spell ε α) : Duration := spell.start + spell.length

def isCall : Spell ε α → Bool
  | pause .. => false
  | call .. => true

end Spell

/-- The samples among the spells. -/
def samples (spells : List (Spell ε α)) : List (Spell ε α) := spells.filter Spell.isCall

/-- Spells without a gap, from one moment to another. -/
def Follows : Duration → List (Spell ε α) → Duration → Prop
  | t, [], t' => t = t'
  | t, spell :: spells, t' => spell.start = t ∧ Follows spell.finish spells t'

theorem Follows.append {t t' t'' : Duration} {spells more : List (Spell ε α)}
    (h : Follows t spells t') (h' : Follows t' more t'') : Follows t (spells ++ more) t'' := by
  induction spells generalizing t with
  | nil =>
    cases h
    exact h'
  | cons spell spells ih => exact ⟨h.1, ih h.2⟩

theorem samples_append (spells more : List (Spell ε α)) :
    samples (spells ++ more) = samples spells ++ samples more := List.filter_append spells more

/-- A later sample starts when the interval has passed since the end of the one before it, and
before the time is up. -/
def Spaced (plan : PollPlan ε α) (before after : Spell ε α) : Prop :=
  after.start = before.finish + plan.interval ∧ after.start < plan.timeout

/-- How a sample follows the one before it, each given with its number: spaced, or at once when none
are counted at the end of the one before it. -/
def Successive (plan : PollPlan ε α) (before after : Spell ε α × Nat) : Prop :=
  if UInt32.size ∣ before.2 then after.1.start = before.1.finish else Spaced plan before.1 after.1

/-- How many samples there can be: as many as there are intervals in the time, and one more for
every `2 ^ 32 - 1` pauses between them. -/
def most (plan : PollPlan ε α) : Nat :=
  max 1 (plan.timeout ⌈/⌉ plan.interval) +
    (max 1 (plan.timeout ⌈/⌉ plan.interval) - 1) / (UInt32.size - 1)

/-- All calls fail at once, but so that it is worth another try. -/
def Idle (plan : PollPlan ε α) (spells : List (Spell ε α)) : Prop :=
  ∀ start call, .call start call ∈ spells →
    ∃ cause, call = (.error cause, 0) ∧ plan.retries cause = true

theorem Idle.of_append {spells more : List (Spell ε α)} (h : Idle plan (spells ++ more)) :
    Idle plan spells ∧ Idle plan more :=
  ⟨fun start call here => h start call (List.mem_append_left _ here),
    fun start call there => h start call (List.mem_append_right _ there)⟩

/-! ## Steps -/

def afterSample (plan : PollPlan ε α) (p : Poll) (call : Call ε α) : Poll :=
  match judge plan call.1 with
  | .ready value => (p.afterCall call.2).withValue plan value
  | .transient cause => (p.afterCall call.2).withError plan cause
  | .definite _ => { p.afterCall call.2 with finished := true }

@[simp] theorem clock_afterSample (p : Poll) (call : Call ε α) :
    (p.afterSample plan call).clock = p.clock + call.2 := by
  unfold afterSample
  split <;> rfl

theorem Counts.afterSample {p : Poll} {n : Nat} (h : p.Counts n) (clock : Duration)
    (call : Call ε α) : (Poll.afterSample plan { p with clock } call).Counts (n + 1) := by
  unfold Poll.afterSample
  split <;> exact h.succ rfl

variable (plan op) in
/-- What a poll that is not over does next, and what it spends on it. -/
inductive Step : Poll → σ → List (Spell ε α) → Poll → σ → Prop
  | first {p : Poll} {s s' : σ} {call : Call ε α} (going : p.finished = false)
      (fresh : p.attempt.number = 0) (called : op s = (call, s')) :
      Step p s [.call p.clock call] (p.afterSample plan call) s'
  | later {p : Poll} {s s' : σ} {call : Call ε α} (going : p.finished = false)
      (begun : p.attempt.number ≠ 0) (early : p.clock + plan.interval < plan.timeout)
      (called : op s = (call, s')) :
      Step p s [.pause p.clock plan.interval, .call (p.clock + plan.interval) call]
        (afterSample plan { p with clock := p.clock + plan.interval } call) s'
  | cut {p : Poll} {s : σ} (going : p.finished = false) (begun : p.attempt.number ≠ 0)
      (time : p.clock < plan.timeout) (short : plan.timeout ≤ p.clock + plan.interval) :
      Step p s [.pause p.clock (plan.timeout - p.clock)]
        { p with clock := plan.timeout, finished := true } s
  | late {p : Poll} {s : σ} (going : p.finished = false) (begun : p.attempt.number ≠ 0)
      (up : plan.timeout ≤ p.clock) :
      Step p s [] { p with finished := true } s

variable (plan op) in
/-- Steps one after the other, and all that they spend. -/
inductive Course : Poll → σ → List (Spell ε α) → Poll → σ → Prop
  | nil (p : Poll) (s : σ) : Course p s [] p s
  | cons {p q p' : Poll} {s r s' : σ} {spells more : List (Spell ε α)}
      (step : Step plan op p s spells q r) (rest : Course q r more p' s') :
      Course p s (spells ++ more) p' s'

theorem Course.one {p p' : Poll} {s s' : σ} {spells : List (Spell ε α)}
    (step : Step plan op p s spells p' s') : Course plan op p s spells p' s' := by
  rw [← List.append_nil spells]
  exact .cons step (.nil p' s')

theorem Course.trans {p q p' : Poll} {s r s' : σ} {spells more : List (Spell ε α)}
    (h : Course plan op p s spells q r) (h' : Course plan op q r more p' s') :
    Course plan op p s (spells ++ more) p' s' := by
  induction h with
  | nil => exact h'
  | cons step rest ih =>
    rw [List.append_assoc]
    exact .cons step (ih h')

theorem Step.going {p p' : Poll} {s s' : σ} {spells : List (Spell ε α)}
    (step : Step plan op p s spells p' s') : p.finished = false := by
  cases step <;> assumption

theorem Course.of_finished {p p' : Poll} {s s' : σ} {spells : List (Spell ε α)}
    (h : Course plan op p s spells p' s') (past : p.finished = true) : spells = [] := by
  cases h with
  | nil => rfl
  | cons step rest =>
    rw [step.going] at past
    cases past

theorem Course.called {p p' : Poll} {s s' : σ} {spells : List (Spell ε α)}
    (h : Course plan op p s spells p' s') {start : Duration} {call : Call ε α}
    (member : .call start call ∈ spells) : ∃ r, (op r).1 = call := by
  induction h with
  | nil => cases member
  | cons step rest ih =>
    rcases List.mem_append.mp member with here | there
    · cases step with
      | first going fresh called =>
        cases List.mem_singleton.mp here
        exact ⟨_, congrArg Prod.fst called⟩
      | later going begun early called =>
        cases here with
        | tail _ here =>
          cases List.mem_singleton.mp here
          exact ⟨_, congrArg Prod.fst called⟩
      | cut => cases List.mem_singleton.mp here
      | late => cases here
    · exact ih there

/-! ## Runs take such steps -/

theorem counted_of_late {p : Poll} (late : p.atNextSample plan = none) : p.attempt.number ≠ 0 := by
  intro fresh
  rw [atNextSample, if_pos fresh] at late
  cases late

section Steps

variable (positive : 0 < plan.interval)

include positive

theorem step_of_early {p q : Poll} {s s' : σ} {call : Call ε α} (going : p.finished = false)
    (early : p.atNextSample plan = some q) (called : op s = (call, s')) :
    ∃ spells, Step plan op p s spells (q.afterSample plan call) s' ∧
      .call q.clock call ∈ spells := by
  have whole : max plan.interval 1 = plan.interval := Nat.max_eq_left positive
  rw [atNextSample_eq] at early
  split at early
  · cases early
  · next inTime =>
    cases early
    simp only [due, whole] at inTime ⊢
    split
    · next fresh => exact ⟨_, .first going fresh called, by simp⟩
    · next begun =>
      simp only [if_neg begun, not_and, Nat.not_le] at inTime
      exact ⟨_, .later going begun (inTime begun) called, by simp⟩

theorem step_of_late {p : Poll} (going : p.finished = false) (late : p.atNextSample plan = none)
    (op : σ → Call ε α × σ) (s : σ) :
    ∃ spells, Step plan op p s spells { p.afterPause plan with finished := true } s := by
  have whole : max plan.interval 1 = plan.interval := Nat.max_eq_left positive
  rw [atNextSample_eq] at late
  split at late
  · next tooLate =>
    obtain ⟨begun, tooLate⟩ := tooLate
    simp only [due, if_neg begun, whole] at tooLate
    by_cases up : plan.timeout ≤ p.clock
    · have none : p.clock + p.pause plan = p.clock := by
        rw [pause, Nat.sub_eq_zero_of_le up, Nat.min_zero, Nat.add_zero]
      simp only [afterPause, none]
      exact ⟨_, .late going begun up⟩
    · have short : p.clock + p.pause plan = plan.timeout := by
        rw [pause, whole, Nat.min_eq_right (Nat.sub_le_iff_le_add'.mpr tooLate)]
        exact Nat.add_sub_cancel' (Nat.le_of_not_le up)
      simp only [afterPause, short]
      exact ⟨_, .cut going begun (Nat.lt_of_not_le up) tooLate⟩
  · cases late

/-- A run is a course of the poll. If all its calls fail at once, it ends because the time is up. -/
theorem run_course (op : σ → Call ε α × σ) (p : Poll) (s : σ) (going : p.finished = false) :
    ∃ item p' s' spells, run plan op p s = (some item, p', s') ∧
      Course plan op p s spells p' s' ∧ (p.attempt.number = 0 → spells ≠ []) ∧
      (Idle plan spells → p'.finished = true ∧ p'.attempt.number ≠ 0 ∧
        item = .error (.expired plan.timeout p'.attempt)) := by
  fun_induction run plan op p s with
  | case1 p s late e q expired =>
    cases expired
    have begun := counted_of_late late
    obtain ⟨spells, step⟩ := step_of_late positive going late op s
    exact ⟨_, _, s, spells, rfl, .one step, fun fresh => absurd fresh begun,
      fun _ => ⟨rfl, begun, rfl⟩⟩
  | case2 p s q early call s₁ called q' value ready =>
    obtain ⟨spells, step, recorded⟩ := step_of_early positive going early called
    simp only [afterSample, ready] at step
    refine ⟨_, _, s₁, spells, rfl, .one step, fun _ => List.ne_nil_of_mem recorded, fun idle => ?_⟩
    obtain ⟨cause, rfl, again⟩ := idle _ _ recorded
    cases judge_eq_ready ready
  | case3 p s q early call s₁ called q' cause transient ih =>
    obtain ⟨spells, step, recorded⟩ := step_of_early positive going early called
    simp only [afterSample, transient] at step
    obtain ⟨item, p', s', more, ran, course, -, ended⟩ :=
      ih ((finished_afterCall early call.2).trans going)
    have some : spells ++ more ≠ [] := List.append_ne_nil_of_left_ne_nil
      (List.ne_nil_of_mem recorded) more
    exact ⟨item, p', s', spells ++ more, ran, .cons step course, fun _ => some,
      fun idle => ended idle.of_append.2⟩
  | case4 p s q early call s₁ called q' cause definite =>
    obtain ⟨spells, step, recorded⟩ := step_of_early positive going early called
    simp only [afterSample, definite] at step
    refine ⟨_, _, s₁, spells, rfl, .one step, fun _ => List.ne_nil_of_mem recorded, fun idle => ?_⟩
    obtain ⟨cause', rfl, again⟩ := idle _ _ recorded
    cases judge_eq_definite definite
    rw [retries_of_definite definite] at again
    cases again

/-- Items are asked for in the course of a poll. If all calls fail at once, the first item tells
that the time is up. -/
theorem nexts_course (op : σ → Call ε α × σ) (s : σ) (n : Nat) :
    ∃ items p s' spells, nexts plan op n {} s = (items, p, s') ∧
      Course plan op {} s spells p s' ∧
      (0 < n → spells ≠ [] ∧ (Idle plan spells → p.finished = true ∧ p.attempt.number ≠ 0 ∧
        items.head? = some (some (.error (.expired plan.timeout p.attempt))))) := by
  induction n with
  | zero => exact ⟨[], {}, s, [], rfl, .nil {} s, fun none => absurd none (Nat.lt_irrefl 0)⟩
  | succ n ih =>
    obtain ⟨items, p, s₁, spells, before, course, asked⟩ := ih
    cases past : p.finished with
    | true =>
      have some : 0 < n := by
        rcases Nat.eq_zero_or_pos n with rfl | some
        · cases before
          cases past
        · exact some
      obtain ⟨begun, ended⟩ := asked some
      refine ⟨items ++ [none], p, s₁, spells, ?_, course, fun _ => ⟨begun, fun idle => ?_⟩⟩
      · rw [nexts, before]
        simp only [next_of_finished past]
      · obtain ⟨-, counted, first⟩ := ended idle
        rw [List.head?_append, first]
        exact ⟨past, counted, rfl⟩
    | false =>
      obtain ⟨item, p', s', more, ran, course', begun, ended⟩ := run_course positive op p s₁ past
      refine ⟨items ++ [some item], p', s', spells ++ more, ?_, course.trans course',
        fun _ => ?_⟩
      · rw [nexts, before]
        simp only [next_of_going past, ran]
      · rcases Nat.eq_zero_or_pos n with rfl | some
        · cases before
          refine ⟨List.append_ne_nil_of_right_ne_nil spells (begun rfl), fun idle => ?_⟩
          obtain ⟨past', counted, rfl⟩ := ended idle.of_append.2
          exact ⟨past', counted, rfl⟩
        · refine ⟨List.append_ne_nil_of_left_ne_nil (asked some).1 more, fun idle => ?_⟩
          rw [((asked some).2 idle.of_append.1).1] at past
          cases past

end Steps

/-! ## The account of the time -/

theorem Course.follows {p p' : Poll} {s s' : σ} {spells : List (Spell ε α)}
    (h : Course plan op p s spells p' s') : Follows p.clock spells p'.clock := by
  induction h with
  | nil => rfl
  | cons step rest ih =>
    refine Follows.append ?_ ih
    cases step with
    | first => exact ⟨rfl, (clock_afterSample _ _).symm⟩
    | later =>
      refine ⟨rfl, rfl, ?_⟩
      rw [clock_afterSample]
      rfl
    | cut going begun time short => exact ⟨rfl, Nat.add_sub_cancel' (Nat.le_of_lt time)⟩
    | late => rfl

theorem Step.counts {p p' : Poll} {s s' : σ} {spells : List (Spell ε α)}
    (step : Step plan op p s spells p' s') {n : Nat} (counted : p.Counts n) :
    p'.Counts (n + (samples spells).length) := by
  cases step with
  | first going fresh called => exact counted.afterSample p.clock _
  | later going begun early called => exact counted.afterSample (p.clock + plan.interval) _
  | cut => exact counted
  | late => exact counted

/-- Pauses begin before the time is up, and none goes on after it. -/
theorem Course.pauses {p p' : Poll} {s s' : σ} {spells : List (Spell ε α)}
    (h : Course plan op p s spells p' s') {start length : Duration}
    (paused : .pause start length ∈ spells) :
    start < plan.timeout ∧ length = min plan.interval (plan.timeout - start) ∧
      start + length ≤ plan.timeout := by
  induction h with
  | nil => cases paused
  | cons step rest ih =>
    rcases List.mem_append.mp paused with here | there
    · cases step with
      | first => cases List.mem_singleton.mp here
      | later going begun early called =>
        rcases List.mem_pair.mp here with same | other
        · cases same
          refine ⟨Nat.lt_of_le_of_lt (Nat.le_add_right _ _) early, ?_, Nat.le_of_lt early⟩
          rw [Nat.min_eq_left (Nat.le_sub_of_add_le' (Nat.le_of_lt early))]
        · cases other
      | cut going begun time short =>
        cases List.mem_singleton.mp here
        refine ⟨time, ?_, ?_⟩
        · rw [Nat.min_eq_right (Nat.sub_le_iff_le_add'.mpr short)]
        · rw [Nat.add_sub_cancel' (Nat.le_of_lt time)]
      | late => cases here
    · exact ih there

/-- Samples are taken at intervals, but for those that are counted as the first. -/
theorem Course.successive {p p' : Poll} {s s' : σ} {spells : List (Spell ε α)}
    (h : Course plan op p s spells p' s') {n : Nat} (counted : p.Counts n) {before : Spell ε α}
    (ended : before.finish = p.clock) :
    ((before, n) :: (samples spells).zipIdx (n + 1)).IsChain (Successive plan) := by
  induction h generalizing before n with
  | nil => exact .singleton _
  | cons step rest ih =>
    rw [samples_append]
    cases step with
    | first going fresh called =>
      have full : UInt32.size ∣ n := counted.eq_zero_iff.mp fresh
      refine List.isChain_cons_cons.mpr ⟨?_, ih (counted.afterSample _ _) ?_⟩
      · rw [Successive, if_pos full]
        exact ended.symm
      · rw [clock_afterSample]
        rfl
    | later going begun early called =>
      have more : ¬ UInt32.size ∣ n := mt counted.eq_zero_iff.mpr begun
      refine List.isChain_cons_cons.mpr ⟨?_, ih (counted.afterSample _ _) ?_⟩
      · rw [Successive, if_neg more]
        exact ⟨congrArg (· + plan.interval) ended.symm, early⟩
      · rw [clock_afterSample]
        rfl
    | cut =>
      cases rest.of_finished rfl
      exact .singleton _
    | late =>
      cases rest.of_finished rfl
      exact .singleton _

theorem Course.first {p : Poll} {s s' : σ} {spells : List (Spell ε α)}
    (h : Course plan op {} s spells p s') :
    ((samples spells).zipIdx 1).IsChain (Successive plan) ∧
      (spells = [] ∨ ∃ call later, spells = .call 0 call :: later) := by
  cases h with
  | nil => exact ⟨.nil, .inl rfl⟩
  | cons step rest =>
    cases step with
    | first going fresh called =>
      have counted : Poll.Counts {} 0 := rfl
      refine ⟨rest.successive (counted.afterSample 0 _) ?_, .inr ⟨_, _, rfl⟩⟩
      rw [clock_afterSample]
      rfl
    | later going begun => exact absurd rfl begun
    | cut going begun => exact absurd rfl begun
    | late going begun => exact absurd rfl begun

/-- All samples are spaced as long as the count does not begin anew. -/
theorem spaced_of_successive {calls : List (Spell ε α)} {n : Nat} (begun : 0 < n)
    (few : n + calls.length ≤ UInt32.size) (h : (calls.zipIdx n).IsChain (Successive plan)) :
    calls.IsChain (Spaced plan) := by
  induction calls generalizing n with
  | nil => exact .nil
  | cons before calls ih =>
    cases calls with
    | nil => exact .singleton before
    | cons after calls =>
      rw [List.length_cons] at few
      obtain ⟨next, rest⟩ := List.isChain_cons_cons.mp h
      have more : ¬ UInt32.size ∣ n := Nat.not_dvd_of_pos_of_lt begun (by omega)
      rw [Successive, if_neg more] at next
      exact List.isChain_cons_cons.mpr ⟨next, ih (Nat.succ_pos n) (by omega) rest⟩

/-! ## How many samples there are -/

theorem le_of_pauses_le {n k : Nat} (h : pauses n ≤ k) : n ≤ k + k / (UInt32.size - 1) := by
  simp only [pauses, UInt32.size] at h ⊢
  omega

theorem eq_of_pauses_eq {n k : Nat} (more : ¬ UInt32.size ∣ n + 1) (h : pauses n = k) :
    n = k + k / (UInt32.size - 1) := by
  simp only [pauses, UInt32.size] at more h ⊢
  omega

variable (plan) in
/-- A poll with so many samples behind it: each has taken an interval but those that were taken at
once, and there was time for the last. -/
structure Paced (n : Nat) (p : Poll) : Prop where
  counted : p.Counts n
  clock : pauses (n - 1) * plan.interval ≤ p.clock
  last : n ≤ 1 ∨ pauses (n - 1) * plan.interval < plan.timeout

theorem Paced.step {n : Nat} {p p' : Poll} {s s' : σ} {spells : List (Spell ε α)}
    (h : Paced plan n p) (step : Step plan op p s spells p' s') :
    Paced plan (n + (samples spells).length) p' := by
  have counted := step.counts h.counted
  cases step with
  | first going fresh called =>
    have full : UInt32.size ∣ n := h.counted.eq_zero_iff.mp fresh
    have same : pauses (n + 1 - 1) = pauses (n - 1) := pauses_of_dvd full
    refine ⟨counted, ?_, ?_⟩
    · show pauses (n + 1 - 1) * plan.interval ≤ _
      rw [same, clock_afterSample]
      exact Nat.le_add_right_of_le h.clock
    · show n + 1 ≤ 1 ∨ pauses (n + 1 - 1) * plan.interval < plan.timeout
      rw [same]
      refine h.last.imp_left fun one => Nat.succ_le_succ (Nat.le_of_eq ?_)
      exact Nat.eq_zero_of_dvd_of_lt full (Nat.lt_of_le_of_lt one (by decide))
  | later going begun early called =>
    have more : ¬ UInt32.size ∣ n := mt h.counted.eq_zero_iff.mpr begun
    have next : pauses (n + 1 - 1) * plan.interval ≤ p.clock + plan.interval := by
      rw [Nat.add_sub_cancel, pauses_of_not_dvd more, Nat.succ_mul]
      exact Nat.add_le_add_right h.clock _
    refine ⟨counted, ?_, .inr (Nat.lt_of_le_of_lt next early)⟩
    rw [clock_afterSample]
    exact Nat.le_add_right_of_le next
  | cut going begun time short =>
    exact ⟨counted, Nat.le_trans h.clock (Nat.le_of_lt time), h.last⟩
  | late => exact ⟨counted, h.clock, h.last⟩

theorem Course.paced {n : Nat} {p p' : Poll} {s s' : σ} {spells : List (Spell ε α)}
    (h : Course plan op p s spells p' s') (paced : Paced plan n p) :
    Paced plan (n + (samples spells).length) p' := by
  induction h generalizing n with
  | nil => exact paced
  | cons step rest ih =>
    rw [samples_append, List.length_append, ← Nat.add_assoc]
    exact ih (paced.step step)

theorem Paced.le_most {n : Nat} {p : Poll} (h : Paced plan n p) (positive : 0 < plan.interval) :
    n ≤ most plan := by
  rcases h.last with one | more
  · exact Nat.le_trans one (Nat.le_add_right_of_le (Nat.le_max_left _ _))
  · have fewer : pauses (n - 1) < plan.timeout ⌈/⌉ plan.interval := by
      refine Nat.lt_of_not_le fun many => ?_
      have enough := (ceilDiv_le_iff_le_mul positive).mp many
      rw [Nat.mul_comm] at enough
      exact absurd more (Nat.not_lt_of_le enough)
    have bound := le_of_pauses_le (n := n - 1)
      (k := max 1 (plan.timeout ⌈/⌉ plan.interval) - 1) (by omega)
    unfold most
    omega

variable (plan) in
/-- A poll with so many samples behind it all of whose calls failed at once: its clock tells how
many there were, and in the end there was no time for another. -/
def Idled (n : Nat) (p : Poll) : Prop :=
  if p.finished = true then p.clock = plan.timeout ∧ plan.timeout ≤ pauses n * plan.interval
  else p.clock = pauses (n - 1) * plan.interval

theorem finished_afterSample_of_idle (p : Poll) {start : Duration} {call : Call ε α}
    {spells : List (Spell ε α)} (idle : Idle plan spells) (made : .call start call ∈ spells) :
    call.2 = 0 ∧ (p.afterSample plan call).finished = p.finished := by
  obtain ⟨cause, rfl, again⟩ := idle _ _ made
  refine ⟨rfl, ?_⟩
  simp only [afterSample, judge, again, if_true]
  rfl

theorem Idled.step {n : Nat} {p p' : Poll} {s s' : σ} {spells : List (Spell ε α)}
    (h : Idled plan n p) (paced : Paced plan n p) (step : Step plan op p s spells p' s')
    (idle : Idle plan spells) : Idled plan (n + (samples spells).length) p' := by
  -- each step is taken by a poll that is not over
  have clock (going : p.finished = false) : p.clock = pauses (n - 1) * plan.interval := by
    rwa [Idled, going, if_neg (by decide)] at h
  have next (going : p.finished = false) (begun : p.attempt.number ≠ 0) :
      p.clock + plan.interval = pauses n * plan.interval := by
    rw [clock going, pauses_of_not_dvd (mt paced.counted.eq_zero_iff.mpr begun), Nat.succ_mul]
  cases step with
  | first going fresh called =>
    obtain ⟨none, same⟩ := finished_afterSample_of_idle p idle (List.mem_singleton_self _)
    show Idled plan (n + 1) _
    rw [Idled, same, going, if_neg (by decide), clock_afterSample, clock going, none,
      Nat.add_sub_cancel, pauses_of_dvd (paced.counted.eq_zero_iff.mp fresh), Nat.add_zero]
  | later going begun early called =>
    obtain ⟨none, same⟩ := finished_afterSample_of_idle
      { p with clock := p.clock + plan.interval } idle
      (List.mem_cons_of_mem _ (List.mem_singleton_self _))
    show Idled plan (n + 1) _
    rw [Idled, same, going, if_neg (by decide), clock_afterSample, next going begun, none,
      Nat.add_sub_cancel, Nat.add_zero]
  | cut going begun time short =>
    rw [next going begun] at short
    exact ⟨rfl, short⟩
  | late going begun up =>
    -- the last sample was begun before the time was up, unless there was no time at all
    have one : n ≤ 1 := by
      rcases paced.last with one | more
      · exact one
      · rw [← clock going] at more
        exact absurd up (Nat.not_le_of_lt more)
    have none : p.clock = 0 := by
      rw [clock going, Nat.sub_eq_zero_of_le one]
      exact Nat.zero_mul _
    rw [none, Nat.le_zero_eq] at up
    refine ⟨?_, ?_⟩
    · rw [none, up]
    · rw [up]
      exact Nat.zero_le _

theorem Course.idled {n : Nat} {p p' : Poll} {s s' : σ} {spells : List (Spell ε α)}
    (h : Course plan op p s spells p' s') (paced : Paced plan n p) (idled : Idled plan n p)
    (idle : Idle plan spells) : Idled plan (n + (samples spells).length) p' := by
  induction h generalizing n with
  | nil => exact idled
  | cons step rest ih =>
    rw [samples_append, List.length_append, ← Nat.add_assoc]
    exact ih (paced.step step) (idled.step paced step idle.of_append.1) idle.of_append.2

/-- In the end there have been as many samples as there was time for. -/
theorem Idled.eq_most {n : Nat} {p : Poll} (h : Idled plan n p) (past : p.finished = true)
    (paced : Paced plan n p) (begun : p.attempt.number ≠ 0) (positive : 0 < plan.interval) :
    p.clock = plan.timeout ∧ n = most plan := by
  rw [Idled, if_pos past] at h
  have more : ¬ UInt32.size ∣ n := mt paced.counted.eq_zero_iff.mpr begun
  have some : n ≠ 0 := fun none => more (none ▸ Nat.dvd_zero _)
  have all : (max 1 (plan.timeout ⌈/⌉ plan.interval) : Nat) ≤ pauses (n - 1) + 1 := by
    rw [← pauses_of_not_dvd more]
    refine Nat.max_le.mpr ⟨?_, ?_⟩
    · rw [pauses_of_not_dvd more]
      exact Nat.le_add_left 1 _
    · rw [ceilDiv_le_iff_le_mul positive, Nat.mul_comm]
      exact h.2
  refine ⟨h.1, Nat.le_antisymm (paced.le_most positive) ?_⟩
  have exactly := eq_of_pauses_eq (n := n - 1) (by rwa [Nat.sub_one_add_one some]) rfl
  simp only [most, UInt32.size] at exactly ⊢
  omega

theorem paced_fresh : Paced plan 0 {} :=
  ⟨rfl, Nat.le_of_eq (by simp [pauses]), .inl (Nat.zero_le 1)⟩

theorem idled_fresh : Idled plan 0 {} := by simp [Idled, pauses]

section Begun

variable {p : Poll} {s s' : σ} {spells : List (Spell ε α)}
  (course : Course plan op {} s spells p s')

include course

theorem Course.paced_of_begun : Paced plan (samples spells).length p := by
  have paced := course.paced paced_fresh
  rwa [Nat.zero_add] at paced

theorem Course.length_of_idle (idle : Idle plan spells) (past : p.finished = true)
    (begun : p.attempt.number ≠ 0) (positive : 0 < plan.interval) :
    p.clock = plan.timeout ∧ (samples spells).length = most plan := by
  have idled := course.idled paced_fresh idled_fresh idle
  rw [Nat.zero_add] at idled
  exact idled.eq_most past course.paced_of_begun begun positive

end Begun

theorem le_of_le_most {n : Nat} (h : n ≤ most plan) (few : n < UInt32.size) :
    n ≤ max 1 (plan.timeout ⌈/⌉ plan.interval) := by
  simp only [most, UInt32.size] at h few
  omega

theorem most_eq_of_lt (few : most plan < UInt32.size) :
    most plan = max 1 (plan.timeout ⌈/⌉ plan.interval) := by
  simp only [most, UInt32.size] at few ⊢
  omega

/-- How a poll that begins spends its time, however many items are asked for and however long the
calls take. Its clock runs in pauses and in calls. The first sample is taken at once and every
other when the interval has passed since the one before it, before the time is up, except that after
every `2 ^ 32` samples the next is taken at once; no pause goes on longer than there is time. So
there are no more samples than `most`, and if all calls fail at once, but so that it is worth
another try, there are just as many and the poll ends when the time is up.

A poll that takes fewer than `2 ^ 32` samples counts them, takes all but the first at intervals, and
takes no more than there are intervals in the time. -/
theorem timing_of_nexts (positive : 0 < plan.interval) (op : σ → Call ε α × σ) (s : σ) (n : Nat) :
    ∃ items p s' spells, nexts plan op n {} s = (items, p, s') ∧
      Course plan op {} s spells p s' ∧ Follows 0 spells p.clock ∧
      (0 < n → ∃ call later, spells = .call 0 call :: later) ∧
      ((samples spells).zipIdx 1).IsChain (Successive plan) ∧
      (∀ start length, .pause start length ∈ spells → start < plan.timeout ∧
        length = min plan.interval (plan.timeout - start) ∧ start + length ≤ plan.timeout) ∧
      (p.attempt.number : Nat) = (samples spells).length % UInt32.size ∧
      (samples spells).length ≤ most plan ∧
      (0 < n → Idle plan spells →
        items.head? = some (some (.error (.expired plan.timeout p.attempt))) ∧
        p.clock = plan.timeout ∧ (samples spells).length = most plan) ∧
      ((samples spells).length < UInt32.size →
        (samples spells).IsChain (Spaced plan) ∧
        (samples spells).length = p.attempt.number ∧
        (samples spells).length ≤ max 1 (plan.timeout ⌈/⌉ plan.interval) ∧
        (0 < n → Idle plan spells →
          (samples spells).length = max 1 (plan.timeout ⌈/⌉ plan.interval))) := by
  obtain ⟨items, p, s', spells, ran, course, asked⟩ := nexts_course positive op s n
  have paced := course.paced_of_begun
  have number := paced.counted.number_eq
  have idled (asking : 0 < n) (idle : Idle plan spells) :
      items.head? = some (some (.error (.expired plan.timeout p.attempt))) ∧
        p.clock = plan.timeout ∧ (samples spells).length = most plan := by
    obtain ⟨past, counted, item⟩ := (asked asking).2 idle
    exact ⟨item, course.length_of_idle idle past counted positive⟩
  refine ⟨items, p, s', spells, ran, course, course.follows, fun asking => ?_, course.first.1,
    fun _ _ => course.pauses, number, paced.le_most positive, idled, fun few => ⟨?_, ?_, ?_, ?_⟩⟩
  · exact course.first.2.resolve_left (asked asking).1
  · exact spaced_of_successive Nat.one_pos (by omega) course.first.1
  · rw [number, Nat.mod_eq_of_lt few]
  · exact le_of_le_most (paced.le_most positive) few
  · intro asking idle
    rw [(idled asking idle).2.2] at few ⊢
    exact most_eq_of_lt few

/-- In the time of two intervals and a half there are three samples. -/
theorem timing_of_three_samples :
    let plan : PollPlan Nat Unit :=
      { timeout := 5, interval := 2, describe := toString, render := fun _ => "" }
    let op : Unit → Call Nat Unit × Unit := fun _ => ((.error 0, 0), ())
    0 < plan.interval ∧
      ∃ items p s', nexts plan op 1 {} () = (items, p, s') ∧
        items.head? = some (some (.error (.expired 5 p.attempt))) ∧ p.clock = 5 ∧
        (p.attempt.number : Nat) = 3 := by
  intro plan op
  have positive : 0 < plan.interval := by decide
  obtain ⟨items, p, s', spells, ran, course, -, -, -, -, -, -, ended, few⟩ :=
    timing_of_nexts positive op () 1
  have idle : Idle plan spells := by
    intro start call made
    obtain ⟨r, rfl⟩ := course.called made
    exact ⟨0, rfl, rfl⟩
  obtain ⟨item, clock, number⟩ := ended Nat.one_pos idle
  have three : (samples spells).length = 3 := number.trans (by decide)
  have counted := (few (by rw [three]; decide)).2.1
  exact ⟨positive, items, p, s', ran, item, clock, counted.symm.trans three⟩

/-! ## A poll that counts anew -/

/-- A poll with time for `2 ^ 32` samples, a nanosecond apart. -/
def drawnOut : PollPlan Unit Bool :=
  { timeout := UInt32.size, interval := 1, describe := fun _ => "", render := fun _ => "" }

/-- An operation that fails at once and keeps count of its calls. -/
def failing (calls : Nat) : Call Unit Bool × Nat := ((.error (), 0), calls + 1)

theorem Course.failing {p p' : Poll} {calls calls' : Nat} {spells : List (Spell Unit Bool)}
    (h : Course drawnOut failing p calls spells p' calls') :
    Idle drawnOut spells ∧ calls' = calls + (samples spells).length := by
  refine ⟨fun start call made => ?_, ?_⟩
  · obtain ⟨r, rfl⟩ := h.called made
    exact ⟨(), rfl, rfl⟩
  · induction h with
    | nil => rfl
    | cons step rest ih =>
      rw [ih, samples_append, List.length_append, ← Nat.add_assoc]
      cases step with
      | first going fresh called => cases called; rfl
      | later going begun early called => cases called; rfl
      | cut => rfl
      | late => rfl

/-- After `2 ^ 32` samples none are counted, so one more is taken when the time is up. -/
theorem next_drawnOut : ∃ p : Poll, next drawnOut failing {} 0 =
    (some (.error (.expired drawnOut.timeout p.attempt)), p, UInt32.size + 1) ∧
      p.attempt.number = 1 := by
  have positive : 0 < drawnOut.interval := by decide
  obtain ⟨item, p, calls, spells, ran, course, -, ended⟩ := run_course positive failing {} 0 rfl
  obtain ⟨idle, count⟩ := course.failing
  obtain ⟨past, begun, rfl⟩ := ended idle
  have all : (samples spells).length = UInt32.size + 1 := by
    rw [(course.length_of_idle idle past begun positive).2]
    decide
  refine ⟨p, ?_, ?_⟩
  · rw [next_of_going rfl, ran, count, all, Nat.zero_add]
  · simp [← UInt32.toNat_inj, course.paced_of_begun.counted.number_eq, all]

/-- There are `2 ^ 32` intervals in the time, and one sample more than that is taken. -/
theorem samples_of_drawnOut :
    max 1 (drawnOut.timeout ⌈/⌉ drawnOut.interval) = UInt32.size ∧
      ∃ items p, nexts drawnOut failing 1 {} 0 = (items, p, UInt32.size + 1) ∧
        items.head? = some (some (.error (.expired drawnOut.timeout p.attempt))) := by
  obtain ⟨p, ran, -⟩ := next_drawnOut
  refine ⟨by decide,
    [some (.error (.expired drawnOut.timeout p.attempt))], p, ?_, rfl⟩
  rw [nexts_one, ran]

end SerialConsole.Poll
