import SerialConsole.Poll

/-!
# What polls come to

A poll makes nothing up: the value that it yields is one that a call of the sampled operation gave,
and the failure that it was aborted by is one that a call failed with. And it does nothing but call
the operation, so what every call keeps is kept (`waitFor_keeps`).

How a poll gets to its next item is told by `RunEnd`: some calls come to nothing, and then a call
gives a value or fails for good, or the next would be due too late.

The word that counts the samples begins anew after `2 ^ 32` of them (`Counts`), and then the next is
taken without a pause, whatever the time (`pauses`, `InTime`).
-/

namespace SerialConsole.Poll

variable {ε α σ : Type} {plan : PollPlan ε α} {op : σ → Call ε α × σ}

/-- What a poll came to is due to some call of the sampled operation. -/
def Sampled (op : σ → Call ε α × σ) : Except (PollError ε) α → Prop
  | .ok value => ∃ s, (op s).1.1 = .ok value
  | .error (.aborted cause) => ∃ s, (op s).1.1 = .error cause
  | .error (.expired ..) => True

theorem judge_eq_ready {outcome : Except ε α} {value : α} (h : judge plan outcome = .ready value) :
    outcome = .ok value := by
  unfold judge at h
  split at h
  · rw [Sample.ready.inj h]
  · split at h <;> cases h

theorem judge_eq_definite {outcome : Except ε α} {cause : ε}
    (h : judge plan outcome = .definite cause) : outcome = .error cause := by
  unfold judge at h
  split at h
  · cases h
  · split at h
    · cases h
    · rw [Sample.definite.inj h]

theorem judge_eq_transient {outcome : Except ε α} {cause : ε}
    (h : judge plan outcome = .transient cause) :
    outcome = .error cause ∧ plan.retries cause = true := by
  unfold judge at h
  split at h
  · cases h
  · split at h
    · next again =>
      rw [← Sample.transient.inj h]
      exact ⟨rfl, again⟩
    · cases h

theorem retries_of_definite {outcome : Except ε α} {cause : ε}
    (h : judge plan outcome = .definite cause) : plan.retries cause = false := by
  obtain rfl := judge_eq_definite h
  unfold judge at h
  cases again : plan.retries cause with
  | false => rfl
  | true => simp [again] at h

theorem run_sampled {p p' : Poll} {s s' : σ} {item : Except (PollError ε) α}
    (h : run plan op p s = (some item, p', s')) : Sampled op item := by
  fun_induction run plan op p s with
  | case1 p s late e q expired =>
    obtain rfl : Except.error e = item := by simpa using congrArg Prod.fst h
    obtain rfl : PollError.expired plan.timeout p.attempt = e := congrArg Prod.fst expired
    trivial
  | case2 p s q early call s₁ called q' value ready =>
    obtain rfl : Except.ok value = item := by simpa using congrArg Prod.fst h
    exact ⟨s, by rw [called]; exact judge_eq_ready ready⟩
  | case3 p s q early call s₁ called q' cause transient ih => exact ih h
  | case4 p s q early call s₁ called q' cause definite =>
    obtain rfl : Except.error (.aborted cause) = item := by simpa using congrArg Prod.fst h
    exact ⟨s, by rw [called]; exact judge_eq_definite definite⟩

theorem next_of_going {p : Poll} (going : p.finished = false) (s : σ) :
    next plan op p s = run plan op p s := if_neg (by simp [going])

theorem next_sampled {p p' : Poll} {s s' : σ} {item : Except (PollError ε) α}
    (h : next plan op p s = (some item, p', s')) : Sampled op item := by
  unfold next at h
  split at h
  · cases h
  · exact run_sampled h

variable (plan op) in
theorem seek_sampled (accepts : α → σ → (Bool × Duration) × σ) (p : Poll) (s : σ) :
    Sampled op (seek plan op accepts p s).1 := by
  fun_induction seek plan op accepts p s with
  | case1 p s value p' s' found spent s'' accepted => exact next_sampled found
  | case2 p s value p' s' found spent s'' refused ih => exact ih
  | case3 p s e p' s' failed => exact next_sampled failed
  | case4 p s p' s' past e p'' expired =>
    obtain rfl : PollError.expired plan.timeout p'.attempt = e := congrArg Prod.fst expired
    trivial

variable (plan op) in
/-- Waiting for a value comes to what a call of the sampled operation came to, unless the time is
up. -/
theorem waitFor_sampled (accepts : α → Bool) (p : Poll) (s : σ) :
    Sampled op (waitFor plan op accepts p s).1 :=
  seek_sampled plan op _ p s

/-! ## What calls keep -/

section Keeps

variable {P : σ → Prop} (keeps : ∀ s, P s → P (op s).2)

include keeps

theorem run_keeps {p : Poll} {s : σ} (hs : P s) : P (run plan op p s).2.2 := by
  fun_induction run plan op p s with
  | case1 => exact hs
  | case2 p s q early call s₁ called =>
      have after := keeps s hs
      rwa [called] at after
  | case3 p s q early call s₁ called q' cause transient ih =>
      have after := keeps s hs
      rw [called] at after
      exact ih after
  | case4 p s q early call s₁ called =>
      have after := keeps s hs
      rwa [called] at after

theorem next_keeps {p : Poll} {s : σ} (hs : P s) : P (next plan op p s).2.2 := by
  unfold next
  split
  · exact hs
  · exact run_keeps keeps hs

theorem seek_keeps {accepts : α → σ → (Bool × Duration) × σ}
    (tests : ∀ value s, P s → P (accepts value s).2) {p : Poll} {s : σ} (hs : P s) :
    P (seek plan op accepts p s).2.2 := by
  have after {p : Poll} {s : σ} (hs : P s) : P (next plan op p s).2.2 := next_keeps keeps hs
  fun_induction seek plan op accepts p s with
  | case1 p s value p' s' found spent s'' accepted =>
      have taken := after (p := p) hs
      rw [found] at taken
      have tested := tests value s' taken
      rwa [accepted] at tested
  | case2 p s value p' s' found spent s'' refused ih =>
      have taken := after (p := p) hs
      rw [found] at taken
      have tested := tests value s' taken
      rw [refused] at tested
      exact ih tested
  | case3 p s e p' s' failed =>
      have ended := after (p := p) hs
      rwa [failed] at ended
  | case4 p s p' s' past =>
      have ended := after (p := p) hs
      rwa [past] at ended

/-- What every call of the sampled operation keeps is kept by the whole poll. -/
theorem waitFor_keeps (accepts : α → Bool) {p : Poll} {s : σ} (hs : P s) :
    P (waitFor plan op accepts p s).2.2 :=
  seek_keeps keeps (fun _ _ hs => hs) hs

/-- The first call is made at once, so what it brings about holds in the end. -/
theorem waitFor_first (accepts : α → Bool) {s : σ} (first : P (op s).2) :
    P (waitFor plan op accepts {} s).2.2 := by
  -- a poll that begins takes its first sample without a pause
  have ran : P (next plan op {} s).2.2 := by
    have sampled : atNextSample plan {} = some {} := if_pos rfl
    rw [next_of_going rfl, run.eq_def, sampled]
    simp only
    split
    · exact first
    · exact run_keeps keeps first
    · exact first
  rw [waitFor, seek.eq_def]
  split
  · next value p' s' found =>
    rw [found] at ran
    split
    · next tested =>
      obtain ⟨-, rfl⟩ := Prod.mk.inj tested
      exact ran
    · next tested =>
      obtain ⟨-, rfl⟩ := Prod.mk.inj tested
      exact waitFor_keeps keeps accepts ran
  · next failed => rwa [failed] at ran
  · next past => rwa [past] at ran

end Keeps

/-! ## When the next sample is due -/

def due (plan : PollPlan ε α) (p : Poll) : Duration :=
  if p.attempt.number = 0 then p.clock else p.clock + max plan.interval 1

/-- A further sample is taken when it is due, if that is not too late; the first in any case. -/
theorem atNextSample_eq (plan : PollPlan ε α) (p : Poll) :
    p.atNextSample plan =
      if p.attempt.number ≠ 0 ∧ plan.timeout ≤ p.due plan then none
      else some { p with clock := p.due plan } := by
  unfold atNextSample due afterPause pause
  by_cases first : p.attempt.number = 0
  · simp [first]
  · have shorter (timeout clock interval : Nat) :
        (timeout ≤ clock ∨ timeout ≤ clock + min interval (timeout - clock)) ↔
          timeout ≤ clock + interval := by omega
    rw [if_neg first, if_neg first]
    simp only [shorter, ne_eq, first, not_false_eq_true, true_and]
    by_cases late : plan.timeout ≤ p.clock + max plan.interval 1
    · rw [if_pos late, if_pos late]
    · -- the pause is not cut, since the time is not up at its end
      have whole : min (max plan.interval 1) (plan.timeout - p.clock) = max plan.interval 1 := by
        have (timeout clock interval : Nat) (early : ¬ timeout ≤ clock + interval) :
            min interval (timeout - clock) = interval := by omega
        exact this _ _ _ late
      rw [if_neg late, if_neg late, whole]

/-- All that happens before a sample is that time passes until it is due. -/
theorem eq_of_atNextSample {p q : Poll} (early : p.atNextSample plan = some q) :
    q = { p with clock := p.due plan } := by
  rw [atNextSample_eq] at early
  split at early
  · cases early
  · exact (Option.some.inj early).symm

/-! ## Counting samples -/

/-- The poll has counted so many samples, as far as a word can tell. -/
def Counts (p : Poll) (n : Nat) : Prop := p.attempt.number = (n : UInt32)

theorem Counts.number_eq {p : Poll} {n : Nat} (h : p.Counts n) :
    (p.attempt.number : Nat) = n % UInt32.size := by
  rw [h, UInt32.toNat_ofNat']

theorem Counts.eq_zero_iff {p : Poll} {n : Nat} (h : p.Counts n) :
    p.attempt.number = 0 ↔ UInt32.size ∣ n := by
  rw [← UInt32.toNat_inj, h.number_eq, Nat.dvd_iff_mod_eq_zero]
  rfl

theorem Counts.succ {p q : Poll} {n : Nat} (h : p.Counts n)
    (next : q.attempt.number = p.attempt.number + 1) : q.Counts (n + 1) := by
  rw [Counts, next, h, UInt32.ofNat_add]
  rfl

theorem Counts.afterCall {p q : Poll} {n : Nat} (h : p.Counts n)
    (early : p.atNextSample plan = some q) (spent : Duration) :
    (q.afterCall spent).Counts (n + 1) := by
  rw [eq_of_atNextSample early]
  exact h.succ rfl

/-- How many pauses there are before the next sample when so many have been taken. There is one
after each but every `2 ^ 32`th, since none are counted then. -/
def pauses (samples : Nat) : Nat := samples - samples / UInt32.size

theorem pauses_of_dvd {n : Nat} (full : UInt32.size ∣ n) : pauses n = pauses (n - 1) := by
  simp only [pauses, UInt32.size] at full ⊢
  omega

theorem pauses_of_not_dvd {n : Nat} (more : ¬ UInt32.size ∣ n) :
    pauses n = pauses (n - 1) + 1 := by
  simp only [pauses, UInt32.size] at more ⊢
  omega

def elapsed (interval : Duration) (spent : List Duration) : Duration :=
  spent.foldr (· + ·) (pauses spent.length * interval)

/-- Whether the time is not up after calls that took so long. The first call is made in any case,
and so is every call that is counted as the first. -/
def InTime (plan : PollPlan ε α) (spent : List Duration) : Prop :=
  UInt32.size ∣ spent.length ∨ elapsed (max plan.interval 1) spent < plan.timeout

/-- The sample after a call is due when the call is over, and a pause if there is one. -/
theorem Counts.due_afterCall {p q : Poll} {n : Nat} (h : p.Counts n)
    (early : p.atNextSample plan = some q) (spent : Duration) :
    (q.afterCall spent).due plan + pauses n * max plan.interval 1 =
      p.due plan + spent + pauses (n + 1) * max plan.interval 1 := by
  have clock : (q.afterCall spent).clock = p.due plan + spent := by
    rw [eq_of_atNextSample early]
    rfl
  rw [due, clock]
  split
  · next full =>
    rw [pauses_of_dvd ((h.afterCall early spent).eq_zero_iff.mp full), Nat.add_sub_cancel]
  · next more =>
    rw [pauses_of_not_dvd (mt (h.afterCall early spent).eq_zero_iff.mpr more),
      Nat.add_sub_cancel, Nat.succ_mul, Nat.add_assoc (p.due plan + spent),
      Nat.add_comm (max plan.interval 1)]

/-! ## Calls that come to nothing -/

variable (plan op) in
/-- Calls that failed one after the other, each for some cause and after some time, but so that it
was worth another try. -/
inductive Retried : Poll → σ → List (ε × Duration) → Poll → σ → Prop
  | nil (p : Poll) (s : σ) : Retried p s [] p s
  | cons {p q p' : Poll} {s s₁ s' : σ} {cause : ε} {spent : Duration}
      {tries : List (ε × Duration)} (early : p.atNextSample plan = some q)
      (called : op s = ((.error cause, spent), s₁)) (again : plan.retries cause = true)
      (rest : Retried ((q.afterCall spent).withError plan cause) s₁ tries p' s') :
      Retried p s ((cause, spent) :: tries) p' s'

theorem Retried.of_append {p p' : Poll} {s s' : σ} {front rest : List (ε × Duration)}
    (h : Retried plan op p s (front ++ rest) p' s') :
    ∃ q r, Retried plan op p s front q r ∧ Retried plan op q r rest p' s' := by
  induction front generalizing p s with
  | nil => exact ⟨p, s, .nil p s, h⟩
  | cons first front ih =>
      cases h with
      | cons early called again others =>
          obtain ⟨q, r, before, after⟩ := ih others
          exact ⟨q, r, .cons early called again before, after⟩

theorem Retried.counts {p p' : Poll} {s s' : σ} {tries : List (ε × Duration)}
    (h : Retried plan op p s tries p' s') {n : Nat} (counted : p.Counts n) :
    p'.Counts (n + tries.length) := by
  induction h generalizing n with
  | nil => exact counted
  | @cons _ _ _ _ _ _ _ spent tries early called again rest ih =>
      rw [List.length_cons, Nat.add_comm tries.length, ← Nat.add_assoc]
      exact ih (counted.afterCall early spent)

/-- The next sample is due when all calls and the pauses between them are over. -/
theorem Retried.due_eq {p p' : Poll} {s s' : σ} {tries : List (ε × Duration)}
    (h : Retried plan op p s tries p' s') {n : Nat} (counted : p.Counts n) :
    p'.due plan + pauses n * max plan.interval 1 =
      p.due plan + (tries.map Prod.snd).foldr (· + ·)
        (pauses (n + tries.length) * max plan.interval 1) := by
  induction h generalizing n with
  | nil => rfl
  | @cons p q _ _ _ _ cause spent tries early called again rest ih =>
      have later := ih (counted.afterCall early spent)
      have once := counted.due_afterCall early spent
      have both (d d' d₁ s t a b : Nat) (later : d' + b = d₁ + t) (once : d₁ + a = d + s + b) :
          d' + a = d + (s + t) := by omega
      rw [List.map_cons, List.foldr_cons, List.length_cons, Nat.add_comm tries.length,
        ← Nat.add_assoc n]
      exact both _ _ _ _ _ _ _ later once

/-- After calls that came to nothing another is made just in case there is time for it. -/
theorem Retried.atNextSample_eq_none {p : Poll} {s s' : σ} {tries : List (ε × Duration)}
    (h : Retried plan op {} s tries p s') :
    p.atNextSample plan = none ↔ ¬ InTime plan (tries.map Prod.snd) := by
  have counted : p.Counts tries.length := by
    have counted := h.counts (n := 0) rfl
    rwa [Nat.zero_add] at counted
  have due : p.due plan = elapsed (max plan.interval 1) (tries.map Prod.snd) := by
    have due := h.due_eq (n := 0) rfl
    rw [elapsed, List.length_map]
    simpa [Poll.due, pauses] using due
  simp [atNextSample_eq, due, counted.eq_zero_iff, InTime]

theorem Retried.inTime_of_some {p q : Poll} {s s' : σ} {tries : List (ε × Duration)}
    (h : Retried plan op {} s tries p s') (early : p.atNextSample plan = some q) :
    InTime plan (tries.map Prod.snd) := by
  refine Classical.byContradiction fun late => ?_
  rw [h.atNextSample_eq_none.mpr late] at early
  cases early

theorem Retried.inTime_dropLast {p : Poll} {s s' : σ} {tries : List (ε × Duration)}
    (h : Retried plan op {} s tries p s') : InTime plan (tries.dropLast.map Prod.snd) := by
  obtain rfl | ⟨front, last, rfl⟩ := tries.eq_nil_or_concat
  · exact .inl (Nat.dvd_zero _)
  · rw [List.concat_eq_append] at h ⊢
    obtain ⟨q, r, before, after⟩ := h.of_append
    rw [List.dropLast_concat]
    cases after with
    | cons early called again rest => exact before.inTime_of_some early

variable (plan op) in
/-- How a poll gets to its next item: calls come to nothing until the next would be due too late, or
until one gives a value or fails for good. -/
inductive RunEnd (p : Poll) (s : σ) : Except (PollError ε) α → Poll → σ → Prop
  | expired {p' : Poll} {s' : σ} {tries : List (ε × Duration)}
      (tried : Retried plan op p s tries p' s') (late : p'.atNextSample plan = none) :
      RunEnd p s (.error (.expired plan.timeout p'.attempt))
        { p'.afterPause plan with finished := true } s'
  | ready {p' q : Poll} {s₁ s' : σ} {tries : List (ε × Duration)} {value : α} {spent : Duration}
      (tried : Retried plan op p s tries p' s₁) (early : p'.atNextSample plan = some q)
      (called : op s₁ = ((.ok value, spent), s')) :
      RunEnd p s (.ok value) ((q.afterCall spent).withValue plan value) s'
  | aborted {p' q : Poll} {s₁ s' : σ} {tries : List (ε × Duration)} {cause : ε} {spent : Duration}
      (tried : Retried plan op p s tries p' s₁) (early : p'.atNextSample plan = some q)
      (called : op s₁ = ((.error cause, spent), s')) (definite : plan.retries cause = false) :
      RunEnd p s (.error (.aborted cause)) { q.afterCall spent with finished := true } s'

theorem RunEnd.head {p q p' : Poll} {s s₁ s' : σ} {cause : ε} {spent : Duration}
    {item : Except (PollError ε) α} (early : p.atNextSample plan = some q)
    (called : op s = ((.error cause, spent), s₁)) (again : plan.retries cause = true)
    (h : RunEnd plan op ((q.afterCall spent).withError plan cause) s₁ item p' s') :
    RunEnd plan op p s item p' s' := by
  cases h with
  | expired tried late => exact .expired (.cons early called again tried) late
  | ready tried early' called' => exact .ready (.cons early called again tried) early' called'
  | aborted tried early' called' definite =>
      exact .aborted (.cons early called again tried) early' called' definite

variable (plan op) in
theorem run_end (p : Poll) (s : σ) :
    ∃ item p' s', run plan op p s = (some item, p', s') ∧ RunEnd plan op p s item p' s' := by
  fun_induction run plan op p s with
  | case1 p s late e q expired =>
      cases expired
      exact ⟨_, _, s, rfl, .expired (.nil p s) late⟩
  | case2 p s q early call s₁ called q' value ready =>
      obtain ⟨outcome, spent⟩ := call
      obtain rfl := judge_eq_ready ready
      exact ⟨_, _, s₁, rfl, .ready (.nil p s) early called⟩
  | case3 p s q early call s₁ called q' cause transient ih =>
      obtain ⟨outcome, spent⟩ := call
      obtain ⟨rfl, again⟩ := judge_eq_transient transient
      obtain ⟨item, p', s', ran, ended⟩ := ih
      exact ⟨item, p', s', ran, ended.head early called again⟩
  | case4 p s q early call s₁ called q' cause definite =>
      obtain ⟨outcome, spent⟩ := call
      have refused := retries_of_definite definite
      obtain rfl := judge_eq_definite definite
      exact ⟨_, _, s₁, rfl, .aborted (.nil p s) early called refused⟩

variable (plan op) in
theorem next_end {p : Poll} (going : p.finished = false) (s : σ) :
    ∃ item p' s', next plan op p s = (some item, p', s') ∧ RunEnd plan op p s item p' s' := by
  rw [next_of_going going]
  exact run_end plan op p s

variable (plan op) in
theorem waitFor_any_end {p : Poll} (going : p.finished = false) (s : σ) :
    ∃ item p' s', waitFor plan op (fun _ => true) p s = (item, p', s') ∧
      RunEnd plan op p s item p' s' := by
  obtain ⟨item, p', s', found, ended⟩ := next_end plan op going s
  refine ⟨item, p', s', ?_, ended⟩
  rw [waitFor, seek.eq_def]
  cases item with
  | ok value => split <;> simp_all
  | error e => split <;> simp_all

end SerialConsole.Poll
