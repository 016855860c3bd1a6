import SerialConsole.Proofs.Poll.Timing

/-!
# Polls for an accepted value

`Poll.seek` asks a poll for one item after the other and tests the values among them. Its account
lists the calls and the tests as they come: `noted` adds the calls to it and `notedTest` the tests.
`Told` is what a poll that goes on has noted of its calls, and `Outcome` is what the search comes
to: the first value that is accepted, or the failure of the poll, which tells truly how the calls
went (`outcome_of_seek`).
-/

namespace SerialConsole.Poll

variable {ε α σ : Type} {plan : PollPlan ε α} {op : σ → Call ε α × σ}
  {accepts : α → σ → (Bool × Duration) × σ}

/-! ## The account of calls and tests -/

/-- What happens while a value is sought. -/
inductive Event (ε α : Type) where
  | sampled (call : Call ε α)
  | tested (value : α) (accepted : Bool)

/-- An operation whose calls are added to an account. -/
def noted (op : σ → Call ε α × σ) (s : σ × List (Event ε α)) :
    Call ε α × σ × List (Event ε α) :=
  ((op s.1).1, (op s.1).2, s.2 ++ [.sampled (op s.1).1])

/-- A test that is added to the account, with what it came to. -/
def notedTest (accepts : α → σ → (Bool × Duration) × σ) (value : α) (s : σ × List (Event ε α)) :
    (Bool × Duration) × σ × List (Event ε α) :=
  ((accepts value s.1).1, (accepts value s.1).2,
    s.2 ++ [.tested value (accepts value s.1).1.1])

/-- What is done for a call that ends no search: a value that it gave is tested and refused. -/
def refusal (call : Call ε α) : List (Event ε α) :=
  match call.1 with
  | .ok value => [.sampled call, .tested value false]
  | .error _ => [.sampled call]

/-- The account of calls that end no search. -/
def refused (calls : List (Call ε α)) : List (Event ε α) := calls.flatMap refusal

theorem refused_append (calls more : List (Call ε α)) :
    refused (calls ++ more) = refused calls ++ refused more := List.flatMap_append

variable (plan) in
/-- A search does not depend on what neither its operation nor its test depends on. -/
theorem seek_narrow {τ : Type} {wide : τ → Call ε α × τ} {tests : α → τ → (Bool × Duration) × τ}
    (π : τ → σ) (same : ∀ t, ((wide t).1, π (wide t).2) = op (π t))
    (sameTest : ∀ value t, ((tests value t).1, π (tests value t).2) = accepts value (π t))
    (p : Poll) (t : τ) :
    narrow π (seek plan wide tests p t) = seek plan op accepts p (π t) := by
  have asked (p : Poll) (t : τ) : next plan op p (π t) = narrow π (next plan wide p t) :=
    (next_narrow plan π same p t).symm
  have tested (value : α) (t : τ) :
      accepts value (π t) = ((tests value t).1, π (tests value t).2) := (sameTest value t).symm
  fun_induction seek plan wide tests p t with
  | case1 p t value p' t' item spent t'' taken =>
    rw [seek.eq_def plan op, asked, item]
    simp [narrow, tested, taken]
  | case2 p t value p' t' item spent t'' refused ih =>
    rw [seek.eq_def plan op, asked, item]
    simp [narrow, tested, refused, ← ih]
  | case3 p t e p' t' failed =>
    rw [seek.eq_def plan op, asked, failed]
    simp [narrow]
  | case4 p t p' t' past e p'' expired =>
    rw [seek.eq_def plan op, asked, past]
    simp [narrow, expired]

/-! ## Searches without an end of the items -/

variable (plan op accepts) in
/-- How a search goes if every item that it asks for is a value or a failure. -/
inductive Seeks : Poll → σ → Except (PollError ε) α → Poll → σ → Prop
  | accepted {p p' : Poll} {s s₁ s' : σ} {value : α} {spent : Duration}
      (item : next plan op p s = (some (.ok value), p', s₁))
      (taken : accepts value s₁ = ((true, spent), s')) : Seeks p s (.ok value) (p'.later spent) s'
  | refused {p p₁ p' : Poll} {s s₁ s₂ s' : σ} {value : α} {spent : Duration}
      {result : Except (PollError ε) α} (item : next plan op p s = (some (.ok value), p₁, s₁))
      (refused : accepts value s₁ = ((false, spent), s₂))
      (rest : Seeks (p₁.later spent) s₂ result p' s') : Seeks p s result p' s'
  | failed {p p' : Poll} {s s' : σ} {e : PollError ε}
      (item : next plan op p s = (some (.error e), p', s')) : Seeks p s (.error e) p' s'

theorem seek_of_error {p p' : Poll} {s s' : σ} {e : PollError ε}
    (item : next plan op p s = (some (.error e), p', s')) :
    seek plan op accepts p s = (.error e, p', s') := by
  rw [seek.eq_def]
  split <;> simp_all

theorem RunEnd.finished_eq {p p' : Poll} {s s' : σ} {value : α}
    (h : RunEnd plan op p s (.ok value) p' s') : p'.finished = p.finished := by
  cases h with
  | @ready p₁ q s₁ _ tries value spent tried early called =>
    exact (finished_afterCall early spent).trans tried.finished_eq

theorem finished_of_value {p p' : Poll} {s s' : σ} {value : α} (going : p.finished = false)
    (item : next plan op p s = (some (.ok value), p', s')) : p'.finished = false := by
  obtain ⟨_, _, _, asked, ended⟩ := next_end plan op going s
  rw [asked] at item
  cases item
  exact ended.finished_eq.trans going

variable (plan op accepts) in
theorem seeks_of_going {p : Poll} (going : p.finished = false) (s : σ) :
    ∃ result p' s', seek plan op accepts p s = (result, p', s') ∧
      Seeks plan op accepts p s result p' s' := by
  fun_induction seek plan op accepts p s with
  | case1 p s value p' s₁ item spent s' taken => exact ⟨_, _, _, rfl, .accepted item taken⟩
  | case2 p s value p₁ s₁ item spent s₂ refused ih =>
    have still : p₁.finished = false := finished_of_value going item
    obtain ⟨result, p', s', sought, rest⟩ := ih still
    exact ⟨result, p', s', sought, .refused item refused rest⟩
  | case3 p s e p' s' item => exact ⟨_, _, _, rfl, .failed item⟩
  | case4 p s p' s' past =>
    obtain ⟨_, _, _, asked, -⟩ := next_end plan op going s
    rw [asked] at past
    cases past

/-! ## What a poll notes of its calls -/

def cause? : Call ε α → Option ε
  | (.ok _, _) => none
  | (.error cause, _) => some cause

def given (calls : List (Call ε α)) : List α := calls.filterMap fun call => call.1.toOption

theorem given_concat_ok (calls : List (Call ε α)) (value : α) (spent : Duration) :
    given (calls ++ [(.ok value, spent)]) = given calls ++ [value] := by
  simp [given, Except.toOption]

theorem given_concat_error (calls : List (Call ε α)) (cause : ε) (spent : Duration) :
    given (calls ++ [(.error cause, spent)]) = given calls := by
  simp [given, Except.toOption]

def wording (plan : PollPlan ε α) : Call ε α → String
  | (.ok value, _) => s!"value: {plan.render value}"
  | (.error cause, _) => s!"error: {plan.describe cause}"

theorem wording_ne (plan : PollPlan ε α) (call : Call ε α) : wording plan call ≠ "no samples" := by
  intro same
  have first : (wording plan call).toList.head? = some 'n' := by rw [same]; rfl
  obtain ⟨outcome, spent⟩ := call
  cases outcome <;> simp [wording, toString] at first

/-- What a poll that goes on has noted of its calls. -/
structure Told (plan : PollPlan ε α) (calls : List (Call ε α)) (p : Poll) : Prop where
  going : p.finished = false
  counted : p.Counts calls.length
  again : Retriable plan calls
  lastError : p.attempt.lastError = (calls.getLast?.bind cause?).map plan.describe
  lastValue : p.attempt.lastValue = (given calls).getLast?.map plan.render

theorem Told.later {calls : List (Call ε α)} {p : Poll} (h : Told plan calls p) (spent : Duration) :
    Told plan calls (p.later spent) := { h with }

theorem Told.transient {calls : List (Call ε α)} {p q : Poll} (h : Told plan calls p)
    (early : p.atNextSample plan = some q) {cause : ε} (again : plan.retries cause = true)
    (spent : Duration) :
    Told plan (calls ++ [(.error cause, spent)]) ((q.afterCall spent).withError plan cause) where
  going := (finished_afterCall early spent).trans h.going
  counted := by
    rw [List.length_append]
    exact h.counted.afterCall early spent
  again := h.again.append fun cause' spent' member => by
    cases List.mem_singleton.mp member
    exact again
  lastError := by
    rw [List.getLast?_concat]
    rfl
  lastValue := by
    rw [given_concat_error, ← h.lastValue, eq_of_atNextSample early]
    rfl

theorem Told.ready {calls : List (Call ε α)} {p q : Poll} (h : Told plan calls p)
    (early : p.atNextSample plan = some q) (value : α) (spent : Duration) :
    Told plan (calls ++ [(.ok value, spent)]) ((q.afterCall spent).withValue plan value) where
  going := (finished_afterCall early spent).trans h.going
  counted := by
    rw [List.length_append]
    exact h.counted.afterCall early spent
  again := h.again.append fun cause spent' member => by cases List.mem_singleton.mp member
  lastError := by
    rw [List.getLast?_concat]
    rfl
  lastValue := by
    rw [given_concat_ok, List.getLast?_concat]
    rfl

theorem Told.retried {calls : List (Call ε α)} {p p' : Poll} {s s' : σ}
    {tries : List (ε × Duration)} (h : Told plan calls p)
    (tried : Retried plan op p s tries p' s') :
    Told plan (calls ++ tries.map failed) p' := by
  induction tried generalizing calls with
  | nil => rwa [List.map_nil, List.append_nil]
  | @cons _ _ _ _ _ _ cause spent tries early called again rest ih =>
    rw [List.map_cons, List.append_cons]
    exact ih (h.transient early again spent)

theorem Told.lastState {calls : List (Call ε α)} {last : Call ε α} {p : Poll}
    (h : Told plan (calls ++ [last]) p) : p.attempt.lastState = wording plan last := by
  have lastError := h.lastError
  have lastValue := h.lastValue
  rw [List.getLast?_concat] at lastError
  obtain ⟨outcome, spent⟩ := last
  cases outcome with
  | ok value =>
    rw [given_concat_ok, List.getLast?_concat] at lastValue
    rw [Attempt.lastState, lastError, lastValue]
    rfl
  | error cause =>
    rw [Attempt.lastState, lastError]
    rfl

/-! ## What a search comes to -/

/-- That an attempt tells the truth about the calls of a poll, of which `last` is the last. -/
structure Truthful (plan : PollPlan ε α) (front : List (Call ε α)) (last : Call ε α)
    (attempt : Attempt) : Prop where
  /-- It counts the calls as far as a word can, so exactly if there are fewer than `2 ^ 32`. -/
  number : (attempt.number : Nat) = (front.length + 1) % UInt32.size
  /-- The count has not just begun anew. -/
  counted : attempt.number ≠ 0
  lastError : attempt.lastError = (cause? last).map plan.describe
  lastValue : attempt.lastValue = (given (front ++ [last])).getLast?.map plan.render
  lastState : attempt.lastState = wording plan last
  sampled : attempt.lastState ≠ "no samples"

/-- What a search comes to, the calls and tests made for it, and where it leaves the poll. -/
inductive Outcome (plan : PollPlan ε α) :
    Except (PollError ε) α → List (Event ε α) → Poll → Prop
  | found {calls : List (Call ε α)} {value : α} {spent : Duration} {p : Poll}
      (again : Retriable plan calls) :
      Outcome plan (.ok value)
        (refused calls ++ [.sampled (.ok value, spent), .tested value true]) p
  | expired {front : List (Call ε α)} {last : Call ε α} {attempt : Attempt} {p : Poll}
      (past : p.finished = true) (again : Retriable plan (front ++ [last]))
      (told : Truthful plan front last attempt)
      (reported : ∀ into : ε → Failure,
        ((PollError.expired plan.timeout attempt).map into).toFailure =
          .conditionExpired plan.timeout.millis ((front.length + 1) % UInt32.size)
            (wording plan last)) :
      Outcome plan (.error (.expired plan.timeout attempt)) (refused (front ++ [last])) p
  | aborted {front : List (Call ε α)} {cause : ε} {spent : Duration} {p : Poll}
      (past : p.finished = true) (again : Retriable plan front)
      (definite : plan.retries cause = false)
      (reported : ∀ into : ε → Failure,
        ((PollError.aborted cause).map into).toFailure = into cause) :
      Outcome plan (.error (.aborted cause)) (refused (front ++ [(.error cause, spent)])) p

theorem Told.expired {calls : List (Call ε α)} {p q : Poll} (h : Told plan calls p)
    (late : p.atNextSample plan = none) (past : q.finished = true) :
    Outcome plan (.error (.expired plan.timeout p.attempt)) (refused calls) q := by
  have counted : p.attempt.number ≠ 0 := counted_of_late late
  -- the first call is never late
  obtain rfl | ⟨front, last, rfl⟩ := calls.eq_nil_or_concat
  · exact absurd h.counted counted
  rw [List.concat_eq_append] at h ⊢
  have number : (p.attempt.number : Nat) = (front.length + 1) % UInt32.size := by
    rw [h.counted.number_eq, List.length_append]
    rfl
  have told : Truthful plan front last p.attempt :=
    { number
      counted
      lastError := by rw [h.lastError, List.getLast?_concat]; rfl
      lastValue := h.lastValue
      lastState := h.lastState
      sampled := by rw [h.lastState]; exact wording_ne plan last }
  refine .expired past h.again told fun into => ?_
  rw [← number, ← h.lastState]
  rfl

theorem events_of_noted {t t' : σ × List (Event ε α)} {call : Call ε α}
    (called : noted op t = (call, t')) : t'.2 = t.2 ++ [.sampled call] := by
  cases called
  rfl

theorem events_of_notedTest {t t' : σ × List (Event ε α)} {value : α} {accepted : Bool}
    {spent : Duration} (tested : notedTest accepts value t = ((accepted, spent), t')) :
    t'.2 = t.2 ++ [.tested value accepted] := by
  obtain ⟨verdict, rfl⟩ := Prod.mk.inj tested
  simp only [verdict]

theorem Retried.noted {p p' : Poll} {t t' : σ × List (Event ε α)} {tries : List (ε × Duration)}
    (h : Retried plan (Poll.noted op) p t tries p' t') :
    t'.2 = t.2 ++ refused (tries.map failed) := by
  induction h with
  | nil => exact (List.append_nil _).symm
  | cons early called again rest ih =>
    rw [ih, events_of_noted called, List.append_assoc]
    rfl

/-- A call that gives a value, after others that came to nothing. -/
theorem Told.value_of_next {calls : List (Call ε α)} {p p' : Poll} {t t' : σ × List (Event ε α)}
    {value : α} (h : Told plan calls p) (account : t.2 = refused calls)
    (item : Poll.next plan (noted op) p t = (some (.ok value), p', t')) :
    ∃ front spent, t'.2 = refused front ++ [.sampled (.ok value, spent)] ∧
      Retriable plan front ∧ Told plan (front ++ [(.ok value, spent)]) p' := by
  obtain ⟨_, _, _, asked, ended⟩ := next_end plan (noted op) h.going t
  rw [asked] at item
  cases item
  cases ended with
  | @ready p₁ q t₁ _ tries _ spent tried early called =>
    have before := h.retried tried
    refine ⟨calls ++ tries.map failed, spent, ?_, before.again, before.ready early value spent⟩
    rw [events_of_noted called, tried.noted, account, refused_append]

theorem Told.failure_of_next {calls : List (Call ε α)} {p p' : Poll}
    {t t' : σ × List (Event ε α)} {e : PollError ε} (h : Told plan calls p)
    (account : t.2 = refused calls)
    (item : Poll.next plan (noted op) p t = (some (.error e), p', t')) :
    Outcome plan (.error e) t'.2 p' := by
  obtain ⟨_, _, _, asked, ended⟩ := next_end plan (noted op) h.going t
  rw [asked] at item
  cases item
  cases ended with
  | @expired p₁ _ tries tried late =>
    rw [tried.noted, account, ← refused_append]
    exact (h.retried tried).expired late rfl
  | @aborted p₁ q t₁ _ tries cause spent tried early called definite =>
    have log : t'.2 = refused ((calls ++ tries.map failed) ++ [(.error cause, spent)]) := by
      rw [events_of_noted called, tried.noted, account, ← refused_append, refused_append _ [_]]
      rfl
    rw [log]
    exact .aborted rfl (h.retried tried).again definite fun _ => rfl

variable (op accepts) in
/-- A search goes on with what was noted until it comes to an end. -/
theorem Told.outcome {calls : List (Call ε α)} {p : Poll} {t : σ × List (Event ε α)}
    (h : Told plan calls p) (account : t.2 = refused calls) :
    ∃ result p' t', seek plan (noted op) (notedTest accepts) p t = (result, p', t') ∧
      Outcome plan result t'.2 p' := by
  fun_induction seek plan (noted op) (notedTest accepts) p t generalizing calls with
  | case1 p t value p' t₁ item spent t' taken =>
    obtain ⟨front, spent', log, again, -⟩ := h.value_of_next account item
    refine ⟨_, _, _, rfl, ?_⟩
    rw [events_of_notedTest taken, log, List.append_assoc]
    exact .found again
  | case2 p t value p₁ t₁ item spent t₂ rejected ih =>
    obtain ⟨front, spent', log, -, told⟩ := h.value_of_next account item
    refine ih (told.later spent) ?_
    rw [events_of_notedTest rejected, log, List.append_assoc, refused_append]
    rfl
  | case3 p t e p' t' item => exact ⟨_, _, _, rfl, h.failure_of_next account item⟩
  | case4 p t p' t' past =>
    obtain ⟨_, _, _, asked, -⟩ := next_end plan (noted op) h.going t
    rw [asked] at past
    cases past

/-- A search in a poll that begins, with an account of the calls and tests made for it. Every value
is tested when it comes. The first that is accepted is the result, and no call is made after it;
otherwise the result is the one failure that the poll yields, and nothing comes after that. The poll
is never asked for more. The failure tells the truth about the calls, and so does what the console
makes of it. -/
theorem outcome_of_seek (plan : PollPlan ε α) (op : σ → Call ε α × σ)
    (accepts : α → σ → (Bool × Duration) × σ) (s : σ) :
    ∃ result p s' events, seek plan op accepts {} s = (result, p, s') ∧
      seek plan (noted op) (notedTest accepts) {} (s, []) = (result, p, s', events) ∧
      Seeks plan op accepts {} s result p s' ∧ Outcome plan result events p ∧
      ∀ n r, result.isOk = true ∨ nexts plan op n p r = (List.replicate n none, p, r) := by
  have begun : Told plan [] {} :=
    { going := rfl, counted := rfl, again := by simp [Retriable], lastError := rfl,
      lastValue := rfl }
  obtain ⟨result, p, ⟨s', events⟩, sought, outcome⟩ :=
    begun.outcome op accepts (t := (s, [])) rfl
  have calls (t : σ × List (Event ε α)) : ((noted op t).1, (noted op t).2.1) = op t.1 := rfl
  have tests (value : α) (t : σ × List (Event ε α)) :
      ((notedTest accepts value t).1, (notedTest accepts value t).2.1) = accepts value t.1 := rfl
  have plain : seek plan op accepts {} s = (result, p, s') := by
    rw [← seek_narrow plan Prod.fst calls tests {} (s, []), sought]
    rfl
  obtain ⟨_, _, _, same, seeks⟩ := seeks_of_going plan op accepts begun.going s
  rw [plain] at same
  cases same
  refine ⟨result, p, s', events, plain, sought, seeks, outcome, fun n r => ?_⟩
  cases outcome with
  | found => exact .inl rfl
  | expired past => exact .inr (nexts_of_finished past r n)
  | aborted past => exact .inr (nexts_of_finished past r n)

example : (match (waitUntilTrue
      { timeout := 250, interval := 100, describe := id, render := toString (α := Bool) }
      (fun _ => ((.ok false, 0), ())) {} ()).1 with
    | .error (.expired _ attempt) => some (attempt.number, attempt.lastState)
    | _ => none) = some (3, "value: false") := by
  decide +kernel

/-- A search that goes on for `2 ^ 32 + 1` calls and reports one. -/
theorem attempts_of_drawnOut :
    ∃ p : Poll, waitFor drawnOut failing id {} 0 =
        (.error (.expired drawnOut.timeout p.attempt), p, UInt32.size + 1) ∧
      p.attempt.number = 1 ∧ ∀ into : Unit → Failure,
        ((PollError.expired drawnOut.timeout p.attempt).map into).toFailure =
          .conditionExpired 4294 1 p.attempt.lastState := by
  obtain ⟨p, asked, number⟩ := next_drawnOut
  refine ⟨p, seek_of_error asked, number, fun into => ?_⟩
  rw [PollError.map, PollError.toFailure, number]
  rfl

end SerialConsole.Poll
