import SerialConsole.Proofs.Poll

/-!
# The items of a poll

`nexts` asks a poll for one item after the other, and `logged` keeps account of the calls that are
made for them. What one item takes is told by `RunEnd`; `Yielded` is what any number of items come
to: the values of all calls in their order, then at most one failure, which tells truly how the
calls went, and from then on nothing, without a further call (`items_of_nexts`).
-/

namespace SerialConsole.Poll

variable {ε α σ : Type} {plan : PollPlan ε α} {op : σ → Call ε α × σ}

abbrev Item (ε α : Type) := Option (Except (PollError ε) α)

/-- Asks for a number of items, whatever they are. -/
def nexts (plan : PollPlan ε α) (op : σ → Call ε α × σ) : Nat → Poll → σ →
    List (Item ε α) × Poll × σ
  | 0, p, s => ([], p, s)
  | n + 1, p, s =>
    let (items, p, s) := nexts plan op n p s
    let (item, p, s) := next plan op p s
    (items ++ [item], p, s)

theorem nexts_one (plan : PollPlan ε α) (op : σ → Call ε α × σ) (p : Poll) (s : σ) :
    nexts plan op 1 p s =
      ([(next plan op p s).1], (next plan op p s).2.1, (next plan op p s).2.2) := rfl

/-- An operation that keeps account of its calls. -/
def logged (op : σ → Call ε α × σ) (s : σ × List (Call ε α)) :
    Call ε α × σ × List (Call ε α) :=
  ((op s.1).1, (op s.1).2, s.2 ++ [(op s.1).1])

/-! ## Polls that are over -/

theorem next_of_finished {p : Poll} (past : p.finished = true) (s : σ) :
    next plan op p s = (none, p, s) := if_pos past

theorem nexts_of_finished {p : Poll} (past : p.finished = true) (s : σ) (n : Nat) :
    nexts plan op n p s = (List.replicate n none, p, s) := by
  induction n with
  | zero => rfl
  | succ n ih =>
    rw [nexts, ih]
    simp only [next_of_finished past]
    rw [List.replicate_succ']

/-! ## Polls in a wider state -/

section Narrow

variable {τ β : Type} {wide : τ → Call ε α × τ}

/-- What a poll came to, without the part of the state that `π` leaves out. -/
def narrow (π : τ → σ) (y : β × Poll × τ) : β × Poll × σ := (y.1, y.2.1, π y.2.2)

variable (plan) (π : τ → σ) (same : ∀ t, ((wide t).1, π (wide t).2) = op (π t))

include same

/-- A poll does not depend on what its operation does not depend on. -/
theorem run_narrow (p : Poll) (t : τ) : narrow π (run plan wide p t) = run plan op p (π t) := by
  have called (t : τ) : op (π t) = ((wide t).1, π (wide t).2) := (same t).symm
  fun_induction run plan wide p t with
  | case1 p t late e q expired =>
    rw [run.eq_def plan op, late]
    simp [narrow, expired]
  | case2 p t q early call t₁ ran q' value ready =>
    rw [run.eq_def plan op, early]
    simp [called, ran, ready, narrow, q']
  | case3 p t q early call t₁ ran q' cause transient ih =>
    rw [run.eq_def plan op, early]
    simp [called, ran, transient, q', ih]
  | case4 p t q early call t₁ ran q' cause definite =>
    rw [run.eq_def plan op, early]
    simp [called, ran, definite, narrow, q']

theorem next_narrow (p : Poll) (t : τ) : narrow π (next plan wide p t) = next plan op p (π t) := by
  unfold next
  split
  · rfl
  · exact run_narrow plan π same p t

end Narrow

/-! ## The account of the calls -/

def unlogged {β : Type} (y : β × Poll × σ × List (Call ε α)) : β × Poll × σ :=
  (y.1, y.2.1, y.2.2.1)

theorem nexts_logged (n : Nat) (p : Poll) (s : σ) (calls : List (Call ε α)) :
    unlogged (nexts plan (logged op) n p (s, calls)) = nexts plan op n p s := by
  induction n with
  | zero => rfl
  | succ n ih =>
    have same (t : σ × List (Call ε α)) : ((logged op t).1, (logged op t).2.1) = op t.1 := rfl
    have last := next_narrow plan Prod.fst same (nexts plan (logged op) n p (s, calls)).2.1
      (nexts plan (logged op) n p (s, calls)).2.2
    rw [nexts, nexts, ← ih]
    simp only [unlogged, narrow] at last ⊢
    rw [← last]

theorem calls_of_logged {s s' : σ × List (Call ε α)} {call : Call ε α}
    (called : logged op s = (call, s')) : s'.2 = s.2 ++ [call] := by
  cases called
  rfl

/-- A call that failed. -/
def failed (attempt : ε × Duration) : Call ε α := (.error attempt.1, attempt.2)

/-- Whatever failed was worth another try. -/
def Retriable (plan : PollPlan ε α) (calls : List (Call ε α)) : Prop :=
  ∀ cause spent, (.error cause, spent) ∈ calls → plan.retries cause = true

theorem Retriable.append {calls more : List (Call ε α)} (h : Retriable plan calls)
    (h' : Retriable plan more) : Retriable plan (calls ++ more) :=
  fun cause spent called => (List.mem_append.mp called).elim (h cause spent) (h' cause spent)

theorem Retried.logged {p p' : Poll} {s s' : σ × List (Call ε α)} {tries : List (ε × Duration)}
    (h : Retried plan (logged op) p s tries p' s') :
    s'.2 = s.2 ++ tries.map failed ∧ Retriable plan (tries.map (failed (α := α))) := by
  induction h with
  | nil => exact ⟨(List.append_nil _).symm, by simp [Retriable]⟩
  | @cons p q p' s s₁ s' cause spent tries early called again rest ih =>
    obtain ⟨log, others⟩ := ih
    refine ⟨?_, ?_⟩
    · rw [log, calls_of_logged called, List.append_assoc]
      rfl
    · intro cause' spent' member
      rcases List.mem_cons.mp member with same | later
      · cases same
        exact again
      · exact others cause' spent' later

/-! ## What items come to -/

/-- The values of calls, as they are yielded. -/
def values (calls : List (Call ε α)) : List (Item ε α) :=
  calls.filterMap fun call => match call.1 with
    | .ok value => some (some (.ok value))
    | .error _ => none

theorem values_append (calls more : List (Call ε α)) :
    values (calls ++ more) = values calls ++ values more := List.filterMap_append

theorem values_failed (tries : List (ε × Duration)) :
    values (tries.map (failed (α := α))) = [] := by
  simp [values, failed]

/-- Why a poll that has made some calls yields no more values: the last of them failed for good, and
the others that failed did not; or the time was up, and none had failed for good. -/
inductive Ending (plan : PollPlan ε α) (attempt : Attempt) (calls : List (Call ε α)) :
    PollError ε → Prop
  | expired (again : Retriable plan calls) :
      Ending plan attempt calls (.expired plan.timeout attempt)
  | aborted {front : List (Call ε α)} {cause : ε} {spent : Duration}
      (last : calls = front ++ [(.error cause, spent)]) (definite : plan.retries cause = false)
      (again : Retriable plan front) : Ending plan attempt calls (.aborted cause)

/-- What any number of items of a poll come to, and where they leave the poll. -/
inductive Yielded (plan : PollPlan ε α) (calls : List (Call ε α)) :
    List (Item ε α) → Poll → Prop
  | going {p : Poll} (going : p.finished = false) (counted : p.Counts calls.length)
      (again : Retriable plan calls) : Yielded plan calls (values calls) p
  | ended {p : Poll} {e : PollError ε} (k : Nat) (past : p.finished = true)
      (counted : p.Counts calls.length) (ending : Ending plan p.attempt calls e) :
      Yielded plan calls (values calls ++ some (.error e) :: List.replicate k none) p

theorem finished_afterCall {p q : Poll} (early : p.atNextSample plan = some q)
    (spent : Duration) : (q.afterCall spent).finished = p.finished := by
  rw [eq_of_atNextSample early]
  rfl

theorem Retried.finished_eq {p p' : Poll} {s s' : σ} {tries : List (ε × Duration)}
    (h : Retried plan op p s tries p' s') : p'.finished = p.finished := by
  induction h with
  | nil => rfl
  | @cons _ _ _ _ _ _ _ spent _ early called again rest ih =>
    rw [ih]
    exact finished_afterCall early spent

theorem values_of_retried (calls : List (Call ε α)) (tries : List (ε × Duration)) :
    values (calls ++ tries.map failed) = values calls := by
  rw [values_append, values_failed, List.append_nil]

theorem Retried.logged_call {p p₁ q : Poll} {s s₁ : σ × List (Call ε α)} {s' : σ}
    {calls' : List (Call ε α)} {tries : List (ε × Duration)} {call : Call ε α}
    (tried : Retried plan (Poll.logged op) p s tries p₁ s₁) (early : p₁.atNextSample plan = some q)
    (called : Poll.logged op s₁ = (call, s', calls')) (counted : p.Counts s.2.length) :
    calls' = (s.2 ++ tries.map failed) ++ [call] ∧ (q.afterCall call.2).Counts calls'.length := by
  have last : calls' = (s.2 ++ tries.map failed) ++ [call] := by
    rw [← tried.logged.1]
    exact calls_of_logged called
  refine ⟨last, ?_⟩
  rw [last, List.length_append, List.length_append, List.length_map]
  exact (tried.counts counted).afterCall early call.2

theorem Yielded.next {items : List (Item ε α)} {calls : List (Call ε α)} {p : Poll}
    (h : Yielded plan calls items p) (op : σ → Call ε α × σ) (s : σ) :
    ∃ item p' s' calls', next plan (logged op) p (s, calls) = (item, p', s', calls') ∧
      Yielded plan calls' (items ++ [item]) p' := by
  cases h with
  | @ended _ e k past counted ending =>
    refine ⟨none, p, s, calls, next_of_finished past (s, calls), ?_⟩
    rw [List.append_assoc, List.cons_append, ← List.replicate_succ']
    exact .ended (k + 1) past counted ending
  | going going counted again =>
    obtain ⟨item, p', ⟨s', calls'⟩, asked, ended⟩ := next_end plan (logged op) going (s, calls)
    refine ⟨some item, p', s', calls', asked, ?_⟩
    cases ended with
    | @expired p₁ _ tries tried late =>
      obtain ⟨log, retried⟩ := tried.logged
      obtain rfl : calls' = calls ++ tries.map failed := log
      have count : p₁.Counts (calls ++ tries.map failed).length := by
        rw [List.length_append, List.length_map]
        exact tried.counts counted
      rw [← values_of_retried calls tries]
      exact .ended 0 rfl count (.expired (again.append retried))
    | @ready p₁ q s₁ _ tries value spent tried early called =>
      obtain ⟨log, count⟩ := tried.logged_call early called counted
      have still : (q.afterCall spent).finished = false :=
        (finished_afterCall early spent).trans (tried.finished_eq.trans going)
      have retried : Retriable plan calls' := by
        rw [log]
        refine (again.append tried.logged.2).append fun cause spent' member => ?_
        cases List.mem_singleton.mp member
      have same : values calls' = values calls ++ [some (.ok value)] := by
        rw [log, values_append, values_of_retried]
        rfl
      rw [← same]
      exact .going still count retried
    | @aborted p₁ q s₁ _ tries cause spent tried early called definite =>
      obtain ⟨log, count⟩ := tried.logged_call early called counted
      have same : values calls' = values calls := by
        rw [log, values_append, values_of_retried]
        exact List.append_nil _
      rw [← same]
      exact .ended 0 rfl count (.aborted log definite (again.append tried.logged.2))

theorem yielded_nexts (plan : PollPlan ε α) (op : σ → Call ε α × σ) (s : σ) (n : Nat) :
    ∃ items p s' calls, nexts plan (logged op) n {} (s, []) = (items, p, s', calls) ∧
      Yielded plan calls items p := by
  induction n with
  | zero => exact ⟨[], {}, s, [], rfl, .going rfl rfl (by simp [Retriable])⟩
  | succ n ih =>
    obtain ⟨items, p, s₁, calls, before, yielded⟩ := ih
    obtain ⟨item, p', s', calls', asked, more⟩ := yielded.next op s₁
    refine ⟨items ++ [item], p', s', calls', ?_, more⟩
    rw [nexts, before]
    simp only [asked]

/-- Any number of items of a poll that begins, with an account of the calls made for them. There are
as many calls as the poll counts, as far as its word can tell. As long as none has failed for good
and there is time, the items are the values of the calls, each once and in order; otherwise a
failure comes after them, and then nothing. The failure tells how the calls went, and no call is
made after it. -/
theorem items_of_nexts (plan : PollPlan ε α) (op : σ → Call ε α × σ) (s : σ) (n : Nat) :
    ∃ items p s' calls, nexts plan op n {} s = (items, p, s') ∧
      nexts plan (logged op) n {} (s, []) = (items, p, s', calls) ∧
      (p.attempt.number : Nat) = calls.length % UInt32.size ∧
      ((p.finished = false ∧ Retriable plan calls ∧ items = values calls) ∨
        ∃ e k, Ending plan p.attempt calls e ∧
          items = values calls ++ some (.error e) :: List.replicate k none ∧
          ∀ m, nexts plan (logged op) m p (s', calls) = (List.replicate m none, p, s', calls)) := by
  obtain ⟨items, p, s', calls, ran, yielded⟩ := yielded_nexts plan op s n
  have plain : nexts plan op n {} s = (items, p, s') := by
    rw [← nexts_logged n {} s [], ran]
    rfl
  cases yielded with
  | going going counted again =>
    exact ⟨_, p, s', calls, plain, ran, counted.number_eq, .inl ⟨going, again, rfl⟩⟩
  | ended k past counted ending =>
    exact ⟨_, p, s', calls, plain, ran, counted.number_eq,
      .inr ⟨_, k, ending, rfl, fun m => nexts_of_finished past _ m⟩⟩

end SerialConsole.Poll
