import SerialConsole.Proofs.Operation
import SerialConsole.Session.Lines
import Mathlib.Logic.Relation

/-!
# How waits end

While a session waits it listens to its process again and again. `Listens` is one such step, with
all that it can change; `Listened` is any number of them. A wait ends in one of the ways that
`WaitEnd` lists, so what holds of every step holds when the wait is over.
-/

namespace SerialConsole

/-- A failure that a wait on an open session can end with. -/
inductive Failure.OfWait : Failure → Prop
  | timedOut (awaited : String) (limitMillis : Nat) (buffer : String) :
      OfWait (.timedOut awaited limitMillis buffer)
  | endOfStream (buffer : String) : OfWait (.endOfStream buffer)

theorem Failure.OfWait.isFatal {e : Failure} (h : e.OfWait) : e.isFatal = true := by
  cases h <;> rfl

namespace Session

variable {σ α : Type} [Host σ]

/-! ## Listening -/

/-- One look at the output of the process of a session that is open and has not ended: there is
some, or there will be no more, or there is none in the time that was given. -/
inductive Listens (s : On σ Session) : On σ Session → Prop
  | output {terminal : Terminal} {limit after : Duration} {bytes : Bytes} {host : σ}
      (isOpen : s.subject.terminal = some terminal) (going : s.subject.ended = false)
      (heard : (Host.await terminal.process limit).run s.world.host = (.output bytes after, host)) :
      Listens s
        { subject := { s.subject with buffer := s.subject.buffer.append bytes }
          world := { host, clock := s.world.clock + max after 1 } }
  | hangUp {terminal : Terminal} {limit after : Duration} {host : σ}
      (isOpen : s.subject.terminal = some terminal) (going : s.subject.ended = false)
      (heard : (Host.await terminal.process limit).run s.world.host = (.hangUp after, host)) :
      Listens s
        { subject := { s.subject with ended := true }
          world := { host, clock := s.world.clock + after } }
  | silence {terminal : Terminal} {limit : Duration} {host : σ}
      (isOpen : s.subject.terminal = some terminal) (going : s.subject.ended = false)
      (heard : (Host.await terminal.process limit).run s.world.host = (.silence, host)) :
      Listens s { s with world := { host, clock := s.world.clock + limit } }

def Listened : On σ Session → On σ Session → Prop := Relation.ReflTransGen Listens

/-- What every look at the output keeps is kept by any number of them. -/
theorem Listened.keeps {P : On σ Session → Prop} {s s' : On σ Session} (h : Listened s s')
    (step : ∀ s s', P s → Listens s s' → P s') (hs : P s) : P s' := by
  induction h with
  | refl => exact hs
  | tail _ last ih => exact step _ _ ih last

theorem Listens.terminal_eq {s s' : On σ Session} (h : Listens s s') :
    s'.subject.terminal = s.subject.terminal := by
  cases h <;> rfl

theorem Listened.terminal_eq {s s' : On σ Session} (h : Listened s s') :
    s'.subject.terminal = s.subject.terminal :=
  h.keeps (P := fun r => r.subject.terminal = s.subject.terminal)
    (fun _ _ hr step => step.terminal_eq.trans hr) rfl

/-- Once the process has closed its output there is nothing to listen to. -/
theorem Listened.eq_of_ended {s s' : On σ Session} (h : Listened s s')
    (ended : s.subject.ended = true) : s' = s := by
  have first := Relation.ReflTransGen.cases_head h
  obtain rfl | ⟨r, hr, -⟩ := first
  · rfl
  · cases hr <;> simp_all

/-! ## Looking -/

theorem look_cases (deadline : Deadline) (s : On σ Session) :
    (∃ s', look deadline s = (.more, s') ∧ Listens s s') ∨
      (∃ s', look deadline s = (.timedOut, s') ∧ Listened s s' ∧
        s'.subject.ended = false ∧ s'.subject = s.subject) ∨
      (∃ s', look deadline s = (.ended, s') ∧ Listened s s' ∧
        (s'.subject.ended = true ∨ s'.subject.terminal = none) ∧
        s'.subject.buffer = s.subject.buffer) := by
  unfold look
  cases hend : s.subject.ended with
  | true => exact .inr (.inr ⟨s, by simp, .refl, .inl hend, rfl⟩)
  | false =>
    cases hterm : s.subject.terminal with
    | none => exact .inr (.inr ⟨s, by simp, .refl, .inr hterm, rfl⟩)
    | some terminal =>
      simp only
      by_cases left : deadline.remaining s.world.clock = 0
      · rw [if_pos left]
        exact .inr (.inl ⟨s, rfl, .refl, hend, rfl⟩)
      · rw [if_neg left]
        unfold listen
        split
        · next bytes after host heard =>
          exact .inl ⟨_, rfl, .output hterm hend heard⟩
        · next after host heard =>
          exact .inr (.inr ⟨_, rfl, .single (.hangUp hterm hend heard), .inl rfl, rfl⟩)
        · next host heard =>
          exact .inr (.inl ⟨_, rfl, .single (.silence hterm hend heard), hend, rfl⟩)

/-! ## Waiting -/

section Take

variable {take : Output.Buffer → Option (α × Output.Buffer)} {deadline : Deadline}

/-- The ways in which a wait can end: what is looked for is taken from the output that is there by
then, or it is not there when the time is up or when the process has closed its output. -/
inductive CollectEnd (take : Output.Buffer → Option (α × Output.Buffer)) (s : On σ Session) :
    Waited α × On σ Session → Prop
  | taken {s' : On σ Session} {value : α} {buffer : Output.Buffer} (listened : Listened s s')
      (found : take s'.subject.buffer = some (value, buffer)) :
      CollectEnd take s (.taken value, { s' with subject := { s'.subject with buffer } })
  | timedOut {s' : On σ Session} (listened : Listened s s')
      (missing : take s'.subject.buffer = none) (going : s'.subject.ended = false) :
      CollectEnd take s (.timedOut, s')
  | ended {s' : On σ Session} (listened : Listened s s')
      (missing : take s'.subject.buffer = none)
      (past : s'.subject.ended = true ∨ s'.subject.terminal = none) :
      CollectEnd take s (.ended, s')

theorem collect_of_look {s s₁ : On σ Session} {found : Look}
    (missing : take s.subject.buffer = none) (looked : look deadline s = (found, s₁)) :
    collect take deadline s = match found with
      | .more => collect take deadline s₁
      | .timedOut => (.timedOut, s₁)
      | .ended => (.ended, s₁) := by
  rw [collect, missing]
  cases found <;> (simp only; split <;> simp_all)

theorem CollectEnd.head {s s₁ : On σ Session} {r : Waited α × On σ Session} (first : Listens s s₁)
    (h : CollectEnd take s₁ r) : CollectEnd take s r := by
  cases h with
  | taken listened found => exact .taken (listened.head first) found
  | timedOut listened missing going => exact .timedOut (listened.head first) missing going
  | ended listened missing past => exact .ended (listened.head first) missing past

variable (take deadline) in
theorem collect_end (s : On σ Session) : CollectEnd take s (collect take deadline s) := by
  fun_induction collect take deadline s with
  | case1 s value buffer found => exact .taken .refl found
  | case2 s missing s₁ looked ih =>
    obtain ⟨s', h, step⟩ | ⟨s', h, -⟩ | ⟨s', h, -⟩ := look_cases deadline s
    · rw [looked] at h
      obtain rfl : s₁ = s' := congrArg Prod.snd h
      exact .head step ih
    · simp [looked] at h
    · simp [looked] at h
  | case3 s missing s₁ looked =>
    obtain ⟨s', h, -⟩ | ⟨s', h, listened, going, same⟩ | ⟨s', h, -⟩ := look_cases deadline s
    · simp [looked] at h
    · rw [looked] at h
      obtain rfl : s₁ = s' := congrArg Prod.snd h
      exact .timedOut listened (by rw [same]; exact missing) going
    · simp [looked] at h
  | case4 s missing s₁ looked =>
    obtain ⟨s', h, -⟩ | ⟨s', h, -⟩ | ⟨s', h, listened, past, same⟩ := look_cases deadline s
    · simp [looked] at h
    · simp [looked] at h
    · rw [looked] at h
      obtain rfl : s₁ = s' := congrArg Prod.snd h
      exact .ended listened (by rw [same]; exact missing) past

/-- The ways in which a wait on a session can end, as an operation. -/
inductive WaitEnd (take : Output.Buffer → Option (α × Output.Buffer)) (awaited : String)
    (deadline : Deadline) (s : On σ Session) : EStateM.Result Failure (On σ Session) α → Prop
  | closed (isClosed : s.subject.terminal = none) :
      WaitEnd take awaited deadline s (.error .sessionClosed s)
  | taken {s' : On σ Session} {value : α} {buffer : Output.Buffer} (listened : Listened s s')
      (found : take s'.subject.buffer = some (value, buffer)) :
      WaitEnd take awaited deadline s
        (.ok value { s' with subject := { s'.subject with buffer } })
  | timedOut {s' : On σ Session} (listened : Listened s s')
      (missing : take s'.subject.buffer = none) (going : s'.subject.ended = false) :
      WaitEnd take awaited deadline s
        (.error (.timedOut awaited deadline.timeout.millis s'.subject.excerpt) s')
  | ended {s' : On σ Session} (listened : Listened s s')
      (missing : take s'.subject.buffer = none) (past : s'.subject.ended = true) :
      WaitEnd take awaited deadline s (.error (.endOfStream s'.subject.excerpt) s')

variable (take deadline) in
theorem await_end (awaited : String) (s : On σ Session) :
    WaitEnd take awaited deadline s (await take awaited deadline s) := by
  unfold await
  cases hterm : s.subject.terminal with
  | none => simpa [isClosed, hterm] using .closed hterm
  | some terminal =>
    have isOpen : s.subject.isClosed = false := by simp [isClosed, hterm]
    rw [if_neg (by simp [isOpen])]
    have outcome := collect_end take deadline s
    generalize collect take deadline s = r at outcome
    cases outcome with
    | taken listened found => exact .taken listened found
    | timedOut listened missing going => exact .timedOut listened missing going
    | ended listened missing past =>
      refine .ended listened missing (past.resolve_right ?_)
      simp [listened.terminal_eq, hterm]

theorem await_of_found {awaited : String} {s : On σ Session} {value : α} {buffer : Output.Buffer}
    {terminal : Terminal} (isOpen : s.subject.terminal = some terminal)
    (found : take s.subject.buffer = some (value, buffer)) :
    await take awaited deadline s =
      .ok value { s with subject := { s.subject with buffer } } := by
  have open' : s.subject.isClosed = false := by simp [isClosed, isOpen]
  rw [await, if_neg (by simp [open']), collect, found]

end Take

end Session

end SerialConsole
