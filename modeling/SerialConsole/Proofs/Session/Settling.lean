import SerialConsole.Proofs.Output.Buffer
import SerialConsole.Proofs.Session.Upload
import SerialConsole.Proofs.Transcript
import SerialConsole.Session.Login

/-!
# Processes that are given time to settle

A process that has been started for a console is nudged with an empty line and listened to for a
while. `Settling` lists what can become of it in that time: it takes nothing, it closes its output,
or it is asked at the end whether it is still running. Nothing of what it prints is lost
(`settles_end`).
-/

namespace SerialConsole

def Event.printed : Event → Bytes
  | .heard _ arrival => arrival.portions.flatten
  | _ => []

namespace Session

/-- What is heard of a process that is listened to for a while, how long that takes, and whether its
output is open at the end. -/
inductive Watched (process : ProcessId) : Duration → List Event → Duration → Bool → Prop
  | elapsed : Watched process 0 [] 0 true
  | silence {left : Duration} (going : 0 < left) :
      Watched process left [.heard process .silence] left true
  | hangUp {left after : Duration} (going : 0 < left) :
      Watched process left [.heard process (.hangUp after)] after false
  | output {left after spent : Duration} {bytes : Bytes} {log : List Event} {stays : Bool}
      (going : 0 < left) (rest : Watched process (left - max after 1) log spent stays) :
      Watched process left (.heard process (.output bytes after) :: log)
        (max after 1 + spent) stays

/-- A process whose output is open at the end has been listened to all the time. -/
theorem Watched.le_spent {process : ProcessId} {left spent : Duration} {log : List Event}
    (h : Watched process left log spent true) : left ≤ spent := by
  generalize stays : true = open_ at h
  induction h with
  | elapsed => exact Nat.le_refl _
  | silence going => exact Nat.le_refl _
  | hangUp going => cases stays
  | output going rest ih => exact Nat.sub_le_iff_le_add'.mp (ih stays)

/-- What becomes of a process that is given time to settle: what is typed, heard and asked, how long
that takes, and whether the process is still there at the end. -/
inductive Settling (process : ProcessId) (settle : Duration) :
    List Event → Duration → Bool → Prop
  | refused (reason : String) :
      Settling process settle [.typed process (lineBytes []) (.error reason)] 0 false
  | closed {log : List Event} {spent : Duration}
      (watched : Watched process settle log spent false) :
      Settling process settle (.typed process (lineBytes []) (.ok ()) :: log) spent false
  | asked {log : List Event} {spent : Duration} (alive : Bool)
      (watched : Watched process settle log spent true) :
      Settling process settle
        (.typed process (lineBytes []) (.ok ()) :: log ++ [.asked process alive]) spent alive

theorem Settling.le_spent {process : ProcessId} {settle spent : Duration} {log : List Event}
    (h : Settling process settle log spent true) : settle ≤ spent := by
  cases h with
  | asked _ watched => exact watched.le_spent

variable {σ : Type} [Host σ]

/-! ## Listening for a while -/

/-- A session after its process has been listened to: the output is added to what has not been
taken. -/
def overheard (s : On (Transcript σ) Session) (log : List Event) (spent : Duration) (ended : Bool)
    (host : Transcript σ) : On (Transcript σ) Session where
  subject := { s.subject with
    buffer := s.subject.buffer.append (log.flatMap Event.printed)
    ended }
  world := { host, clock := s.world.clock + spent }

omit [Host σ] in
theorem overheard_overheard (s : On (Transcript σ) Session) (first second : List Event)
    (spent more : Duration) (ended closed : Bool) (host host' : Transcript σ) :
    overheard (overheard s first spent ended host) second more closed host' =
      overheard s (first ++ second) (spent + more) closed host' := by
  simp only [overheard, List.flatMap_append, Output.Buffer.append_append, Nat.add_assoc]

omit [Host σ] in
theorem overheard_unheard {s : On (Transcript σ) Session} (going : s.subject.ended = false)
    {log : List Event} (unheard : log.flatMap Event.printed = []) (host : Transcript σ) :
    overheard s log 0 false host = { s with world := { s.world with host } } := by
  obtain ⟨⟨_, _, _, _, ended⟩, _⟩ := s
  obtain rfl : ended = false := going
  simp only [overheard, unheard, Output.Buffer.append_nil, Nat.add_zero]

omit [Host σ] in
theorem remaining_add {deadline : Deadline} {now : Instant} (begun : deadline.start ≤ now)
    (spent : Duration) :
    deadline.remaining (now + spent) = deadline.remaining now - spent := by
  have later (timeout start now spent : Nat) (begun : start ≤ now) :
      timeout - (now + spent - start) = timeout - (now - start) - spent := by omega
  exact later _ _ _ _ begun

/-- What one look at the output of a process comes to, and what is noted of it. -/
theorem look_of_open {deadline : Deadline} {s : On (Transcript σ) Session} {terminal : Terminal}
    (isOpen : s.subject.terminal = some terminal) (going : s.subject.ended = false)
    (left : deadline.remaining s.world.clock ≠ 0) : ∃ arrival host,
      host.events = s.world.host.events ++ [.heard terminal.process arrival] ∧
      look deadline s = match arrival with
        | .output _ after =>
          (.more, overheard s [.heard terminal.process arrival] (max after 1) false host)
        | .hangUp after => (.ended, overheard s [.heard terminal.process arrival] after true host)
        | .silence => (.timedOut, overheard s [.heard terminal.process arrival]
            (deadline.remaining s.world.clock) false host) := by
  obtain ⟨arrival, host, ran⟩ : ∃ a h, (Host.await terminal.process
    (deadline.remaining s.world.clock)).run s.world.host = (a, h) := ⟨_, _, rfl⟩
  refine ⟨arrival, host, Transcript.events_of_await ran, ?_⟩
  unfold look
  rw [isOpen, going]
  simp only
  rw [if_neg left]
  unfold listen
  rw [ran]
  cases arrival <;>
    simp [overheard, Event.printed, Arrival.portions, Output.Buffer.append_nil, ← going]

theorem look_of_passed {deadline : Deadline} {s : On σ Session} {terminal : Terminal}
    (isOpen : s.subject.terminal = some terminal) (going : s.subject.ended = false)
    (passed : deadline.remaining s.world.clock = 0) : look deadline s = (.timedOut, s) := by
  unfold look
  rw [isOpen, going]
  exact if_pos passed

abbrev nothing (_ : Output.Buffer) : Option (Empty × Output.Buffer) := none

theorem collect_nothing (deadline : Deadline) {s : On (Transcript σ) Session}
    {terminal : Terminal} (isOpen : s.subject.terminal = some terminal)
    (going : s.subject.ended = false)
    (begun : deadline.start ≤ s.world.clock) : ∃ log spent stays host,
      Watched terminal.process (deadline.remaining s.world.clock) log spent stays ∧
      host.events = s.world.host.events ++ log ∧
      collect nothing deadline s =
        (if stays then .timedOut else .ended, overheard s log spent (!stays) host) := by
  induction left : deadline.remaining s.world.clock
    using Nat.strong_induction_on generalizing s with
  | _ left ih =>
    subst left
    by_cases passed : deadline.remaining s.world.clock = 0
    · have looked := look_of_passed isOpen going passed
      have watched : Watched terminal.process (deadline.remaining s.world.clock) [] 0 true := by
        rw [passed]
        exact .elapsed
      refine ⟨[], 0, true, s.world.host, watched, (List.append_nil _).symm, ?_⟩
      rw [collect_of_look rfl looked, if_pos rfl, Bool.not_true, overheard_unheard going rfl]
    · have positive := Nat.pos_of_ne_zero passed
      obtain ⟨arrival, host, events, looked⟩ := look_of_open isOpen going passed
      cases arrival with
      | silence =>
          refine ⟨_, _, true, host, .silence positive, events, ?_⟩
          rw [collect_of_look rfl looked]
          rfl
      | hangUp after =>
          refine ⟨_, _, false, host, .hangUp positive, events, ?_⟩
          rw [collect_of_look rfl looked]
          rfl
      | output bytes after =>
          let heard : Event := .heard terminal.process (.output bytes after)
          have shorter := remaining_add begun (max after 1)
          have fewer : deadline.remaining (s.world.clock + max after 1) <
              deadline.remaining s.world.clock := by
            rw [shorter]
            exact Nat.sub_lt positive (Nat.lt_of_lt_of_le Nat.one_pos (Nat.le_max_right _ _))
          obtain ⟨log, spent, stays, host', watched, events', collected⟩ :=
            ih _ fewer (s := overheard s [heard] (max after 1) false host) isOpen rfl
              (Nat.le_add_right_of_le begun) rfl
          refine ⟨heard :: log, max after 1 + spent, stays, host', ?_, ?_, ?_⟩
          · exact .output positive (shorter ▸ watched)
          · rw [events']
            show host.events ++ log = _
            rw [events, List.append_assoc]
            rfl
          · rw [collect_of_look rfl looked]
            exact collected.trans (by rw [overheard_overheard]; rfl)

/-! ## Settling -/

theorem watch_end {s : On (Transcript σ) Session} {terminal : Terminal}
    (isOpen : s.subject.terminal = some terminal) (going : s.subject.ended = false)
    (settle : Duration) : ∃ log spent stays host,
      Watched terminal.process settle log spent stays ∧
      host.events = s.world.host.events ++ log ∧
      watch settle s = match stays with
        | true => .ok () (overheard s log spent false host)
        | false =>
          let s' := overheard s log spent true host
          .error (.endOfStream s'.subject.excerpt) s' := by
  obtain ⟨log, spent, stays, host, watched, events, collected⟩ :=
    collect_nothing (.after s.world.clock settle) isOpen going (Nat.le_refl _)
  have whole : (Deadline.after s.world.clock settle).remaining s.world.clock = settle :=
    (congrArg (settle - ·) (Nat.sub_self _)).trans (Nat.sub_zero _)
  rw [whole] at watched
  refine ⟨log, spent, stays, host, watched, events, ?_⟩
  unfold watch
  rw [if_neg (by simp [isClosed, isOpen]), collected]
  cases stays <;> rfl

theorem sendLine_of_open {s : On (Transcript σ) Session} {terminal : Terminal}
    (isOpen : s.subject.terminal = some terminal) (going : s.subject.ended = false) :
    ∃ answer host,
      host.events = s.world.host.events ++ [.typed terminal.process (lineBytes []) answer] ∧
      sendLine [] s =
        let s' := overheard s [.typed terminal.process (lineBytes []) answer] 0 false host
        match answer with
        | .ok _ => .ok () s'
        | .error reason => .error (.io reason) s' := by
  obtain ⟨answer, host, written⟩ : ∃ a h,
      (Host.write terminal.process (lineBytes [])).run s.world.host = (a, h) := ⟨_, _, rfl⟩
  refine ⟨answer, host, Transcript.events_of_write written, ?_⟩
  rw [overheard_unheard going rfl]
  cases answer with
  | ok done => exact (sendBytes_of_open isOpen _).trans (Op.demand_of_run written)
  | error reason => exact (sendBytes_of_open isOpen _).trans (Op.demand_of_refusal written)

theorem isAlive_of_open {s : On (Transcript σ) Session} {terminal : Terminal}
    (isOpen : s.subject.terminal = some terminal) (going : s.subject.ended = false) :
    ∃ alive host, host.events = s.world.host.events ++ [.asked terminal.process alive] ∧
      isAlive s = .ok alive (overheard s [.asked terminal.process alive] 0 false host) := by
  obtain ⟨alive, host, ran⟩ :
      ∃ a h, (Host.isAlive terminal.process).run s.world.host = (a, h) := ⟨_, _, rfl⟩
  refine ⟨alive, host, Transcript.events_of_isAlive ran, ?_⟩
  unfold isAlive
  rw [Op.bind_of_ok (Op.subject_apply s), isOpen, overheard_unheard going rfl]
  exact Op.host_of_run ran

/-- How it ends when the process of a session is given time to settle. -/
inductive SettleEnd (process : ProcessId) (settle : Duration) (s : On (Transcript σ) Session) :
    EStateM.Result Failure (On (Transcript σ) Session) Unit → Prop
  | stays {log : List Event} {spent : Duration} {host : Transcript σ}
      (settling : Settling process settle log spent true)
      (events : host.events = s.world.host.events ++ log) :
      SettleEnd process settle s (.ok () (overheard s log spent false host))
  | goes {log : List Event} {spent : Duration} {ended : Bool} {host : Transcript σ} {e : Failure}
      (settling : Settling process settle log spent false)
      (events : host.events = s.world.host.events ++ log)
      (mild : (∃ reason, e = .io reason) ∨ ∃ buffer, e = .endOfStream buffer) :
      SettleEnd process settle s (.error e (overheard s log spent ended host))

/-- A session that nobody has taken anything from is listened to while its process settles: what
is printed is there afterwards, as far as the process stays. -/
theorem settles_end {s : On (Transcript σ) Session} {terminal : Terminal}
    (isOpen : s.subject.terminal = some terminal) (going : s.subject.ended = false)
    (settle : Duration) : SettleEnd terminal.process settle s (settles settle s) := by
  obtain ⟨answer, host, typed, sent⟩ := sendLine_of_open isOpen going
  unfold settles
  cases answer with
  | error reason =>
      rw [Op.bind_of_error sent]
      exact .goes (.refused reason) typed (.inl ⟨reason, rfl⟩)
  | ok done =>
      obtain ⟨log, spent, stays, host', watched, events, listened⟩ :=
        watch_end
          (s := overheard s [.typed terminal.process (lineBytes []) (.ok done)] 0 false host)
          isOpen rfl settle
      have events : host'.events =
          s.world.host.events ++ .typed terminal.process (lineBytes []) (.ok done) :: log := by
        rw [events]
        show host.events ++ log = _
        rw [typed, List.append_assoc]
        rfl
      simp only [overheard_overheard, Nat.zero_add, List.singleton_append] at listened
      rw [Op.bind_of_ok sent]
      cases stays with
      | false =>
          rw [Op.bind_of_error listened]
          exact .goes (.closed watched) events (.inr ⟨_, rfl⟩)
      | true =>
          obtain ⟨alive, host'', asked, answered⟩ :=
            isAlive_of_open (s := overheard s (_ :: log) spent false host') isOpen rfl
          rw [overheard_overheard, Nat.add_zero] at answered
          have events : host''.events = s.world.host.events ++
              (.typed terminal.process (lineBytes []) (.ok done) :: log ++
                [.asked terminal.process alive]) := by
            rw [asked, ← List.append_assoc, ← events]
            rfl
          rw [Op.bind_of_ok listened, Op.bind_of_ok (Op.subject_apply _), Op.bind_of_ok answered]
          cases alive with
          | true => exact .stays (.asked true watched) events
          | false => exact .goes (.asked false watched) events (.inr ⟨_, rfl⟩)

end Session

end SerialConsole
