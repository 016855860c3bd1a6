import SerialConsole.Proofs.Session.Open

/-!
# Failures that show output

A failure of a session carries the end of the output that was there and had not been taken when a
wait failed. `Done` is what an operation does before such a wait and `FailedWait` the wait itself;
`Follows` is the judgement that an operation goes that way. Its rules follow the building blocks of
operations, so it is proved of an operation part by part.
-/

namespace SerialConsole

namespace Failure

/-- The end of some output that a failure carries. -/
def carried? : Failure → Option String
  | .authentication _ buffer | .timedOut _ _ buffer | .endOfStream buffer => some buffer
  | .unparsedOutput _ output => some output
  | _ => none

@[simp] theorem carried?_atStage (e : Failure) (stage : LoginStage) :
    (e.atStage stage).carried? = e.carried? := by
  cases e <;> rfl

theorem atStage_atStage (e : Failure) (stage later : LoginStage) :
    (e.atStage stage).atStage later = e.atStage stage := by
  cases e <;> rfl

end Failure

namespace Session

open Op (Keeps)

variable {σ τ α β : Type} [Host σ]

/-! ## Operations that show nothing -/

def Quiet (act : Op σ τ α) : Prop := Keeps (fun _ => True) (·.carried? = none) act

theorem quiet_sendBytes (bytes : Bytes) : Quiet (sendBytes bytes : Op σ Session Unit) := by
  refine Keeps.bind Keeps.subject fun session => ?_
  cases session.terminal with
  | none => exact Keeps.throw rfl
  | some terminal => exact Keeps.demand (fun _ _ => trivial) fun _ => rfl

theorem quiet_isAlive : Quiet (isAlive : Op σ Session Bool) := by
  refine Keeps.bind Keeps.subject fun session => ?_
  cases session.terminal with
  | none => exact Keeps.pure _
  | some terminal => exact Keeps.host fun _ _ => trivial

theorem quiet_spawn (launch : Launch) : Quiet (spawn launch : Op σ τ Session) := by
  refine Keeps.bind (Keeps.bind ?_ fun _ => Keeps.pure _) fun _ => Keeps.pure _
  exact Keeps.demand (fun _ _ => trivial) fun _ => rfl

theorem quiet_close : Quiet (close : Op σ Session Unit) := by
  refine Keeps.bind Keeps.subject fun session => ?_
  cases session.terminal with
  | none => exact Keeps.pure _
  | some terminal =>
    refine Keeps.bind (fun _ _ => trivial) fun _ => ?_
    refine Keeps.bind (Keeps.host fun _ _ => trivial) fun alive => ?_
    split
    · exact Keeps.demand (fun _ _ => trivial) fun _ => rfl
    · exact Keeps.pure _

/-! ## Waits that fail -/

/-- A wait that fails: for a line, for a match of a pattern, or while the output is watched; or the
process turns out to be gone when it has been watched. -/
inductive FailedWait (s : On σ Session) : Failure → On σ Session → Prop
  | line {deadline : Deadline} {e : Failure} {s' : On σ Session}
      (failed : readLine deadline s = .error e s') : FailedWait s e s'
  | found {p : Pattern} {deadline : Deadline} {e : Failure} {s' : On σ Session}
      (failed : expect p deadline s = .error e s') : FailedWait s e s'
  | watch {duration : Duration} {e : Failure} {s' : On σ Session}
      (failed : watch duration s = .error e s') : FailedWait s e s'
  | gone {duration : Duration} {r s' : On σ Session} {alive : Bool}
      (watched : Session.watch duration s = .ok () r) (asked : isAlive r = .ok alive s')
      (past : r.subject.ended = true ∨ alive = false) :
      FailedWait s (.endOfStream r.subject.excerpt) s'

/-- What is reported of a wait that fails: its failure, or one of a step of logging in. -/
inductive Reports (s : On σ Session) : Failure → On σ Session → Prop
  | plain {e : Failure} {s' : On σ Session} (failed : FailedWait s e s') : Reports s e s'
  | stage {e : Failure} {s' : On σ Session} (stage : LoginStage) (failed : FailedWait s e s') :
      Reports s (e.atStage stage) s'

theorem Reports.atStage {s s' : On σ Session} {e : Failure} (h : Reports s e s')
    (stage : LoginStage) : Reports s (e.atStage stage) s' := by
  cases h with
  | plain failed => exact .stage stage failed
  | stage first failed =>
    rw [Failure.atStage_atStage]
    exact .stage first failed

/-! ## What comes before -/

/-- One thing that an operation of a session does. -/
inductive Does (s : On σ Session) : On σ Session → Prop
  | typed {bytes : Bytes} {s' : On σ Session} (sent : sendBytes bytes s = .ok () s') : Does s s'
  | line {deadline : Deadline} {line : List Char} {s' : On σ Session}
      (read : readLine deadline s = .ok line s') : Does s s'
  | found {p : Pattern} {deadline : Deadline} {found : Pattern.Found} {s' : On σ Session}
      (matched : expect p deadline s = .ok found s') : Does s s'
  | watched {duration : Duration} {s' : On σ Session}
      (watched : watch duration s = .ok () s') : Does s s'
  | raw : Does s { s with subject := s.subject.dropRaw }
  | appended (file : String) (bytes : Bytes) :
      Does s { s with world :=
        { s.world with host := ((Host.appendFile file bytes).run s.world.host).2 } }
  | flushed (file : String) :
      Does s { s with world :=
        { s.world with host := ((Host.flushFile file).run s.world.host).2 } }

def Done : On σ Session → On σ Session → Prop := Relation.ReflTransGen Does

/-- The operation does nothing but that, and if it fails and its failure carries output, then
because of a wait that fails after some of it. -/
structure Follows (act : Op σ Session α) : Prop where
  ok : ∀ {s s' : On σ Session} {a : α}, act s = .ok a s' → Done s s'
  error : ∀ {s s' : On σ Session} {e : Failure}, act s = .error e s' →
    e.carried? = none ∨ ∃ begun, Done s begun ∧ Reports begun e s'

namespace Follows

theorem pure (a : α) : Follows (Pure.pure a : Op σ Session α) where
  ok h := by
    cases h
    exact .refl
  error h := by cases h

theorem throw {e : Failure} (silent : e.carried? = none) :
    Follows (throw e : Op σ Session α) where
  ok h := by cases h
  error h := by
    cases h
    exact .inl silent

theorem bind {x : Op σ Session α} {f : α → Op σ Session β} (hx : Follows x)
    (hf : ∀ a, Follows (f a)) : Follows (x >>= f) where
  ok h := by
    obtain ⟨a, r, first, next⟩ := Op.bind_eq_ok h
    exact (hx.ok first).trans ((hf a).ok next)
  error h := by
    obtain failed | ⟨a, r, first, next⟩ := Op.bind_eq_error h
    · exact hx.error failed
    · obtain silent | ⟨begun, before, reports⟩ := (hf a).error next
      · exact .inl silent
      · exact .inr ⟨begun, (hx.ok first).trans before, reports⟩

theorem discard {x : Op σ Session α} (hx : Follows x) :
    Follows (discard x : Op σ Session Unit) where
  ok h := by
    obtain ⟨a, ended⟩ := Op.discard_eq_ok h
    exact hx.ok ended
  error h := hx.error (Op.map_eq_error h)

theorem deadline (timeout : Duration) : Follows (Op.deadline timeout : Op σ Session Deadline) where
  ok h := by
    cases h
    exact .refl
  error h := by cases h

/-- What is done with the host alone, if it is something that operations do. -/
theorem host {act : StateM σ α} (does : ∀ s : On σ Session,
    Done s { s with world := { s.world with host := (act.run s.world.host).2 } }) :
    Follows (Op.host act : Op σ Session α) where
  ok {s _ _} h := by
    cases h
    exact does s
  error h := by cases h

theorem concludes {act : StateM σ (Except Failure α)} (does : ∀ s : On σ Session,
      Done s { s with world := { s.world with host := (act.run s.world.host).2 } })
    (silent : ∀ (h : σ) e, (act.run h).1 = .error e → e.carried? = none) :
    Follows (Op.host act >>= Op.conclude : Op σ Session α) where
  ok {s s' a} h := by
    obtain ⟨answer, r, asked, given⟩ := Op.bind_eq_ok h
    cases answer with
    | ok a =>
      cases given
      exact (host does).ok asked
    | error e => cases given
  error {s s' e} h := by
    obtain failed | ⟨answer, r, asked, given⟩ := Op.bind_eq_error h
    · exact (host does).error failed
    · cases answer with
      | ok a => cases given
      | error e =>
        cases given
        rw [Op.host_apply] at asked
        injection asked with answered
        exact .inl (silent _ e answered)

theorem atStage (stage : LoginStage) {act : Op σ Session α} (h : Follows act) :
    Follows (Op.rephrase (Failure.atStage stage) act) where
  ok {s s' a} ended := by
    unfold Op.rephrase at ended
    cases ran : act s with
    | ok a r =>
      rw [ran] at ended
      cases ended
      exact h.ok ran
    | error e r =>
      rw [ran] at ended
      cases ended
  error {s s' e} ended := by
    unfold Op.rephrase at ended
    cases ran : act s with
    | ok a r =>
      rw [ran] at ended
      cases ended
    | error e r =>
      rw [ran] at ended
      cases ended
      obtain silent | ⟨begun, before, reports⟩ := h.error ran
      · exact .inl (by rwa [Failure.carried?_atStage])
      · exact .inr ⟨begun, before, reports.atStage stage⟩

/-! ### Typing and waiting -/

theorem sendBytes (bytes : Bytes) : Follows (sendBytes bytes : Op σ Session Unit) where
  ok h := .single (.typed h)
  error h := .inl ((quiet_sendBytes bytes).error trivial h).2

theorem sendLine (line : List Char) : Follows (sendLine line : Op σ Session Unit) := sendBytes _

theorem sendControl (key : Char) : Follows (sendControl key : Op σ Session Unit) := by
  unfold Session.sendControl
  cases Terminal.controlByte key with
  | none => exact throw rfl
  | some byte => exact sendBytes _

theorem readLine (deadline : Deadline) : Follows (readLine deadline : Op σ Session _) where
  ok h := .single (.line h)
  error h := .inr ⟨_, .refl, .plain (.line h)⟩

theorem expect (p : Pattern) (deadline : Deadline) :
    Follows (expect p deadline : Op σ Session _) where
  ok h := .single (.found h)
  error h := .inr ⟨_, .refl, .plain (.found h)⟩

theorem watch (duration : Duration) : Follows (watch duration : Op σ Session Unit) where
  ok h := .single (.watched h)
  error h := .inr ⟨_, .refl, .plain (.watch h)⟩

theorem expectWithin (timeout : Duration) (p : Pattern) :
    Follows (expectWithin timeout p : Op σ Session _) :=
  (deadline timeout).bind fun _ => expect p _

theorem expectPrompt (stage : LoginStage) (timeout : Duration) (p : Pattern) :
    Follows (expectPrompt stage timeout p : Op σ Session Unit) :=
  (expectWithin timeout p).discard.atStage stage

/-- Reading lines, if what is done with a line is something that operations do. -/
theorem foldLines (keepRaw : Bool)
    (handle : β → List Char → StateM σ (Except Failure (Progress β))) (deadline : Deadline)
    (state : β) (does : ∀ state line (s : On σ Session), Done s { s with world :=
      { s.world with host := ((handle state line).run s.world.host).2 } })
    (silent : ∀ state line (h : σ) e, ((handle state line).run h).1 = .error e →
      e.carried? = none) :
    Follows (foldLines keepRaw handle deadline state : Op σ Session β) := by
  have taken {state : β} {line : List Char} {s s' : On σ Session} {host : σ}
      {progress : Except Failure (Progress β)} (read : Session.readLine deadline s = .ok line s')
      (ran : (handle state line).run s'.world.host = (progress, host)) :
      Done s ⟨if keepRaw then s'.subject else s'.subject.dropRaw, { s'.world with host }⟩ := by
    have dropped : Done s' ⟨if keepRaw then s'.subject else s'.subject.dropRaw, s'.world⟩ := by
      split
      · exact .refl
      · exact .single .raw
    have handled := does state line ⟨if keepRaw then s'.subject else s'.subject.dropRaw, s'.world⟩
    rw [show ((handle state line).run s'.world.host).2 = host from congrArg Prod.snd ran] at handled
    exact (Relation.ReflTransGen.single (.line read)).trans (dropped.trans handled)
  have whole (s : On σ Session) : match Session.foldLines keepRaw handle deadline state s with
      | .ok _ s' => Done s s'
      | .error e s' => e.carried? = none ∨ ∃ begun, Done s begun ∧ Reports begun e s' := by
    fun_induction Session.foldLines keepRaw handle deadline state s with
    | case1 state s e s' read => exact (readLine deadline).error read
    | case2 state s line s' read subject host next e ran =>
      exact .inl (silent state line _ e (congrArg Prod.fst ran))
    | case3 state s line s' read subject host next state' ran => exact taken read ran
    | case4 state s line s' read subject host next state' ran ih =>
      split at ih
      · exact (taken read ran).trans ih
      · obtain silent | ⟨begun, before, reports⟩ := ih
        · exact .inl silent
        · exact .inr ⟨begun, (taken read ran).trans before, reports⟩
  exact
    { ok := fun {s _ _} h => by
        have ended := whole s
        rwa [h] at ended
      error := fun {s _ _} h => by
        have ended := whole s
        rwa [h] at ended }

/-! ### Whole operations -/

theorem login (credentials : Credentials) (prompts : PromptPatterns) (timeout : Duration) :
    Follows (login credentials prompts timeout : Op σ Session Unit) := by
  have woken : Follows (Op.rephrase (Failure.atStage .loginPrompt)
      (Functor.discard (readLineWithin timeout)) : Op σ Session Unit) :=
    ((deadline timeout).bind fun _ => readLine _).discard.atStage _
  refine (sendLine _).bind fun _ => (sendLine _).bind fun _ => woken.bind fun _ => ?_
  refine (expectPrompt _ _ _).bind fun _ => (sendLine _).bind fun _ => ?_
  exact (expectPrompt _ _ _).bind fun _ => (sendLine _).bind fun _ => expectPrompt _ _ _

theorem logout (prompt : Pattern) (timeout : Duration) :
    Follows (logout prompt timeout : Op σ Session Unit) :=
  (sendLine _).bind fun _ => (sendControl _).bind fun _ => (expectWithin timeout prompt).discard

theorem sendChunks (lines : List (Except String (List Char))) :
    Follows (sendChunks lines : Op σ Session Unit) := by
  induction lines with
  | nil => exact pure _
  | cons line rest ih =>
    cases line with
    | error reason => exact throw rfl
    | ok line => exact (sendLine _).bind fun _ => ih

theorem upload (shell : Pattern) (source : Chunker) (path : List Char) (m : Mark)
    (deadline : Deadline) : Follows (upload shell source path m deadline : Op σ Session Unit) := by
  refine (sendLine _).bind fun _ => (sendChunks _).bind fun _ => (sendLine _).bind fun _ => ?_
  refine (sendControl _).bind fun _ => ?_
  refine bind (foldLines _ _ _ _ (fun _ _ _ => .refl) fun _ _ _ e failed => ?_) fun _ => ?_
  · cases failed
  · exact (expect _ _).discard

theorem appendLine_does (file : String) (line : List Char) (s : On σ Session) :
    Done s { s with world :=
      { s.world with host := ((appendLine file line).run s.world.host).2 } } := by
  unfold appendLine
  cases Base64.decodeLine line with
  | error fault => exact .refl
  | ok bytes =>
    have appended := Relation.ReflTransGen.single (Does.appended (s := s) file bytes)
    obtain ⟨answer, host, ran⟩ : ∃ a h, (Host.appendFile file bytes).run s.world.host = (a, h) :=
      ⟨_, _, rfl⟩
    rw [ran] at appended
    simp only [StateT.run_bind, ran]
    cases answer <;> exact appended

theorem takeIn_does (file : String) (m : Mark) (d : Intake) (line : List Char)
    (s : On σ Session) : Done s { s with world :=
      { s.world with host := ((takeIn file m d line).run s.world.host).2 } } := by
  unfold takeIn
  cases m.classify line with
  | terminator => exact .refl
  | echo => exact .refl
  | content =>
    simp only
    split
    · exact .refl
    · split
      · exact appendLine_does file line s
      · exact .refl

omit [Host σ] in
theorem silent_of_receipt {e : Failure} (h : e.OfReceipt) : e.carried? = none := by
  cases h <;> rfl

theorem appendLines (file : String) (written : Nat) (lines : List (List Char)) :
    Follows (appendLines file written lines : Op σ Session Nat) := by
  induction lines generalizing written with
  | nil => exact pure _
  | cons line rest ih =>
    rw [Session.appendLines, ← bind_assoc]
    refine bind (concludes (appendLine_does file line) fun _ _ failed => ?_) fun n => ih _
    exact silent_of_receipt (appendLine_fails failed)

theorem download (shell : Pattern) (file : String) (path : List Char) (m : Mark)
    (deadline : Deadline) : Follows (download shell file path m deadline : Op σ Session Nat) := by
  refine (sendLine _).bind fun _ => ?_
  refine bind (foldLines _ _ _ _ (takeIn_does file m) fun _ _ _ _ failed => ?_) fun _ => ?_
  · exact silent_of_receipt (takeIn_fails failed)
  refine (appendLines _ _ _).bind fun written => ?_
  have flushed : Follows (Op.demand (Host.flushFile file) .io : Op σ Session Unit) := by
    refine (host fun _ => .single (.flushed file)).bind fun answer => ?_
    cases answer with
    | ok done => exact pure done
    | error reason => exact throw rfl
  exact flushed.bind fun _ => (expect _ _).discard.bind fun _ => pure written

end Follows

end Session

end SerialConsole
