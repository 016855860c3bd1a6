import SerialConsole.Proofs.Session.Command
import SerialConsole.Proofs.Session.Reports
import SerialConsole.Proofs.Session.Stream
import SerialConsole.Proofs.Text.Excerpt

/-!
# Failures of what is done with a session

The operations of a session as data. `Reported` lists what can be shown of the output by a failure
of one of them: nothing, the end of what was left when a wait failed, or the end of what a command
has printed. `reported_of_perform` says that there is nothing else.
-/

namespace SerialConsole

namespace Session

open Command (join)
open Op (Keeps)

variable {σ α : Type} [Host σ]

/-- What is done with a session, or to start one. -/
inductive Deed where
  | start (launch : Launch)
  | type (bytes : Bytes)
  | control (key : Char)
  | line (deadline : Deadline)
  | expect (p : Pattern) (deadline : Deadline)
  | watch (duration : Duration)
  | settle (duration : Duration)
  | raw
  | alive
  | login (credentials : Credentials) (prompts : PromptPatterns) (timeout : Duration)
  | logout (prompt : Pattern) (timeout : Duration)
  | run (shell : Pattern) (command : List Char) (m : Mark) (deadline : Deadline)
  | upload (shell : Pattern) (source : Chunker) (path : List Char) (m : Mark) (deadline : Deadline)
  | download (shell : Pattern) (file : String) (path : List Char) (m : Mark) (deadline : Deadline)
  | close

def Deed.perform : Deed → Op σ Session Unit
  | .start launch => discard (spawn launch)
  | .type bytes => sendBytes bytes
  | .control key => sendControl key
  | .line deadline => discard (readLine deadline)
  | .expect p deadline => discard (Session.expect p deadline)
  | .watch duration => Session.watch duration
  | .settle duration => settles duration
  | .raw => discard takeRaw
  | .alive => discard isAlive
  | .login credentials prompts timeout => Session.login credentials prompts timeout
  | .logout prompt timeout => Session.logout prompt timeout
  | .run shell command m deadline => discard (runCommand shell command m deadline)
  | .upload shell source path m deadline => Session.upload shell source path m deadline
  | .download shell file path m deadline => discard (Session.download shell file path m deadline)
  | .close => Session.close

/-! ## Waits take nothing when they fail -/

/-- Between two states a session has heard some portions of output, all of which went to what had
not been taken, and nothing has been taken of it. -/
def Unconsumed (s s' : On (Recorded σ) Session) : Prop :=
  ∃ portions, s'.world.host.heard = s.world.host.heard ++ portions ∧
    s'.subject.buffer = s.subject.buffer.append portions.flatten

omit [Host σ] in
theorem Unconsumed.refl (s : On (Recorded σ) Session) : Unconsumed s s :=
  ⟨[], (List.append_nil _).symm, (Output.Buffer.append_nil _).symm⟩

omit [Host σ] in
theorem Unconsumed.trans {s r s' : On (Recorded σ) Session} (first : Unconsumed s r)
    (second : Unconsumed r s') : Unconsumed s s' := by
  obtain ⟨early, heard, kept⟩ := first
  obtain ⟨late, heard', kept'⟩ := second
  refine ⟨early ++ late, ?_, ?_⟩
  · rw [heard', heard, List.append_assoc]
  · rw [kept', kept, Output.Buffer.append_append, List.flatten_append]

theorem Listens.unconsumed {s s' : On (Recorded σ) Session} (h : Listens s s') :
    Unconsumed s s' := by
  cases h with
  | @output _ _ _ bytes _ _ _ heard =>
    refine ⟨[bytes], Recorded.heard_of_await heard, ?_⟩
    rw [List.flatten_singleton]
  | hangUp _ _ heard =>
    exact ⟨[], Recorded.heard_of_await heard, (Output.Buffer.append_nil _).symm⟩
  | silence _ _ heard =>
    exact ⟨[], Recorded.heard_of_await heard, (Output.Buffer.append_nil _).symm⟩

theorem Listened.unconsumed {s s' : On (Recorded σ) Session} (h : Listened s s') :
    Unconsumed s s' :=
  h.keeps (fun _ _ kept step => kept.trans step.unconsumed) (.refl s)

theorem unconsumed_of_isAlive {s s' : On (Recorded σ) Session} {alive : Bool}
    (asked : isAlive s = .ok alive s') : Unconsumed s s' ∧ s'.subject = s.subject := by
  unfold isAlive at asked
  rw [Op.bind_of_ok (Op.subject_apply s)] at asked
  cases isOpen : s.subject.terminal with
  | none =>
    rw [isOpen] at asked
    cases asked
    exact ⟨.refl s, rfl⟩
  | some terminal =>
    rw [isOpen] at asked
    cases asked
    exact ⟨⟨[], (List.append_nil _).symm, (Output.Buffer.append_nil _).symm⟩, rfl⟩

/-- What a failure shows of the output that is left: nothing, or its end. -/
def ShowsEnd (e : Failure) (s : On σ Session) : Prop :=
  e.carried? = none ∨ e.carried? = some s.subject.excerpt

theorem await_eq_error {take : Output.Buffer → Option (α × Output.Buffer)} {awaited : String}
    {deadline : Deadline} {s s' : On σ Session} {e : Failure}
    (failed : await take awaited deadline s = .error e s') : Listened s s' ∧ ShowsEnd e s' := by
  have waited := await_end take deadline awaited s
  rw [failed] at waited
  cases waited with
  | closed isClosed => exact ⟨.refl, .inl rfl⟩
  | timedOut listened missing going => exact ⟨listened, .inr rfl⟩
  | ended listened missing past => exact ⟨listened, .inr rfl⟩

theorem watch_eq_error {duration : Duration} {s s' : On σ Session} {e : Failure}
    (failed : watch duration s = .error e s') :
    Listened s s' ∧ (e = .sessionClosed ∨ e = .endOfStream s'.subject.excerpt) := by
  have listened := watch_listened duration s
  rw [Op.final_of_error failed] at listened
  refine ⟨listened, ?_⟩
  unfold watch at failed
  split at failed
  · cases failed
    exact .inl rfl
  · split at failed
    · cases failed
      exact .inr rfl
    · cases failed

theorem FailedWait.shows {s s' : On (Recorded σ) Session} {e : Failure} (h : FailedWait s e s') :
    Unconsumed s s' ∧ ShowsEnd e s' := by
  cases h with
  | line failed =>
    obtain ⟨listened, shows⟩ := await_eq_error failed
    exact ⟨listened.unconsumed, shows⟩
  | found failed =>
    obtain ⟨listened, shows⟩ := await_eq_error failed
    exact ⟨listened.unconsumed, shows⟩
  | watch failed =>
    obtain ⟨listened, rfl | rfl⟩ := watch_eq_error failed
    · exact ⟨listened.unconsumed, .inl rfl⟩
    · exact ⟨listened.unconsumed, .inr rfl⟩
  | @gone duration r _ alive watched asked past =>
    have listened := watch_listened duration s
    rw [Op.final_of_ok watched] at listened
    obtain ⟨kept, same⟩ := unconsumed_of_isAlive asked
    exact ⟨listened.unconsumed.trans kept, .inr (by rw [same]; rfl)⟩

theorem Reports.shows {s s' : On (Recorded σ) Session} {e : Failure} (h : Reports s e s') :
    Unconsumed s s' ∧ ShowsEnd e s' := by
  cases h with
  | plain failed => exact failed.shows
  | stage stage failed =>
    obtain ⟨kept, shows⟩ := failed.shows
    exact ⟨kept, by rwa [ShowsEnd, Failure.carried?_atStage]⟩

/-! ## What failures show -/

/-- What a failure of something that is done with a session can show of the output. -/
inductive Reported (deed : Deed) (s : On (Recorded σ) Session) :
    Failure → On (Recorded σ) Session → Prop
  | silent {e : Failure} {s' : On (Recorded σ) Session} (silent : e.carried? = none) :
      Reported deed s e s'
  /-- A wait has failed that was begun after some of what is to be done. It has taken nothing, and
  the failure shows the end of the output that is there now. -/
  | wait {begun : On (Recorded σ) Session} {e : Failure} {s' : On (Recorded σ) Session}
      {text : List Char} (before : Done s begun) (reports : Reports begun e s')
      (kept : Unconsumed begun s') (carried : e.carried? = some (String.ofList text))
      (longest : Text.LongestEnd Text.excerptLimit s'.subject.pending text) : Reported deed s e s'
  /-- A command has been answered and the prompt of the shell been shown after it, but no exit
  status is found in the lines. The failure shows the end of these. -/
  | output {shell : Pattern} {command : List Char} {m : Mark} {deadline : Deadline}
      {lines : List (List Char)} {s' : On (Recorded σ) Session} {text : List Char}
      (runs : deed = .run shell command m deadline)
      (answer : Answer (Command.run command m) shell m deadline s lines s')
      (going : ∀ line ∈ lines, m.terminates line = false)
      (unparsed : Command.parse (join (body m lines)) = none)
      (longest : Text.LongestEnd Text.excerptLimit (join (body m lines)) text) :
      Reported deed s (.unparsedOutput m (String.ofList text)) s'

variable {deed : Deed} {s begun s' : On (Recorded σ) Session} {e : Failure}

theorem Reports.reported (h : Reports begun e s') (before : Done s begun) :
    Reported deed s e s' := by
  obtain ⟨kept, silent | shown⟩ := h.shows
  · exact .silent silent
  · exact .wait before h kept shown (Text.excerpted _).2

theorem Follows.reported {act : Op (Recorded σ) Session α} (h : Follows act)
    (before : Done s begun) (failed : act begun = .error e s') : Reported deed s e s' := by
  obtain silent | ⟨waited, between, reports⟩ := h.error failed
  · exact .silent silent
  · exact reports.reported (before.trans between)

/-! ## Operations that do more than wait -/

theorem settles_eq_error {duration : Duration} {s s' : On σ Session} {e : Failure}
    (failed : settles duration s = .error e s') : e.carried? = none ∨
      (∃ buffer, e = .endOfStream buffer) ∧ ∃ begun, Done s begun ∧ Reports begun e s' := by
  obtain sending | ⟨_, begun, sent, rest⟩ := Op.bind_eq_error failed
  · exact .inl ((quiet_sendBytes _).error trivial sending).2
  have before : Done s begun := (Follows.sendLine []).ok sent
  obtain watching | ⟨_, r, watched, rest⟩ := Op.bind_eq_error rest
  · obtain ⟨-, rfl | rfl⟩ := watch_eq_error watching
    · exact .inl rfl
    · exact .inr ⟨⟨_, rfl⟩, begun, before, .plain (.watch watching)⟩
  rw [Op.bind_of_ok (Op.subject_apply r)] at rest
  obtain asking | ⟨alive, ended, asked, rest⟩ := Op.bind_eq_error rest
  · exact .inl (quiet_isAlive.error trivial asking).2
  split at rest
  · next gone =>
    cases rest
    refine .inr ⟨⟨_, rfl⟩, begun, before, .plain (.gone watched asked ?_)⟩
    simpa using gone
  · cases rest

theorem reported_of_settles {duration : Duration} (failed : settles duration s = .error e s') :
    Reported deed s e s' := by
  obtain silent | ⟨-, waited, before, reports⟩ := settles_eq_error failed
  · exact .silent silent
  · exact reports.reported before

theorem reported_of_runCommand {shell : Pattern} {command : List Char} {m : Mark}
    {deadline : Deadline} (failed : runCommand shell command m deadline s = .error e s') :
    Reported (.run shell command m deadline) s e s' := by
  have sends : Follows (send (Command.run command m) : Op (Recorded σ) Session Unit) := .sendBytes _
  obtain sending | ⟨_, begun, sent, rest⟩ := Op.bind_eq_error failed
  · exact sends.reported .refl sending
  have typed : Done s begun := sends.ok sent
  have gathers : Follows (foldLines true (fun seen line => pure (.ok (gather m seen line)))
      deadline [] : Op (Recorded σ) Session _) :=
    .foldLines _ _ _ _ (fun _ _ _ => .refl) fun _ _ _ _ ended => by cases ended
  obtain reading | ⟨seen, read, folded, rest⟩ := Op.bind_eq_error rest
  · exact gathers.reported typed reading
  have gathered : Done s read := typed.trans (gathers.ok folded)
  obtain waiting | ⟨_, after, prompted, rest⟩ := Op.bind_eq_error rest
  · exact (Follows.expect shell deadline).discard.reported gathered waiting
  obtain ⟨found, prompted⟩ := Op.discard_eq_ok prompted
  -- the prompt has been shown: all that can fail now is to find the exit status
  obtain ⟨lines, answer, going, same⟩ := answer_of_prompt sent folded prompted
  rw [same] at rest
  dsimp only at rest
  cases parsed : Command.parse (join (body m lines)) with
  | none =>
    rw [parsed] at rest
    cases rest
    exact .output rfl answer going parsed (Text.excerpted _).2
  | some outcome =>
    rw [parsed] at rest
    cases rest

/-- A failure of anything that is done with a session shows nothing of the output, the end of what
was left when a wait failed, or the end of what a command has printed. -/
theorem reported_of_perform (failed : deed.perform s = .error e s') : Reported deed s e s' := by
  have quiet {act : Op (Recorded σ) Session Unit} (h : Quiet act) (failed : act s = .error e s') :
      Reported deed s e s' := .silent (h.error trivial failed).2
  have follows {act : Op (Recorded σ) Session Unit} (h : Follows act)
      (failed : act s = .error e s') : Reported deed s e s' := h.reported .refl failed
  cases deed with
  | start launch => exact quiet (quiet_spawn launch).discard failed
  | type bytes => exact quiet (quiet_sendBytes bytes) failed
  | control key => exact follows (.sendControl key) failed
  | line deadline => exact follows (Follows.readLine deadline).discard failed
  | expect p deadline => exact follows (Follows.expect p deadline).discard failed
  | watch duration => exact follows (.watch duration) failed
  | settle duration => exact reported_of_settles failed
  | raw => cases failed
  | alive => exact quiet quiet_isAlive.discard failed
  | login credentials prompts timeout =>
    exact follows (.login credentials prompts timeout) failed
  | logout prompt timeout => exact follows (.logout prompt timeout) failed
  | run shell command m deadline => exact reported_of_runCommand (Op.map_eq_error failed)
  | upload shell source path m deadline =>
    exact follows (.upload shell source path m deadline) failed
  | download shell file path m deadline =>
    exact follows (Follows.download shell file path m deadline).discard failed
  | close => exact quiet quiet_close failed

end Session

end SerialConsole
