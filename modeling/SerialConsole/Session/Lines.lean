import SerialConsole.Session.Basic

/-!
# Lines of a session

Operations read what the console prints line by line until they have seen the one that ends them.
`foldLines` is that loop. It ends because every line takes either time, which the deadline bounds,
or text that has arrived.
-/

namespace SerialConsole

namespace Output.Buffer

/-- Taking a line leaves less text. -/
theorem length_pending_takeLine_lt {b b' : Buffer} {line : List Char}
    (h : b.takeLine = some (line, b')) : b'.pending.length < b.pending.length := by
  unfold takeLine at h
  split at h
  · cases h
  · next rest found =>
    obtain ⟨-, rfl⟩ := Prod.mk.inj (Option.some.inj h)
    have shorter := (List.dropWhile_sublist (· ≠ '\n') (l := b.pending)).length_le
    rw [found, List.length_cons] at shorter
    exact shorter

end Output.Buffer

namespace Session

variable {σ α β : Type} [Host σ]

/-- What a reader of lines makes of one. -/
inductive Progress (β : Type) where
  | more (state : β)
  | done (state : β)
  deriving DecidableEq, Repr

def dropRaw (s : Session) : Session := { s with buffer := s.buffer.takeRaw.2 }

/-- What a wait takes was there at its start, or there is less time after it. -/
theorem collect_taken {take : Output.Buffer → Option (α × Output.Buffer)} {deadline : Deadline}
    {s s' : On σ Session} {value : α} (h : collect take deadline s = (.taken value, s')) :
    deadline.finish - s'.world.clock < deadline.finish - s.world.clock ∨
      s'.world.clock = s.world.clock ∧
        take s.subject.buffer = some (value, s'.subject.buffer) := by
  fun_induction collect take deadline s with
  | case1 s value buffer found =>
    obtain ⟨taken, rfl⟩ := Prod.mk.inj h
    cases taken
    exact .inr ⟨rfl, found⟩
  | case2 s missing s1 looked ih =>
    refine .inl ?_
    have first := finish_sub_clock_look_lt looked
    rcases ih h with later | ⟨same, -⟩
    · exact Nat.lt_trans later first
    · rw [same]
      exact first
  | case3 => simp at h
  | case4 => simp at h

/-- Reading a line takes time or shortens the text that has arrived. -/
theorem readLine_progress {deadline : Deadline} {s s' : On σ Session} {line : List Char}
    (h : readLine deadline s = .ok line s') :
    Prod.Lex (· < ·) (· < ·)
      (deadline.finish - s'.world.clock, s'.subject.pending.length)
      (deadline.finish - s.world.clock, s.subject.pending.length) := by
  unfold readLine await at h
  split at h
  · cases h
  · split at h
    · next collected =>
      cases h
      rcases collect_taken collected with later | ⟨same, found⟩
      · exact .left _ _ later
      · rw [same]
        exact .right _ (Output.Buffer.length_pending_takeLine_lt found)
    · cases h
    · cases h

/-- Reads lines until `handle`, which may use the host, has seen the last one. Unless `keepRaw` is
set, the bytes that have arrived are forgotten with each line. -/
def foldLines (keepRaw : Bool) (handle : β → List Char → StateM σ (Except Failure (Progress β)))
    (deadline : Deadline) (state : β) (s : On σ Session) :
    EStateM.Result Failure (On σ Session) β :=
  match _h : readLine deadline s with
  | .error e s => .error e s
  | .ok line s' =>
    let subject := if keepRaw then s'.subject else s'.subject.dropRaw
    let (progress, host) := (handle state line).run s'.world.host
    let next : On σ Session := ⟨subject, { s'.world with host }⟩
    match progress with
    | .error e => .error e next
    | .ok (.done state) => .ok state next
    | .ok (.more state) => foldLines keepRaw handle deadline state next
termination_by (deadline.finish - s.world.clock, s.subject.pending.length)
decreasing_by
  cases keepRaw <;> exact readLine_progress ‹_›

end Session

end SerialConsole
