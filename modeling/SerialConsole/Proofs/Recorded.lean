import SerialConsole.Session.Host

/-!
# Recorded hosts

A host together with a record of what has been typed on it and of what its processes have printed,
portion by portion. The record changes none of its answers, so what a session does on a recorded
host it does on the host itself.
-/

namespace SerialConsole

/-- The bytes that came with an arrival. -/
def Arrival.portions : Arrival → List Bytes
  | .output bytes _ => [bytes]
  | .hangUp _ | .silence => []

/-- A host that takes whatever is typed. -/
def Host.Obliging (σ : Type) [Host σ] : Prop :=
  ∀ (process : ProcessId) (bytes : Bytes) (host : σ),
    ((Host.write process bytes).run host).1 = .ok ()

/-- A host takes portions of bytes that are typed to a process, one after the other. -/
inductive Host.Takes {σ : Type} [Host σ] (process : ProcessId) : List Bytes → σ → σ → Prop
  | nil (h : σ) : Takes process [] h h
  | cons {bytes : Bytes} {rest : List Bytes} {h h₁ h' : σ}
      (now : (Host.write process bytes).run h = (.ok (), h₁)) (later : Takes process rest h₁ h') :
      Takes process (bytes :: rest) h h'

theorem Host.Takes.of_append {σ : Type} [Host σ] {process : ProcessId} {first second : List Bytes}
    {h h' : σ} (taken : Takes process (first ++ second) h h') :
    ∃ h₁, Takes process first h h₁ ∧ Takes process second h₁ h' := by
  induction first generalizing h with
  | nil => exact ⟨h, .nil h, taken⟩
  | cons bytes rest ih =>
    cases taken with
    | cons now later =>
      obtain ⟨h₁, front, back⟩ := ih later
      exact ⟨h₁, .cons now front, back⟩

/-- The host after portions of bytes have been typed to a process. -/
def Host.afterTyping {σ : Type} [Host σ] (process : ProcessId) (portions : List Bytes) (h : σ) :
    σ :=
  portions.foldl (fun h bytes => ((Host.write process bytes).run h).2) h

theorem Host.Obliging.takes {σ : Type} [Host σ] (obliging : Host.Obliging σ) (process : ProcessId)
    (portions : List Bytes) (h : σ) :
    Takes process portions h (afterTyping process portions h) := by
  induction portions generalizing h with
  | nil => exact .nil h
  | cons bytes rest ih => exact .cons (Prod.ext (obliging process bytes h) rfl) (ih _)

/-- A host and what has gone to its processes and come from them. -/
structure Recorded (σ : Type) where
  host : σ
  typed : List Bytes := []
  heard : List Bytes := []

namespace Recorded

variable {σ α : Type}

/-- Asks the host and notes its answer. -/
def ask (act : StateM σ α) (note : α → Recorded σ → Recorded σ) : StateM (Recorded σ) α := fun r =>
  let (a, host) := act.run r.host
  (a, note a { r with host })

def pass (act : StateM σ α) : StateM (Recorded σ) α := ask act fun _ r => r

def noteTyped (bytes : Bytes) (answer : Except String Unit) (r : Recorded σ) : Recorded σ :=
  match answer with
  | .ok () => { r with typed := r.typed ++ [bytes] }
  | .error _ => r

def noteHeard (arrival : Arrival) (r : Recorded σ) : Recorded σ :=
  { r with heard := r.heard ++ arrival.portions }

instance [Host σ] : Host (Recorded σ) where
  spawn launch := pass (Host.spawn launch)
  write process bytes := ask (Host.write process bytes) (noteTyped bytes)
  await process limit := ask (Host.await process limit) noteHeard
  isAlive process := pass (Host.isAlive process)
  kill process := pass (Host.kill process)
  freshMark := pass Host.freshMark
  isFile path := pass (Host.isFile path)
  openFile path := pass (Host.openFile path)
  createFile path := pass (Host.createFile path)
  appendFile path bytes := pass (Host.appendFile path bytes)
  flushFile path := pass (Host.flushFile path)

variable [Host σ]

theorem typed_write {process : ProcessId} {bytes : Bytes} {r : Recorded σ}
    (taken : ((Host.write process bytes).run r).1 = .ok ()) :
    ((Host.write process bytes).run r).2.typed = r.typed ++ [bytes] := by
  change ((Host.write process bytes).run r.host).1 = .ok () at taken
  show (noteTyped bytes ((Host.write process bytes).run r.host).1 _).typed = _
  rw [taken]
  rfl

theorem typed_takes {process : ProcessId} {portions : List Bytes} {r r' : Recorded σ}
    (taken : Host.Takes process portions r r') : r'.typed = r.typed ++ portions := by
  induction taken with
  | nil r => exact (List.append_nil _).symm
  | @cons bytes rest r r₁ r' now later ih =>
    have typed := typed_write (congrArg Prod.fst now)
    rw [now] at typed
    rw [ih, typed, List.append_assoc]
    rfl

theorem typed_of_refused {process : ProcessId} {bytes : Bytes} {r r' : Recorded σ}
    {reason : String} (h : (Host.write process bytes).run r = (.error reason, r')) :
    r'.typed = r.typed := by
  have left : noteTyped bytes ((Host.write process bytes).run r.host).1 _ = r' :=
    congrArg Prod.snd h
  have answered : ((Host.write process bytes).run r.host).1 = .error reason := congrArg Prod.fst h
  rw [answered] at left
  rw [← left]
  rfl

theorem obliging (h : Host.Obliging σ) : Host.Obliging (Recorded σ) :=
  fun process bytes r => h process bytes r.host

theorem heard_of_await {process : ProcessId} {limit : Duration} {arrival : Arrival}
    {r r' : Recorded σ} (h : (Host.await process limit).run r = (arrival, r')) :
    r'.heard = r.heard ++ arrival.portions := by
  have noted : ((Host.await process limit).run r).2.heard =
      r.heard ++ ((Host.await process limit).run r).1.portions := rfl
  rwa [h] at noted

omit [Host σ] in
theorem typed_pass {act : StateM σ α} {r r' : Recorded σ} {a : α}
    (h : (pass act).run r = (a, r')) : r'.typed = r.typed :=
  (congrArg (fun answer => answer.2.typed) h).symm

@[simp] theorem heard_write (process : ProcessId) (bytes : Bytes) (r : Recorded σ) :
    ((Host.write process bytes).run r).2.heard = r.heard := by
  show (noteTyped bytes _ _).heard = r.heard
  unfold noteTyped
  split <;> rfl

/-- What has been printed so far, in one piece. -/
def output (r : Recorded σ) : Bytes := r.heard.flatten

end Recorded

end SerialConsole
