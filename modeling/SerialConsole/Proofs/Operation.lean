import SerialConsole.Session.Host

/-!
# Reasoning about operations

What the building blocks of an operation do to the state that it runs in, and `Op.Keeps`, the
judgement that an operation leaves a property of that state as it was however it ends. The rules of
the judgement follow the building blocks, so that it is proved of an operation part by part.
-/

namespace SerialConsole.Op

variable {σ τ υ α β : Type}

/-- The state in which an operation ends, with success or without. -/
def final (act : Op σ τ α) (s : On σ τ) : On σ τ :=
  match act s with
  | .ok _ s' => s'
  | .error _ s' => s'

/-- How an operation ends, without the state. -/
def outcome (act : Op σ τ α) (s : On σ τ) : Except Failure α :=
  match act s with
  | .ok a _ => .ok a
  | .error e _ => .error e

theorem outcome_eq_error {act : Op σ τ α} {s : On σ τ} {e : Failure}
    (h : act.outcome s = .error e) : act s = .error e (act.final s) := by
  unfold outcome at h
  unfold final
  cases ended : act s <;> simp_all

theorem outcome_eq_ok {act : Op σ τ α} {s : On σ τ} {a : α} (h : act.outcome s = .ok a) :
    act s = .ok a (act.final s) := by
  unfold outcome at h
  unfold final
  cases ended : act s <;> simp_all

theorem final_of_ok {act : Op σ τ α} {s s' : On σ τ} {a : α} (h : act s = .ok a s') :
    act.final s = s' := by
  rw [final, h]

theorem final_of_error {act : Op σ τ α} {s s' : On σ τ} {e : Failure}
    (h : act s = .error e s') : act.final s = s' := by
  rw [final, h]

/-! ## Building blocks -/

@[simp] theorem pure_apply (a : α) (s : On σ τ) : (pure a : Op σ τ α) s = .ok a s := rfl

@[simp] theorem throw_apply (e : Failure) (s : On σ τ) :
    (throw e : Op σ τ α) s = .error e s := rfl

@[simp] theorem subject_apply (s : On σ τ) : (subject : Op σ τ τ) s = .ok s.subject s := rfl

@[simp] theorem setSubject_apply (t : τ) (s : On σ τ) :
    setSubject t s = .ok () { s with subject := t } := rfl

@[simp] theorem modifySubject_apply (f : τ → τ) (s : On σ τ) :
    modifySubject f s = .ok () { s with subject := f s.subject } := rfl

@[simp] theorem deadline_apply (timeout : Duration) (s : On σ τ) :
    deadline timeout s = .ok (.after s.world.clock timeout) s := rfl

theorem host_apply (act : StateM σ α) (s : On σ τ) :
    host act s = .ok (act.run s.world.host).1
      { s with world := { s.world with host := (act.run s.world.host).2 } } := rfl

theorem bind_apply (x : Op σ τ α) (f : α → Op σ τ β) (s : On σ τ) :
    (x >>= f) s = match x s with
      | .ok a s' => f a s'
      | .error e s' => .error e s' := by
  cases h : x s <;> simp only [bind, EStateM.bind, h]

theorem bind_of_ok {x : Op σ τ α} {f : α → Op σ τ β} {s s' : On σ τ} {a : α}
    (h : x s = .ok a s') : (x >>= f) s = f a s' := by
  rw [bind_apply, h]

theorem final_bind {x : Op σ τ α} {f : α → Op σ τ β} {s s' : On σ τ} {a : α}
    (h : x s = .ok a s') : (x >>= f).final s = (f a).final s' := by
  rw [final, bind_of_ok h, final]

theorem bind_of_error {x : Op σ τ α} {f : α → Op σ τ β} {s s' : On σ τ} {e : Failure}
    (h : x s = .error e s') : (x >>= f) s = .error e s' := by
  rw [bind_apply, h]

theorem final_bind_error {x : Op σ τ α} {f : α → Op σ τ β} {s s' : On σ τ} {e : Failure}
    (h : x s = .error e s') : (x >>= f).final s = s' :=
  final_of_error (bind_of_error h)

/-- A sequence that succeeds consists of two operations that succeed. -/
theorem bind_eq_ok {x : Op σ τ α} {f : α → Op σ τ β} {s s'' : On σ τ} {b : β}
    (h : (x >>= f) s = .ok b s'') : ∃ a s', x s = .ok a s' ∧ f a s' = .ok b s'' := by
  rw [bind_apply] at h
  cases hx : x s with
  | ok a s' =>
      rw [hx] at h
      exact ⟨a, s', rfl, h⟩
  | error e s' =>
      rw [hx] at h
      cases h

/-- A sequence that fails does so in its first part or, after that, in its second. -/
theorem bind_eq_error {x : Op σ τ α} {f : α → Op σ τ β} {s s'' : On σ τ} {e : Failure}
    (h : (x >>= f) s = .error e s'') :
    x s = .error e s'' ∨ ∃ a s', x s = .ok a s' ∧ f a s' = .error e s'' := by
  rw [bind_apply] at h
  cases hx : x s with
  | ok a s' =>
      rw [hx] at h
      exact .inr ⟨a, s', rfl, h⟩
  | error e s' =>
      rw [hx] at h
      cases h
      exact .inl rfl

theorem demand_eq_ok {act : StateM σ (Except String α)} {fail : String → Failure} {s s' : On σ τ}
    {a : α} (h : demand act fail s = .ok a s') :
    (act.run s.world.host).1 = .ok a ∧
      s' = { s with world := { s.world with host := (act.run s.world.host).2 } } := by
  obtain ⟨answer, s₁, asked, given⟩ := bind_eq_ok h
  rw [host_apply] at asked
  injection asked with answered left
  rw [answered, left]
  cases answer with
  | ok a =>
      cases given
      exact ⟨rfl, rfl⟩
  | error reason => cases given

theorem demand_of_ok {act : StateM σ (Except String α)} {fail : String → Failure} {s : On σ τ}
    {a : α} (h : (act.run s.world.host).1 = .ok a) :
    demand act fail s =
      .ok a { s with world := { s.world with host := (act.run s.world.host).2 } } := by
  rw [demand, bind_of_ok (host_apply act s), h]
  rfl

theorem host_of_run {act : StateM σ α} {s : On σ τ} {a : α} {h : σ}
    (ran : act.run s.world.host = (a, h)) :
    host act s = .ok a { s with world := { s.world with host := h } } := by
  rw [host_apply, ran]

theorem demand_of_run {act : StateM σ (Except String α)} {fail : String → Failure} {s : On σ τ}
    {a : α} {h : σ} (ran : act.run s.world.host = (.ok a, h)) :
    demand act fail s = .ok a { s with world := { s.world with host := h } } := by
  rw [demand, bind_of_ok (host_of_run ran)]
  rfl

theorem demand_of_refusal {act : StateM σ (Except String α)} {fail : String → Failure}
    {s : On σ τ} {reason : String} {h : σ} (ran : act.run s.world.host = (.error reason, h)) :
    demand act fail s = .error (fail reason) { s with world := { s.world with host := h } } := by
  rw [demand, bind_of_ok (host_of_run ran)]
  rfl

theorem map_apply (f : α → β) (x : Op σ τ α) (s : On σ τ) :
    (f <$> x) s = match x s with
      | .ok a s' => .ok (f a) s'
      | .error e s' => .error e s' := by
  cases h : x s <;> simp only [Functor.map, EStateM.map, h]

theorem map_of_ok {f : α → β} {x : Op σ τ α} {s s' : On σ τ} {a : α} (h : x s = .ok a s') :
    (f <$> x) s = .ok (f a) s' := by
  rw [map_apply, h]

theorem map_of_error {f : α → β} {x : Op σ τ α} {s s' : On σ τ} {e : Failure}
    (h : x s = .error e s') : (f <$> x) s = .error e s' := by
  rw [map_apply, h]

theorem final_map (f : α → β) (x : Op σ τ α) (s : On σ τ) : (f <$> x).final s = x.final s := by
  unfold final
  rw [map_apply]
  cases x s <;> rfl

theorem outcome_map (f : α → β) (x : Op σ τ α) (s : On σ τ) :
    (f <$> x).outcome s = (x.outcome s).map f := by
  unfold outcome
  rw [map_apply]
  cases x s <;> rfl

theorem map_eq_error {f : α → β} {x : Op σ τ α} {s s' : On σ τ} {e : Failure}
    (h : (f <$> x) s = .error e s') : x s = .error e s' := by
  rw [map_apply] at h
  cases ended : x s with
  | ok a s₁ =>
      rw [ended] at h
      cases h
  | error e₁ s₁ =>
      rw [ended] at h
      cases h
      rfl

theorem discard_of_ok {x : Op σ τ α} {s s' : On σ τ} {a : α} (h : x s = .ok a s') :
    (discard x : Op σ τ Unit) s = .ok () s' := by
  simp only [discard, Functor.discard, Functor.mapConst, Function.comp, EStateM.map, h]

theorem discard_eq_ok {x : Op σ τ α} {s s' : On σ τ}
    (h : (discard x : Op σ τ Unit) s = .ok () s') : ∃ a, x s = .ok a s' := by
  have mapped : (discard x : Op σ τ Unit) s = ((fun _ => ()) <$> x) s := rfl
  rw [mapped, map_apply] at h
  cases ended : x s with
  | ok a s₁ =>
      rw [ended] at h
      cases h
      exact ⟨a, rfl⟩
  | error e s₁ =>
      rw [ended] at h
      cases h

theorem observe_apply (act : Op σ τ α) (s : On σ τ) :
    observe act s = .ok (act.outcome s) (act.final s) := by
  unfold observe outcome final
  cases act s <;> rfl

theorem on_apply (other : υ) (act : Op σ υ α) (s : On σ τ) :
    on other act s =
      .ok (act.outcome ⟨other, s.world⟩, (act.final ⟨other, s.world⟩).subject)
        ⟨s.subject, (act.final ⟨other, s.world⟩).world⟩ := by
  unfold on outcome final
  cases act ⟨other, s.world⟩ <;> rfl

/-! ## Properties that are kept -/

/-- From every state with `P`, the operation ends in one with `P`; its failure, if it fails,
satisfies `E`. -/
def Keeps (P : On σ τ → Prop) (E : Failure → Prop) (act : Op σ τ α) : Prop :=
  ∀ s, P s → match act s with
    | .ok _ s' => P s'
    | .error e s' => P s' ∧ E e

namespace Keeps

variable {P : On σ τ → Prop} {E : Failure → Prop}

theorem final {act : Op σ τ α} (h : Keeps P E act) {s : On σ τ} (hs : P s) :
    P (act.final s) := by
  have := h s hs
  unfold Op.final
  split <;> simp_all

theorem ok {act : Op σ τ α} (h : Keeps P E act) {s s' : On σ τ} {a : α} (hs : P s)
    (ended : act s = .ok a s') : P s' := by
  have := h s hs
  rwa [ended] at this

theorem error {act : Op σ τ α} (h : Keeps P E act) {s s' : On σ τ} {e : Failure} (hs : P s)
    (ended : act s = .error e s') : P s' ∧ E e := by
  have := h s hs
  rwa [ended] at this

theorem outcome {act : Op σ τ α} (h : Keeps P E act) {s : On σ τ} {e : Failure} (hs : P s)
    (ended : act.outcome s = .error e) : E e :=
  (h.error hs (outcome_eq_error ended)).2

theorem weaken {E' : Failure → Prop} {act : Op σ τ α} (h : Keeps P E act)
    (hE : ∀ e, E e → E' e) : Keeps P E' act := by
  intro s hs
  have ended := h s hs
  split at ended
  · exact ended
  · exact ⟨ended.1, hE _ ended.2⟩

theorem pure (a : α) : Keeps P E (Pure.pure a : Op σ τ α) := fun _ hs => hs

theorem throw {e : Failure} (he : E e) : Keeps P E (throw e : Op σ τ α) :=
  fun _ hs => ⟨hs, he⟩

theorem bind {x : Op σ τ α} {f : α → Op σ τ β} (hx : Keeps P E x)
    (hf : ∀ a, Keeps P E (f a)) : Keeps P E (x >>= f) := by
  intro s hs
  rw [bind_apply]
  have first := hx s hs
  cases ended : x s with
  | ok a s' =>
      rw [ended] at first
      exact hf a s' first
  | error e s' =>
      rw [ended] at first
      exact first

theorem map {x : Op σ τ α} (f : α → β) (hx : Keeps P E x) : Keeps P E (f <$> x) := by
  intro s hs
  have first := hx s hs
  rw [map_apply]
  cases ended : x s <;> rwa [ended] at first

theorem discard {x : Op σ τ α} (hx : Keeps P E x) : Keeps P E (discard x : Op σ τ Unit) :=
  hx.map _

theorem subject : Keeps P E (subject : Op σ τ τ) := fun _ hs => hs

theorem deadline (timeout : Duration) : Keeps P E (deadline timeout : Op σ τ Deadline) :=
  fun _ hs => hs

theorem host {act : StateM σ α}
    (h : ∀ s, P s → P { s with world := { s.world with host := (act.run s.world.host).2 } }) :
    Keeps P E (host act : Op σ τ α) := h

theorem conclude {result : Except Failure α} (h : ∀ e, result = .error e → E e) :
    Keeps P E (conclude result : Op σ τ α) := by
  cases result with
  | ok a => exact pure a
  | error e => exact throw (h e rfl)

theorem demand {act : StateM σ (Except String α)} {fail : String → Failure}
    (h : ∀ s, P s → P { s with world := { s.world with host := (act.run s.world.host).2 } })
    (hfail : ∀ reason, E (fail reason)) : Keeps P E (demand act fail : Op σ τ α) := by
  refine bind (host h) fun answer => ?_
  cases answer with
  | ok a => exact pure a
  | error reason => exact throw (hfail reason)

theorem on {Q : World σ → Prop} {other : υ} {act : Op σ υ α}
    (h : Keeps (fun s => Q s.world) (fun _ => True) act) :
    Keeps (fun s : On σ τ => Q s.world) E (on other act) := by
  intro s hs
  rw [on_apply]
  exact h.final (s := ⟨other, s.world⟩) hs

theorem rephrase {act : Op σ τ α} {f : Failure → Failure} {E' : Failure → Prop}
    (h : Keeps P E act) (hf : ∀ e, E e → E' (f e)) : Keeps P E' (rephrase f act) := by
  intro s hs
  have inner := h s hs
  unfold Op.rephrase
  cases ended : act s with
  | ok a s' =>
      rw [ended] at inner
      exact inner
  | error e s' =>
      rw [ended] at inner
      exact ⟨inner.1, hf e inner.2⟩

end Keeps

end SerialConsole.Op
