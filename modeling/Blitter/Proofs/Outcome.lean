import Blitter.Session.Process

/-!
# Outcomes of composed operations

An operation either fails, and leaves the state it has reached, or hands its result and state to
what comes next. `bind_of_ok` and `bind_of_error` say so; what one request, one change of a slot and
one operation of the pipeline do is said below them. `Keeps` is for what no step changes.
-/
namespace Blitter

/-- A computation that has a result has one of its first step. -/
theorem ok_of_bind {ε α β : Type} {x : Except ε α} {f : α → Except ε β} {b : β}
    (h : (x >>= f) = .ok b) : ∃ a, x = .ok a ∧ f a = .ok b := by
  cases x with
  | error e => cases h
  | ok a => exact ⟨a, rfl, h⟩

theorem ok_bind {ε α β : Type} {x : Except ε α} {f : α → Except ε β} {a : α} (h : x = .ok a) :
    (x >>= f) = f a := by
  rw [h]
  rfl

/-- One that fails does so in its first step or in the rest. -/
theorem error_of_bind {ε α β : Type} {x : Except ε α} {f : α → Except ε β} {e : ε}
    (h : (x >>= f) = .error e) : x = .error e ∨ ∃ a, x = .ok a ∧ f a = .error e := by
  cases x with
  | error e' =>
    cases h
    exact .inl rfl
  | ok a => exact .inr ⟨a, rfl, h⟩

theorem ok_of_toOption {ε α : Type} {x : Except ε α} {a : α} (h : x.toOption = some a) :
    x = .ok a := by
  cases x with
  | error e => cases h
  | ok a => cases h; rfl

theorem exists_ok_of_toOption {ε α β : Type} {x : Except ε α} {f : α → β} {b : β}
    (h : x.toOption.map f = some b) : ∃ a, x = .ok a ∧ f a = b := by
  cases x with
  | error e => cases h
  | ok a => exact ⟨a, rfl, Option.some.inj h⟩

section Composition

variable {σ α β : Type} {m : ExceptT Failure (StateM σ) α} {f : α → ExceptT Failure (StateM σ) β}
  {s t u : σ}

theorem bind_of_ok {a : α} (h : m s = (.ok a, t)) : (m >>= f) s = f a t := by
  change (ExceptT.bindCont f (m s).1) (m s).2 = _
  rw [h]
  rfl

theorem bind_of_error {e : Failure} (h : m s = (.error e, t)) :
    (m >>= f) s = (.error e, t) := by
  change (ExceptT.bindCont f (m s).1) (m s).2 = _
  rw [h]
  rfl

theorem fst_of_error {e : Failure} (h : (m s).1 = .error e) : ((m >>= f) s).1 = .error e :=
  congrArg Prod.fst (bind_of_error (Prod.ext h rfl))

theorem map_of_ok {a : α} {g : α → β} (h : m s = (.ok a, t)) : (g <$> m) s = (.ok (g a), t) := by
  rw [map_eq_pure_bind, bind_of_ok h]
  rfl

theorem pure_run (a : α) : (pure a : ExceptT Failure (StateM σ) α) s = (.ok a, s) := rfl

theorem get_run : (get : ExceptT Failure (StateM σ) σ) s = (.ok s, s) := rfl

theorem set_run (u : σ) : (set u : ExceptT Failure (StateM σ) PUnit) s = (.ok ⟨⟩, u) := rfl

theorem modify_run (g : σ → σ) : (modify g : ExceptT Failure (StateM σ) Unit) s = (.ok (), g s) :=
  rfl

end Composition

/-- However the operation ends, what is read of the state stays. -/
def Keeps {σ α γ : Type} (read : σ → γ) (m : ExceptT Failure (StateM σ) α) : Prop :=
  ∀ s, read (m s).2 = read s

namespace Keeps

variable {σ α β γ : Type} {read : σ → γ} {m : ExceptT Failure (StateM σ) α}
  {f : α → ExceptT Failure (StateM σ) β}

theorem pure (a : α) : Keeps read (pure a : ExceptT Failure (StateM σ) α) := fun _ => rfl

/-- What is read is that after the first step if the steps from there on keep it. -/
theorem first (hf : ∀ a, Keeps read (f a)) (m : ExceptT Failure (StateM σ) α) (s : σ) :
    read ((m >>= f) s).2 = read (m s).2 := by
  rcases h : m s with ⟨e | a, t⟩
  · rw [bind_of_error h]
  · rw [bind_of_ok h]
    exact hf a t

theorem bind (hm : Keeps read m) (hf : ∀ a, Keeps read (f a)) : Keeps read (m >>= f) :=
  fun s => (first hf m s).trans (hm s)

theorem map {g : α → β} (hm : Keeps read m) : Keeps read (g <$> m) := by
  rw [map_eq_pure_bind]
  exact hm.bind fun _ => pure _

theorem get : Keeps read (get : ExceptT Failure (StateM σ) σ) := fun _ => rfl

end Keeps

namespace Pipeline

variable {p : Pipeline}

theorem orFail_ok {α : Type} (a : α) : orFail (.ok a) p = (.ok a, p) := rfl

theorem orFail_error {α : Type} (e : Error) :
    orFail (.error e : Except Error α) p = (.error (.error e), p) := rfl

theorem ask_run {α : Type} (request : Journal → α × Journal) :
    ask request p = (.ok (request p.journal).1, { p with journal := (request p.journal).2 }) := rfl

theorem onSlot_run (role : Role) {id : SlotId} {change : SlotPool → SlotId → Option SlotPool}
    {q : SlotPool} (h : change (p.pools.get role) id = some q) :
    onSlot role id change p = (.ok (), { p with pools := p.pools.set role q }) := by
  unfold onSlot
  rw [bind_of_ok get_run, h]
  rfl

theorem surface_run (role : Role) {id : SlotId} {s : Slot}
    (h : (p.pools.get role).slot? id = some s) : surface role id p = (.ok s.surface, p) := by
  unfold surface
  rw [bind_of_ok get_run, SlotPool.surface?, h]
  rfl

end Pipeline

namespace Session

theorem onPipeline_run {α : Type} {m : PipelineM α} {s : Session} {r : Except Failure α}
    {p : Pipeline} (h : m s.pipeline = (r, p)) :
    onPipeline m s = (r, { s with pipeline := p }) := by
  unfold onPipeline
  rw [h]

end Session
end Blitter
