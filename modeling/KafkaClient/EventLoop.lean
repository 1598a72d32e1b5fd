import Mathlib.Data.List.Basic

/-! Code that runs on the event loop: it runs on a state and may throw, keeping the effects it
made before the throw (`ExceptT ε (StateM σ)`, the shape of a method of the program's objects).
How `run` goes through each construct of such code. -/

namespace KafkaClient.EventLoop

variable {σ ε : Type}

@[simp] theorem run_bind {α β : Type} (x : ExceptT ε (StateM σ) α)
    (f : α → ExceptT ε (StateM σ) β) (s : σ) :
    (x >>= f).run.run s = match x.run.run s with
      | (.ok a, next) => (f a).run.run next
      | (.error e, next) => (.error e, next) := by
  rcases h : x.run.run s with ⟨_ | _, next⟩ <;>
    (simp only [ExceptT.run_bind, StateT.run_bind, h]; rfl)

@[simp] theorem run_tryCatch {α : Type} (x : ExceptT ε (StateM σ) α)
    (handler : ε → ExceptT ε (StateM σ) α) (s : σ) :
    (tryCatch x handler).run.run s = match x.run.run s with
      | (.ok a, next) => (.ok a, next)
      | (.error e, next) => (handler e).run.run next := by
  show (ExceptT.tryCatch x handler).run.run s = _
  rcases h : x.run.run s with ⟨_ | _, next⟩ <;>
    simp only [ExceptT.tryCatch, ExceptT.run, ExceptT.mk, StateT.run_bind] at h ⊢ <;> simp [h]

@[simp] theorem run_map {α β : Type} (f : α → β) (x : ExceptT ε (StateM σ) α) (s : σ) :
    (f <$> x).run.run s = match x.run.run s with
      | (.ok a, next) => (.ok (f a), next)
      | (.error e, next) => (.error e, next) := by
  rw [map_eq_pure_bind, run_bind]
  rcases x.run.run s with ⟨_ | _, next⟩ <;> rfl

@[simp] theorem run_get (s : σ) : (get : ExceptT ε (StateM σ) σ).run.run s = (.ok s, s) := rfl

@[simp] theorem run_modify (f : σ → σ) (s : σ) :
    (modify f : ExceptT ε (StateM σ) Unit).run.run s = (.ok (), f s) := rfl

@[simp] theorem run_modifyGet {α : Type} (f : σ → α × σ) (s : σ) :
    (modifyGet f : ExceptT ε (StateM σ) α).run.run s = (.ok (f s).1, (f s).2) := rfl

@[simp] theorem run_throw {α : Type} (e : ε) (s : σ) :
    (throw e : ExceptT ε (StateM σ) α).run.run s = (.error e, s) := rfl

@[simp] theorem run_pure {α : Type} (a : α) (s : σ) :
    (pure a : ExceptT ε (StateM σ) α).run.run s = (.ok a, s) := rfl

/-! ## Code that keeps a relation between the state before it and the state after it -/

/-- Code whose end state stands in `R` to its start state, whatever it returns or throws. -/
def Stays {α : Type} (R : σ → σ → Prop) (code : ExceptT ε (StateM σ) α) : Prop :=
  ∀ s, R s (code.run.run s).2

namespace Stays

variable {R : σ → σ → Prop}

theorem bind [IsTrans σ R] {α β : Type} {x : ExceptT ε (StateM σ) α}
    {f : α → ExceptT ε (StateM σ) β} (hx : Stays R x) (hf : ∀ a, Stays R (f a)) :
    Stays R (x >>= f) := by
  intro s
  have first := hx s
  rw [run_bind]
  rcases ran : x.run.run s with ⟨_ | a, next⟩ <;> rw [ran] at first
  · exact first
  · exact trans_of R first (hf a next)

theorem tryCatch [IsTrans σ R] {α : Type} {x : ExceptT ε (StateM σ) α}
    {handler : ε → ExceptT ε (StateM σ) α} (hx : Stays R x) (hh : ∀ e, Stays R (handler e)) :
    Stays R (tryCatch x handler) := by
  intro s
  have first := hx s
  rw [run_tryCatch]
  rcases ran : x.run.run s with ⟨_ | a, next⟩ <;> rw [ran] at first
  · exact trans_of R first (hh _ next)
  · exact first

theorem map {α β : Type} (f : α → β) {x : ExceptT ε (StateM σ) α} (hx : Stays R x) :
    Stays R (f <$> x) := by
  intro s
  have first := hx s
  rw [run_map]
  rcases ran : x.run.run s with ⟨_ | a, next⟩ <;> rw [ran] at first <;> exact first

theorem get_bind {α : Type} {f : σ → ExceptT ε (StateM σ) α} (hf : ∀ s, Stays R (f s)) :
    Stays R (get >>= f) :=
  fun s => hf s s

theorem ite {α : Type} {p : Prop} [Decidable p] {t e : ExceptT ε (StateM σ) α}
    (ht : p → Stays R t) (he : ¬p → Stays R e) : Stays R (if p then t else e) := by
  split
  · exact ht ‹_›
  · exact he ‹_›

theorem pure [IsRefl σ R] {α : Type} (a : α) : Stays R (Pure.pure a : ExceptT ε (StateM σ) α) :=
  fun s => refl_of R s

theorem throw [IsRefl σ R] {α : Type} (e : ε) :
    Stays R (MonadExcept.throw e : ExceptT ε (StateM σ) α) :=
  fun s => refl_of R s

theorem forM [IsTrans σ R] [IsRefl σ R] {α : Type} (items : List α)
    {body : α → ExceptT ε (StateM σ) PUnit} (each : ∀ a ∈ items, Stays R (body a)) :
    Stays R (items.forM body) := by
  induction items with
  | nil => exact pure _
  | cons a items ih => exact bind (each a (.head _)) fun _ => ih fun b mem => each b (.tail _ mem)

end Stays

end KafkaClient.EventLoop
