import HiddifyCore.GoLib.Panic

/-!
# Simulations between Go computations

Two computations over different states do the same when they start from related states: both
return, with related results, or both panic with the same message, and the states they end in are
related again. An instrumented computation, one that keeps a record of what it did, simulates the
plain one along the projection that forgets the record.
-/

namespace GoLib.Go

universe u

variable {σ τ α β γ δ : Type u}

/-- Related ways of ending. -/
inductive Related (R : τ → σ → Prop) (S : α → β → Prop) : Exit α × τ → Exit β × σ → Prop where
  | ret {a : α} {b : β} {t : τ} {s : σ} (hS : S a b) (hR : R t s) :
    Related R S (.ret a, t) (.ret b, s)
  | panic {t : τ} {s : σ} (e : String) (hR : R t s) : Related R S (.panic e, t) (.panic e, s)

def Simulates (R : τ → σ → Prop) (S : α → β → Prop) (m : Go τ α) (n : Go σ β) : Prop :=
  ∀ t s, R t s → Related R S (m t) (n s)

namespace Simulates

variable {R : τ → σ → Prop} {S : α → β → Prop} {S' : γ → δ → Prop}

lemma pure {a : α} {b : β} (h : S a b) : Simulates R S (pure a) (pure b) :=
  fun _ _ hR => .ret h hR

/-- A computation does the same as itself. -/
lemma refl (m : Go τ α) : Simulates (· = ·) (· = ·) m m := by
  rintro t _ rfl
  rcases m t with ⟨a | e, u⟩
  · exact .ret rfl rfl
  · exact .panic e rfl

lemma get : Simulates R R Go.get Go.get := fun _ _ hR => .ret hR hR

lemma modify {f : τ → τ} {g : σ → σ} (h : ∀ t s, R t s → R (f t) (g s)) :
    Simulates R (· = ·) (Go.modify f) (Go.modify g) := fun t s hR => .ret rfl (h t s hR)

lemma panic (msg : String) : Simulates R S (Go.panic msg) (Go.panic msg) :=
  fun _ _ hR => .panic msg hR

lemma call (o : Outcome α) : Simulates R (· = ·) (Go.call o) (Go.call o) := by
  intro t s hR
  cases o with
  | ok a => exact .ret rfl hR
  | fail e => exact .ret rfl hR
  | panic e => exact .panic e hR

lemma callVoid (o : Exit PUnit) : Simulates R (· = ·) (Go.callVoid o) (Go.callVoid o) := by
  intro t s hR
  cases o with
  | ret a => exact .ret rfl hR
  | panic e => exact .panic e hR

lemma bind {m : Go τ α} {n : Go σ β} {f : α → Go τ γ} {g : β → Go σ δ} (hm : Simulates R S m n)
    (hf : ∀ a b, S a b → Simulates R S' (f a) (g b)) : Simulates R S' (m >>= f) (n >>= g) := by
  intro t s hR
  have h := hm t s hR
  rw [bind_run, bind_run]
  generalize m t = p at h
  generalize n s = q at h
  cases h with
  | ret hS hR' => exact hf _ _ hS _ _ hR'
  | panic e hR' => exact .panic e hR'

/-- The continuation reads the results, and these are the same. -/
lemma bind_eq {m : Go τ α} {n : Go σ α} {f : α → Go τ γ} {g : α → Go σ δ}
    (hm : Simulates R (· = ·) m n) (hf : ∀ a, Simulates R S' (f a) (g a)) :
    Simulates R S' (m >>= f) (n >>= g) :=
  hm.bind fun a _ hab => hab ▸ hf a

lemma get_bind {f : τ → Go τ γ} {g : σ → Go σ δ}
    (h : ∀ t s, R t s → Simulates R S' (f t) (g s)) :
    Simulates R S' (Go.get >>= f) (Go.get >>= g) :=
  get.bind h

lemma deferRecover {zero : γ} {zero' : δ} (hzero : S' zero zero') {handler : String → Go τ PUnit}
    {handler' : String → Go σ PUnit} {m : Go τ γ} {n : Go σ δ} (hm : Simulates R S' m n)
    (hhandler : ∀ e, Simulates R (· = ·) (handler e) (handler' e)) :
    Simulates R S' (Go.deferRecover zero handler m) (Go.deferRecover zero' handler' n) := by
  intro t s hR
  have h := hm t s hR
  simp only [Go.deferRecover]
  generalize m t = p at h
  generalize n s = q at h
  cases h with
  | ret hS hR' => exact .ret hS hR'
  | panic e hR' => exact (hhandler e).bind_eq (fun _ => pure hzero) _ _ hR'

/-- A computation on the projected state is simulated by itself. -/
lemma zoom {view : τ → σ} {put : σ → τ → τ} (hput : ∀ s t, view (put s t) = s) (n : Go σ α) :
    Simulates (view · = ·) (· = ·) (Go.zoom view put n) n := by
  rintro t _ rfl
  simp only [Go.zoom]
  rcases n (view t) with ⟨a | e, s⟩
  · exact .ret rfl (hput s t)
  · exact .panic e (hput s t)

end Simulates

end GoLib.Go
