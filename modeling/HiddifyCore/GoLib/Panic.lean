import Mathlib.Logic.Basic
import Mathlib.Tactic.Common

/-!
# Go computations that may panic

A Go call ends in one of two ways: it returns, or it unwinds with a panic. A panic keeps every
write made before it, and a deferred function that calls `recover` turns it back into a return,
with the unnamed results at their zero values. `Go σ α` is that behaviour over a state `σ`.

`Outcome` is the verdict of one call to code that is not modelled: a value, a non-nil `error`,
or a panic. The triples `Go.Triple P m Q R` have one postcondition for each way of ending, and
the rules below are the only facts about `Go` that the developments over it use.
-/

namespace GoLib

universe u

/-- How a call ends. -/
inductive Exit (α : Type u) where
  | ret (a : α)
  | panic (msg : String)
  deriving DecidableEq, Repr

/-- What a call with results `(α, error)` does: it returns a value and a nil error, or a non-nil
error, or it panics. -/
inductive Outcome (α : Type u) where
  | ok (a : α)
  | fail (err : String)
  | panic (msg : String)
  deriving DecidableEq, Repr

/-- A computation over the mutable state `σ`. The state survives a panic. -/
def Go (σ α : Type u) : Type u := σ → Exit α × σ

namespace Exit

variable {α : Type u}

def IsPanic : Exit α → Prop
  | .ret _ => False
  | .panic _ => True

instance : DecidablePred (@IsPanic α) := fun e =>
  match e with
  | .ret _ => isFalse id
  | .panic _ => isTrue trivial

@[simp] lemma isPanic_ret (a : α) : ¬ (Exit.ret a).IsPanic := id

@[simp] lemma isPanic_panic (e : String) : (Exit.panic e : Exit α).IsPanic := trivial

end Exit

namespace Outcome

variable {α β : Type u}

/-- Results are chained the way `if err != nil { return err }` chains them. -/
protected def bind (x : Outcome α) (f : α → Outcome β) : Outcome β :=
  match x with
  | .ok a => f a
  | .fail e => .fail e
  | .panic e => .panic e

instance : Monad Outcome where
  pure := Outcome.ok
  bind := Outcome.bind

/-- Wrap the error, as `fmt.Errorf` with a `%w` or `%v` does. -/
def mapErr (f : String → String) : Outcome α → Outcome α
  | .ok a => .ok a
  | .fail e => .fail (f e)
  | .panic e => .panic e

/-- A call that does not panic. -/
def ofExcept : Except String α → Outcome α
  | .ok a => .ok a
  | .error e => .fail e

def IsOk : Outcome α → Prop
  | .ok _ => True
  | _ => False

def IsFail : Outcome α → Prop
  | .fail _ => True
  | _ => False

def IsPanic : Outcome α → Prop
  | .panic _ => True
  | _ => False

instance : DecidablePred (@IsOk α) := fun o =>
  match o with
  | .ok _ => isTrue trivial
  | .fail _ => isFalse id
  | .panic _ => isFalse id

instance : DecidablePred (@IsFail α) := fun o =>
  match o with
  | .ok _ => isFalse id
  | .fail _ => isTrue trivial
  | .panic _ => isFalse id

instance : DecidablePred (@IsPanic α) := fun o =>
  match o with
  | .ok _ => isFalse id
  | .fail _ => isFalse id
  | .panic _ => isTrue trivial

@[simp] lemma isOk_ok (a : α) : (Outcome.ok a).IsOk := trivial
@[simp] lemma isOk_fail (e : String) : ¬ (Outcome.fail e : Outcome α).IsOk := id
@[simp] lemma isOk_panic (e : String) : ¬ (Outcome.panic e : Outcome α).IsOk := id
@[simp] lemma isFail_ok (a : α) : ¬ (Outcome.ok a).IsFail := id
@[simp] lemma isFail_fail (e : String) : (Outcome.fail e : Outcome α).IsFail := trivial
@[simp] lemma isFail_panic (e : String) : ¬ (Outcome.panic e : Outcome α).IsFail := id
@[simp] lemma isPanic_ok (a : α) : ¬ (Outcome.ok a).IsPanic := id
@[simp] lemma isPanic_fail (e : String) : ¬ (Outcome.fail e : Outcome α).IsPanic := id
@[simp] lemma isPanic_panic (e : String) : (Outcome.panic e : Outcome α).IsPanic := trivial

lemma IsOk.exists_eq {o : Outcome α} (h : o.IsOk) : ∃ a, o = .ok a := by
  cases o with
  | ok a => exact ⟨a, rfl⟩
  | fail e => exact h.elim
  | panic e => exact h.elim

lemma IsOk.not_isFail {o : Outcome α} (h : o.IsOk) : ¬ o.IsFail := by
  cases o <;> simp_all

lemma IsOk.not_isPanic {o : Outcome α} (h : o.IsOk) : ¬ o.IsPanic := by
  cases o <;> simp_all

lemma IsFail.not_isPanic {o : Outcome α} (h : o.IsFail) : ¬ o.IsPanic := by
  cases o <;> simp_all

lemma isFail_of_not {o : Outcome α} (hok : ¬ o.IsOk) (hpanic : ¬ o.IsPanic) : o.IsFail := by
  cases o <;> simp_all

@[simp] lemma bind_ok (a : α) (f : α → Outcome β) : (Outcome.ok a >>= f) = f a := rfl

@[simp] lemma bind_fail (e : String) (f : α → Outcome β) :
    ((Outcome.fail e : Outcome α) >>= f) = .fail e := rfl

@[simp] lemma bind_panic (e : String) (f : α → Outcome β) :
    ((Outcome.panic e : Outcome α) >>= f) = .panic e := rfl

/-- What a panic in a chain of calls amounts to: the call panics itself, or it fails and what runs
then panics, or it succeeds and the rest of the chain panics. -/
def PanicsThen (o : Outcome α) (onFail : Prop) (next : α → Prop) : Prop :=
  match o with
  | .ok a => next a
  | .fail _ => onFail
  | .panic _ => True

@[simp] lemma panicsThen_ok (a : α) (c : Prop) (n : α → Prop) :
    (Outcome.ok a).PanicsThen c n ↔ n a := Iff.rfl

@[simp] lemma panicsThen_fail (e : String) (c : Prop) (n : α → Prop) :
    (Outcome.fail e : Outcome α).PanicsThen c n ↔ c := Iff.rfl

@[simp] lemma panicsThen_panic (e : String) (c : Prop) (n : α → Prop) :
    (Outcome.panic e : Outcome α).PanicsThen c n := trivial

@[simp] lemma mapErr_eq_ok {f : String → String} {x : Outcome α} {a : α} :
    x.mapErr f = .ok a ↔ x = .ok a := by
  cases x <;> simp [mapErr]

/-- A chain succeeds exactly when both links do. -/
lemma bind_eq_ok {x : Outcome α} {f : α → Outcome β} {b : β} :
    (x >>= f) = .ok b ↔ ∃ a, x = .ok a ∧ f a = .ok b := by
  cases x <;> simp

end Outcome

namespace Go

variable {σ α β : Type u}

instance : Monad (Go σ) where
  pure a := fun s => (.ret a, s)
  bind m f := fun s =>
    match m s with
    | (.ret a, s') => f a s'
    | (.panic e, s') => (.panic e, s')

def get : Go σ σ := fun s => (.ret s, s)

def modify (f : σ → σ) : Go σ PUnit := fun s => (.ret ⟨⟩, f s)

def panic (msg : String) : Go σ α := fun s => (.panic msg, s)

/-- A call to code outside the model with results `(α, error)`. -/
def call (o : Outcome α) : Go σ (Except String α) := fun s =>
  match o with
  | .ok a => (.ret (.ok a), s)
  | .fail e => (.ret (.error e), s)
  | .panic e => (.panic e, s)

/-- A call to code outside the model without an error result. -/
def callVoid (o : Exit PUnit) : Go σ PUnit := fun s =>
  match o with
  | .ret _ => (.ret ⟨⟩, s)
  | .panic e => (.panic e, s)

/-- `defer handler()` with `handler` calling `recover`, around `body`: a panic of `body` runs the
handler, and the enclosing function then returns `zero`. -/
def deferRecover (zero : α) (handler : String → Go σ PUnit) (body : Go σ α) : Go σ α := fun s =>
  match body s with
  | (.ret a, s') => (.ret a, s')
  | (.panic e, s') => (do handler e; pure zero : Go σ α) s'

/-- Run a computation over one component of the state. -/
def zoom {τ : Type u} (view : σ → τ) (put : τ → σ → σ) (m : Go τ α) : Go σ α := fun s =>
  ((m (view s)).1, put (m (view s)).2 s)

/-! ### Running -/

lemma pure_run (a : α) (s : σ) : (pure a : Go σ α) s = (.ret a, s) := rfl

@[simp] lemma call_ok (a : α) (s : σ) : call (.ok a) s = (.ret (.ok a), s) := rfl

@[simp] lemma call_fail (e : String) (s : σ) :
    (call (.fail e) : Go σ (Except String α)) s = (.ret (.error e), s) := rfl

@[simp] lemma call_panic (e : String) (s : σ) :
    (call (.panic e) : Go σ (Except String α)) s = (.panic e, s) := rfl

lemma call_eq_ret_ok {o : Outcome α} {a : α} {s t : σ}
    (h : call o s = (.ret (.ok a), t)) : o = .ok a := by
  cases o with
  | ok b =>
    cases h
    rfl
  | fail e => cases h
  | panic e => cases h

lemma bind_run (m : Go σ α) (f : α → Go σ β) (s : σ) :
    (m >>= f) s = match m s with
      | (.ret a, s') => f a s'
      | (.panic e, s') => (.panic e, s') := rfl

lemma bind_eq_ret {m : Go σ α} {f : α → Go σ β} {s u : σ} {b : β}
    (h : (m >>= f) s = (.ret b, u)) : ∃ a t, m s = (.ret a, t) ∧ f a t = (.ret b, u) := by
  rw [bind_run] at h
  rcases hm : m s with ⟨a | e, t⟩
  · rw [hm] at h
    exact ⟨a, t, rfl, h⟩
  · rw [hm] at h
    cases h

/-! ### Triples -/

/-- From a state with `P`, a return satisfies `Q` and a panic satisfies `R`. -/
def Triple (P : σ → Prop) (m : Go σ α) (Q : α → σ → Prop) (R : σ → Prop) : Prop :=
  ∀ s, P s → match m s with
    | (.ret a, s') => Q a s'
    | (.panic _, s') => R s'

variable {P P' : σ → Prop} {Q : α → σ → Prop} {Q' : β → σ → Prop} {R : σ → Prop}

lemma Triple.ret {m : Go σ α} (h : Triple P m Q R) {s s' : σ} {a : α} (hs : P s)
    (hr : m s = (.ret a, s')) : Q a s' := by
  have := h s hs
  rw [hr] at this
  exact this

lemma Triple.pure {a : α} (h : ∀ s, P s → Q a s) : Triple P (pure a : Go σ α) Q R := h

lemma Triple.get {Q : σ → σ → Prop} (h : ∀ s, P s → Q s s) : Triple P Go.get Q R := h

lemma Triple.modify {f : σ → σ} {Q : PUnit → σ → Prop} (h : ∀ s, P s → Q ⟨⟩ (f s)) :
    Triple P (Go.modify f) Q R := h

lemma Triple.bind {M : α → σ → Prop} {m : Go σ α} {f : α → Go σ β}
    (hm : Triple P m M R) (hf : ∀ a, Triple (M a) (f a) Q' R) : Triple P (m >>= f) Q' R := by
  intro s hs
  have h := hm s hs
  rw [bind_run]
  rcases hms : m s with ⟨a | e, s'⟩
  · simp only [hms] at h
    exact hf a s' h
  · simpa only [hms] using h

lemma Triple.conseq {m : Go σ α} {Q₀ : α → σ → Prop} {R₀ : σ → Prop} (h : Triple P' m Q₀ R₀)
    (hP : ∀ s, P s → P' s) (hQ : ∀ a s, Q₀ a s → Q a s) (hR : ∀ s, R₀ s → R s) :
    Triple P m Q R := by
  intro s hs
  have := h s (hP s hs)
  rcases hms : m s with ⟨a | e, s'⟩
  · simp only [hms] at this ⊢
    exact hQ a s' this
  · simp only [hms] at this ⊢
    exact hR s' this

lemma Triple.pre {m : Go σ α} (h : Triple P' m Q R) (hP : ∀ s, P s → P' s) : Triple P m Q R :=
  h.conseq hP (fun _ _ => id) (fun _ => id)

lemma Triple.post {m : Go σ α} {Q₀ : α → σ → Prop} (h : Triple P m Q₀ R)
    (hQ : ∀ a s, Q₀ a s → Q a s) : Triple P m Q R :=
  h.conseq (fun _ => id) hQ (fun _ => id)

lemma Triple.onPanic {m : Go σ α} {R₀ : σ → Prop} (h : Triple P m Q R₀)
    (hR : ∀ s, R₀ s → R s) : Triple P m Q R :=
  h.conseq (fun _ => id) (fun _ _ => id) hR

/-- What follows a read of the state is judged from the state that was read. -/
lemma Triple.get_bind {f : σ → Go σ α} (h : ∀ s, P s → Triple (· = s) (f s) Q R) :
    Triple P (Go.get >>= f) Q R :=
  fun s hs => h s hs s rfl

/-- Two triples of one computation hold together. -/
lemma Triple.and {m : Go σ α} {Q₁ : α → σ → Prop} {R₁ : σ → Prop} (h : Triple P m Q R)
    (h' : Triple P' m Q₁ R₁) :
    Triple (fun s => P s ∧ P' s) m (fun a s => Q a s ∧ Q₁ a s) (fun s => R s ∧ R₁ s) := by
  rintro s ⟨hP, hP'⟩
  have hQ := h s hP
  have hQ' := h' s hP'
  rcases hms : m s with ⟨a | e, t⟩
  · simp only [hms] at hQ hQ' ⊢
    exact ⟨hQ, hQ'⟩
  · simp only [hms] at hQ hQ' ⊢
    exact ⟨hQ, hQ'⟩

/-- A state-independent fact in the precondition may be used to choose the rule. -/
lemma Triple.assume {p : Prop} {m : Go σ α} (h : p → Triple P m Q R) :
    Triple (fun s => p ∧ P s) m Q R :=
  fun s hs => h hs.1 s hs.2

lemma Triple.call {o : Outcome α} {Q : Except String α → σ → Prop}
    (hok : ∀ a, o = .ok a → ∀ s, P s → Q (.ok a) s)
    (hfail : ∀ e, o = .fail e → ∀ s, P s → Q (.error e) s)
    (hpanic : o.IsPanic → ∀ s, P s → R s) : Triple P (Go.call o) Q R := by
  cases o with
  | ok a => exact fun s hs => hok a rfl s hs
  | fail e => exact fun s hs => hfail e rfl s hs
  | panic e => exact fun s hs => hpanic trivial s hs

lemma Triple.callVoid {o : Exit PUnit} {Q : PUnit → σ → Prop}
    (hret : ¬ o.IsPanic → ∀ s, P s → Q ⟨⟩ s)
    (hpanic : o.IsPanic → ∀ s, P s → R s) : Triple P (Go.callVoid o) Q R := by
  cases o with
  | ret a => exact fun s hs => hret id s hs
  | panic e => exact fun s hs => hpanic trivial s hs

/-- The deferred function only runs after a panic, from the state the panic left. -/
lemma Triple.deferRecover {zero : α} {handler : String → Go σ PUnit} {body : Go σ α}
    {M : σ → Prop} (hbody : Triple P body Q M)
    (hhandler : ∀ e, Triple M (handler e) (fun _ => Q zero) R) :
    Triple P (Go.deferRecover zero handler body) Q R := by
  intro s hs
  have h := hbody s hs
  simp only [Go.deferRecover]
  rcases hbs : body s with ⟨a | e, s'⟩
  · simpa only [hbs] using h
  · simp only [hbs] at h ⊢
    exact Triple.bind (hhandler e) (fun _ => Triple.pure fun _ => id) s' h

/-- A zoomed computation is judged by what it does to the component. -/
lemma Triple.zoom {τ : Type u} {view : σ → τ} {put : τ → σ → σ} {m : Go τ α}
    (h : ∀ s, P s → match m (view s) with
      | (.ret a, t) => Q a (put t s)
      | (.panic _, t) => R (put t s)) : Triple P (Go.zoom view put m) Q R := by
  intro s hs
  have := h s hs
  simp only [Go.zoom]
  rcases hm : m (view s) with ⟨a | e, t⟩
  · simpa only [hm] using this
  · simpa only [hm] using this

/-- The postcondition that tells a nil error from a non-nil one. -/
def results (M : α → σ → Prop) (E : String → σ → Prop) : Except String α → σ → Prop
  | .ok a => M a
  | .error e => E e

/-! ### Two-state invariants -/

/-- However `m` ends, its last state is related to its first one. -/
def Within (S : σ → σ → Prop) (m : Go σ α) : Prop := ∀ s, S s (m s).2

section Within

variable {S : σ → σ → Prop}

lemma Within.pure (hrefl : ∀ s, S s s) (a : α) : Within S (pure a : Go σ α) := hrefl

lemma Within.get (hrefl : ∀ s, S s s) : Within S (Go.get : Go σ σ) := hrefl

lemma Within.modify {f : σ → σ} (h : ∀ s, S s (f s)) : Within S (Go.modify f) := h

lemma Within.call (hrefl : ∀ s, S s s) (o : Outcome α) : Within S (Go.call o) := by
  intro s
  cases o <;> exact hrefl s

lemma Within.callVoid (hrefl : ∀ s, S s s) (o : Exit PUnit) : Within S (Go.callVoid o) := by
  intro s
  cases o <;> exact hrefl s

lemma Within.bind (htrans : ∀ s t u, S s t → S t u → S s u) {m : Go σ α} {f : α → Go σ β}
    (hm : Within S m) (hf : ∀ a, Within S (f a)) : Within S (m >>= f) := by
  intro s
  have h := hm s
  rw [bind_run]
  rcases hms : m s with ⟨a | e, t⟩
  · rw [hms] at h
    exact htrans s t _ h (hf a t)
  · rwa [hms] at h

lemma Within.deferRecover (hrefl : ∀ s, S s s) (htrans : ∀ s t u, S s t → S t u → S s u)
    {zero : α} {handler : String → Go σ PUnit} {body : Go σ α} (hbody : Within S body)
    (hhandler : ∀ e, Within S (handler e)) : Within S (Go.deferRecover zero handler body) := by
  intro s
  have h := hbody s
  simp only [Go.deferRecover]
  rcases hbs : body s with ⟨a | e, t⟩
  · rwa [hbs] at h
  · rw [hbs] at h
    exact htrans s t _ h (Within.bind htrans (hhandler e) (fun _ => .pure hrefl zero) t)

/-- Reading the state to choose what to do next changes nothing. -/
lemma Within.get_bind {f : σ → Go σ α} (h : ∀ s, S s (f s s).2) : Within S (Go.get >>= f) := h

/-- A predicate that the relation carries forward holds at both kinds of end. -/
lemma Triple.of_within {I : σ → Prop} {m : Go σ α} (hm : Within S m)
    (hI : ∀ s t, I s → S s t → I t) : Triple I m (fun _ => I) I := by
  intro s hs
  have h := hI s _ hs (hm s)
  rcases hms : m s with ⟨a | e, t⟩
  · rw [hms] at h
    exact h
  · rw [hms] at h
    exact h

end Within

end Go

end GoLib
