import Mathlib.Data.List.Induction
import Mathlib.Tactic.Common

/-!
# The loops of the stream handlers

`GetSystemInfo`, `OutboundsInfo`, `MainOutboundsInfo`, `LogListener` and `CoreInfoListener` each
subscribe to an observer and select in a loop over the context of the stream, a channel that the
first message of the client closes, the subscription and a timer. In three of them the cases for
the context and the channel `break`, which leaves the `select` and not the loop.
-/

namespace HiddifyCore.V2

/-- What the `select` of a handler sees. -/
inductive StreamEvent (α : Type) where
  | info (a : α)
  | tick
  /-- The message of the client: `stopch` is closed. -/
  | stop
  /-- The context of the stream is done. -/
  | done

namespace StreamEvent

variable {α : Type}

def IsStop : StreamEvent α → Prop
  | .stop | .done => True
  | .info _ | .tick => False

end StreamEvent

/-- The body of a case of the `select`. -/
inductive CaseBody where
  | ret | brk
  deriving DecidableEq

structure StreamHandler where
  onDone : CaseBody
  /-- The case of `stopch`, if there is one. -/
  onStop : Option CaseBody
  /-- `UnSubscribe` is deferred. -/
  unsubscribes : Bool
  /-- A command client is created if there is none, with a deferred `Disconnect`. -/
  connects : Bool

def getSystemInfo : StreamHandler where
  onDone := .brk
  onStop := some .brk
  unsubscribes := false
  connects := true

def outboundsInfo : StreamHandler where
  onDone := .brk
  onStop := some .brk
  unsubscribes := false
  connects := true

def mainOutboundsInfo : StreamHandler where
  onDone := .brk
  onStop := some .brk
  unsubscribes := false
  connects := true

def logListener : StreamHandler where
  onDone := .ret
  onStop := none
  unsubscribes := true
  connects := false

def coreInfoListener : StreamHandler where
  onDone := .ret
  onStop := some .ret
  unsubscribes := true
  connects := false

/-- One call of a handler. -/
structure Streaming (α : Type) where
  sent : List α := []
  subscribed : Bool := true
  /-- It created the command client and has not disconnected it. -/
  connected : Bool := false
  returned : Bool := false

namespace StreamHandler

variable {α : Type} (h : StreamHandler)

/-- The call when it enters the loop. -/
def enter (hasClient : Bool) : Streaming α := { connected := h.connects && !hasClient }

/-- A `return` runs the deferred functions. -/
def body (s : Streaming α) : CaseBody → Streaming α
  | .ret => { s with subscribed := s.subscribed && !h.unsubscribes, connected := false,
                     returned := true }
  | .brk => s

/-- One turn of the loop. -/
def next (s : Streaming α) (e : StreamEvent α) : Streaming α :=
  if s.returned then s
  else match e with
    | .info a => { s with sent := s.sent ++ [a] }
    | .tick => s
    | .done => h.body s h.onDone
    | .stop => match h.onStop with
      | some b => h.body s b
      | none => s

def run (hasClient : Bool) (events : List (StreamEvent α)) : Streaming α :=
  events.foldl h.next (h.enter hasClient)

/-- At every stop message and at every end of the context the handler has returned and
unsubscribed, and it has sent all that it ever sends. -/
structure StopsOn (hasClient : Bool) (events : List (StreamEvent α)) : Prop where
  returned : ∀ pre e post, events = pre ++ e :: post → e.IsStop →
    (h.run hasClient (pre ++ [e])).returned = true
  unsubscribed : ∀ pre e post, events = pre ++ e :: post → e.IsStop →
    (h.run hasClient (pre ++ [e])).subscribed = false
  quiet : ∀ pre e post, events = pre ++ e :: post → e.IsStop →
    (h.run hasClient events).sent = (h.run hasClient pre).sent

/-- The cases that the handler has. -/
def Returns : StreamEvent α → Prop
  | .done => h.onDone = .ret
  | .stop => h.onStop = some .ret
  | .info _ | .tick => False

variable {h} {hasClient : Bool}

/-! ### Runs of a loop -/

lemma run_snoc (events : List (StreamEvent α)) (e : StreamEvent α) :
    h.run hasClient (events ++ [e]) = h.next (h.run hasClient events) e := by
  rw [run, List.foldl_append]
  rfl

lemma run_append (pre post : List (StreamEvent α)) :
    h.run hasClient (pre ++ post) = post.foldl h.next (h.run hasClient pre) :=
  List.foldl_append ..

lemma next_of_returned {s : Streaming α} (hs : s.returned = true) (e : StreamEvent α) :
    h.next s e = s := by
  simp only [next, hs, if_true]

/-- Nothing happens after the return. -/
lemma foldl_of_returned {s : Streaming α} (hs : s.returned = true)
    (events : List (StreamEvent α)) : events.foldl h.next s = s := by
  induction events with
  | nil => rfl
  | cons e events ih => rw [List.foldl_cons, next_of_returned hs, ih]

lemma returned_next {s : Streaming α} {e : StreamEvent α} (hs : s.returned = false) :
    (h.next s e).returned = true ↔ h.Returns e := by
  cases e with
  | info a => simp [next, hs, Returns]
  | tick => simp [next, hs, Returns]
  | done => cases hdone : h.onDone <;> simp [next, body, hs, Returns, hdone]
  | stop => rcases hstop : h.onStop with _ | _ | _ <;> simp [next, body, hs, Returns, hstop]

/-- The subscription ends with a return that unsubscribes. -/
lemma subscribed_next {s : Streaming α} (e : StreamEvent α)
    (hs : s.subscribed = !(s.returned && h.unsubscribes)) :
    (h.next s e).subscribed = !((h.next s e).returned && h.unsubscribes) := by
  cases hret : s.returned with
  | true => rw [next_of_returned hret, hs]
  | false =>
    rw [hret, Bool.false_and, Bool.not_false] at hs
    cases e with
    | info a => simp [next, hret, hs]
    | tick => simp [next, hret, hs]
    | done => cases hdone : h.onDone <;> simp [next, body, hret, hs, hdone]
    | stop => rcases hstop : h.onStop with _ | _ | _ <;> simp [next, body, hret, hs, hstop]

lemma sent_next_of_isStop (s : Streaming α) {e : StreamEvent α} (he : e.IsStop) :
    (h.next s e).sent = s.sent := by
  cases hret : s.returned with
  | true => rw [next_of_returned hret]
  | false =>
    cases e with
    | info a => cases he
    | tick => cases he
    | done => cases hdone : h.onDone <;> simp [next, body, hret, hdone]
    | stop => rcases hstop : h.onStop with _ | _ | _ <;> simp [next, body, hret, hstop]

/-- The handler has returned when one of the events was one that it returns on. -/
lemma returned_run (events : List (StreamEvent α)) :
    (h.run hasClient events).returned = true ↔ ∃ e ∈ events, h.Returns e := by
  induction events using List.reverseRecOn with
  | nil => simp [run, enter]
  | append_singleton events e ih =>
    rw [run_snoc]
    simp only [List.mem_append, List.mem_singleton, or_and_right, exists_or, exists_eq_left, ← ih]
    cases hs : (h.run hasClient events).returned with
    | true => simp [next_of_returned hs, hs]
    | false => simp [returned_next hs]

lemma subscribed_run (events : List (StreamEvent α)) :
    (h.run hasClient events).subscribed =
      !((h.run hasClient events).returned && h.unsubscribes) := by
  induction events using List.reverseRecOn with
  | nil => simp [run, enter]
  | append_singleton events e ih =>
    rw [run_snoc]
    exact subscribed_next e ih

/-- The law holds when every stop comes at or behind an event that the handler returns on. -/
lemma stopsOn_iff_returns (events : List (StreamEvent α)) :
    h.StopsOn hasClient events ↔ ∀ pre e post, events = pre ++ e :: post → e.IsStop →
      h.unsubscribes = true ∧ ∃ e' ∈ pre ++ [e], h.Returns e' := by
  constructor
  · intro hlaw pre e post heq he
    have hret := hlaw.returned pre e post heq he
    have hsub := hlaw.unsubscribed pre e post heq he
    rw [subscribed_run, hret, Bool.true_and, Bool.not_eq_false'] at hsub
    exact ⟨hsub, returned_run (pre ++ [e]) |>.mp hret⟩
  · intro hall
    have hret pre e post (heq : events = pre ++ e :: post) (he : e.IsStop) :
        (h.run hasClient (pre ++ [e])).returned = true :=
      (returned_run _).mpr (hall pre e post heq he).2
    refine ⟨hret, fun pre e post heq he => ?_, fun pre e post heq he => ?_⟩
    · rw [subscribed_run, hret pre e post heq he, (hall pre e post heq he).1]
      rfl
    · rw [heq, ← List.singleton_append, ← List.append_assoc, run_append,
        foldl_of_returned (hret pre e post heq he), run_snoc, sent_next_of_isStop _ he]

/-- A handler that does not unsubscribe meets the law when no stop comes. -/
lemma stopsOn_iff_forall (hsub : h.unsubscribes = false) (events : List (StreamEvent α)) :
    h.StopsOn hasClient events ↔ ∀ e ∈ events, ¬ e.IsStop := by
  rw [stopsOn_iff_returns]
  constructor
  · intro hall e hmem he
    obtain ⟨pre, post, heq⟩ := List.append_of_mem hmem
    have hunsub := (hall pre e post heq he).1
    rw [hsub] at hunsub
    cases hunsub
  · intro hno pre e post heq he
    exact absurd he (hno e (by simp [heq]))

end StreamHandler

open StreamHandler

/-- When the handlers stop. -/
theorem streamHandlers_stopsOn_iff {α : Type} (hasClient : Bool) (events : List (StreamEvent α)) :
    (getSystemInfo.StopsOn hasClient events ↔ ∀ e ∈ events, ¬ e.IsStop) ∧
    (outboundsInfo.StopsOn hasClient events ↔ ∀ e ∈ events, ¬ e.IsStop) ∧
    (mainOutboundsInfo.StopsOn hasClient events ↔ ∀ e ∈ events, ¬ e.IsStop) ∧
    (logListener.StopsOn hasClient events ↔
      ∀ pre post, events = pre ++ .stop :: post → .done ∈ pre) := by
  refine ⟨stopsOn_iff_forall rfl events, stopsOn_iff_forall rfl events,
    stopsOn_iff_forall rfl events, ?_⟩
  have hreturns (e : StreamEvent α) : logListener.Returns e ↔ e = .done := by
    cases e <;> simp [Returns, logListener]
  simp only [stopsOn_iff_returns, hreturns, exists_eq_right]
  constructor
  · intro hall pre post heq
    have hmem := (hall pre .stop post heq trivial).2
    simpa using hmem
  · intro hall pre e post heq he
    refine ⟨rfl, ?_⟩
    cases e with
    | info a => cases he
    | tick => cases he
    | done => simp
    | stop => exact List.mem_append_left _ (hall pre post heq)

/-- The sibling that returns in both cases stops always. -/
theorem coreInfoListener_stopsOn {α : Type} (hasClient : Bool) (events : List (StreamEvent α)) :
    coreInfoListener.StopsOn hasClient events := by
  rw [stopsOn_iff_returns]
  intro pre e post heq he
  refine ⟨rfl, e, by simp, ?_⟩
  cases e with
  | info a => cases he
  | tick => cases he
  | done => rfl
  | stop => rfl

/-- After the end of its context `GetSystemInfo` sends on. -/
theorem not_stopsOn : ¬ ∀ {α : Type} (hasClient : Bool) (events : List (StreamEvent α)),
    getSystemInfo.StopsOn hasClient events ∧ outboundsInfo.StopsOn hasClient events ∧
      mainOutboundsInfo.StopsOn hasClient events ∧ logListener.StopsOn hasClient events := by
  intro h
  have hquiet := (h (α := Nat) false [.done, .info 7]).1.quiet [] .done [.info 7] rfl trivial
  exact absurd hquiet (by decide)

end HiddifyCore.V2
