import Mathlib.Data.List.Induction
import Mathlib.Logic.Function.Basic
import HiddifyCore.GoLib.Panic
import HiddifyCore.GoLib.Run

/-!
# The legacy command clients

`StartCommand` and `StopCommand` of `v2/old_commands.go` keep one command client for each of three
commands. A start makes a new client whatever the variable has, and a stop disconnects the client
of the variable, which may be nil.
-/

namespace HiddifyCore.V2

open GoLib

/-- The numbers that libbox has for the commands. -/
structure CommandNumbers where
  status : Int32
  group : Int32
  groupInfoOnly : Int32

/-- The variables `oldStatusClient`, `oldGroupClient` and `oldGroupInfoOnlyClient`. -/
inductive OldClient where
  | status | group | groupInfoOnly
  deriving DecidableEq

namespace OldClient

def number (N : CommandNumbers) : OldClient → Int32
  | .status => N.status
  | .group => N.group
  | .groupInfoOnly => N.groupInfoOnly

/-- The `switch` over the number of the command. -/
def ofCommand (N : CommandNumbers) (command : Int32) : Option OldClient :=
  if command = N.status then some .status
  else if command = N.group then some .group
  else if command = N.groupInfoOnly then some .groupInfoOnly
  else none

def loggerName : OldClient → String
  | .status => "[Status Command Client]"
  | .group => "[Group Command Client]"
  | .groupInfoOnly => "[GroupInfoOnly Command Client]"

/-- In nanoseconds. -/
def statusInterval : OldClient → Int64
  | .status => 1000000000
  | .group => 300000000
  | .groupInfoOnly => 300000000

lemma number_of_ofCommand {N : CommandNumbers} {command : Int32} {k : OldClient}
    (h : ofCommand N command = some k) : k.number N = command := by
  rw [ofCommand] at h
  split_ifs at h with h1 h2 h3 <;> cases h
  · exact h1.symm
  · exact h2.symm
  · exact h3.symm

end OldClient

/-- A client that was made, with its handler and its options. -/
structure CommandClient where
  port : Int64
  logger : String
  command : Int32
  statusInterval : Int64
  /-- `Connect` returned no error. -/
  connected : Bool
  /-- The calls of `Disconnect` on it. -/
  disconnects : Nat := 0

/-- The clients in the order in which they were made, and the positions of those in the
variables. -/
structure OldClients where
  created : List CommandClient := []
  held : OldClient → Option Nat := fun _ => none

namespace OldClients

def make (k : OldClient) (c : CommandClient) (s : OldClients) : OldClients where
  created := s.created ++ [c]
  held := Function.update s.held k (some s.created.length)

/-- `Disconnect` on the client at `i`, and `nil` for the variable. -/
def drop (k : OldClient) (i : Nat) (s : OldClients) : OldClients where
  created := s.created.modify i fun c => { c with disconnects := c.disconnects + 1 }
  held := Function.update s.held k none

variable {k k' : OldClient} {c : CommandClient} {i j : Nat} {s : OldClients}

@[simp]
lemma make_held_self : (s.make k c).held k = some s.created.length := Function.update_self ..

lemma make_held_of_ne (h : k' ≠ k) : (s.make k c).held k' = s.held k' :=
  Function.update_of_ne h ..

@[simp]
lemma drop_held_self : (s.drop k i).held k = none := Function.update_self ..

lemma drop_held_of_ne (h : k' ≠ k) : (s.drop k i).held k' = s.held k' := Function.update_of_ne h ..

lemma make_created : (s.make k c).created = s.created ++ [c] := rfl

lemma drop_created_getElem? : (s.drop k i).created[j]? = s.created[j]?.map fun c =>
    if i = j then { c with disconnects := c.disconnects + 1 } else c := by
  rw [drop, List.getElem?_modify]
  rfl

end OldClients

def nilDereference : String := "invalid memory address or nil pointer dereference"

section Commands

variable (N : CommandNumbers)

/-- `coreLogFactory` is nil before `Setup`. -/
def startCommand (hasLogFactory : Bool) (connect : Except String PUnit) (command : Int32)
    (port : Int64) : Go OldClients (Except String PUnit) :=
  match OldClient.ofCommand N command with
  | none => pure (.ok ⟨⟩)
  | some k =>
    if hasLogFactory then do
      Go.modify (OldClients.make k {
        port := port
        logger := k.loggerName
        command := k.number N
        statusInterval := k.statusInterval
        connected := connect.isOk })
      pure connect
    else
      Go.panic nilDereference

def stopCommand (disconnect : Except String PUnit) (command : Int32) :
    Go OldClients (Except String PUnit) :=
  match OldClient.ofCommand N command with
  | none => pure (.ok ⟨⟩)
  | some k => do
    match (← Go.get).held k with
    | none => Go.panic nilDereference
    | some i =>
      Go.modify (OldClients.drop k i)
      pure disconnect

/-- A call, with what `Connect` or `Disconnect` returns. -/
inductive OldCall where
  | start (hasLogFactory : Bool) (connect : Except String PUnit) (command : Int32) (port : Int64)
  | stop (disconnect : Except String PUnit) (command : Int32)

namespace OldCall

def run : OldCall → Go OldClients (Except String PUnit)
  | .start hasLogFactory connect command port => startCommand N hasLogFactory connect command port
  | .stop disconnect command => stopCommand N disconnect command

/-- What the call leaves. A panic that its caller recovers leaves the state as it was. -/
def next (s : OldClients) (call : OldCall) : OldClients := (call.run N s).2

/-- A stop panics on a nil client only. -/
def DereferencesNilClient (s : OldClients) : OldCall → Prop
  | .start .. => False
  | .stop disconnect command => (stopCommand N disconnect command s).1.IsPanic

/-- The call writes the variable. -/
def sets (k : OldClient) : OldCall → Bool
  | .start hasLogFactory _ command _ => hasLogFactory && OldClient.ofCommand N command = some k
  | .stop _ command => OldClient.ofCommand N command = some k

def IsStart : OldCall → Prop
  | .start .. => True
  | .stop .. => False

/-- A start whose `Connect` succeeds. -/
def Connects : OldCall → Prop
  | .start _ connect _ _ => connect.isOk = true
  | .stop .. => False

end OldCall

open OldCall OldClients

/-- The state after some calls. -/
def oldClientsAfter (calls : List OldCall) : OldClients := calls.foldl (OldCall.next N) {}

/-- The client is the one that is held for its command. -/
def IsHeld (s : OldClients) (i : Nat) (c : CommandClient) : Prop :=
  ∃ k, OldClient.ofCommand N c.command = some k ∧ s.held k = some i

/-- Every client that was connected is held, or it was disconnected once. -/
def Settled (s : OldClients) : Prop :=
  ∀ i c, s.created[i]? = some c → c.connected = true → IsHeld N s i c ∨ c.disconnects = 1

/-- No call dereferences a nil client, and the clients are settled after every call. -/
structure Balanced (calls : List OldCall) : Prop where
  safe : ∀ pre call post, calls = pre ++ call :: post →
    ¬ call.DereferencesNilClient N (oldClientsAfter N pre)
  settled : ∀ done, done <+: calls → Settled N (oldClientsAfter N done)

/-- The last of the calls that write the variable. -/
def lastOn (k : OldClient) (calls : List OldCall) : Option OldCall :=
  (calls.filter (·.sets N k)).getLast?

/-- A stop comes after a start, and a start does not come after one that has connected. -/
def Follows (last : Option OldCall) : OldCall → Prop
  | .start .. => ∀ call ∈ last, ¬ call.Connects
  | .stop .. => ∃ call ∈ last, call.IsStart

/-- The calls that write a variable alternate. -/
def Alternates (calls : List OldCall) : Prop :=
  ∀ pre call post k, calls = pre ++ call :: post → call.sets N k = true →
    Follows (lastOn N k pre) call

/-! ### What a call does -/

inductive Effect (s : OldClients) (call : OldCall) : OldClients → Prop where
  | none (hsets : ∀ k, call.sets N k = false) (hsafe : ¬ call.DereferencesNilClient N s) :
      Effect s call s
  | make (k : OldClient) (c : CommandClient) (hsets : ∀ k', call.sets N k' = true ↔ k' = k)
      (hstart : call.IsStart) (hcommand : OldClient.ofCommand N c.command = some k)
      (hnew : c.disconnects = 0) (hconnects : c.connected = true ↔ call.Connects)
      (hsafe : ¬ call.DereferencesNilClient N s) : Effect s call (s.make k c)
  | drop (k : OldClient) (i : Nat) (hsets : ∀ k', call.sets N k' = true ↔ k' = k)
      (hstop : ¬ call.IsStart) (hheld : s.held k = some i)
      (hsafe : ¬ call.DereferencesNilClient N s) : Effect s call (s.drop k i)
  | nil (k : OldClient) (hsets : ∀ k', call.sets N k' = true ↔ k' = k) (hstop : ¬ call.IsStart)
      (hheld : s.held k = .none) (hnil : call.DereferencesNilClient N s) : Effect s call s

variable {N}

lemma effect_next (s : OldClients) (call : OldCall) : Effect N s call (call.next N s) := by
  cases call with
  | start hasLogFactory connect command port =>
    cases hk : OldClient.ofCommand N command with
    | none =>
      simp only [next, OldCall.run, startCommand, hk, Go.pure_run]
      exact .none (fun k => by simp [sets, hk]) id
    | some k =>
      cases hasLogFactory with
      | false =>
        simp only [next, OldCall.run, startCommand, hk, Bool.false_eq_true, if_false]
        exact .none (fun k => by simp [sets]) id
      | true =>
        simp only [next, OldCall.run, startCommand, hk, if_true]
        refine .make k _ (fun k' => ?_) trivial ?_ rfl Iff.rfl id
        · simp [sets, hk, eq_comm]
        · rw [OldClient.number_of_ofCommand hk, hk]
  | stop disconnect command =>
    cases hk : OldClient.ofCommand N command with
    | none =>
      simp only [next, OldCall.run, stopCommand, hk, Go.pure_run]
      refine .none (fun k => by simp [sets, hk]) ?_
      simp [DereferencesNilClient, stopCommand, hk, Go.pure_run]
    | some k =>
      have hsets (k' : OldClient) :
          (OldCall.stop disconnect command).sets N k' = true ↔ k' = k := by
        simp [sets, hk, eq_comm]
      cases hheld : s.held k with
      | none =>
        simp only [next, OldCall.run, stopCommand, hk, Go.bind_run, Go.get, hheld]
        refine .nil k hsets id hheld ?_
        simp [DereferencesNilClient, stopCommand, hk, Go.bind_run, Go.get, hheld, Go.panic]
      | some i =>
        simp only [next, OldCall.run, stopCommand, hk, Go.bind_run, Go.get, hheld]
        refine .drop k i hsets id hheld ?_
        simp [DereferencesNilClient, stopCommand, hk, Go.bind_run, Go.get, hheld, Go.modify,
          Go.pure_run]

/-! ### Runs -/

lemma oldClientsAfter_snoc (calls : List OldCall) (call : OldCall) :
    oldClientsAfter N (calls ++ [call]) = call.next N (oldClientsAfter N calls) := by
  rw [oldClientsAfter, List.foldl_append]
  rfl

lemma balanced_snoc {calls : List OldCall} {call : OldCall} :
    Balanced N (calls ++ [call]) ↔ Balanced N calls ∧
      ¬ call.DereferencesNilClient N (oldClientsAfter N calls) ∧
      Settled N (call.next N (oldClientsAfter N calls)) := by
  have hafter := oldClientsAfter_snoc (N := N) calls call
  constructor
  · intro h
    obtain ⟨hinit, hlast⟩ := forall_split_snoc.mp h.safe
    obtain ⟨hsettled, hnext⟩ := forall_prefix_snoc.mp h.settled
    exact ⟨⟨hinit, hsettled⟩, hlast, hafter ▸ hnext⟩
  · rintro ⟨hinit, hlast, hsettled⟩
    exact ⟨forall_split_snoc.mpr ⟨hinit.safe, hlast⟩,
      forall_prefix_snoc.mpr ⟨hinit.settled, hafter ▸ hsettled⟩⟩

lemma alternates_snoc {calls : List OldCall} {call : OldCall} :
    Alternates N (calls ++ [call]) ↔ Alternates N calls ∧
      ∀ k, call.sets N k = true → Follows (lastOn N k calls) call := by
  have hsplit := @forall_split_snoc _ calls call fun pre y =>
    ∀ k, y.sets N k = true → Follows (lastOn N k pre) y
  simpa only [Alternates, forall_comm (α := OldClient)] using hsplit

lemma lastOn_snoc (k : OldClient) (calls : List OldCall) (call : OldCall) :
    lastOn N k (calls ++ [call]) =
      if call.sets N k = true then some call else lastOn N k calls := by
  rw [lastOn, List.filter_append, List.filter_cons]
  split_ifs with h
  · rw [List.filter_nil, List.getLast?_concat]
  · rw [List.filter_nil, List.append_nil, lastOn]

/-! ### The variables -/

variable (N) in
/-- A variable has the client of the last call that wrote it, if that was a start. -/
structure Tracks (calls : List OldCall) (s : OldClients) : Prop where
  held : ∀ k i, s.held k = some i → ∃ c call, s.created[i]? = some c ∧
    OldClient.ofCommand N c.command = some k ∧ c.disconnects = 0 ∧
    lastOn N k calls = some call ∧ call.IsStart ∧ (c.connected = true ↔ call.Connects)
  free : ∀ k, s.held k = none → ∀ call ∈ lastOn N k calls, ¬ call.IsStart

lemma lastOn_snoc_of_sets {k : OldClient} {calls : List OldCall} {call : OldCall}
    (h : call.sets N k = true) : lastOn N k (calls ++ [call]) = some call := by
  rw [lastOn_snoc, if_pos h]

lemma lastOn_snoc_of_ne {k k' : OldClient} {calls : List OldCall} {call : OldCall}
    (hsets : ∀ k', call.sets N k' = true ↔ k' = k) (hne : k' ≠ k) :
    lastOn N k' (calls ++ [call]) = lastOn N k' calls := by
  rw [lastOn_snoc, if_neg fun h => hne ((hsets k').mp h)]

/-- No client is in two variables. -/
lemma Tracks.held_inj {calls : List OldCall} {s : OldClients} {k k' : OldClient} {i : Nat}
    (h : Tracks N calls s) (hk : s.held k = some i) (hk' : s.held k' = some i) : k' = k := by
  obtain ⟨c, -, hc, hcommand, -⟩ := h.held k i hk
  obtain ⟨c', -, hc', hcommand', -⟩ := h.held k' i hk'
  obtain rfl : c = c' := Option.some.inj (hc.symm.trans hc')
  exact Option.some.inj (hcommand'.symm.trans hcommand)

/-- After a stop its variable is free, and the others are as before. -/
lemma Tracks.free_snoc {calls : List OldCall} {s : OldClients} {call : OldCall} {k k' : OldClient}
    (h : Tracks N calls s) (hsets : ∀ k', call.sets N k' = true ↔ k' = k)
    (hstop : ¬ call.IsStart) (hfree : k' ≠ k → s.held k' = none) :
    ∀ call' ∈ lastOn N k' (calls ++ [call]), ¬ call'.IsStart := by
  by_cases hne : k' = k
  · subst hne
    rw [lastOn_snoc_of_sets ((hsets k').mpr rfl)]
    rintro _ ⟨⟩
    exact hstop
  · rw [lastOn_snoc_of_ne hsets hne]
    exact h.free k' (hfree hne)

lemma Tracks.next {calls : List OldCall} {s : OldClients} (h : Tracks N calls s)
    (call : OldCall) : Tracks N (calls ++ [call]) (call.next N s) := by
  generalize hs' : call.next N s = s'
  have heffect := hs' ▸ effect_next (N := N) s call
  cases heffect with
  | none hsets _ =>
    have hlast (k : OldClient) : lastOn N k (calls ++ [call]) = lastOn N k calls := by
      rw [lastOn_snoc, hsets k, if_neg Bool.false_ne_true]
    exact ⟨fun k i hi => hlast k ▸ h.held k i hi, fun k hk => hlast k ▸ h.free k hk⟩
  | make k c hsets hstart hcommand hnew hconnects _ =>
    refine ⟨fun k' i hi => ?_, fun k' hk' => ?_⟩
    · by_cases hk' : k' = k
      · subst hk'
        rw [make_held_self, Option.some.injEq] at hi
        subst hi
        exact ⟨c, call, by simp [make_created], hcommand, hnew,
          lastOn_snoc_of_sets ((hsets k').mpr rfl), hstart, hconnects⟩
      · rw [make_held_of_ne hk'] at hi
        obtain ⟨c', call', hc', hrest⟩ := h.held k' i hi
        rw [← lastOn_snoc_of_ne hsets hk'] at hrest
        refine ⟨c', call', ?_, hrest⟩
        exact List.getElem?_append_left (List.getElem?_eq_some_iff.mp hc').1 ▸ hc'
    · by_cases hne : k' = k
      · subst hne
        rw [make_held_self] at hk'
        cases hk'
      · rw [make_held_of_ne hne] at hk'
        rw [lastOn_snoc_of_ne hsets hne]
        exact h.free k' hk'
  | drop k i hsets hstop hheld _ =>
    refine ⟨fun k' j hj => ?_, fun k' hk' => ?_⟩
    · by_cases hne : k' = k
      · subst hne
        rw [drop_held_self] at hj
        cases hj
      · rw [drop_held_of_ne hne] at hj
        have hij : i ≠ j := by
          rintro rfl
          exact hne (h.held_inj hheld hj)
        obtain ⟨c', call', hc', hcommand, hrest⟩ := h.held k' j hj
        rw [← lastOn_snoc_of_ne hsets hne] at hrest
        refine ⟨c', call', ?_, hcommand, hrest⟩
        rw [drop_created_getElem?, hc', Option.map_some, if_neg hij]
    · exact h.free_snoc hsets hstop fun hne => (drop_held_of_ne hne).symm.trans hk'
  | nil k hsets hstop hheld _ =>
    refine ⟨fun k' i hi => ?_, fun k' hk' => ?_⟩
    · have hne : k' ≠ k := by
        rintro rfl
        rw [hheld] at hi
        cases hi
      rw [lastOn_snoc_of_ne hsets hne]
      exact h.held k' i hi
    · exact h.free_snoc hsets hstop fun _ => hk'

lemma tracks_oldClientsAfter (calls : List OldCall) :
    Tracks N calls (oldClientsAfter N calls) := by
  induction calls using List.reverseRecOn with
  | nil =>
    refine ⟨fun k i hi => ?_, fun k hk call hcall => ?_⟩
    · cases hi
    · cases hcall
  | append_singleton calls call ih =>
    rw [oldClientsAfter_snoc]
    exact ih.next call

/-! ### When the clients are balanced -/

lemma isStart_of_connects {call : OldCall} (h : call.Connects) : call.IsStart := by
  cases call with
  | start _ _ _ _ => trivial
  | stop _ _ => cases h

lemma follows_of_isStart {call : OldCall} {last : Option OldCall} (h : call.IsStart) :
    Follows last call ↔ ∀ call ∈ last, ¬ call.Connects := by
  cases call with
  | start _ _ _ _ => rfl
  | stop _ _ => cases h

lemma follows_of_not_isStart {call : OldCall} {last : Option OldCall} (h : ¬ call.IsStart) :
    Follows last call ↔ ∃ call ∈ last, call.IsStart := by
  cases call with
  | start _ _ _ _ => exact absurd trivial h
  | stop _ _ => rfl

/-- A start leaves the clients settled unless it drops one that is connected. -/
lemma settled_make_iff {calls : List OldCall} {s : OldClients} {k : OldClient}
    {c : CommandClient} (ht : Tracks N calls s) (hs : Settled N s)
    (hcommand : OldClient.ofCommand N c.command = some k) :
    Settled N (s.make k c) ↔ ∀ call ∈ lastOn N k calls, ¬ call.Connects := by
  constructor
  · intro hsettled call hcall hconnects
    cases hheld : s.held k with
    | none => exact ht.free k hheld call hcall (isStart_of_connects hconnects)
    | some i =>
      obtain ⟨c', call', hc', hcommand', hnew, hlast, -, hconn⟩ := ht.held k i hheld
      obtain rfl : call' = call := Option.some.inj (hlast.symm.trans hcall)
      have hlt := (List.getElem?_eq_some_iff.mp hc').1
      have hold : (s.make k c).created[i]? = some c' := by
        rw [make_created, List.getElem?_append_left hlt, hc']
      rcases hsettled i c' hold (hconn.mpr hconnects) with ⟨k', hk', hi⟩ | hone
      · obtain rfl : k = k' := Option.some.inj (hcommand'.symm.trans hk')
        rw [make_held_self, Option.some.injEq] at hi
        omega
      · omega
  · intro hlast i c' hc' hconn
    rcases Nat.lt_or_ge i s.created.length with hlt | hge
    · rw [make_created, List.getElem?_append_left hlt] at hc'
      rcases hs i c' hc' hconn with ⟨k', hk', hi⟩ | hone
      · by_cases hne : k' = k
        · -- the client that would be dropped is connected
          subst hne
          obtain ⟨c'', call, hc'', -, -, hcall, -, hconn'⟩ := ht.held k' i hi
          obtain rfl : c' = c'' := Option.some.inj (hc'.symm.trans hc'')
          exact absurd (hconn'.mp hconn) (hlast call hcall)
        · exact .inl ⟨k', hk', (make_held_of_ne hne).trans hi⟩
      · exact .inr hone
    · rw [make_created, List.getElem?_append_right hge] at hc'
      -- the client that was made
      have hi : i - s.created.length < [c].length := (List.getElem?_eq_some_iff.mp hc').1
      rw [List.length_singleton, Nat.lt_one_iff] at hi
      rw [hi] at hc'
      cases hc'
      refine .inl ⟨k, hcommand, ?_⟩
      rw [make_held_self, Option.some.injEq]
      omega

/-- A stop disconnects the client that it drops. -/
lemma settled_drop {calls : List OldCall} {s : OldClients} {k : OldClient} {i : Nat}
    (ht : Tracks N calls s) (hs : Settled N s) (hheld : s.held k = some i) :
    Settled N (s.drop k i) := by
  intro j c' hc' hconn
  rw [drop_created_getElem?] at hc'
  obtain ⟨c, hc, rfl⟩ := Option.map_eq_some_iff.mp hc'
  split_ifs at hconn ⊢ with hij
  · subst hij
    obtain ⟨c', -, hc', -, hnew, -⟩ := ht.held k i hheld
    obtain rfl : c = c' := Option.some.inj (hc.symm.trans hc')
    exact .inr (by simp [hnew])
  · rcases hs j c hc hconn with ⟨k', hk', hj⟩ | hone
    · have hne : k' ≠ k := by
        rintro rfl
        exact hij (Option.some.inj (hheld.symm.trans hj))
      exact .inl ⟨k', hk', (drop_held_of_ne hne).trans hj⟩
    · exact .inr hone

/-- What a call must not do, read off the calls before it. -/
lemma settled_next_iff {calls : List OldCall} {s : OldClients} (ht : Tracks N calls s)
    (hs : Settled N s) (call : OldCall) :
    ¬ call.DereferencesNilClient N s ∧ Settled N (call.next N s) ↔
      ∀ k, call.sets N k = true → Follows (lastOn N k calls) call := by
  generalize hs' : call.next N s = s'
  have heffect := hs' ▸ effect_next (N := N) s call
  cases heffect with
  | none hsets hsafe =>
    refine iff_of_true ⟨hsafe, hs⟩ fun k hk => ?_
    rw [hsets k] at hk
    cases hk
  | make k c hsets hstart hcommand _ _ hsafe =>
    simp only [hsets, forall_eq, hsafe, not_false_eq_true, true_and, follows_of_isStart hstart]
    exact settled_make_iff ht hs hcommand
  | drop k i hsets hstop hheld hsafe =>
    simp only [hsets, forall_eq, follows_of_not_isStart hstop]
    obtain ⟨-, call', -, -, -, hlast, hstart, -⟩ := ht.held k i hheld
    exact iff_of_true ⟨hsafe, settled_drop ht hs hheld⟩ ⟨call', hlast, hstart⟩
  | nil k hsets hstop hheld hnil =>
    simp only [hsets, forall_eq, follows_of_not_isStart hstop]
    refine iff_of_false (fun h => h.1 hnil) ?_
    rintro ⟨call', hlast, hstart⟩
    exact ht.free k hheld call' hlast hstart

/-- The clients are balanced when starts and stops of a command alternate, but for starts that did
not connect. -/
theorem balanced_iff (N : CommandNumbers) (calls : List OldCall) :
    Balanced N calls ↔ Alternates N calls := by
  induction calls using List.reverseRecOn with
  | nil =>
    refine iff_of_true ⟨fun pre call post h => ?_, fun done hdone => ?_⟩ fun pre call post k h => ?_
    · simp at h
    · rw [List.prefix_nil.mp hdone]
      intro i c hc
      cases hc
    · simp at h
  | append_singleton calls call ih =>
    rw [balanced_snoc, alternates_snoc, ← ih]
    refine and_congr_right fun hbalanced => ?_
    exact settled_next_iff (tracks_oldClientsAfter calls)
      (hbalanced.settled calls (List.prefix_refl _)) call

end Commands

/-- A second start drops a client that is connected. -/
theorem not_balanced : ¬ ∀ (N : CommandNumbers) (calls : List OldCall), Balanced N calls := by
  intro h
  have hsettled := (h ⟨1, 5, 12⟩ [.start true (.ok ⟨⟩) 1 0, .start true (.ok ⟨⟩) 1 0]).settled _
    (List.prefix_refl _) 0 _ rfl rfl
  rcases hsettled with ⟨k, hk, hheld⟩ | hone
  · cases hk
    exact absurd hheld (by decide)
  · exact absurd hone (by decide)

end HiddifyCore.V2
