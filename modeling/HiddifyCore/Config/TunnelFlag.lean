import Mathlib.Data.List.Induction
import HiddifyCore.Config.Tunnel
import HiddifyCore.GoLib.Run

/-!
# The flag of the tunnel service

`tunnelServiceRunning` over sequences of activations and deactivations. It should say whether the
service is still to be stopped: some activation was made, and no stop that was waited for has
succeeded since. `DeactivateTunnelService` lowers it after the wrong outcome of its stop.
-/

namespace HiddifyCore.Config

open GoLib

/-- A call, and for a deactivation the error of `stopTunnelRequest`. -/
inductive TunnelCall where
  | activate (opt : ConfigOptions)
  | deactivate (err : Option String)

namespace TunnelCall

def IsActivate : TunnelCall → Prop
  | .activate _ => True
  | .deactivate _ => False

def IsDeactivate : TunnelCall → Prop
  | .activate _ => False
  | .deactivate _ => True

/-- The result of `stopTunnelRequest`. -/
def stopResult : Option String → Outcome PUnit
  | none => .ok ⟨⟩
  | some err => .fail err

/-- What the call leaves. -/
def next (t : Tunnel) : TunnelCall → Tunnel
  | .activate opt => activateTunnelService opt t
  | .deactivate err => (deactivateTunnelService (stopResult err) t).2

/-- The call sends a stop and waits for it. -/
def Waits (t : Tunnel) (call : TunnelCall) : Prop :=
  (call.next t).requests = t.requests ++ [.stop true]

/-- The call waits for a stop, which succeeds. -/
def StopsService (t : Tunnel) (call : TunnelCall) : Prop :=
  call = .deactivate none ∧ call.Waits t

@[simp]
lemma next_activate (t : Tunnel) (opt : ConfigOptions) :
    ((activate opt).next t).running = true := rfl

/-- The flag is lowered by a stop that failed. -/
@[simp]
lemma next_deactivate (t : Tunnel) (err : Option String) :
    ((deactivate err).next t).running = (t.running && err.isNone) := by
  obtain ⟨_ | _, requests⟩ := t
  · rfl
  · cases err <;> rfl

@[simp]
lemma waits_deactivate {t : Tunnel} {err : Option String} :
    (deactivate err).Waits t ↔ t.running = true := by
  obtain ⟨_ | _, requests⟩ := t
  · simp [Waits, next, deactivateTunnelService, Go.bind_run, Go.get, Go.modify, Go.pure_run]
  · cases err <;>
      simp [Waits, next, deactivateTunnelService, stopResult, Go.bind_run, Go.get, Go.modify,
        Go.pure_run]

end TunnelCall

open TunnelCall

/-- The main process after some calls. -/
def tunnelAfter (calls : List TunnelCall) : Tunnel := calls.foldl TunnelCall.next {}

/-- An activation was made, and no stop of the service after the last one. -/
def IsActive (calls : List TunnelCall) : Prop :=
  ∃ before opt after, calls = before ++ .activate opt :: after ∧
    (∀ call ∈ after, ¬ call.IsActivate) ∧
    ∀ pre call post, after = pre ++ call :: post →
      ¬ call.StopsService (tunnelAfter (before ++ .activate opt :: pre))

/-- At every point of the sequence the flag says whether the service is active, and a stop that
failed is waited for again by the next deactivation. -/
structure TracksService (calls : List TunnelCall) : Prop where
  tracks : ∀ done, done <+: calls → ((tunnelAfter done).running = true ↔ IsActive done)
  again : ∀ done e err, done ++ [.deactivate (some e)] <+: calls →
    (deactivate (some e)).Waits (tunnelAfter done) →
      (deactivate err).Waits (tunnelAfter (done ++ [.deactivate (some e)]))

/-! ### One call more -/

lemma tunnelAfter_snoc (calls : List TunnelCall) (call : TunnelCall) :
    tunnelAfter (calls ++ [call]) = call.next (tunnelAfter calls) := by
  rw [tunnelAfter, List.foldl_append]
  rfl

lemma not_isActive_nil : ¬ IsActive [] := by
  rintro ⟨before, opt, after, h, -⟩
  simp at h

lemma isActive_activate (calls : List TunnelCall) (opt : ConfigOptions) :
    IsActive (calls ++ [.activate opt]) := by
  refine ⟨calls, opt, [], rfl, by simp, fun pre call post h => ?_⟩
  simp at h

lemma isActive_deactivate {calls : List TunnelCall} {err : Option String} :
    IsActive (calls ++ [.deactivate err]) ↔
      IsActive calls ∧ ¬ (deactivate err).StopsService (tunnelAfter calls) := by
  have hsplit (before after : List TunnelCall) (opt : ConfigOptions) :=
    @forall_split_snoc _ after (deactivate err) fun pre call =>
      ¬ call.StopsService (tunnelAfter (before ++ .activate opt :: pre))
  constructor
  · rintro ⟨before, opt, after, h, hlast, hno⟩
    -- the activation is not the last call
    obtain rfl | ⟨after, call, rfl⟩ := List.eq_nil_or_concat' after
    · cases (List.append_inj_right' h rfl)
    · rw [← List.cons_append, ← List.append_assoc] at h
      obtain ⟨rfl, hcall⟩ := List.append_inj' h rfl
      cases hcall
      obtain ⟨hinit, hstop⟩ := (hsplit before after opt).mp hno
      exact ⟨⟨before, opt, after, rfl, fun call hcall => hlast call (List.mem_append_left _ hcall),
        hinit⟩, hstop⟩
  · rintro ⟨⟨before, opt, after, rfl, hlast, hno⟩, hstop⟩
    refine ⟨before, opt, after ++ [.deactivate err], by simp, ?_,
      (hsplit before after opt).mpr ⟨hno, hstop⟩⟩
    intro call hcall
    rcases List.mem_append.mp hcall with hcall | hcall
    · exact hlast call hcall
    · rw [List.mem_singleton.mp hcall]
      exact id

/-! ### When the flag tracks the service -/

/-- The call is no deactivation after an activation. -/
def NotStopping (call later : TunnelCall) : Prop := call.IsActivate → ¬ later.IsDeactivate

/-- Without such a deactivation no stop is waited for. -/
lemma running_iff_isActive {calls : List TunnelCall} (h : calls.Pairwise NotStopping) :
    ((tunnelAfter calls).running = true ↔ ∃ call ∈ calls, call.IsActivate) ∧
      (IsActive calls ↔ ∃ call ∈ calls, call.IsActivate) := by
  induction calls using List.reverseRecOn with
  | nil =>
    refine ⟨iff_of_false Bool.false_ne_true ?_, iff_of_false not_isActive_nil ?_⟩ <;> simp
  | append_singleton calls call ih =>
    obtain ⟨hcalls, -, hcall⟩ := List.pairwise_append.mp h
    obtain ⟨hrunning, hactive⟩ := ih hcalls
    rw [tunnelAfter_snoc]
    cases call with
    | activate opt =>
      have hmem : ∃ call ∈ calls ++ [activate opt], call.IsActivate :=
        ⟨activate opt, by simp, trivial⟩
      exact ⟨iff_of_true (next_activate _ opt) hmem, iff_of_true (isActive_activate calls opt) hmem⟩
    | deactivate err =>
      have hno : ¬ ∃ call ∈ calls, call.IsActivate := by
        rintro ⟨call, hmem, hact⟩
        exact hcall call hmem _ (List.mem_singleton_self _) hact trivial
      have hno' : ¬ ∃ call ∈ calls ++ [deactivate err], call.IsActivate := by
        rintro ⟨call, hmem, hact⟩
        rcases List.mem_append.mp hmem with hmem | hmem
        · exact hno ⟨call, hmem, hact⟩
        · rw [List.mem_singleton.mp hmem] at hact
          exact hact
      have hoff : (tunnelAfter calls).running = false :=
        Bool.eq_false_iff.mpr fun hon => hno (hrunning.mp hon)
      refine ⟨iff_of_false ?_ hno', iff_of_false ?_ hno'⟩
      · simp [hoff]
      · rw [isActive_deactivate, hactive]
        exact fun h => hno h.1

lemma TracksService.of_prefix {calls calls' : List TunnelCall} (h : TracksService calls')
    (hcut : calls <+: calls') : TracksService calls where
  tracks done hdone := h.tracks done (hdone.trans hcut)
  again done e err hdone := h.again done e err (hdone.trans hcut)

/-- The first stop that is waited for ends the agreement, whichever way it ends. -/
theorem tracksService_iff (calls : List TunnelCall) :
    TracksService calls ↔ calls.Pairwise NotStopping := by
  constructor
  · intro h
    induction calls using List.reverseRecOn with
    | nil => exact .nil
    | append_singleton calls call ih =>
      have hcalls := ih (h.of_prefix (List.prefix_append calls [call]))
      refine List.pairwise_append.mpr ⟨hcalls, List.pairwise_singleton _ _, ?_⟩
      intro first hfirst last hlast hact hdeact
      rw [List.mem_singleton] at hlast
      subst last
      cases call with
      | activate opt => exact hdeact
      | deactivate err =>
        obtain ⟨hrunning, hactive⟩ := running_iff_isActive hcalls
        have hon := hrunning.mpr ⟨first, hfirst, hact⟩
        have hboth := h.tracks _ (List.prefix_refl _)
        rw [tunnelAfter_snoc, next_deactivate, hon, Bool.true_and, isActive_deactivate] at hboth
        -- a stop that succeeds leaves the flag up, one that fails takes it down
        cases err with
        | none => exact (hboth.mp rfl).2 ⟨rfl, waits_deactivate.mpr hon⟩
        | some e =>
          refine Bool.false_ne_true (hboth.mpr ⟨hactive.mpr ⟨first, hfirst, hact⟩, ?_⟩)
          rintro ⟨heq, -⟩
          cases heq
  · intro h
    refine ⟨fun done hdone => ?_, fun done e err hdone hwaits => ?_⟩
    · obtain ⟨hrunning, hactive⟩ := running_iff_isActive (h.sublist hdone.sublist)
      exact hrunning.trans hactive.symm
    · exfalso
      obtain ⟨hcalls, -, hlast⟩ := List.pairwise_append.mp (h.sublist hdone.sublist)
      rw [waits_deactivate] at hwaits
      obtain ⟨call, hcall, hact⟩ := (running_iff_isActive hcalls).1.mp hwaits
      exact hlast call hcall _ (List.mem_singleton_self _) hact trivial

/-- After a stop that failed the flag is down, although the service was not stopped. -/
theorem not_tracksService : ¬ ∀ calls, TracksService calls := by
  intro h
  have htracks := (h [activate {}, deactivate (some "unavailable")]).tracks _ (List.prefix_refl _)
  have hactive : IsActive ([activate {}] ++ [deactivate (some "unavailable")]) := by
    refine isActive_deactivate.mpr ⟨isActive_activate [] {}, ?_⟩
    rintro ⟨heq, -⟩
    cases heq
  exact Bool.false_ne_true (htracks.mpr hactive)

end HiddifyCore.Config
