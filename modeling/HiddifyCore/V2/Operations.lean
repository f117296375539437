import HiddifyCore.V2.Custom
import HiddifyCore.GoLib.Run

/-!
# The operations as steps

The six entry points that share `Box` and `CoreState`, as labels of a transition relation on
`Core`. A step is a call that returned; a panic that no deferred function recovers ends the
process and is no step. What each piece of an operation may change is stated here once, as a
two-state invariant.
-/

namespace HiddifyCore.V2

open GoLib Config

/-- A call of one of the operations, with what the code outside does during it. -/
inductive Op where
  | start (req : StartRequest) (x : StartCalls)
  | startService (req : StartRequest) (x : StartServiceCalls)
  | stop (x : StopCalls)
  | restart (req : StartRequest) (x : StartCalls)
  | stopAndAlert (msgType : MessageType) (message : String) (x : AlertCalls)
  | serviceReload (x : ReloadCalls)

/-- Drop the result of an operation. -/
def discard {α : Type} (m : Go Core α) : Go Core PUnit := do
  let _ ← m
  pure ⟨⟩

def Op.exec : Op → Go Core PUnit
  | .start req x => discard (V2.start req x)
  | .startService req x => discard (V2.startService req x)
  | .stop x => discard (V2.stop x)
  | .restart req x => discard (V2.restart req x)
  | .stopAndAlert msgType message x => V2.stopAndAlert msgType message x
  | .serviceReload x => discard (V2.serviceReload x)

/-- The call `op` takes the state `s` to `t` and returns. -/
def Step (s : Core) (op : Op) (t : Core) : Prop := op.exec s = (.ret ⟨⟩, t)

/-- The state of a new process: no core, no command server. `Setup` and `ChangeConfigOptions` may
have run. -/
structure Core.IsInitial (s : Core) : Prop where
  coreState : s.coreState = .stopped
  box : s.box = none
  oldCommandServer : s.oldCommandServer = none
  instances : s.instances = []
  servers : s.servers = []

/-- A request for the raw configuration in its text. -/
def rawRequest : StartRequest := { configContent := "{}", enableRawConfig := true }

lemma Triple.discard {α : Type} {P : Core → Prop} {m : Go Core α} {Q : Core → Prop}
    {R : Core → Prop} (h : Go.Triple P m (fun _ => Q) R) :
    Go.Triple P (discard m) (fun _ => Q) R :=
  Go.Triple.bind h fun _ => Go.Triple.pure fun _ => id

/-! ### What a piece of an operation may change -/

/-- Every live instance of `t` was live in `s`, and `Box` still points to it if it did. -/
def Shrinks (s t : Core) : Prop :=
  ∀ i, t.Live i → s.Live i ∧ (s.box = some i → t.box = some i)

lemma Shrinks.refl (s : Core) : Shrinks s s := fun _ h => ⟨h, id⟩

lemma Shrinks.trans (s t u : Core) (hst : Shrinks s t) (htu : Shrinks t u) : Shrinks s u := by
  intro i hi
  obtain ⟨ht, hb⟩ := htu i hi
  obtain ⟨hs, hb'⟩ := hst i ht
  exact ⟨hs, fun h => hb (hb' h)⟩

/-- An update of the other variables changes neither the instances nor `Box`. -/
lemma Shrinks.of_eq {s t : Core} (hi : t.instances = s.instances) (hb : t.box = s.box) :
    Shrinks s t := by
  intro i h
  refine ⟨?_, fun h => hb.trans h⟩
  simpa only [Core.Live, hi] using h

lemma Core.live_closeInstance {s : Core} {i k : Nat} :
    (s.closeInstance i).Live k ↔ s.Live k ∧ k ≠ i := by
  simp only [Core.Live, Core.closeInstance_instances, List.getElem?_modify, Option.mem_def]
  constructor
  · rintro ⟨b, hb, hstarted, hclose⟩
    by_cases hik : i = k
    · subst hik
      simp only [if_true, Option.map_eq_map, Option.map_eq_some_iff] at hb
      obtain ⟨b', _, rfl⟩ := hb
      simp at hclose
    · simp only [hik, if_false, Option.map_eq_map] at hb
      exact ⟨⟨b, by simpa using hb, hstarted, hclose⟩, fun h => hik h.symm⟩
  · rintro ⟨⟨b, hb, hstarted, hclose⟩, hki⟩
    refine ⟨b, ?_, hstarted, hclose⟩
    simp [hb, Ne.symm hki]

lemma Core.live_addInstance {s : Core} {o : Singbox.Options} {k : Nat} :
    (s.addInstance o).Live k ↔ s.Live k := by
  simp only [Core.Live, Core.addInstance_instances, Option.mem_def, List.getElem?_append]
  constructor
  · rintro ⟨b, hb, hstarted, hclose⟩
    split at hb
    · exact ⟨b, hb, hstarted, hclose⟩
    · -- the new instance has not been started
      have := List.mem_of_getElem? hb
      simp only [List.mem_singleton] at this
      simp [this] at hstarted
  · rintro ⟨b, hb, hstarted, hclose⟩
    have hk := (List.getElem?_eq_some_iff.mp hb).1
    exact ⟨b, by simpa [hk] using hb, hstarted, hclose⟩

lemma Core.live_startInstance {s : Core} {i k : Nat} (h : (s.startInstance i).Live k) :
    s.Live k ∨ k = i := by
  by_cases hik : i = k
  · exact Or.inr hik.symm
  · left
    simpa [Core.Live, List.getElem?_modify, hik] using h

lemma Shrinks.addInstance (s : Core) (o : Singbox.Options) : Shrinks s (s.addInstance o) :=
  fun _ h => ⟨Core.live_addInstance.mp h, id⟩

/-- The instances and `Box` stay as they are. -/
def SameBox (s t : Core) : Prop := t.instances = s.instances ∧ t.box = s.box

lemma SameBox.refl (s : Core) : SameBox s s := ⟨rfl, rfl⟩

lemma SameBox.trans (s t u : Core) (hst : SameBox s t) (htu : SameBox t u) : SameBox s u :=
  ⟨htu.1.trans hst.1, htu.2.trans hst.2⟩

lemma SameBox.shrinks {s t : Core} (h : SameBox s t) : Shrinks s t := .of_eq h.1 h.2

end HiddifyCore.V2
