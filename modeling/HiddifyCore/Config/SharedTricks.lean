import Mathlib.Data.List.Forall2
import HiddifyCore.Config.MainProxy
import HiddifyCore.Config.TricksPatch

/-!
# Calls that share records

The input of `BuildConfig` is a value, but its outbounds reach their TLS tricks through pointers,
and `patchOutboundTLSTricks` edits what these point to. So what a call does to the records of its
input is there when another call is given the same input, or another one that shares a record.
-/

namespace HiddifyCore.Config

open GoLib Singbox

/-- What the records of TLS tricks hold, by address. -/
abbrev TricksMemory := Nat → TLSTricksOptions

/-- A call of `BuildConfig` and the addresses of its input: `tricksAt i r` is the pointer
`TLSTricks` of the record `r` of outbound `i`, where it is not nil. -/
structure SharedCall extends Call where
  tricksAt : Nat → TLSRecord → Nat

/-- What outlives a call of `BuildConfig`. -/
structure Process where
  globals : Globals := {}
  memory : TricksMemory

section Model

variable (D : Deps)

/-- The record that `patchOutbound` edits and what it holds then, also when the patch fails
later. -/
def writtenTricks (draws : Draws) (opt : ConfigOptions) (out : Outbound) :
    Option (TLSRecord × TLSTricksOptions) :=
  match patchWarp D draws out (some opt) true with
  | .ok (base, _) =>
    match D.marshalOutbound base with
    | .ok obj => (editedRecord base opt obj).bind fun r =>
        (base.tricks r).map fun t => (r, patchTLSTricks opt t)
    | .fail _ | .panic _ => none
  | .fail _ | .panic _ => none

/-- The memory after the patch of an outbound with these addresses. -/
def writeTricks (draws : Draws) (opt : ConfigOptions) (addr : TLSRecord → Nat) (out : Outbound)
    (memory : TricksMemory) : TricksMemory :=
  match writtenTricks D draws opt out with
  | some (r, t) => Function.update memory (addr r) t
  | none => memory

/-- The outbounds as the loop of `setOutbounds` meets them, from position `i` on, and the memory
that it leaves. Each is read when its turn comes, and those behind one that fails are not. -/
def readOutbounds (opt : ConfigOptions) (draws : Nat → Draws) (tricksAt : Nat → TLSRecord → Nat) :
    List Outbound → Nat → TricksMemory → List Outbound × TricksMemory
  | [], _, memory => ([], memory)
  | out :: outs, i, memory =>
    let out := out.withTricks fun r => memory (tricksAt i r)
    let memory := writeTricks D (draws i) opt (tricksAt i) out memory
    match patchOutbound D (draws i) out opt with
    | .ok _ =>
      let (outs, memory) := readOutbounds opt draws tricksAt outs (i + 1) memory
      (out :: outs, memory)
    | .fail _ | .panic _ => (out :: outs, memory)

namespace SharedCall

/-- The options that the patches get. -/
def options (c : SharedCall) : ConfigOptions := scannedOptions c.env c.opt c.input

def read (c : SharedCall) (memory : TricksMemory) : List Outbound × TricksMemory :=
  readOutbounds D c.options c.env.outbound c.tricksAt c.input.outbounds 0 memory

/-- The input, with what its pointers lead to. -/
def readInput (c : SharedCall) (memory : TricksMemory) : Options :=
  { c.input with outbounds := (c.read D memory).1 }

/-- One call. The outbounds are patched once the WARP outbound is made. -/
def run (c : SharedCall) (p : Process) : Exit (Except String Options) × Process :=
  let (result, globals) := buildConfig D c.env c.opt (c.readInput D p.memory) p.globals
  let memory :=
    match warpPart D c.env.warp c.options with
    | .ok _ => (c.read D p.memory).2
    | .fail _ | .panic _ => p.memory
  (result, { globals := globals, memory := memory })

end SharedCall

/-- A process after a sequence of calls. -/
def runShared (calls : List SharedCall) (p : Process) : Process :=
  calls.foldl (fun p c => (c.run D p).2) p

end Model

variable {D : Deps}

/-! ### What is read -/

/-- Two memories that agree on the addresses of an outbound agree there after its patch. -/
lemma writeTricks_congr {draws : Draws} {opt : ConfigOptions} {addr : TLSRecord → Nat}
    {out : Outbound} {memory memory' : TricksMemory} {a : Nat} (h : memory a = memory' a) :
    writeTricks D draws opt addr out memory a = writeTricks D draws opt addr out memory' a := by
  simp only [writeTricks]
  cases writtenTricks D draws opt out with
  | none => exact h
  | some rt =>
    simp only [Function.update_apply]
    split_ifs
    · rfl
    · exact h

lemma writeTricks_frame {draws : Draws} {opt : ConfigOptions} {addr : TLSRecord → Nat}
    {out : Outbound} {memory : TricksMemory} {a : Nat} (h : ∀ r, addr r ≠ a) :
    writeTricks D draws opt addr out memory a = memory a := by
  simp only [writeTricks]
  cases writtenTricks D draws opt out with
  | none => rfl
  | some rt => exact Function.update_of_ne (h rt.1).symm _ _

section Read

variable {opt : ConfigOptions} {draws : Nat → Draws} {tricksAt : Nat → TLSRecord → Nat}

/-- What is read is the input but for its tricks. -/
lemma readOutbounds_same (outs : List Outbound) (i : Nat) (memory : TricksMemory) :
    List.Forall₂ SameButTricks outs
      (readOutbounds D opt draws tricksAt outs i memory).1 := by
  induction outs generalizing i memory with
  | nil => exact .nil
  | cons out outs ih =>
    have hout : SameButTricks out (out.withTricks fun r => memory (tricksAt i r)) := ⟨_, rfl⟩
    simp only [readOutbounds]
    split
    · exact .cons hout (ih _ _)
    · exact .cons hout (List.forall₂_same.mpr fun o _ => .refl o)
    · exact .cons hout (List.forall₂_same.mpr fun o _ => .refl o)

/-- What is read depends on the records of the input only. -/
lemma readOutbounds_congr (outs : List Outbound) (i : Nat) {memory memory' : TricksMemory}
    (h : ∀ k r, memory (tricksAt k r) = memory' (tricksAt k r)) :
    (readOutbounds D opt draws tricksAt outs i memory).1 =
      (readOutbounds D opt draws tricksAt outs i memory').1 := by
  induction outs generalizing i memory memory' with
  | nil => rfl
  | cons out outs ih =>
    simp only [readOutbounds, h]
    split
    · exact congrArg (_ :: ·) (ih _ fun k r => writeTricks_congr (h k r))
    · rfl
    · rfl

/-- The records of other inputs are left alone. -/
lemma readOutbounds_frame (outs : List Outbound) (i : Nat) (memory : TricksMemory) {a : Nat}
    (h : ∀ k r, tricksAt k r ≠ a) :
    (readOutbounds D opt draws tricksAt outs i memory).2 a = memory a := by
  induction outs generalizing i memory with
  | nil => rfl
  | cons out outs ih =>
    simp only [readOutbounds]
    split
    · exact (ih _ _).trans (writeTricks_frame (h i))
    · exact writeTricks_frame (h i)
    · exact writeTricks_frame (h i)

end Read

/-! ### Runs -/

lemma SharedCall.run_fst (c : SharedCall) (p : Process) : (c.run D p).1 =
    (buildConfig D c.env c.opt (c.readInput D p.memory) p.globals).1 := rfl

lemma SharedCall.run_globals (c : SharedCall) (p : Process) : (c.run D p).2.globals =
    (buildConfig D c.env c.opt (c.readInput D p.memory) p.globals).2 := rfl

/-- A call edits records of its input only. -/
lemma SharedCall.run_frame (c : SharedCall) (p : Process) {a : Nat}
    (h : ∀ k r, c.tricksAt k r ≠ a) : (c.run D p).2.memory a = p.memory a := by
  simp only [SharedCall.run]
  split
  · exact readOutbounds_frame _ _ _ h
  · rfl
  · rfl

lemma runShared_frame (calls : List SharedCall) (p : Process) {a : Nat}
    (h : ∀ c ∈ calls, ∀ k r, c.tricksAt k r ≠ a) :
    (runShared D calls p).memory a = p.memory a := by
  induction calls generalizing p with
  | nil => rfl
  | cons c calls ih =>
    rw [runShared, List.foldl_cons]
    refine (ih _ fun d hd => h d (List.mem_cons_of_mem c hd)).trans ?_
    exact c.run_frame p (h c List.mem_cons_self)

end HiddifyCore.Config
