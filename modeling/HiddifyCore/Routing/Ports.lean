import HiddifyCore.Routing.UserRules
import HiddifyCore.Config.Reference

/-!
# Ports of a user rule

`makePortRule` reads an item without a colon as a machine integer and narrows it to 16 bits. The
narrowing is exact for the integers that are ports; any other one comes out as a port that the rule
does not name.
-/

namespace HiddifyCore.Routing

open GoLib GoLib.Strings Singbox Config

variable {D : Deps}

/-- The integer that a decimal text writes, of any size. -/
def writtenInt (s : String) : Option Int :=
  match s.toList with
  | '-' :: cs => (unsigned cs).map fun n : Nat => -(n : Int)
  | '+' :: cs => (unsigned cs).map Int.ofNat
  | cs => (unsigned cs).map Int.ofNat

/-- The port that an item denotes, if its integer is one. -/
def denotedPort (item : String) : Option Int :=
  (writtenInt item).filter fun i => 0 ≤ i ∧ i ≤ 65535

/-- The ports are those that the items denote, in the order of the items. -/
structure PortsExact (r : Rule) (ports : List UInt16) : Prop where
  values : ports.map (fun p => (p.toNat : Int)) = (split r.port ',').filterMap denotedPort
  denoted : ∀ p ∈ ports, ∃ item ∈ split r.port ',', denotedPort item = some (p.toNat : Int)

/-! ### Reading an item -/

lemma not_mem_of_digitsValue {cs : List Char} {acc n : Nat} (h : digitsValue acc cs = some n) :
    ':' ∉ cs := by
  induction cs generalizing acc with
  | nil => exact List.not_mem_nil
  | cons c cs ih =>
    obtain ⟨d, hd, h⟩ := Option.bind_eq_some_iff.mp h
    rw [List.mem_cons, not_or]
    refine ⟨?_, ih h⟩
    rintro rfl
    cases hd

lemma not_mem_of_unsigned {cs : List Char} {n : Nat} (h : unsigned cs = some n) : ':' ∉ cs := by
  cases cs with
  | nil => exact List.not_mem_nil
  | cons c cs => exact not_mem_of_digitsValue h

lemma not_mem_of_writtenInt {s : String} {i : Int} (h : writtenInt s = some i) :
    ':' ∉ s.toList := by
  unfold writtenInt at h
  split at h <;> obtain ⟨n, hn, -⟩ := Option.map_eq_some_iff.mp h
  · next hs => simpa [hs] using not_mem_of_unsigned hn
  · next hs => simpa [hs] using not_mem_of_unsigned hn
  · exact not_mem_of_unsigned hn

lemma atoi_eq_some {s : String} {i : Int} :
    atoi s = some i ↔
      writtenInt s = some i ∧ -9223372036854775808 ≤ i ∧ i ≤ 9223372036854775807 := by
  have hatoi : atoi s = (writtenInt s).bind fun i =>
      if -9223372036854775808 ≤ i ∧ i ≤ 9223372036854775807 then some i else none := by
    unfold atoi writtenInt
    generalize s.toList = cs
    rcases cs with _ | ⟨c, cs⟩
    · rfl
    · by_cases hminus : c = '-'
      · subst hminus
        simp only
        cases unsigned cs <;> rfl
      · by_cases hplus : c = '+'
        · subst hplus
          simp only
          cases unsigned cs <;> rfl
        · simp only [List.cons.injEq, hminus, hplus, false_and, imp_self, implies_true]
          cases unsigned (c :: cs) <;> rfl
  rw [hatoi, Option.bind_eq_some_iff]
  constructor
  · rintro ⟨j, hj, h⟩
    split_ifs at h with hrange
    cases h
    exact ⟨hj, hrange⟩
  · rintro ⟨hi, hrange⟩
    exact ⟨i, hi, if_pos hrange⟩

lemma denotedPort_eq_some {item : String} {i : Int} :
    denotedPort item = some i ↔ atoi item = some i ∧ 0 ≤ i ∧ i ≤ 65535 := by
  rw [denotedPort, Option.filter_eq_some_iff, atoi_eq_some, decide_eq_true_eq]
  constructor
  · rintro ⟨hi, hport⟩
    exact ⟨⟨hi, by omega, by omega⟩, hport⟩
  · rintro ⟨⟨hi, -⟩, hport⟩
    exact ⟨hi, hport⟩

lemma mem_of_contains {s sub : String} {c : Char} (hsub : sub.toList = [c])
    (h : contains s sub = true) : c ∈ s.toList := by
  simp only [contains, List.any_eq_true, List.mem_tails] at h
  obtain ⟨cs, hcs, hcut⟩ := h
  rw [hsub, List.isPrefixOf_iff_prefix] at hcut
  exact hcs.subset (hcut.subset List.mem_cons_self)

/-- A number has no colon, so that the range branch takes none away. -/
lemma portItem_port (item : String) :
    (portItem item).bind PortItem.port? = (atoi item).map UInt16.ofInt := by
  rw [portItem]
  split_ifs with hcolon
  · cases hitem : atoi item with
    | none => rfl
    | some i =>
      have hmem := not_mem_of_writtenInt (atoi_eq_some.mp hitem).1
      exact absurd (mem_of_contains rfl hcolon) hmem
  · cases atoi item <;> rfl

lemma makeRule_port (r : Rule) :
    (r.makeRule D).port = (split r.port ',').filterMap fun item =>
      (atoi item).map UInt16.ofInt := by
  rw [makeRule_eq]
  simp only [portItems]
  split_ifs with hport
  · rw [List.filterMap_filterMap]
    exact List.filterMap_congr fun item _ => portItem_port item
  · rw [not_not.mp hport]
    decide

/-! ### When the ports are exact -/

/-- Where one predicate implies the other and both count the same, they agree. -/
lemma forall_of_countP_eq {α : Type*} {p q : α → Bool} {l : List α} (hpq : ∀ x, p x → q x)
    (h : l.countP p = l.countP q) : ∀ x ∈ l, q x → p x := by
  induction l with
  | nil => simp
  | cons x l ih =>
    have hle : l.countP p ≤ l.countP q := List.countP_mono_left fun y _ => hpq y
    rw [List.countP_cons, List.countP_cons] at h
    intro y hy hqy
    rcases List.mem_cons.mp hy with rfl | hy
    · by_contra hpy
      simp only [hpy, if_false, hqy, if_true] at h
      omega
    · refine ih ?_ y hy hqy
      have hx : (if p x then 1 else 0) ≤ if q x then 1 else 0 := by
        by_cases hpx : p x = true
        · simp [hpx, hpq x hpx]
        · simp [hpx]
      omega

lemma toNat_ofInt {i : Int} (h : 0 ≤ i ∧ i ≤ 65535) : ((UInt16.ofInt i).toNat : Int) = i := by
  simp only [UInt16.ofInt, UInt16.toNat_ofNat', Int.natCast_emod, Int.ofNat_toNat]
  omega

/-- The emitted ports are exact unless an item writes a machine integer that is no port. -/
theorem makeRule_portsExact_iff (r : Rule) :
    PortsExact r (r.makeRule D).port ↔
      ∀ item ∈ split r.port ',', ∀ i, atoi item = some i → 0 ≤ i ∧ i ≤ 65535 := by
  constructor
  · intro h
    -- the items that `Atoi` reads are as many as those that denote a port
    have hcount : (split r.port ',').countP (fun item => (denotedPort item).isSome) =
        (split r.port ',').countP fun item => (atoi item).isSome := by
      have hlength := congrArg List.length h.values
      rw [makeRule_port, List.length_map, List.length_filterMap_eq_countP,
        List.length_filterMap_eq_countP] at hlength
      simpa only [Option.isSome_map] using hlength.symm
    intro item hitem i hi
    have hdenotes := forall_of_countP_eq (fun item hsome => by
      obtain ⟨j, hj⟩ := Option.isSome_iff_exists.mp hsome
      rw [(denotedPort_eq_some.mp hj).1]
      rfl) hcount item hitem (by rw [hi]; rfl)
    obtain ⟨j, hj⟩ := Option.isSome_iff_exists.mp hdenotes
    obtain ⟨hj', hport⟩ := denotedPort_eq_some.mp hj
    obtain rfl := Option.some.inj (hi.symm.trans hj')
    exact hport
  · intro h
    have hitem {item : String} (hmem : item ∈ split r.port ',') :
        ((atoi item).map UInt16.ofInt).map (fun p => (p.toNat : Int)) = denotedPort item := by
      cases hi : atoi item with
      | none =>
        refine (Option.eq_none_iff_forall_ne_some.mpr fun j hj => ?_).symm
        rw [(denotedPort_eq_some.mp hj).1] at hi
        cases hi
      | some i =>
        have hport := h item hmem i hi
        rw [denotedPort_eq_some.mpr ⟨hi, hport⟩, Option.map_some, Option.map_some,
          toNat_ofInt hport]
    have hvalues : (r.makeRule D).port.map (fun p => (p.toNat : Int)) =
        (split r.port ',').filterMap denotedPort := by
      rw [makeRule_port, List.map_filterMap]
      exact List.filterMap_congr fun item hmem => hitem hmem
    refine ⟨hvalues, fun p hp => ?_⟩
    have hmem := List.mem_map_of_mem (f := fun p : UInt16 => (p.toNat : Int)) hp
    rw [hvalues] at hmem
    exact List.mem_filterMap.mp hmem

/-- 65616 is 80 beyond the last port. -/
theorem not_portsExact : ¬ ∀ (D : Deps) (r : Rule), PortsExact r (r.makeRule D).port := by
  intro h
  have hvalues := (h Reference.deps { port := "65616" }).values
  rw [makeRule_port] at hvalues
  exact absurd hvalues (by decide)

end HiddifyCore.Routing
