import HiddifyCore.GoLib.Run
import HiddifyCore.V2.Loaders
import HiddifyCore.Warp.Identity

/-!
# The stored identity

`pkg/warp/account.go` keeps an identity in `wgcf-identity.json`. A file that was cut off loads as
no identity (`loadIdentity_cut`), so that whatever is loaded in a run of `LoadOrCreateIdentity` is
the identity that was made last (`run_lastMade`). A call that succeeds is repeated without another
registration exactly when the service gave the identity a peer and the license that was asked for
(`loadOrCreateIdentity_again_iff`).
-/

namespace HiddifyCore.Warp.Api

open GoLib GoLib.JsonDecode

/-! ### The store -/

structure Store where
  devices : Devices := ∅
  /-- The text of `wgcf-identity.json`, if it is there. -/
  identityFile : Option String := none
  /-- What every call of `CreateIdentityOnly` without an error returned. -/
  made : List Identity := []

namespace Store

@[simps]
def setDevices (devices : Devices) (s : Store) : Store := { s with devices := devices }

@[simps]
def setFile (file : Option String) (s : Store) : Store := { s with identityFile := file }

@[simps]
def addMade (i : Identity) (s : Store) : Store := { s with made := s.made ++ [i] }

end Store

def onDevices {α : Type} (m : Go Devices α) : Go Store α := Go.zoom Store.devices Store.setDevices m

/-- The first characters of a text. -/
def cut (n : Nat) (text : String) : String := String.ofList (text.toList.take n)

/-! ### The calls -/

structure LoadCalls where
  stat : Except String Unit := .ok ()
  readFile : Except String Unit := .ok ()

structure SaveCalls where
  create : Except String Unit := .ok ()
  /-- A write that fails, or the end of the process, leaves some of the text behind. -/
  encode : Except (Nat × String) Unit := .ok ()
  close : Except String Unit := .ok ()

structure RenewCalls where
  /-- A removal that fails may have removed the file. -/
  removeAll : Except (Bool × String) Unit := .ok ()
  mkdirAll : Except String Unit := .ok ()
  answers : Answers
  save : SaveCalls := {}

structure StoreCalls where
  load : LoadCalls := {}
  /-- Where no identity is loaded. -/
  create : RenewCalls
  /-- Where the identity has another license. -/
  relicense : RenewCalls

/-! ### Loading and saving -/

def identityText (a : Identity) : List Char :=
  JsonText.text (.indented 2) 0 (identityCodec.encode a)

/-- `Encoder.Encode` ends the text with a newline. -/
def savedText (a : Identity) : String := String.ofList (identityText a ++ ['\n'])

def saveIdentity (x : SaveCalls) (a : Identity) : Go Store (Except String Unit) := do
  match x.create with
  | .error e => pure (.error e)
  | .ok _ =>
    match x.encode with
    | .error (written, e) =>
      Go.modify (Store.setFile (some (cut written (savedText a))))
      pure (.error e)
    | .ok _ =>
      Go.modify (Store.setFile (some (savedText a)))
      pure x.close

def loadIdentity (x : LoadCalls) (file : Option String) : Except LoadError Identity :=
  match file with
  | none => .error (.other "no such file or directory")
  | some text => do
    let _ ← x.stat.mapError .other
    let _ ← x.readFile.mapError .other
    match unmarshal identityCodec.decode text {} with
    | (_, some err) => .error (.decode err)
    | (i, none) =>
      if (i.config.peers.getD []).length < 1 then .error (.other "identity contains 0 peers")
      else .ok i

def createIdentity (a : Answers) (x : SaveCalls) (license : String) :
    Go Store (Except String Identity) := do
  match ← onDevices (createIdentityOnly a license) with
  | .error e => pure (.error e)
  | .ok i =>
    Go.modify (Store.addMade i)
    match ← saveIdentity x i with
    | .error e => pure (.error e)
    | .ok _ => pure (.ok i)

/-- `os.RemoveAll`, `os.MkdirAll` and `CreateIdentity`, as `LoadOrCreateIdentity` calls them in two
places. -/
def renewIdentity (x : RenewCalls) (license : String) : Go Store (Except String Identity) := do
  match x.removeAll with
  | .error (removed, e) =>
    Go.modify fun s => if removed then s.setFile none else s
    pure (.error e)
  | .ok _ =>
    Go.modify (Store.setFile none)
    match x.mkdirAll with
    | .error e => pure (.error e)
    | .ok _ => createIdentity x.answers x.save license

/-- The loaded identity, or else a new one. -/
def loadedOrCreated (x : StoreCalls) (license : String) : Go Store (Except String Identity) := do
  match loadIdentity x.load (← Go.get).identityFile with
  | .ok i => pure (.ok i)
  | .error _ => renewIdentity x.create license

def loadOrCreateIdentity (x : StoreCalls) (license : String) :
    Go Store (Except String Identity) := do
  match ← loadedOrCreated x license with
  | .error e => pure (.error e)
  | .ok i =>
    if license ≠ "" ∧ i.account.license ≠ license then renewIdentity x.relicense license
    else pure (.ok i)

/-! ### The file -/

def HasPeer (i : Identity) : Prop := i.config.peers.getD [] ≠ []

lemma identityCodec_obj (i : Identity) : ∃ ms, identityCodec.encode i = .obj ms := ⟨_, rfl⟩

lemma loadIdentity_some {x : LoadCalls} {text : String} {j : Identity} :
    loadIdentity x (some text) = .ok j ↔ x.stat = .ok () ∧ x.readFile = .ok () ∧
      unmarshal identityCodec.decode text {} = (j, none) ∧ HasPeer j := by
  rw [loadIdentity]
  rcases x.stat with e | u
  · simp [Except.mapError, bind, Except.bind]
  rcases x.readFile with e | u
  · simp [Except.mapError, bind, Except.bind]
  simp only [Except.mapError, bind, Except.bind, true_and]
  rcases hdecode : unmarshal identityCodec.decode text {} with ⟨i, _ | err⟩
  · simp only [Nat.lt_one_iff, List.length_eq_zero_iff, Prod.mk.injEq, and_true]
    by_cases hpeer : i.config.peers.getD [] = []
    · simp only [hpeer, if_true, reduceCtorEq, false_iff, not_and]
      rintro rfl hpeer'
      exact hpeer' hpeer
    · simp only [hpeer, if_false, Except.ok.injEq]
      constructor
      · rintro rfl
        exact ⟨rfl, hpeer⟩
      · exact And.left
  · simp

/-- A cut file is decoded as the identity or not at all. -/
lemma unmarshal_cut (n : Nat) (i old : Identity) :
    unmarshal identityCodec.decode (cut n (savedText i)) old =
      if (identityText i).length ≤ n then (i, none) else (old, some .invalid) := by
  obtain ⟨ms, hms⟩ := identityCodec_obj i
  have hdecode (w : JsonText.Value) : JsonText.decode (cut n (savedText i)) = some w ↔
      (identityText i).length ≤ n ∧ w = identityCodec.encode i := by
    have hcut : (savedText i).toList.take n <+:
        JsonText.text (.indented 2) 0 (.obj ms) ++ ['\n'] := by
      rw [savedText, String.toList_ofList, identityText, hms]
      exact List.take_prefix n _
    have hnumeric : JsonText.numeric (.obj ms) := hms ▸ identityCodec.numeric_encode i
    rw [cut, JsonText.decode_cut hnumeric (by simp [JsonText.isBlank]) hcut, savedText,
      String.toList_ofList, ← hms, ← identityText, List.prefix_take_iff]
    simp
  split_ifs with hle
  · have hdepth : JsonText.depth (identityCodec.encode i) ≤ JsonStream.maxNestingDepth :=
      (identityCodec.depth_encode i).trans (by decide)
    rw [unmarshal, document, (hdecode _).mpr ⟨hle, rfl⟩, Option.filter_some,
      if_pos (by simpa using hdepth)]
    exact identityCodec.decode_encode i old
  · have hnone : JsonText.decode (cut n (savedText i)) = none :=
      Option.eq_none_iff_forall_ne_some.mpr fun w hw => hle ((hdecode w).mp hw).1
    rw [unmarshal, document, hnone, Option.filter_none]

/-- What was written of an identity is loaded as that identity if all of it but the last newline
is there and it has a peer, and is not loaded otherwise. -/
theorem loadIdentity_cut (x : LoadCalls) (n : Nat) (i j : Identity) :
    loadIdentity x (some (cut n (savedText i))) = .ok j ↔
      x.stat = .ok () ∧ x.readFile = .ok () ∧ (identityText i).length ≤ n ∧ HasPeer i ∧ j = i := by
  rw [loadIdentity_some, unmarshal_cut]
  refine and_congr_right fun _ => and_congr_right fun _ => ?_
  split_ifs with hle
  · constructor
    · rintro ⟨heq, hpeer⟩
      cases heq
      exact ⟨hle, hpeer, rfl⟩
    · rintro ⟨-, hpeer, rfl⟩
      exact ⟨rfl, hpeer⟩
  · simp [hle]

lemma savedText_eq_cut (i : Identity) :
    savedText i = cut ((identityText i).length + 1) (savedText i) := by
  have hlength : (savedText i).toList.length = (identityText i).length + 1 := by
    simp [savedText]
  rw [cut, ← hlength, List.take_length, String.ofList_toList]

/-! ### Registration -/

lemma registered_of_cases {a : Warp.Answers} {license : String} {devices devices' : Devices}
    {r : Except String Warp.Identity}
    (h : Warp.CreateIdentityOnly a license devices r devices') :
    devices ⊆ devices' ∧ ∀ i, r = .ok i → i.id ∈ devices' := by
  cases h with
  | unregistered e h => exact ⟨subset_addDevice _ _, nofun⟩
  | unlicensed h hac => exact ⟨Finset.subset_insert _ _, nofun⟩
  | created h hac =>
    refine ⟨Finset.subset_insert _ _, ?_⟩
    rintro i heq
    cases heq
    exact Finset.mem_insert_self _ _

/-- A registration that returns an identity has registered its device, and none is deleted. -/
lemma createIdentityOnly_registers (a : Answers) (license : String) (devices : Devices) :
    Go.Triple (· = devices) (createIdentityOnly a license)
      (fun r devices' => devices ⊆ devices' ∧ ∀ i, r = .ok i → i.id ∈ devices')
      (fun _ => False) := by
  rintro devices rfl
  obtain ⟨r, devices', hrun, hcases⟩ := Warp.createIdentityOnly_run a.read license devices
  rw [createIdentityOnly_read] at hrun
  rcases hfull : createIdentityOnly a license devices with ⟨full | msg, after⟩
  · rw [hfull] at hrun
    cases hrun
    obtain ⟨hsub, hregistered⟩ := registered_of_cases hcases
    refine ⟨hsub, ?_⟩
    rintro i rfl
    exact hregistered i.read rfl
  · rw [hfull] at hrun
    cases hrun

/-! ### What a call leaves -/

/-- The file, if it is there, is what was written of the identity that was made last. -/
structure Kept (s : Store) : Prop where
  file : ∀ text ∈ s.identityFile, ∃ i n, s.made.getLast? = some i ∧ text = cut n (savedText i)
  registered : ∀ i ∈ s.made, i.id ∈ s.devices

/-- The file is there and is decoded as the identity. -/
def Holds (i : Identity) (s : Store) : Prop :=
  ∃ text, s.identityFile = some text ∧ unmarshal identityCodec.decode text {} = (i, none)

/-- A new identity, just made. -/
structure JustMade (made : List Identity) (i : Identity) (s : Store) : Prop where
  kept : Kept s
  made : s.made = made ++ [i]

variable {made : List Identity}

lemma saveIdentity_kept (x : SaveCalls) (i : Identity) :
    Go.Triple (fun s => s.identityFile = none ∧ JustMade made i s) (saveIdentity x i)
      (fun r s => JustMade made i s ∧ (r = .ok () → Holds i s)) (fun _ => False) := by
  have hwritten {s : Store} (n : Nat) (h : JustMade made i s) :
      JustMade made i (s.setFile (some (cut n (savedText i)))) := by
    refine ⟨⟨?_, h.kept.registered⟩, h.made⟩
    rintro text ⟨⟩
    exact ⟨i, n, by rw [Store.setFile_made, h.made, List.getLast?_concat], rfl⟩
  rintro s ⟨-, h⟩
  simp only [saveIdentity]
  rcases x.create with e | u
  · exact ⟨h, nofun⟩
  rcases x.encode with ⟨n, e⟩ | u
  · exact ⟨hwritten n h, nofun⟩
  have hall := hwritten ((identityText i).length + 1) h
  rw [← savedText_eq_cut] at hall
  refine ⟨hall, fun _ => ⟨savedText i, rfl, ?_⟩⟩
  rw [savedText_eq_cut, unmarshal_cut, if_pos (Nat.le_succ _)]

/-- A new identity is made or none is, and an error leaves nothing that could be loaded but it. -/
def Renewed (made : List Identity) (r : Except String Identity) (s : Store) : Prop :=
  Kept s ∧ (s.made = made ∨ ∃ i, s.made = made ++ [i]) ∧
    ∀ i, r = .ok i → s.made = made ++ [i] ∧ Holds i s

lemma createIdentity_renewed (a : Answers) (x : SaveCalls) (license : String) :
    Go.Triple (fun s => s.identityFile = none ∧ Kept s ∧ s.made = made)
      (createIdentity a x license) (Renewed made) (fun _ => False) := by
  refine Go.Triple.bind (M := fun r s => (s.identityFile = none ∧ Kept s ∧ s.made = made) ∧
    ∀ i, r = .ok i → i.id ∈ s.devices) ?_ fun r => ?_
  · apply Go.Triple.zoom
    rintro s ⟨hfile, hkept, hmade⟩
    have h := createIdentityOnly_registers a license s.devices s.devices rfl
    rcases hrun : createIdentityOnly a license s.devices with ⟨r | msg, devices'⟩
    · rw [hrun] at h
      exact ⟨⟨hfile, ⟨hkept.file, fun i hi => h.1 (hkept.registered i hi)⟩, hmade⟩, h.2⟩
    · rw [hrun] at h
      exact h
  cases r with
  | error e => exact .pure fun s h => ⟨h.1.2.1, Or.inl h.1.2.2, nofun⟩
  | ok i =>
    refine Go.Triple.bind (M := fun _ s => s.identityFile = none ∧ JustMade made i s) ?_
      fun _ => ?_
    · refine .modify ?_
      rintro s ⟨⟨hfile, hkept, hmade⟩, hregistered⟩
      refine ⟨hfile, ⟨⟨?_, ?_⟩, by rw [Store.addMade_made, hmade]⟩⟩
      · rintro text htext
        rw [Store.addMade_identityFile, hfile] at htext
        cases htext
      · simpa [or_imp, forall_and] using ⟨hkept.registered, hregistered i rfl⟩
    refine (saveIdentity_kept x i).bind fun r => ?_
    cases r with
    | error e => exact .pure fun s h => ⟨h.1.kept, Or.inr ⟨i, h.1.made⟩, nofun⟩
    | ok u =>
      refine .pure fun s h => ⟨h.1.kept, Or.inr ⟨i, h.1.made⟩, ?_⟩
      rintro j heq
      cases heq
      exact ⟨h.1.made, h.2 rfl⟩

lemma renewIdentity_renewed (x : RenewCalls) (license : String) :
    Go.Triple (fun s => Kept s ∧ s.made = made) (renewIdentity x license) (Renewed made)
      (fun _ => False) := by
  have hremoved {s : Store} (h : Kept s) : Kept (s.setFile none) := ⟨nofun, h.registered⟩
  simp only [renewIdentity]
  rcases x.removeAll with ⟨removed, e⟩ | u
  · refine Go.Triple.bind (M := fun _ s => Kept s ∧ s.made = made) ?_ fun _ => ?_
    · refine .modify ?_
      rintro s ⟨hkept, hmade⟩
      split_ifs
      · exact ⟨hremoved hkept, hmade⟩
      · exact ⟨hkept, hmade⟩
    · exact .pure fun s h => ⟨h.1, Or.inl h.2, nofun⟩
  · refine Go.Triple.bind (M := fun _ s => s.identityFile = none ∧ Kept s ∧ s.made = made) ?_
      fun _ => ?_
    · exact .modify fun s h => ⟨rfl, hremoved h.1, h.2⟩
    · cases x.mkdirAll with
      | error e => exact .pure fun s h => ⟨h.2.1, Or.inl h.2.2, nofun⟩
      | ok u => exact createIdentity_renewed x.answers x.save license

/-- What is loaded was made last. -/
lemma Kept.last_of_unmarshal {s : Store} (h : Kept s) {text : String}
    (htext : s.identityFile = some text) {i : Identity}
    (hi : unmarshal identityCodec.decode text {} = (i, none)) : s.made.getLast? = some i := by
  obtain ⟨j, n, hlast, rfl⟩ := h.file text htext
  rw [unmarshal_cut] at hi
  split_ifs at hi
  · cases hi
    exact hlast
  · cases hi

lemma Kept.last_of_loadIdentity {s : Store} (h : Kept s) {x : LoadCalls} {i : Identity}
    (hi : loadIdentity x s.identityFile = .ok i) : s.made.getLast? = some i ∧ Holds i s := by
  cases htext : s.identityFile with
  | none =>
    rw [htext] at hi
    cases hi
  | some text =>
    rw [htext, loadIdentity_some] at hi
    exact ⟨h.last_of_unmarshal htext hi.2.2.1, text, htext, hi.2.2.1⟩

/-- A call makes at most two identities, and returns the one that was made last and is stored. -/
structure Stored (made : List Identity) (n : Nat) (r : Except String Identity) (s : Store) :
    Prop where
  kept : Kept s
  made : ∃ new, s.made = made ++ new ∧ new.length ≤ n
  last : ∀ i, r = .ok i → s.made.getLast? = some i ∧ Holds i s

lemma Renewed.stored {r : Except String Identity} {s : Store} (h : Renewed made r s) :
    Stored made 1 r s := by
  obtain ⟨hkept, hmade, hok⟩ := h
  refine ⟨hkept, ?_, fun i hi => ?_⟩
  · rcases hmade with hmade | ⟨i, hmade⟩
    · exact ⟨[], by rw [hmade, List.append_nil], Nat.zero_le _⟩
    · exact ⟨[i], hmade, le_rfl⟩
  · obtain ⟨hi, hholds⟩ := hok i hi
    exact ⟨by rw [hi, List.getLast?_concat], hholds⟩

lemma loadedOrCreated_stored (x : StoreCalls) (license : String) :
    Go.Triple (fun s => Kept s ∧ s.made = made) (loadedOrCreated x license) (Stored made 1)
      (fun _ => False) := by
  apply Go.Triple.get_bind
  rintro s ⟨hkept, hmade⟩
  cases hload : loadIdentity x.load s.identityFile with
  | ok i =>
    refine .pure ?_
    rintro t rfl
    refine ⟨hkept, ⟨[], by rw [hmade, List.append_nil], Nat.zero_le _⟩, ?_⟩
    rintro j heq
    cases heq
    exact hkept.last_of_loadIdentity hload
  | error e =>
    refine ((renewIdentity_renewed x.create license).pre ?_).post fun r t => Renewed.stored
    rintro t rfl
    exact ⟨hkept, hmade⟩

lemma loadOrCreateIdentity_stored (x : StoreCalls) (license : String) :
    Go.Triple (fun s => Kept s ∧ s.made = made) (loadOrCreateIdentity x license)
      (Stored made 2) (fun _ => False) := by
  refine (loadedOrCreated_stored x license).bind fun r => ?_
  have hone {r : Except String Identity} {s : Store} (h : Stored made 1 r s) :
      Stored made 2 r s := by
    obtain ⟨new, hmade, hle⟩ := h.made
    exact ⟨h.kept, ⟨new, hmade, Nat.le_succ_of_le hle⟩, h.last⟩
  cases r with
  | error e => exact .pure fun s => hone
  | ok i =>
    by_cases hlicense : license ≠ "" ∧ i.account.license ≠ license
    · simp only [if_pos hlicense]
      intro s h
      obtain ⟨new, hmade, hle⟩ := h.made
      refine ((renewIdentity_renewed x.relicense license).post fun r t ht => ?_) s ⟨h.kept, hmade⟩
      have hstored := ht.stored
      obtain ⟨new', hmade', hle'⟩ := hstored.made
      refine ⟨hstored.kept, ⟨new ++ new', by rw [hmade', List.append_assoc], ?_⟩, hstored.last⟩
      rw [List.length_append]
      omega
    · simp only [if_neg hlicense]
      exact .pure fun s => hone

/-! ### Runs -/

/-- A call of `LoadOrCreateIdentity` with its answers and its license. -/
def Step (s : Store) (op : StoreCalls × String) (s' : Store) : Prop :=
  ∃ r, loadOrCreateIdentity op.1 op.2 s = (.ret r, s')

/-- No identity was made, and there is no file. -/
structure Store.IsInitial (s : Store) : Prop where
  identityFile : s.identityFile = none
  made : s.made = []

lemma Store.IsInitial.kept {s : Store} (h : s.IsInitial) : Kept s := by
  refine ⟨?_, ?_⟩
  · rw [h.identityFile]
    exact nofun
  · simp [h.made]

lemma run_kept {s t : Store} (hs : s.IsInitial) (hrun : Run Step (fun _ _ => True) s t) :
    Kept t := by
  refine hrun.invariant (I := Kept) hs.kept fun t op u hI _ ⟨r, hr⟩ => ?_
  exact ((@loadOrCreateIdentity_stored t.made op.1 op.2).ret ⟨hI, rfl⟩ hr).kept

/-- In every run, whatever is loaded is the identity that was made last, complete and of a
registered device. A call makes at most two identities, and one that succeeds returns the last. -/
theorem run_lastMade {s t : Store} (hs : s.IsInitial)
    (hrun : Run Step (fun _ _ => True) s t) :
    (∀ x i, loadIdentity x t.identityFile = .ok i →
      t.made.getLast? = some i ∧ i.id ∈ t.devices) ∧
    ∀ x license r u, loadOrCreateIdentity x license t = (.ret r, u) →
      (∃ new, u.made = t.made ++ new ∧ new.length ≤ 2) ∧
      ∀ i, r = .ok i → u.made.getLast? = some i ∧ i.id ∈ u.devices := by
  have hkept := run_kept hs hrun
  constructor
  · intro x i hi
    obtain ⟨hlast, -⟩ := hkept.last_of_loadIdentity hi
    exact ⟨hlast, hkept.registered i (List.mem_of_getLast? hlast)⟩
  · intro x license r u h
    have hstored := (@loadOrCreateIdentity_stored t.made x license).ret ⟨hkept, rfl⟩ h
    refine ⟨hstored.made, fun i hi => ?_⟩
    obtain ⟨hlast, -⟩ := hstored.last i hi
    exact ⟨hlast, hstored.kept.registered i (List.mem_of_getLast? hlast)⟩

/-! ### The same call again -/

def LoadCalls.Succeed (x : LoadCalls) : Prop := x.stat = .ok () ∧ x.readFile = .ok ()

lemma loadIdentity_of_holds {i : Identity} {s : Store} (h : Holds i s) {x : LoadCalls}
    (hx : x.Succeed) {j : Identity} :
    loadIdentity x s.identityFile = .ok j ↔ j = i ∧ HasPeer i := by
  obtain ⟨text, htext, hdecode⟩ := h
  rw [htext, loadIdentity_some, hdecode]
  constructor
  · rintro ⟨-, -, heq, hpeer⟩
    cases heq
    exact ⟨rfl, hpeer⟩
  · rintro ⟨rfl, hpeer⟩
    exact ⟨hx.1, hx.2, rfl, hpeer⟩

/-- The file system refuses every removal. -/
def refusing (a : Answers) : RenewCalls := { removeAll := .error (false, "busy"), answers := a }

/-- In every run a call that succeeds is repeated without another registration, whatever the
service would answer, exactly when the service gave the identity a peer and the license that was
asked for. -/
theorem run_again_iff {s t u : Store} (hs : s.IsInitial)
    (hrun : Run Step (fun _ _ => True) s t) {x : StoreCalls} {license : String} {i : Identity}
    (h : loadOrCreateIdentity x license t = (.ret (.ok i), u)) :
    (∀ x' : StoreCalls, x'.load.Succeed →
        loadOrCreateIdentity x' license u = (.ret (.ok i), u)) ↔
      HasPeer i ∧ (license = "" ∨ i.account.license = license) := by
  have hholds : Holds i u :=
    (((@loadOrCreateIdentity_stored t.made x license).ret ⟨run_kept hs hrun, rfl⟩ h).last i rfl).2
  constructor
  · intro hagain
    let x' : StoreCalls :=
      { create := refusing x.create.answers, relicense := refusing x.create.answers }
    have hrepeated := hagain x' ⟨rfl, rfl⟩
    simp only [loadOrCreateIdentity, loadedOrCreated, Go.bind_run, Go.get] at hrepeated
    cases hload : loadIdentity x'.load u.identityFile with
    | error e =>
      rw [hload] at hrepeated
      cases hrepeated
    | ok j =>
      obtain ⟨rfl, hpeer⟩ := (loadIdentity_of_holds hholds ⟨rfl, rfl⟩).mp hload
      refine ⟨hpeer, ?_⟩
      by_contra! hlicense
      simp only [hload, Go.pure_run, if_pos hlicense] at hrepeated
      cases hrepeated
  · rintro ⟨hpeer, hlicense⟩ x' hx'
    have hload : loadIdentity x'.load u.identityFile = .ok i :=
      (loadIdentity_of_holds hholds hx').mpr ⟨rfl, hpeer⟩
    have hkeep : ¬ (license ≠ "" ∧ i.account.license ≠ license) := by tauto
    simp only [loadOrCreateIdentity, loadedOrCreated, Go.bind_run, Go.get, hload, Go.pure_run,
      if_neg hkeep]

namespace Reference

def identity : Identity where
  id := "new"
  token := "token"
  config := { peers := some [{ publicKey := "peer" }] }

/-- A service that registers one device, and an empty directory. -/
def calls : StoreCalls :=
  let renew : RenewCalls := {
    answers := {
      privateKey := .ok ("private", "public")
      register := fun _ => .ok identity
      update := fun _ _ license => .ok { license := license } } }
  { create := renew, relicense := renew }

end Reference

theorem run_lastMade_created : ∃ i u, loadOrCreateIdentity Reference.calls "key" {} =
    (.ret (.ok i), u) ∧ u.made.getLast? = some i ∧ i.id ∈ u.devices := by
  obtain ⟨-, h⟩ := run_lastMade (s := {}) ⟨rfl, rfl⟩ .refl
  exact ⟨_, _, rfl, (h Reference.calls "key" _ _ rfl).2 _ rfl⟩

theorem run_again_created : ∃ i u, loadOrCreateIdentity Reference.calls "key" {} =
    (.ret (.ok i), u) ∧ ∀ x : StoreCalls, x.load.Succeed →
      loadOrCreateIdentity x "key" u = (.ret (.ok i), u) :=
  ⟨_, _, rfl, (run_again_iff (s := {}) (t := {}) (x := Reference.calls) ⟨rfl, rfl⟩ .refl rfl).mpr
    ⟨by simp [HasPeer, Reference.identity], Or.inr rfl⟩⟩

end HiddifyCore.Warp.Api
