import HiddifyCore.GoLib.Text
import HiddifyCore.V2.Standalone

/-!
# The waits between refreshes

`updateConfigInterval` waits for the interval that the last refresh has read, in hours. The interval
comes from a header of the response or from a comment of the document, and a response that names
none has the interval 0. The guard against it stands before the loop.
-/

namespace HiddifyCore.V2

open GoLib GoLib.Strings Config

/-! ### Reading a configuration -/

/-- The fields of a response, with canonical names. -/
abbrev Header := List (String × String)

/-- `header.Get`, for the canonical form of the name. -/
def Header.get (header : Header) (name : String) : String :=
  ((header.find? (·.1 = name)).map (·.2)).getD ""

structure Response where
  header : Header := []
  body : Except String String := .ok ""

/-- The first line that names an interval decides, and an error has the interval 0. -/
def intervalOfLines : List String → Int
  | [] => 0
  | line :: lines =>
    let line := trimSpace line
    if hasPrefix line "//profile-update-interval:" ∨ hasPrefix line "#profile-update-interval:" then
      (atoi (trimSpace ((afterFirst line ':').getD ""))).getD 0
    else
      intervalOfLines lines

/-- The interval that is used: the error beside it is dropped by the caller. -/
def extractRefreshInterval (header : Header) (body : String) : Int :=
  let refreshInterval := header.get "Profile-Update-Interval"
  if refreshInterval ≠ "" then (atoi refreshInterval).getD 0
  else intervalOfLines (split body '\n')

example :
    extractRefreshInterval [] "{}\r\n  // comment\n #profile-update-interval: 12\r\n" = 12 := by
  decide

/-- The calls of `readConfigContent`. -/
structure FetchCalls where
  /-- `http.NewRequest` and `client.Do`. -/
  get : String → Except String Response := fun _ => .ok {}
  readFile : String → Except String String := fun _ => .ok ""

/-- The content and its interval. -/
def readConfigContent (x : FetchCalls) (configPath : String) : Except String (String × Int) :=
  if hasPrefix configPath "http://" ∨ hasPrefix configPath "https://" then do
    let resp ← x.get configPath
    let content ← resp.body.mapError ("failed to read config body: " ++ ·)
    pure (content, extractRefreshInterval resp.header content)
  else do
    let content ← (x.readFile configPath).mapError ("failed to read config file: " ++ ·)
    pure (content, 0)

/-- One refresh. -/
structure Reading where
  fetch : FetchCalls := {}
  /-- What `readAndBuildConfig` makes of the content: the document and the options. -/
  build : String → Except String (String × ConfigOptions) := fun _ => .ok ("{}", {})

def Reading.outcome (x : Reading) (configPath : String) : Except String ConfigResult := do
  let (content, refreshInterval) ← readConfigContent x.fetch configPath
  let (config, options) ← x.build content
  pure {
    config := config
    refreshInterval := refreshInterval
    hiddifyConfigOptions := options }

/-! ### The turns of the loop -/

/-- `current` at each turn. -/
def turns (current : ConfigResult) : List (Except String ConfigResult) → List ConfigResult
  | [] => [current]
  | .error _ :: outcomes => current :: turns current outcomes
  | .ok new :: outcomes => current :: turns new outcomes

/-- `current` whenever `updateConfigInterval` waits. -/
def waited (current : ConfigResult) (outcomes : List (Except String ConfigResult)) :
    List ConfigResult :=
  if current.refreshInterval ≤ 0 then [] else turns current outcomes

/-- `time.Duration(current.RefreshInterval) * time.Hour`, in nanoseconds. -/
def waitOf (current : ConfigResult) : Int64 :=
  Int64.ofInt current.refreshInterval * 3600000000000

/-- The wait is that many hours. -/
structure WaitsExactly (current : ConfigResult) : Prop where
  exact : (waitOf current).toInt = current.refreshInterval * 3600000000000
  positive : 0 < (waitOf current).toInt

/-- The loop never waits for anything but the hours of `current`. -/
def AllWaitsExact (configPath : String) (start : ConfigResult) (xs : List Reading) : Prop :=
  ∀ c ∈ waited start (xs.map (·.outcome configPath)), WaitsExactly c

/-! ### Which intervals are waited for -/

lemma mem_turns {current c : ConfigResult} {outcomes : List (Except String ConfigResult)} :
    c ∈ turns current outcomes ↔ c = current ∨ .ok c ∈ outcomes := by
  induction outcomes generalizing current with
  | nil => simp [turns]
  | cons outcome outcomes ih =>
    cases outcome with
    | error e => simp [turns, ih]
    | ok new => simp [turns, ih]

/-- A refresh goes on with what it has read, or with what it had. -/
lemma exists_outcome {current new : ConfigResult} {tick : Tick} {s t : Core}
    (h : refresh current tick s = (.ret new, t)) :
    ∃ outcome u,
      readAndBuildConfig current.hiddifyConfigOptions tick.read s = (.ret outcome, u) ∧
      ∀ outcomes, turns current (outcome :: outcomes) = current :: turns new outcomes := by
  rw [refresh, Go.bind_run] at h
  rcases hread : readAndBuildConfig current.hiddifyConfigOptions tick.read s
    with ⟨(e | new') | e, u⟩
  · rw [hread] at h
    cases h
    exact ⟨_, _, rfl, fun _ => rfl⟩
  · rw [hread] at h
    simp only at h
    split_ifs at h with hne
    · rw [Go.bind_run] at h
      rcases hreplace : replaceCore tick.order new'.config tick.toRefreshCalls u with ⟨_ | e, v⟩
      · rw [hreplace] at h
        cases h
        exact ⟨_, _, rfl, fun _ => rfl⟩
      · rw [hreplace] at h
        cases h
    · cases h
      exact ⟨_, _, rfl, fun _ => rfl⟩
  · rw [hread] at h
    cases h

lemma turns_ne_nil (current : ConfigResult) (outcomes : List (Except String ConfigResult)) :
    turns current outcomes ≠ [] := by
  cases outcomes with
  | nil => exact List.cons_ne_nil _ _
  | cons outcome outcomes => cases outcome <;> exact List.cons_ne_nil _ _

/-- The loop over the core turns with the outcomes of its readings. -/
theorem refreshLoop_turns {ticks : List Tick} {current last : ConfigResult} {s t : Core}
    (h : refreshLoop current ticks s = (.ret last, t)) :
    ∃ outcomes, (turns current outcomes).getLast? = some last ∧
      List.Forall₂ (fun tick outcome => ∃ opt u v,
        readAndBuildConfig opt tick.read u = (.ret outcome, v)) ticks outcomes := by
  induction ticks generalizing current s with
  | nil =>
    simp only [refreshLoop, Go.pure_run, Prod.mk.injEq, Exit.ret.injEq] at h
    exact ⟨[], by rw [turns, h.1]; rfl, .nil⟩
  | cons tick ticks ih =>
    rw [refreshLoop, Go.bind_run] at h
    rcases hrefresh : refresh current tick s with ⟨new | e, u⟩
    · rw [hrefresh] at h
      obtain ⟨outcomes, hlast, hread⟩ := ih h
      obtain ⟨outcome, v, houtcome, hturn⟩ := exists_outcome hrefresh
      refine ⟨outcome :: outcomes, ?_, .cons ⟨_, s, v, houtcome⟩ hread⟩
      rw [hturn outcomes, List.getLast?_cons_of_ne_nil (turns_ne_nil new outcomes), hlast]
    · rw [hrefresh] at h
      cases h

lemma toInt_waitOf (c : ConfigResult) :
    (waitOf c).toInt = (c.refreshInterval * 3600000000000).bmod (2 ^ 64) := by
  rw [waitOf, Int64.toInt_mul, Int64.toInt_ofInt]
  exact Int.bmod_mul_bmod

/-- 2562047 hours are the longest wait that 64 bits hold. -/
lemma waitsExactly_iff (c : ConfigResult) :
    WaitsExactly c ↔ 1 ≤ c.refreshInterval ∧ c.refreshInterval ≤ 2562047 := by
  have hlt := Int64.toInt_lt (waitOf c)
  constructor
  · rintro ⟨hexact, hpos⟩
    omega
  · intro h
    have hexact : (waitOf c).toInt = c.refreshInterval * 3600000000000 := by
      rw [toInt_waitOf]
      apply Int.bmod_eq_of_le <;> omega
    exact ⟨hexact, by omega⟩

/-- Every wait is exact and positive unless the first interval is too long, or a refresh reads one
that is too long or none. -/
theorem waits_exact_iff (configPath : String) (start : ConfigResult)
    (hstart : 0 < start.refreshInterval) (xs : List Reading) :
    AllWaitsExact configPath start xs ↔
      start.refreshInterval ≤ 2562047 ∧
      ∀ x ∈ xs, ∀ new, x.outcome configPath = .ok new →
        1 ≤ new.refreshInterval ∧ new.refreshInterval ≤ 2562047 := by
  simp only [AllWaitsExact, waited, if_neg (Int.not_le.mpr hstart), mem_turns, waitsExactly_iff]
  constructor
  · intro h
    refine ⟨(h start (.inl rfl)).2, fun x hx new hnew => ?_⟩
    exact h new (.inr (hnew ▸ List.mem_map_of_mem hx))
  · rintro ⟨hlong, hread⟩ c (rfl | hc)
    · exact ⟨hstart, hlong⟩
    · obtain ⟨x, hx, hnew⟩ := List.mem_map.mp hc
      exact hread x hx c hnew

/-- A response with an interval of twelve hours. -/
def everyTwelveHours : Reading where
  fetch := { get := fun _ => .ok { header := [("Profile-Update-Interval", "12")] } }

/-- The longest wait, and then one of twelve hours. -/
theorem waits_exact_everyTwelveHours :
    AllWaitsExact "https://h" ⟨"", 2562047, {}⟩ [everyTwelveHours] := by
  refine (waits_exact_iff "https://h" ⟨"", 2562047, {}⟩ (by decide) [everyTwelveHours]).mpr
    ⟨by decide, fun x hx new hnew => ?_⟩
  rw [List.mem_singleton.mp hx] at hnew
  have hinterval : (everyTwelveHours.outcome "https://h").map (·.refreshInterval) = .ok 12 := by
    decide
  rw [hnew] at hinterval
  have h12 : new.refreshInterval = 12 := Except.ok.inj hinterval
  omega

/-- A response that names no interval: the next wait is over at once. -/
theorem not_waits_exact :
    ¬ ∀ (configPath : String) (start : ConfigResult), 0 < start.refreshInterval →
      ∀ xs : List Reading, AllWaitsExact configPath start xs := by
  intro h
  have hmem : ⟨"{}", 0, {}⟩ ∈ waited ⟨"", 1, {}⟩ ([{}].map (Reading.outcome · "https://h")) :=
    mem_turns.mpr (.inr (List.mem_singleton.mpr rfl))
  exact absurd (h "https://h" ⟨"", 1, {}⟩ (by decide) [{}] _ hmem).positive (by decide)

end HiddifyCore.V2
