import HiddifyCore.V2.Announce

/-!
# What the old command client sends

`OldCommandClientHandler` of `v2/old_command_client.go` turns the callbacks of a command client into
JSON texts for its port. The receiver at a port reads exactly the counters and the groups that the
handlers of that port were given, in their order (`read_received`); of the other callbacks it sees
nothing.
-/

namespace HiddifyCore.V2.OldCommandClient

open GoLib JsonDecode

/-! ### Messages -/

/-- The counters of a `libbox.StatusMessage` that are sent. -/
structure Status where
  connectionsIn : Int32 := 0
  connectionsOut : Int32 := 0
  uplink : Int64 := 0
  downlink : Int64 := 0
  uplinkTotal : Int64 := 0
  downlinkTotal : Int64 := 0
  deriving DecidableEq

structure OutboundGroupItem where
  tag : String := ""
  type : String := ""
  urlTestTime : Int64 := 0
  urlTestDelay : Int32 := 0
  deriving DecidableEq

structure OutboundGroup where
  tag : String := ""
  type : String := ""
  selected : String := ""
  items : List OutboundGroupItem := []
  deriving DecidableEq

/-- The members of the map in `WriteStatus`, in the order of their keys. -/
def statusMembers : List (Member Status) := [
  .of "connections-in" (·.connectionsIn) (fun v m => { m with connectionsIn := v }) .int32,
  .of "connections-out" (·.connectionsOut) (fun v m => { m with connectionsOut := v }) .int32,
  .of "downlink" (·.downlink) (fun v m => { m with downlink := v }) .int64,
  .of "downlink-total" (·.downlinkTotal) (fun v m => { m with downlinkTotal := v }) .int64,
  .of "uplink" (·.uplink) (fun v m => { m with uplink := v }) .int64,
  .of "uplink-total" (·.uplinkTotal) (fun v m => { m with uplinkTotal := v }) .int64]

def statusCodec : Codec Status := .struct statusMembers (by decide) fun _ _ => rfl

def itemMembers : List (Member OutboundGroupItem) := [
  .of "tag" (·.tag) (fun v m => { m with tag := v }) .string,
  .of "type" (·.type) (fun v m => { m with type := v }) .string,
  .of "url-test-time" (·.urlTestTime) (fun v m => { m with urlTestTime := v }) .int64,
  .of "url-test-delay" (·.urlTestDelay) (fun v m => { m with urlTestDelay := v }) .int32]

def itemCodec : Codec OutboundGroupItem := .struct itemMembers (by decide) fun _ _ => rfl

def groupMembers : List (Member OutboundGroup) := [
  .of "tag" (·.tag) (fun v m => { m with tag := v }) .string,
  .of "type" (·.type) (fun v m => { m with type := v }) .string,
  .of "selected" (·.selected) (fun v m => { m with selected := v }) .string,
  .of "items" (·.items) (fun v m => { m with items := v }) (.slice {} itemCodec)]

def groupCodec : Codec OutboundGroup := .struct groupMembers (by decide) fun _ _ => rfl

def groupsCodec : Codec (List OutboundGroup) := .slice {} groupCodec

/-! ### Callbacks -/

/-- A callback of `libbox.CommandClientHandler`. The iterators are the lists that they run through;
`WriteGroups` may be given nil. -/
inductive Callback where
  | writeStatus (message : Status)
  | writeGroups (message : Option (List OutboundGroup))
  /-- `Connected`, `WriteLog` and the others, which only log. -/
  | logged

/-- What a receiver reads. -/
inductive Message where
  | status (message : Status)
  | groups (groups : List OutboundGroup)
  deriving DecidableEq

/-- The text that a callback sends to the port of its handler. -/
def text : Callback → Option String
  | .writeStatus message => some (statusCodec.marshal message)
  | .writeGroups none => none
  | .writeGroups (some groups) => some (groupsCodec.marshal groups)
  | .logged => none

/-- `bridge.SendStringToPort`: the texts that arrived, each with its port. -/
def sendStringToPort (port : Int64) (msg : String) (arrived : List (Int64 × String)) :
    List (Int64 × String) := arrived ++ [(port, cString msg)]

/-- One callback of a handler with the given port. -/
def call (arrived : List (Int64 × String)) : Int64 × Callback → List (Int64 × String)
  | (port, callback) =>
    match text callback with
    | none => arrived
    | some msg => sendStringToPort port msg arrived

/-- The texts at a port after the callbacks of any number of handlers. -/
def received (port : Int64) (calls : List (Int64 × Callback)) : List String :=
  ((calls.foldl call []).filter (·.1 = port)).map (·.2)

/-- A document that is decoded into a new value without an error. -/
def readWith {σ : Type} (c : Codec σ) (zero : σ) (v : JsonText.Value) : Option σ :=
  match c.decode v zero with
  | (a, none) => some a
  | _ => none

/-- The receiver tells the two kinds of texts apart by their first token. -/
def readValue : JsonText.Value → Option Message
  | .arr vs => (readWith groupsCodec [] (.arr vs)).map Message.groups
  | v => (readWith statusCodec {} v).map Message.status

def read (text : String) : Option Message := (document text).bind readValue

/-- What there is to read of a callback. -/
def Callback.message : Callback → Option Message
  | .writeStatus message => some (.status message)
  | .writeGroups groups => groups.map .groups
  | .logged => none

/-! ### The receiver reads what was written -/

lemma cString_marshal {σ : Type} (c : Codec σ) (a : σ) : cString (c.marshal a) = c.marshal a :=
  cString_of_isPrintable (c.isPrintable_marshal a)

lemma readWith_encode {σ : Type} (c : Codec σ) (zero a : σ) :
    readWith c zero (c.encode a) = some a := by rw [readWith, c.decode_encode]

lemma read_status (message : Status) :
    read (cString (statusCodec.marshal message)) = some (.status message) := by
  have hvalue : readValue (statusCodec.encode message) =
      (readWith statusCodec {} (statusCodec.encode message)).map Message.status := rfl
  rw [cString_marshal, read, statusCodec.document_marshal (by decide), Option.bind_some, hvalue,
    readWith_encode]
  rfl

lemma read_groups (groups : List OutboundGroup) :
    read (cString (groupsCodec.marshal groups)) = some (.groups groups) := by
  have hvalue : readValue (groupsCodec.encode groups) =
      (readWith groupsCodec [] (groupsCodec.encode groups)).map Message.groups := rfl
  rw [cString_marshal, read, groupsCodec.document_marshal (by decide), Option.bind_some, hvalue,
    readWith_encode]
  rfl

lemma text_message (callback : Callback) :
    (text callback).map (fun msg => read (cString msg)) = callback.message.map some := by
  rcases callback with message | (_ | groups) | _
  · exact congrArg some (read_status message)
  · rfl
  · exact congrArg some (read_groups groups)
  · rfl

lemma foldl_call (calls : List (Int64 × Callback)) (arrived : List (Int64 × String)) :
    calls.foldl call arrived = arrived ++
      calls.filterMap fun c => (text c.2).map fun msg => (c.1, cString msg) := by
  induction calls generalizing arrived with
  | nil => simp
  | cons c calls ih =>
    rw [List.foldl_cons, ih, call]
    cases h : text c.2 <;> simp [h, sendStringToPort]

/-- The receiver at a port reads the messages of the callbacks of that port, and nothing else. -/
theorem read_received (port : Int64) (calls : List (Int64 × Callback)) :
    (received port calls).map read =
      ((calls.filter (·.1 = port)).filterMap (·.2.message)).map some := by
  rw [received, foldl_call, List.nil_append]
  induction calls with
  | nil => rfl
  | cons c calls ih =>
    obtain ⟨p, callback⟩ := c
    have hmessage := text_message callback
    rcases htext : text callback with _ | msg
    · rw [htext, Option.map_none, eq_comm, Option.map_eq_none_iff] at hmessage
      by_cases hp : p = port <;> simpa [hp, htext, hmessage] using ih
    · rw [htext, Option.map_some, eq_comm, Option.map_eq_some_iff] at hmessage
      obtain ⟨m, hm, hread⟩ := hmessage
      by_cases hp : p = port <;> simpa [hp, htext, hm, ← hread] using ih

end HiddifyCore.V2.OldCommandClient
