import HiddifyCore.GoLib.JsonLex

/-!
# JSON documents

The grammatical half of RFC 8259. The parser recurses on a fuel that the number of tokens always
suffices for, and a document is read from exactly one list of tokens (`parse_eq_some`), so that
facts about a decoded document are facts about the tokens of its text. An object keeps its members
as they are written; reading one takes the last of that name, as a decoder that overwrites does.
-/

namespace GoLib.JsonText

inductive Value where
  | null
  | bool (b : Bool)
  | num (literal : String)
  | str (s : String)
  | arr (xs : List Value)
  | obj (members : List (String × Value))
  deriving Repr

/-! ### Reading and editing a document -/

namespace Value

/-- The value of the last member called `key`. -/
def get? (key : String) : Value → Option Value
  | .obj members => members.reverse.lookup key
  | _ => none

def elem? (i : Nat) : Value → Option Value
  | .arr xs => xs[i]?
  | _ => none

/-- Change every member called `key`. -/
def modifyMember (key : String) (f : Value → Value) : Value → Value
  | .obj members => .obj (members.map fun m => if m.1 = key then (m.1, f m.2) else m)
  | v => v

def modifyElem (i : Nat) (f : Value → Value) : Value → Value
  | .arr xs => .arr (xs.modify i f)
  | v => v

def erase (keys : List String) : Value → Value
  | .obj members => .obj (members.filter fun m => m.1 ∉ keys)
  | v => v

end Value

/-! ### Tokens of a document -/

mutual

def tokens : Value → List Token
  | .null => [.null]
  | .bool b => [.bool b]
  | .num literal => [.num literal]
  | .str s => [.str s]
  | .arr [] => [.lbracket, .rbracket]
  | .arr (v :: vs) => .lbracket :: (tokens v ++ elementTokens vs ++ [.rbracket])
  | .obj [] => [.lbrace, .rbrace]
  | .obj (m :: ms) => .lbrace :: (memberTokens m ++ membersTokens ms ++ [.rbrace])

/-- The elements of an array behind the first one. -/
def elementTokens : List Value → List Token
  | [] => []
  | v :: vs => .comma :: (tokens v ++ elementTokens vs)

def memberTokens : String × Value → List Token
  | (k, v) => .str k :: .colon :: tokens v

/-- The members of an object behind the first one. -/
def membersTokens : List (String × Value) → List Token
  | [] => []
  | m :: ms => .comma :: (memberTokens m ++ membersTokens ms)

end

/-! ### The parser -/

mutual

def value : Nat → List Token → Option (Value × List Token)
  | 0, _ => none
  | _ + 1, .null :: ts => some (.null, ts)
  | _ + 1, .bool b :: ts => some (.bool b, ts)
  | _ + 1, .num literal :: ts => some (.num literal, ts)
  | _ + 1, .str s :: ts => some (.str s, ts)
  | _ + 1, .lbracket :: .rbracket :: ts => some (.arr [], ts)
  | n + 1, .lbracket :: ts => do
    let (v, ts) ← value n ts
    let (vs, ts) ← elements n ts
    some (.arr (v :: vs), ts)
  | _ + 1, .lbrace :: .rbrace :: ts => some (.obj [], ts)
  | n + 1, .lbrace :: .str k :: .colon :: ts => do
    let (v, ts) ← value n ts
    let (ms, ts) ← members n ts
    some (.obj ((k, v) :: ms), ts)
  | _ + 1, _ => none

def elements : Nat → List Token → Option (List Value × List Token)
  | 0, _ => none
  | _ + 1, .rbracket :: ts => some ([], ts)
  | n + 1, .comma :: ts => do
    let (v, ts) ← value n ts
    let (vs, ts) ← elements n ts
    some (v :: vs, ts)
  | _ + 1, _ => none

def members : Nat → List Token → Option (List (String × Value) × List Token)
  | 0, _ => none
  | _ + 1, .rbrace :: ts => some ([], ts)
  | n + 1, .comma :: .str k :: .colon :: ts => do
    let (v, ts) ← value n ts
    let (ms, ts) ← members n ts
    some ((k, v) :: ms, ts)
  | _ + 1, _ => none

end

/-- A document and nothing behind it. -/
def parse (ts : List Token) : Option Value :=
  match value ts.length ts with
  | some (v, []) => some v
  | _ => none

def decode (text : String) : Option Value := do
  let ts ← lex text.toList
  parse ts

/-! ### The parser reads the tokens of a document -/

/-- What the parser has read is the tokens of its result, by induction on the fuel. -/
lemma value_sound (n : Nat) :
    (∀ ts v rest, value n ts = some (v, rest) → ts = tokens v ++ rest) ∧
    (∀ ts vs rest, elements n ts = some (vs, rest) → ts = elementTokens vs ++ .rbracket :: rest) ∧
    (∀ ts ms rest, members n ts = some (ms, rest) → ts = membersTokens ms ++ .rbrace :: rest) := by
  induction n with
  | zero => refine ⟨?_, ?_, ?_⟩ <;> intro ts v rest h <;> simp [value, elements, members] at h
  | succ n ih =>
    obtain ⟨ihv, ihe, ihm⟩ := ih
    refine ⟨?_, ?_, ?_⟩
    · intro ts v rest h
      rw [value.eq_def] at h
      split at h <;> first | cases h <;> rfl | skip
      · next n' ts _ heq =>
        obtain rfl : n = n' := Nat.succ.inj heq
        obtain ⟨⟨w, ts₁⟩, hw, h⟩ := Option.bind_eq_some_iff.mp h
        obtain ⟨⟨ws, ts₂⟩, hws, h⟩ := Option.bind_eq_some_iff.mp h
        cases h
        rw [ihv _ _ _ hw, ihe _ _ _ hws]
        simp [tokens]
      · next n' k ts heq =>
        obtain rfl : n = n' := Nat.succ.inj heq
        obtain ⟨⟨w, ts₁⟩, hw, h⟩ := Option.bind_eq_some_iff.mp h
        obtain ⟨⟨ms, ts₂⟩, hms, h⟩ := Option.bind_eq_some_iff.mp h
        cases h
        rw [ihv _ _ _ hw, ihm _ _ _ hms]
        simp [tokens, memberTokens]
    · intro ts vs rest h
      rw [elements.eq_def] at h
      split at h <;> first | cases h <;> rfl | skip
      next n' ts heq =>
      obtain rfl : n = n' := Nat.succ.inj heq
      obtain ⟨⟨w, ts₁⟩, hw, h⟩ := Option.bind_eq_some_iff.mp h
      obtain ⟨⟨ws, ts₂⟩, hws, h⟩ := Option.bind_eq_some_iff.mp h
      cases h
      rw [ihv _ _ _ hw, ihe _ _ _ hws]
      simp [elementTokens]
    · intro ts ms rest h
      rw [members.eq_def] at h
      split at h <;> first | cases h <;> rfl | skip
      next n' k ts heq =>
      obtain rfl : n = n' := Nat.succ.inj heq
      obtain ⟨⟨w, ts₁⟩, hw, h⟩ := Option.bind_eq_some_iff.mp h
      obtain ⟨⟨ws, ts₂⟩, hws, h⟩ := Option.bind_eq_some_iff.mp h
      cases h
      rw [ihv _ _ _ hw, ihm _ _ _ hws]
      simp [membersTokens, memberTokens]

lemma tokens_ne_rbracket (v : Value) (rest ts : List Token) :
    tokens v ++ rest ≠ .rbracket :: ts := by
  rcases v with _ | _ | _ | _ | (_ | _) | (_ | _) <;> simp [tokens]

lemma tokens_length_pos (v : Value) : 0 < (tokens v).length := by
  rcases v with _ | _ | _ | _ | (_ | _) | (_ | _) <;> simp [tokens]

/-- Enough fuel reads the tokens of a document back, by induction on the fuel. -/
lemma value_complete (n : Nat) :
    (∀ v rest, (tokens v).length ≤ n → value n (tokens v ++ rest) = some (v, rest)) ∧
    (∀ vs rest, (elementTokens vs).length < n →
      elements n (elementTokens vs ++ .rbracket :: rest) = some (vs, rest)) ∧
    (∀ ms rest, (membersTokens ms).length < n →
      members n (membersTokens ms ++ .rbrace :: rest) = some (ms, rest)) := by
  induction n with
  | zero =>
    refine ⟨fun v rest h => ?_, by simp, by simp⟩
    have := tokens_length_pos v
    omega
  | succ n ih =>
    obtain ⟨ihv, ihe, ihm⟩ := ih
    refine ⟨?_, ?_, ?_⟩
    · intro v rest h
      rcases v with _ | b | literal | s | (_ | ⟨v, vs⟩) | (_ | ⟨⟨k, v⟩, ms⟩)
      case arr.cons =>
        simp only [tokens, List.length_cons, List.length_append, List.length_nil] at h
        have hv := ihv v (elementTokens vs ++ .rbracket :: rest) (by omega)
        have hvs := ihe vs rest (by omega)
        have htokens : tokens (.arr (v :: vs)) ++ rest
            = .lbracket :: (tokens v ++ (elementTokens vs ++ .rbracket :: rest)) := by
          simp [tokens]
        rw [htokens, value]
        · simp [hv, hvs]
        · exact tokens_ne_rbracket _ _
      case obj.cons =>
        simp only [tokens, memberTokens, List.length_cons, List.length_append,
          List.length_nil] at h
        have hv := ihv v (membersTokens ms ++ .rbrace :: rest) (by omega)
        have hms := ihm ms rest (by omega)
        have htokens : tokens (.obj ((k, v) :: ms)) ++ rest
            = .lbrace :: .str k :: .colon ::
                (tokens v ++ (membersTokens ms ++ .rbrace :: rest)) := by
          simp [tokens, memberTokens]
        rw [htokens, value]
        simp [hv, hms]
      all_goals simp [tokens, value]
    · intro vs rest h
      cases vs with
      | nil => simp [elementTokens, elements]
      | cons v vs =>
        simp only [elementTokens, List.length_cons, List.length_append] at h
        have hv := ihv v (elementTokens vs ++ .rbracket :: rest) (by omega)
        have hvs := ihe vs rest (by omega)
        simp [elementTokens, elements, hv, hvs]
    · intro ms rest h
      rcases ms with _ | ⟨⟨k, v⟩, ms⟩
      · simp [membersTokens, members]
      · simp only [membersTokens, memberTokens, List.length_cons, List.length_append] at h
        have hv := ihv v (membersTokens ms ++ .rbrace :: rest) (by omega)
        have hms := ihm ms rest (by omega)
        simp [membersTokens, memberTokens, members, hv, hms]

/-- A list of tokens is a document exactly when it is the list of that document's tokens. -/
theorem parse_eq_some {ts : List Token} {v : Value} : parse ts = some v ↔ ts = tokens v := by
  constructor
  · intro h
    simp only [parse] at h
    split at h
    · next v' heq =>
      cases h
      simpa using (value_sound _).1 _ _ _ heq
    · cases h
  · rintro rfl
    have h := (value_complete _).1 v [] le_rfl
    rw [List.append_nil] at h
    simp [parse, h]

lemma decode_eq_some {text : String} {v : Value} :
    decode text = some v ↔ lex text.toList = some (tokens v) := by
  simp only [decode, Option.bind_eq_bind, Option.bind_eq_some_iff, parse_eq_some]
  constructor
  · rintro ⟨ts, hts, rfl⟩
    exact hts
  · intro h
    exact ⟨_, h, rfl⟩

lemma decode_ofList {cs : List Char} {v : Value} :
    decode (String.ofList cs) = some v ↔ lexFrom .between cs = some (tokens v) := by
  rw [decode_eq_some, String.toList_ofList]
  rfl

lemma tokens_num {v : Value} {toks : List Token} {literal : String}
    (h : tokens v = toks ++ [.num literal]) : toks = [] ∧ v = .num literal := by
  have hlast := congrArg List.getLast? h
  have hconcat (t : Token) (us : List Token) (u : Token) :
      (t :: (us ++ [u])).getLast? = some u := by
    rw [← List.cons_append, List.getLast?_concat]
  rcases v with _ | b | literal' | x | (_ | ⟨v, vs⟩) | (_ | ⟨m, ms⟩)
  case num =>
    simp only [tokens, List.getLast?_singleton, List.getLast?_concat, Option.some.injEq,
      Token.num.injEq] at hlast
    subst hlast
    exact ⟨List.self_eq_append_left.mp h, rfl⟩
  case arr.cons =>
    rw [tokens, hconcat, List.getLast?_concat] at hlast
    cases hlast
  case obj.cons =>
    rw [tokens, hconcat, List.getLast?_concat] at hlast
    cases hlast
  all_goals simp [tokens] at hlast

/-- No document begins with another one. -/
lemma tokens_append {u v : Value} {ts : List Token} (h : tokens u = tokens v ++ ts) : ts = [] := by
  have hv := (value_complete (tokens u).length).1 v ts (by simp [h])
  have hu := (value_complete (tokens u).length).1 u [] le_rfl
  rw [← h] at hv
  rw [List.append_nil, hv, Option.some.injEq, Prod.mk.injEq] at hu
  exact hu.2

/-! ### The depth of a document -/

mutual

/-- How deep arrays and objects are nested. -/
def depth : Value → Nat
  | .arr xs => depths xs + 1
  | .obj members => memberDepths members + 1
  | .null | .bool _ | .num _ | .str _ => 0

def depths : List Value → Nat
  | [] => 0
  | v :: vs => max (depth v) (depths vs)

def memberDepths : List (String × Value) → Nat
  | [] => 0
  | (_, v) :: members => max (depth v) (memberDepths members)

end

/-! ### The strings of a document -/

lemma tokens_subset_arr {v : Value} {vs : List Value} (h : v ∈ vs) :
    tokens v ⊆ tokens (.arr vs) := by
  have helements : ∀ vs : List Value, v ∈ vs → tokens v ⊆ elementTokens vs := by
    intro vs hv
    induction vs with
    | nil => cases hv
    | cons w ws ih =>
      intro t ht
      rcases List.mem_cons.mp hv with rfl | hv
      · simp [elementTokens, ht]
      · simp [elementTokens, ih hv ht]
  cases vs with
  | nil => cases h
  | cons w ws =>
    intro t ht
    rcases List.mem_cons.mp h with rfl | h
    · simp [tokens, ht]
    · simp [tokens, helements ws h ht]

lemma tokens_subset_obj {k : String} {v : Value} {ms : List (String × Value)} (h : (k, v) ∈ ms) :
    tokens v ⊆ tokens (.obj ms) := by
  have hmembers : ∀ ms : List (String × Value), (k, v) ∈ ms → tokens v ⊆ membersTokens ms := by
    intro ms hv
    induction ms with
    | nil => cases hv
    | cons w ws ih =>
      intro t ht
      rcases List.mem_cons.mp hv with rfl | hv
      · simp [membersTokens, memberTokens, ht]
      · simp [membersTokens, ih hv ht]
  cases ms with
  | nil => cases h
  | cons w ws =>
    intro t ht
    rcases List.mem_cons.mp h with rfl | h
    · simp [tokens, memberTokens, ht]
    · simp [tokens, hmembers ws h ht]

lemma Value.tokens_get? {key : String} {v w : Value} (h : v.get? key = some w) :
    tokens w ⊆ tokens v := by
  cases v with
  | obj ms =>
    obtain ⟨l₁, l₂, hms, -⟩ := List.lookup_eq_some_iff.mp h
    have hlast : (key, w) ∈ ms.reverse := hms ▸ List.mem_append_right l₁ List.mem_cons_self
    exact tokens_subset_obj (List.mem_reverse.mp hlast)
  | _ => cases h

lemma Value.tokens_elem? {i : Nat} {v w : Value} (h : v.elem? i = some w) :
    tokens w ⊆ tokens v := by
  cases v with
  | arr vs => exact tokens_subset_arr (List.mem_of_getElem? h)
  | _ => cases h

end GoLib.JsonText
