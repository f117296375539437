import HiddifyCore.GoLib.JsonStream

/-!
# Decoding JSON into structs

`json.Unmarshal` into a Go struct, field by field and in place. A value that does not fit its field
is skipped and the decoding goes on: what could be decoded stays in the target, and the first such
mismatch is the error. An `UnmarshalJSON` that fails ends the decoding where it stands, and a text
that is no document leaves the target as it was.
-/

namespace GoLib.JsonDecode

open JsonText Strings

/-- The kind of an error; the texts of the package are left out. -/
inductive DecodeError where
  /-- The text is no document. -/
  | invalid
  | mismatch
  /-- The error of an `UnmarshalJSON`. -/
  | unmarshaler
  deriving DecidableEq, Repr

universe u v

/-- What a value makes of the target, and the error. -/
def Decoder (σ : Type u) : Type u := Value → σ → σ × Option DecodeError

structure StructField (σ : Type u) where
  name : String
  decode : Decoder σ

variable {σ : Type u} {τ : Type v}

/-- A field of the target's own type is decoded in place. -/
def StructField.of (name : String) (get : σ → τ) (set : τ → σ → σ) (decode : Decoder τ) :
    StructField σ where
  name := name
  decode v s := (decode v (get s)).map (set · s) id

/-- A decoding in place meets no error when the decoding of the part does. -/
lemma map_eq_none {f : τ → σ} {r : τ × Option DecodeError} {s : σ} :
    r.map f id = (s, none) ↔ ∃ t, r = (t, none) ∧ s = f t := by
  obtain ⟨t, err⟩ := r
  constructor
  · intro h
    cases h
    exact ⟨t, rfl, rfl⟩
  · rintro ⟨t', heq, rfl⟩
    cases heq
    rfl

/-! ### Scalars -/

def bool : Decoder Bool
  | .bool b, _ => (b, none)
  | .null, old => (old, none)
  | _, old => (old, some .mismatch)

def string : Decoder String
  | .str s, _ => (s, none)
  | .null, old => (old, none)
  | _, old => (old, some .mismatch)

/-- An unsigned integer below the bound. -/
def uint (bound : Nat) (ofNat : Nat → τ) : Decoder τ
  | .num literal, old =>
    match unsigned literal.toList with
    | some n => if n < bound then (ofNat n, none) else (old, some .mismatch)
    | none => (old, some .mismatch)
  | .null, old => (old, none)
  | _, old => (old, some .mismatch)

def int : Decoder Int
  | .num literal, old =>
    match atoi literal with
    | some i => (i, none)
    | none => (old, some .mismatch)
  | .null, old => (old, none)
  | _, old => (old, some .mismatch)

/-- A type with an `UnmarshalJSON`, which is called with null too. -/
def custom (unmarshalJSON : Value → Option τ) : Decoder τ := fun v old =>
  match unmarshalJSON v with
  | some new => (new, none)
  | none => (old, some .unmarshaler)

/-! ### Structs and slices -/

/-- The letter that stands for those with the same simple fold, for keys of ASCII letters. -/
def foldRune (c : Char) : Char :=
  if c = 'ſ' then 'S' else if c = 'K' then 'K' else c.toUpper

def foldName (name : String) : List Char := name.toList.map foldRune

/-- The field of a key: the one of that name, or else the first one that differs in case only. -/
def fieldFor (fields : List (StructField σ)) (key : String) : Option (StructField σ) :=
  (fields.find? (·.name = key)).or (fields.find? (foldName ·.name = foldName key))

/-- Of two errors the first one, unless the second one ended the decoding. -/
def firstError (err err' : Option DecodeError) : Option DecodeError :=
  if err' = some .unmarshaler then err' else err.or err'

/-- The members of an object in their order. Other keys are skipped. -/
def members (fields : List (StructField σ)) : List (String × Value) → σ → σ × Option DecodeError
  | [], s => (s, none)
  | (key, v) :: ms, s =>
    match fieldFor fields key with
    | none => members fields ms s
    | some field =>
      match field.decode v s with
      | (t, some .unmarshaler) => (t, some .unmarshaler)
      | (t, err) => (members fields ms t).map id (firstError err)

lemma firstError_eq_none {err err' : Option DecodeError} :
    firstError err err' = none ↔ err = none ∧ err' = none := by
  rcases err' with - | - | - | - <;> simp [firstError]

/-- Without an error, every member that has a field was decoded without one. -/
lemma members_snd_eq_none {fields : List (StructField σ)} {ms : List (String × Value)} {s : σ}
    (h : (members fields ms s).2 = none) {key : String} {v : Value} (hmem : (key, v) ∈ ms)
    {field : StructField σ} (hfield : fieldFor fields key = some field) :
    ∃ u, (field.decode v u).2 = none := by
  induction ms generalizing s with
  | nil => cases hmem
  | cons m ms ih =>
    obtain ⟨key', v'⟩ := m
    simp only [members] at h
    rcases List.mem_cons.mp hmem with heq | hmem
    · cases heq
      rw [hfield] at h
      simp only at h
      split at h
      · cases h
      · next heq =>
        refine ⟨s, ?_⟩
        rw [heq]
        exact (firstError_eq_none.mp h).1
    · split at h
      · exact ih h hmem
      · split at h
        · cases h
        · exact ih (firstError_eq_none.mp h).2 hmem

def struct (fields : List (StructField σ)) : Decoder σ
  | .obj ms, s => members fields ms s
  | .null, s => (s, none)
  | _, s => (s, some .mismatch)

/-- The elements are appended to the ones that were decoded. -/
def elements (zero : τ) (decode : Decoder τ) : List Value → List τ → List τ × Option DecodeError
  | [], done => (done, none)
  | v :: vs, done =>
    match decode v zero with
    | (a, some .unmarshaler) => (done ++ [a], some .unmarshaler)
    | (a, err) => (elements zero decode vs (done ++ [a])).map id (firstError err)

def slice (zero : τ) (decode : Decoder τ) : Decoder (List τ)
  | .arr vs, _ => elements zero decode vs []
  | .null, _ => ([], none)
  | _, old => (old, some .mismatch)

/-! ### Documents -/

/-- The document of a text, which is checked before anything is decoded. -/
def document (text : String) : Option Value :=
  (JsonText.decode text).filter (depth · ≤ JsonStream.maxNestingDepth)

/-- `json.Unmarshal`. -/
def unmarshal (decode : Decoder σ) (text : String) (s : σ) : σ × Option DecodeError :=
  match document text with
  | some v => decode v s
  | none => (s, some .invalid)

end GoLib.JsonDecode
