import Mathlib.Tactic.Common

/-!
# The syntax of Go's regular expressions

The expressions that `regexp.Compile` of Go 1.22 accepts. A lexer cuts a text into tokens, and a
parser with a stack of open groups makes an expression of them. A character keeps the form in which
it was written, because a letter and its escape by a code are changed differently by an edit of the
text. The limits on the nesting of groups and on the size of a program are left out.
-/

namespace GoLib.Regexp

/-! ### Expressions -/

/-- A character of an expression: itself, or an escape for its code. -/
inductive Point where
  | char (c : Char)
  | code (n : Nat)
  deriving DecidableEq, Repr

def Point.value : Point → Nat
  | .char c => c.toNat
  | .code n => n

inductive ClassItem where
  | range (lo hi : Point)
  /-- `\d`, `\s`, `\w` or, with a capital letter, what it leaves out. -/
  | perl (c : Char)
  /-- `[:name:]`. -/
  | posix (neg : Bool) (name : String)
  /-- `\p{name}`. -/
  | table (neg : Bool) (name : String)
  deriving DecidableEq, Repr

/-- The characters of the items, or the others. -/
structure CharClass where
  neg : Bool := false
  items : List ClassItem
  deriving DecidableEq, Repr

def CharClass.ofPoint (p : Point) : CharClass := { items := [.range p p] }

inductive Assertion where
  | beginText | endText | beginLine | endLine | wordBoundary | noWordBoundary
  deriving DecidableEq, Repr

/-- An expression. Whether a class ignores the case is left open where no flag of the expression
says so. How much a repetition prefers to take is left out. -/
inductive Expr where
  | empty
  | atom (fold : Option Bool) (a : CharClass)
  | any (newline : Bool)
  | assert (a : Assertion)
  | concat (r t : Expr)
  | alt (r t : Expr)
  | rep (min : Nat) (max : Option Nat) (r : Expr)
  deriving DecidableEq, Repr

/-! ### Tokens -/

inductive Flag where
  /-- `i`. -/
  | fold
  /-- `m`. -/
  | multiLine
  /-- `s`. -/
  | dotNL
  /-- `U`. -/
  | nonGreedy
  deriving DecidableEq, Repr

inductive Token where
  | atom (a : CharClass)
  /-- `\Q` to `\E`. -/
  | quote (as : List CharClass)
  | dot | caret | dollar
  /-- `\A` and `\z`. -/
  | beginText | endText
  /-- `\b` and `\B`. -/
  | boundary (neg : Bool)
  | rep (min : Nat) (max : Option Nat)
  | bar | openGroup | closeGroup
  /-- `(?<name>`, or the older `(?P<name>`. -/
  | named (withP : Bool)
  /-- `(?flags:` and `(?flags)`. -/
  | openFlags (fs : List (Flag × Bool))
  | setFlags (fs : List (Flag × Bool))
  deriving DecidableEq, Repr

/-- What is left behind the character `p`. -/
def strip (p : Char) : List Char → Option (List Char)
  | [] => none
  | c :: cs => if c = p then some cs else none

/-! ### Counts -/

def digitOf (c : Char) : Nat := c.toNat - '0'.toNat

def intOf (digits : List Char) : Nat := digits.foldl (fun n c => 10 * n + digitOf c) 0

/-- A number without leading zeros. -/
def lexInt (cs : List Char) : Option (Nat × List Char) :=
  let digits := cs.takeWhile Char.isDigit
  if digits = [] ∨ (digits.head? = some '0' ∧ digits ≠ ['0']) then none
  else some (intOf digits, cs.dropWhile Char.isDigit)

/-- The rest of a repetition behind `{`. What has another form is a literal brace. -/
def lexCount (cs : List Char) : Option ((Nat × Option Nat) × List Char) :=
  match lexInt cs with
  | none => none
  | some (min, cs) =>
    match strip ',' cs with
    | none => (strip '}' cs).map fun rest => ((min, some min), rest)
    | some cs =>
      match strip '}' cs with
      | some rest => some ((min, none), rest)
      | none =>
        match lexInt cs with
        | none => none
        | some (max, cs) => (strip '}' cs).map fun rest => ((min, some max), rest)

/-! ### Escapes -/

def isOctal (c : Char) : Bool := '0' ≤ c ∧ c ≤ '7'

def hexValue (c : Char) : Option Nat :=
  if c.isDigit then some (digitOf c)
  else if 'a' ≤ c ∧ c ≤ 'f' then some (c.toNat - 'a'.toNat + 10)
  else if 'A' ≤ c ∧ c ≤ 'F' then some (c.toNat - 'A'.toNat + 10)
  else none

/-- At most `k` more octal digits. -/
def lexOctal : Nat → Nat → List Char → Point × List Char
  | 0, n, cs => (.code n, cs)
  | _ + 1, n, [] => (.code n, [])
  | k + 1, n, c :: cs => if isOctal c then lexOctal k (8 * n + digitOf c) cs else (.code n, c :: cs)

/-- Hexadecimal digits up to the closing brace. -/
def lexBraced (found : Bool) (n : Nat) : List Char → Option (Point × List Char)
  | [] => none
  | c :: cs =>
    if c = '}' then if found then some (.code n, cs) else none
    else
      match hexValue c with
      | none => none
      | some v => if 16 * n + v > 0x10FFFF then none else lexBraced true (16 * n + v) cs

/-- Two digits, or any number of them in braces. -/
def lexHex (cs : List Char) : Option (Point × List Char) :=
  match strip '{' cs with
  | some cs => lexBraced false 0 cs
  | none =>
    match cs with
    | c :: d :: cs =>
      match hexValue c, hexValue d with
      | some v, some w => some (.code (16 * v + w), cs)
      | _, _ => none
    | _ => none

def controlCode (c : Char) : Option Nat :=
  if c = 'a' then some 7
  else if c = 'f' then some 12
  else if c = 'n' then some 10
  else if c = 'r' then some 13
  else if c = 't' then some 9
  else if c = 'v' then some 11
  else none

/-- `parseEscape`, behind the backslash. A digit other than 0 needs another one: there are no
backreferences. -/
def lexEscape : List Char → Option (Point × List Char)
  | [] => none
  | c :: cs =>
    if isOctal c then
      if c ≠ '0' ∧ (cs.head?.all fun d => !isOctal d) then none
      else some (lexOctal 2 (digitOf c) cs)
    else if c = 'x' then lexHex cs
    else
      match controlCode c with
      | some n => some (.code n, cs)
      | none => if c.toNat < 128 ∧ c.isAlphanum = false then some (.code c.toNat, cs) else none

/-! ### Classes -/

/-- The characters of the classes `[:name:]`, as ranges. -/
def posixClasses : List (String × List (Char × Char)) :=
  [("alnum", [('0', '9'), ('A', 'Z'), ('a', 'z')]),
    ("alpha", [('A', 'Z'), ('a', 'z')]),
    ("ascii", [('\x00', '\x7f')]),
    ("blank", [('\t', '\t'), (' ', ' ')]),
    ("cntrl", [('\x00', '\x1f'), ('\x7f', '\x7f')]),
    ("digit", [('0', '9')]),
    ("graph", [('!', '~')]),
    ("lower", [('a', 'z')]),
    ("print", [(' ', '~')]),
    ("punct", [('!', '/'), (':', '@'), ('[', '\x60'), ('\x7b', '~')]),
    ("space", [('\t', '\r'), (' ', ' ')]),
    ("upper", [('A', 'Z')]),
    ("word", [('0', '9'), ('A', 'Z'), ('a', 'z'), ('_', '_')]),
    ("xdigit", [('0', '9'), ('A', 'F'), ('a', 'f')])]

/-- What is before and behind the next `:]`. -/
def cutPosix : List Char → Option (List Char × List Char)
  | [] => none
  | c :: cs =>
    match if c = ':' then strip ']' cs else none with
    | some rest => some ([], rest)
    | none => (cutPosix cs).map fun (name, rest) => (c :: name, rest)

/-- A leading caret negates a name. -/
def negated (name : List Char) : Bool × List Char :=
  match strip '^' name with
  | some name => (true, name)
  | none => (false, name)

def posixItem (name : List Char) : Option ClassItem :=
  if (posixClasses.lookup (String.ofList (negated name).2)).isSome then
    some (.posix (negated name).1 (String.ofList (negated name).2))
  else
    none

section Tables

-- the names of the Unicode categories and scripts
variable (isTable : String → Bool)

/-- `parseUnicodeClass`, behind the letter. -/
def lexTable (neg : Bool) : List Char → Option (ClassItem × List Char)
  | [] => none
  | c :: cs =>
    let (name, rest) :=
      if c = '{' then (cs.takeWhile (· ≠ '}'), strip '}' (cs.dropWhile (· ≠ '}')))
      else ([c], some cs)
    match rest with
    | none => none
    | some rest =>
      if isTable (String.ofList (negated name).2) then
        some (.table (neg != (negated name).1) (String.ofList (negated name).2), rest)
      else
        none

def isPerl (c : Char) : Bool := c ∈ ['d', 'D', 's', 'S', 'w', 'W']

/-- A class that an escape names, behind the backslash. -/
def lexNamedClass : List Char → Option (Option (ClassItem × List Char))
  | [] => none
  | c :: cs =>
    if c = 'p' ∨ c = 'P' then some (lexTable isTable (c = 'P') cs)
    else if isPerl c then some (some (.perl c, cs))
    else none

def lexPoint : List Char → Option (Point × List Char)
  | [] => none
  | c :: cs => if c = '\\' then lexEscape cs else some (.char c, cs)

/-- `lo-hi`, or one character. A dash before the closing bracket stands for itself. -/
def lexRange (cs : List Char) : Option (ClassItem × List Char) :=
  match lexPoint cs with
  | none => none
  | some (lo, cs) =>
    match strip '-' cs with
    | none | some [] => some (.range lo lo, cs)
    | some (c :: rest) =>
      if c = ']' then some (.range lo lo, cs)
      else
        match lexPoint (c :: rest) with
        | none => none
        | some (hi, rest) => if hi.value < lo.value then none else some (.range lo hi, rest)

def lexItem : List Char → Option (ClassItem × List Char)
  | [] => none
  | c :: cs =>
    match if c = '[' then (strip ':' cs).bind cutPosix else none with
    | some (name, rest) => (posixItem name).map fun item => (item, rest)
    | none =>
      match if c = '\\' then lexNamedClass isTable cs else none with
      | some result => result
      | none => lexRange (c :: cs)

/-- The items up to the closing bracket, which can be the first of them. -/
def lexItems : Nat → Bool → List Char → Option (List ClassItem × List Char)
  | 0, _, _ => none
  | n + 1, first, cs =>
    match if first then none else strip ']' cs with
    | some rest => some ([], rest)
    | none =>
      match lexItem isTable cs with
      | none => none
      | some (item, cs) =>
        match lexItems n false cs with
        | none => none
        | some (items, rest) => some (item :: items, rest)

/-- `parseClass`, behind the bracket. -/
def lexClass (cs : List Char) : Option (Token × List Char) :=
  match strip '^' cs with
  | some cs =>
    (lexItems isTable cs.length true cs).map (Prod.map (fun items => .atom ⟨true, items⟩) id)
  | none =>
    (lexItems isTable cs.length true cs).map (Prod.map (fun items => .atom ⟨false, items⟩) id)

/-! ### Groups -/

def isWordChar (c : Char) : Bool := c.isAlphanum || c = '_'

/-- The name of a group up to the closing bracket. -/
def lexName (withP : Bool) (cs : List Char) : Option (Token × List Char) :=
  let name := cs.takeWhile (· ≠ '>')
  if name ≠ [] ∧ name.all isWordChar then
    (strip '>' (cs.dropWhile (· ≠ '>'))).map fun rest => (.named withP, rest)
  else
    none

def flagOf (c : Char) : Option Flag :=
  if c = 'i' then some .fold
  else if c = 'm' then some .multiLine
  else if c = 's' then some .dotNL
  else if c = 'U' then some .nonGreedy
  else none

/-- The flags of a group: those behind a dash are cleared, and a dash needs a flag. -/
def lexFlags (neg found : Bool) (fs : List (Flag × Bool)) : List Char → Option (Token × List Char)
  | [] => none
  | c :: cs =>
    if c = ':' then if neg ∧ !found then none else some (.openFlags fs, cs)
    else if c = ')' then if neg ∧ !found then none else some (.setFlags fs, cs)
    else if c = '-' then if neg then none else lexFlags true false fs cs
    else
      match flagOf c with
      | some f => lexFlags neg true (fs ++ [(f, !neg)]) cs
      | none => none

/-- `parsePerlFlags`, behind `(?`. -/
def lexGroup (cs : List Char) : Option (Token × List Char) :=
  match (strip 'P' cs).bind (strip '<') with
  | some cs => lexName true cs
  | none =>
    match strip '<' cs with
    | some cs => lexName false cs
    | none => lexFlags false false [] cs

/-! ### The lexer -/

/-- The text up to `\E`. -/
def cutQuote : List Char → List Char × List Char
  | [] => ([], [])
  | c :: cs =>
    match if c = '\\' then strip 'E' cs else none with
    | some rest => ([], rest)
    | none => (c :: (cutQuote cs).1, (cutQuote cs).2)

/-- An escape outside of a class, behind the backslash. -/
def lexBackslash : List Char → Option (Token × List Char)
  | [] => none
  | c :: cs =>
    if c = 'A' then some (.beginText, cs)
    else if c = 'z' then some (.endText, cs)
    else if c = 'b' then some (.boundary false, cs)
    else if c = 'B' then some (.boundary true, cs)
    else if c = 'Q' then
      some (.quote ((cutQuote cs).1.map fun c => .ofPoint (.char c)), (cutQuote cs).2)
    else
      match lexNamedClass isTable (c :: cs) with
      | some result => result.map fun (item, rest) => (.atom { items := [item] }, rest)
      | none => (lexEscape (c :: cs)).map fun (p, rest) => (.atom (.ofPoint p), rest)

/-- A repetition may be followed by a mark that makes it lazy. -/
def lexRep (min : Nat) (max : Option Nat) (cs : List Char) : Token × List Char :=
  (.rep min max, (strip '?' cs).getD cs)

/-- The tokens of one character. -/
def markOf (c : Char) : Option Token :=
  if c = ')' then some .closeGroup
  else if c = '|' then some .bar
  else if c = '^' then some .caret
  else if c = '$' then some .dollar
  else if c = '.' then some .dot
  else none

/-- The repetitions of one character. -/
def countOf (c : Char) : Option (Nat × Option Nat) :=
  if c = '*' then some (0, none)
  else if c = '+' then some (1, none)
  else if c = '?' then some (0, some 1)
  else none

def lexToken : List Char → Option (Token × List Char)
  | [] => none
  | c :: cs =>
    if c = '(' then
      match strip '?' cs with
      | some cs => lexGroup cs
      | none => some (.openGroup, cs)
    else if c = '[' then lexClass isTable cs
    else if c = '\\' then lexBackslash isTable cs
    else
      match markOf c, countOf c, if c = '{' then lexCount cs else none with
      | some t, _, _ => some (t, cs)
      | none, some (min, max), _ => some (lexRep min max cs)
      | none, none, some ((min, max), rest) => some (lexRep min max rest)
      | none, none, none => some (.atom (.ofPoint (.char c)), cs)

/-- Every token takes a character, so the length of the text is fuel enough. -/
def lex : Nat → List Char → Option (List Token)
  | _, [] => some []
  | 0, _ :: _ => none
  | n + 1, c :: cs =>
    match lexToken isTable (c :: cs) with
    | none => none
    | some (t, rest) => (lex n rest).map (t :: ·)

end Tables

/-! ### The parser -/

structure Flags where
  fold : Option Bool := none
  multiLine : Bool := false
  dotNL : Bool := false
  deriving DecidableEq, Repr

def Flags.setFlag (fs : Flags) : Flag × Bool → Flags
  | (.fold, b) => { fs with fold := some b }
  | (.multiLine, b) => { fs with multiLine := b }
  | (.dotNL, b) => { fs with dotNL := b }
  | (.nonGreedy, _) => fs

/-- The alternatives that are complete and the factors of the next one, the last ones first. -/
structure Level where
  alts : List Expr := []
  factors : List Expr := []

def concatAll (factors : List Expr) : Expr := factors.foldl (fun acc r => .concat r acc) .empty

def Level.expr (l : Level) : Expr :=
  l.alts.foldl (fun acc r => .alt r acc) (concatAll l.factors)

def Level.push (r : Expr) (l : Level) : Level := { l with factors := r :: l.factors }

structure ParseState where
  flags : Flags := {}
  level : Level := {}
  /-- The open groups, with the flags from before them. -/
  outer : List (Flags × Level) := []
  afterRep : Bool := false

namespace ParseState

def push (r : Expr) (s : ParseState) : ParseState :=
  { s with level := s.level.push r, afterRep := false }

def enter (flags : Flags) (s : ParseState) : ParseState :=
  { flags := flags, level := {}, outer := (s.flags, s.level) :: s.outer, afterRep := false }

end ParseState

/-- `repeatIsValid`: the counts of nested repetitions multiply. -/
def Expr.fits : Expr → Nat → Bool
  | .empty, _ | .atom _ _, _ | .any _, _ | .assert _, _ => true
  | .concat r t, n | .alt r t, n => r.fits n && t.fits n
  | .rep min max r, n =>
    if max = some 0 then true
    else if max.getD min > n then false
    else r.fits (if max.getD min = 0 then n else n / max.getD min)

/-- One repetition of the last factor. A second one behind it is an error. -/
def ParseState.repeated (min : Nat) (max : Option Nat) (s : ParseState) : Option ParseState :=
  if s.afterRep ∨ min > 1000 ∨ max.any (fun m => m > 1000 ∨ m < min) then none
  else
    match s.level.factors with
    | [] => none
    | r :: factors =>
      if (Expr.rep min max r).fits 1000 then
        some { s with level := { s.level with factors := .rep min max r :: factors }
                      afterRep := true }
      else
        none

def ParseState.next (s : ParseState) : Token → Option ParseState
  | .atom a => some (s.push (.atom s.flags.fold a))
  | .quote as =>
    some { as.foldl (fun s a => s.push (.atom s.flags.fold a)) s with afterRep := false }
  | .dot => some (s.push (.any s.flags.dotNL))
  | .caret => some (s.push (.assert (if s.flags.multiLine then .beginLine else .beginText)))
  | .dollar => some (s.push (.assert (if s.flags.multiLine then .endLine else .endText)))
  | .beginText => some (s.push (.assert .beginText))
  | .endText => some (s.push (.assert .endText))
  | .boundary neg => some (s.push (.assert (if neg then .noWordBoundary else .wordBoundary)))
  | .rep min max => s.repeated min max
  | .bar =>
    some { s with level := { alts := concatAll s.level.factors :: s.level.alts }
                  afterRep := false }
  | .openGroup | .named _ => some (s.enter s.flags)
  | .openFlags fs => some (s.enter (fs.foldl Flags.setFlag s.flags))
  | .setFlags fs => some { s with flags := fs.foldl Flags.setFlag s.flags, afterRep := false }
  | .closeGroup =>
    match s.outer with
    | [] => none
    | (flags, level) :: outer =>
      some { flags := flags, level := level.push s.level.expr, outer := outer, afterRep := false }

def parseTokens (s : ParseState) : List Token → Option Expr
  | [] => if s.outer = [] then some s.level.expr else none
  | t :: ts => (s.next t).bind fun s => parseTokens s ts

/-- `syntax.Parse`. -/
def parse (isTable : String → Bool) (text : String) : Option Expr :=
  (lex isTable text.toList.length text.toList).bind (parseTokens {})

example : parse (fun _ => false) "[a-z]\\D\x7b2,\x7d?" = some (.concat
    (.atom none { items := [.range (.char 'a') (.char 'z')] })
    (.concat (.rep 2 none (.atom none { items := [.perl 'D'] })) .empty)) := by decide

-- neither a second repetition nor an empty range is allowed
example : parse (fun _ => false) "a**" = none ∧ parse (fun _ => false) "[b-a]" = none := by decide

end GoLib.Regexp
