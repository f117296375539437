import HiddifyCore.GoLib.RegexpLowerText
import HiddifyCore.Config.Reference
import HiddifyCore.Routing.UserRules
import Mathlib.Data.List.Forall2

/-!
# Regular expressions of user rules

`makeDomainRule` and `MakeDNSRule` lower the text of a regular expression as they lower a name. The
emitted expression then does not always match the lower-case names that the written one matches
when it ignores the case: `\D` becomes `\d`. It does when every token of the text is read again as
itself and every class keeps its lower-case characters. The first half is necessary but for `\A`
and `\B`, which become other tokens, and on sequences of classes so is the second: elsewhere a
class that changes can be hidden by the expression around it.
-/

namespace HiddifyCore.Routing

open GoLib GoLib.Strings GoLib.Regexp Singbox Config

/-- The texts behind `regexp:`. -/
def regexpTexts (list : String) : List String :=
  (split list ',').filterMap fun item =>
    if hasPrefix item "regexp:" then some (trimPrefix item "regexp:") else none

/-- A valid expression is emitted as a valid one, which matches a lower-case name, of ASCII, exactly
when the written one matches it without regard to the case. -/
def Preserved (U : Unicode) (e emitted : String) : Prop :=
  compile U e ≠ none → compile U emitted ≠ none ∧
    ∀ name : String, name.toList.all isLow = true →
      (MatchString U emitted name ↔ MatchString U ("(?i)" ++ e) name)

/-- The emitted expressions are those of the domain list, one by one, and mean the same. -/
structure KeepsRegexps (D : Deps) (U : Unicode) (r : Rule) : Prop where
  domainRule : List.Forall₂ (Preserved U) (regexpTexts r.domains)
    (makeDomainRule D {} (split r.domains ',')).domainRegex
  rule : List.Forall₂ (Preserved U) (regexpTexts r.domains) (r.makeRule D).domainRegex
  dnsRule : List.Forall₂ (Preserved U) (regexpTexts r.domains) (r.makeDNSRule D).domainRegex

section Emitted

variable (D : Deps)

/-- The other four prefixes begin with another letter. -/
lemma hasPrefix_regexp {item : String} (h : hasPrefix item "regexp:" = true) :
    hasPrefix item "geosite:" = false ∧ hasPrefix item "full:" = false ∧
      hasPrefix item "domain:" = false := by
  obtain ⟨cs, hcs⟩ := List.isPrefixOf_iff_prefix.mp h
  simp [hasPrefix, ← hcs, List.isPrefixOf]

lemma regexp?_domainItem (item : String) :
    (domainItem D item).bind DomainItem.regexp? =
      (if hasPrefix item "regexp:" then some (trimPrefix item "regexp:") else none).map
        D.toLower := by
  by_cases h : hasPrefix item "regexp:" = true
  · obtain ⟨hgeosite, hfull, hdomain⟩ := hasPrefix_regexp h
    simp [domainItem, h, hgeosite, hfull, hdomain, DomainItem.regexp?]
  · simp only [domainItem, if_neg h, Option.map_none]
    split_ifs <;> rfl

/-- The emitted expressions are the lowered texts. -/
lemma regexps_domainItems (list : String) :
    (domainItems D list).filterMap DomainItem.regexp? = (regexpTexts list).map D.toLower := by
  rw [domainItems, regexpTexts, List.filterMap_filterMap, List.map_filterMap]
  exact List.filterMap_congr fun item _ => regexp?_domainItem D item

variable {D}

/-- Every list of emitted expressions is that of the lowered texts. -/
lemma keepsRegexps_iff {U : Unicode} {r : Rule} :
    KeepsRegexps D U r ↔ ∀ e ∈ regexpTexts r.domains, Preserved U e (D.toLower e) := by
  have hall : List.Forall₂ (Preserved U) (regexpTexts r.domains)
      ((domainItems D r.domains).filterMap DomainItem.regexp?) ↔
        ∀ e ∈ regexpTexts r.domains, Preserved U e (D.toLower e) := by
    rw [regexps_domainItems, List.forall₂_map_right_iff, List.forall₂_same]
  constructor
  · intro h
    have hrule := h.rule
    rw [makeRule_eq] at hrule
    exact hall.mp hrule
  · intro h
    refine ⟨?_, ?_, ?_⟩
    · rw [makeDomainRule_eq]
      exact hall.mpr h
    · rw [makeRule_eq]
      exact hall.mpr h
    · rw [makeDNSRule_eq]
      exact hall.mpr h

end Emitted

section Lowered

variable {U : Unicode} (hU : Lowers U.lower U.isTable)
include hU

lemma preserved_of_keepsMeaning {e : String}
    (h : compile U e ≠ none → keepsMeaning U e = true) : Preserved U e (lowerText U e) := by
  intro hvalid
  obtain ⟨r, hr⟩ := Option.ne_none_iff_exists'.mp hvalid
  have hk := h hvalid
  have hs : textSurvives U e = true := by
    rw [keepsMeaning, Bool.and_eq_true] at hk
    exact hk.1
  refine ⟨?_, fun name hname => matchString_lowerText hU hr hk hname⟩
  rw [compile_lowerText hU hr hs]
  exact Option.some_ne_none _

/-- An expression with a token that the lowered text has lost is not preserved. -/
lemma readable_of_preserved {e : String} (h : Preserved U e (lowerText U e))
    (hvalid : compile U e ≠ none) : textReadable U e = true := by
  obtain ⟨r, hr⟩ := Option.ne_none_iff_exists'.mp hvalid
  rw [← compile_lowerText_isSome hU hr]
  exact Option.isSome_iff_ne_none.mpr (h hvalid).1

variable {D : Deps} (hlower : ∀ s, D.toLower s = lowerText U s)
include hlower

/-- They are not when the lowered text of one is no expression. -/
lemma readable_of_keepsRegexps {r : Rule} (h : KeepsRegexps D U r) {e : String}
    (he : e ∈ regexpTexts r.domains) (hvalid : compile U e ≠ none) : textReadable U e = true := by
  have hp := keepsRegexps_iff.mp h e he
  rw [hlower] at hp
  exact readable_of_preserved hU hp hvalid

/-- Nor when one of a sequence of classes has other lower-case characters than its lowered one. -/
lemma keepsMeaning_of_keepsRegexps {r : Rule} (h : KeepsRegexps D U r) {e : String}
    (he : e ∈ regexpTexts r.domains) {as : List CharClass}
    (htokens : tokens U e = some (as.map Token.atom))
    (hne : ∀ a ∈ as, ∃ c ∈ lowChars, a.has U true c = true) : keepsMeaning U e = true := by
  have hp := keepsRegexps_iff.mp h e he
  rw [hlower] at hp
  have hvalid : compile U e ≠ none := by
    show (tokens U e).bind (parseTokens {}) ≠ none
    rw [htokens, Option.bind_some, parseTokens_atoms]
    exact Option.some_ne_none _
  exact keepsMeaning_of_matchString hU htokens hne (hp hvalid).1 (hp hvalid).2

/-- The regular expressions of a rule are preserved when every valid one keeps its meaning, and only
if each can be read and those that are sequences of classes keep theirs. -/
theorem regexps_preserved (r : Rule) :
    ((∀ e ∈ regexpTexts r.domains, compile U e ≠ none → keepsMeaning U e = true) →
      KeepsRegexps D U r) ∧
    (KeepsRegexps D U r → ∀ e ∈ regexpTexts r.domains, compile U e ≠ none →
      textReadable U e = true ∧ ∀ as : List CharClass, tokens U e = some (as.map Token.atom) →
        (∀ a ∈ as, ∃ c ∈ lowChars, a.has U true c = true) → keepsMeaning U e = true) := by
  constructor
  · intro h
    refine keepsRegexps_iff.mpr fun e he => ?_
    rw [hlower]
    exact preserved_of_keepsMeaning hU (h e he)
  · intro h e he hvalid
    refine ⟨readable_of_keepsRegexps hU hlower h he hvalid, fun as htokens hne => ?_⟩
    exact keepsMeaning_of_keepsRegexps hU hlower h he htokens hne

end Lowered

/-! ### ASCII -/

/-- The characters of ASCII, with the two others that are equal to one of them but for the case. -/
def asciiUnicode : Unicode where
  lower := Char.toLower
  orbit c :=
    if c.toLower = 's' then ['s', 'S', '\u017f']
    else if c.toLower = 'k' then ['k', 'K', '\u212a']
    else [c.toLower, c.toUpper]
  table _ := none

lemma lowers_toLower : Lowers asciiUnicode.lower asciiUnicode.isTable where
  ascii _ _ := rfl
  other c hc := by
    left
    have hZ : ¬(c.val ≥ 'A'.val ∧ c.val ≤ 'Z'.val) := by
      rintro ⟨-, hle⟩
      have hnat : c.val.toNat ≤ 'Z'.val.toNat := hle
      have hZ : 'Z'.val.toNat = 90 := rfl
      have hval : c.toNat = c.val.toNat := rfl
      omega
    have hself : c.toLower = c := dif_neg hZ
    show 128 ≤ c.toLower.toNat
    rwa [hself]
  table _ := rfl

/-- The range `[Z-a]` is emitted as `[z-a]`. -/
theorem regexps_preserved_subdomain :
    KeepsRegexps Reference.deps asciiUnicode
        { domains := "regexp:^(Ads?|Track)\\d+\\.[A-Z]+$" } ∧
      ¬ KeepsRegexps Reference.deps asciiUnicode { domains := "regexp:[Z-a]" } := by
  constructor
  · have htexts : regexpTexts "regexp:^(Ads?|Track)\\d+\\.[A-Z]+$" =
        ["^(Ads?|Track)\\d+\\.[A-Z]+$"] := by decide
    have hkeeps : keepsMeaning asciiUnicode "^(Ads?|Track)\\d+\\.[A-Z]+$" = true := by
      decide +kernel
    refine (regexps_preserved lowers_toLower (fun _ => rfl) _).1 fun e he _ => ?_
    rw [htexts, List.mem_singleton] at he
    rw [he, hkeeps]
  · intro hkeeps
    have htext : "[Z-a]" ∈ regexpTexts "regexp:[Z-a]" := by decide
    have hvalid : (compile asciiUnicode "[Z-a]").isSome = true := by decide +kernel
    have hlost : textReadable asciiUnicode "[Z-a]" = false := by decide +kernel
    have hread := ((regexps_preserved lowers_toLower (fun _ => rfl) _).2 hkeeps _ htext
      (Option.isSome_iff_ne_none.mp hvalid)).1
    rw [hlost] at hread
    cases hread

/-- The text `\D` is emitted as `\d`. -/
theorem not_keepsRegexps :
    ¬ KeepsRegexps Reference.deps asciiUnicode { domains := "regexp:\\D" } := by
  intro h
  have hD : compile asciiUnicode "\\D" =
      some (.concat (.atom none { items := [.perl 'D'] }) .empty) := by decide
  have hd : compile asciiUnicode "\\d" =
      some (.concat (.atom none { items := [.perl 'd'] }) .empty) := by decide
  have hp : Preserved asciiUnicode "\\D" "\\d" := by
    have htexts : regexpTexts "regexp:\\D" = ["\\D"] := by decide
    have hemitted : (Rule.makeRule Reference.deps { domains := "regexp:\\D" }).domainRegex =
        ["\\d"] := by decide
    have hall := h.rule
    rw [htexts, hemitted] at hall
    cases hall with
    | cons hp _ => exact hp
  have hiff := (hp (by simp [hD])).2 "a" (by decide)
  rw [matchString_iff hd, matchString_iff (compile_ignoreCase hD)] at hiff
  have hmatch := hiff.mpr ((matchesText_atom (some true) { items := [.perl 'D'] } "a").mpr
    ⟨'a', by decide, by decide⟩)
  obtain ⟨c, hc, hdigit⟩ := (matchesText_atom none { items := [.perl 'd'] } "a").mp hmatch
  have hca : c = 'a' := by simpa using hc
  rw [hca] at hdigit
  revert hdigit
  decide

end HiddifyCore.Routing
