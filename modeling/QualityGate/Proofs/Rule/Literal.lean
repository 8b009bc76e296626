import QualityGate.Proofs.Results
import QualityGate.Proofs.Rule.Scanning
import QualityGate.Proofs.Rule.Terms

/-!
# Literal rules

A rule against terms is a plain search for texts.

* `OccursAt`, `FirstIn` – where a term occurs in a text, and which of several terms is the first.
* `Matcher.find?_terms` – a search for terms finds the first.
* `scanFile_literal` – a literal rule reports the lines with a run in which a term occurs, each once
  and in order, with the first term of the first such run; its pattern reports the same.
-/

namespace QualityGate

open QualityGate.Source
open QualityGate.Regex (Place Match)
open QualityGate.Text (stripPrefix? stripPrefix?_eq_some_iff)

/-! ### Occurrences -/

/-- There is a word boundary between two parts of a text: either the character before it or the one
after it is a character of words, but not both. -/
def Boundary (before after : List Char) : Prop :=
  before.getLast?.any Unicode.wordChars.contains ≠ after.head?.any Unicode.wordChars.contains

/-- A term occurs in a text at a position; as a whole word, it does so between word boundaries. -/
def OccursAt (wholeWord : Bool) (term text : List Char) (position : Nat) : Prop :=
  ∃ before after, text = before ++ (term ++ after) ∧ before.length = position ∧
    (wholeWord = true → Boundary before (term ++ after) ∧ Boundary (before ++ term) after)

/-- A term is the first of a list to occur in a text: none occurs further left, and none that is
listed before it occurs at the same position. -/
structure FirstIn (wholeWord : Bool) (terms : List (List Char)) (text term : List Char)
    (position : Nat) : Prop where
  occurs : OccursAt wholeWord term text position
  leftmost : ∀ other ∈ terms, ∀ place < position, ¬ OccursAt wholeWord other text place
  earliest : ∃ earlier later, terms = earlier ++ term :: later ∧
    ∀ other ∈ earlier, ¬ OccursAt wholeWord other text position

/-- Some term of a list occurs in a text. -/
def Contains (wholeWord : Bool) (terms : List (List Char)) (text : List Char) : Prop :=
  ∃ term ∈ terms, ∃ position, OccursAt wholeWord term text position

theorem FirstIn.contains {wholeWord : Bool} {terms : List (List Char)} {text term : List Char}
    {position : Nat} (first : FirstIn wholeWord terms text term position) :
    Contains wholeWord terms text := by
  obtain ⟨earlier, later, rfl, -⟩ := first.earliest
  exact ⟨term, List.mem_append_right _ List.mem_cons_self, position, first.occurs⟩

theorem OccursAt.le {wholeWord : Bool} {term text : List Char} {position : Nat}
    (occurs : OccursAt wholeWord term text position) : position ≤ text.length := by
  obtain ⟨before, after, rfl, rfl, -⟩ := occurs
  rw [List.length_append]
  exact Nat.le_add_right _ _

/-- What follows a position decides whether a term occurs there. -/
theorem occursAt_length_iff {wholeWord : Bool} {term front back : List Char} :
    OccursAt wholeWord term (front ++ back) front.length ↔ ∃ after, back = term ++ after ∧
      (wholeWord = true → Boundary front back ∧ Boundary (front ++ term) after) := by
  constructor
  · rintro ⟨before, after, same, length, whole⟩
    obtain ⟨rfl, rfl⟩ := List.append_inj same length.symm
    exact ⟨after, rfl, whole⟩
  · rintro ⟨after, rfl, whole⟩
    exact ⟨front, after, rfl, rfl, whole⟩

/-! ### Searching for terms -/

namespace Matcher

/-- The place between two parts of a text. -/
def placeAt (front back : List Char) : Place := ⟨front.getLast?, front.length, back⟩

theorem isBoundary_placeAt {front back : List Char} :
    isBoundary (placeAt front back) = true ↔ Boundary front back :=
  bne_iff_ne

theorem next?_placeAt (front : List Char) (c : Char) (back : List Char) :
    (placeAt front (c :: back)).next? = some (placeAt (front ++ [c]) back) := by
  simp [placeAt, Place.next?]

theorem advance_placeAt (front term back : List Char) :
    (placeAt front (term ++ back)).advance term.length = placeAt (front ++ term) back := by
  induction term generalizing front with
  | nil => rw [List.append_nil]; rfl
  | cons c term ih =>
    rw [List.cons_append, List.length_cons, Place.advance, next?_placeAt]
    dsimp only
    rw [ih, List.append_assoc, List.singleton_append]

section Search

variable {wholeWord : Bool} {terms : List (List Char)} {term front back : List Char}

/-- Where a term occurs, it ends behind its characters. -/
theorem map_termStop?_eq_some_iff {stop : Nat} :
    (termStop? wholeWord (placeAt front back) term).map Place.position = some stop ↔
      OccursAt wholeWord term (front ++ back) front.length ∧
        stop = front.length + term.length := by
  rw [occursAt_length_iff, termStop?]
  have place : (placeAt front back).rest = back := rfl
  rw [place]
  cases found : stripPrefix? term back with
  | none =>
    refine iff_of_false (by simp) ?_
    rintro ⟨⟨after, rfl, -⟩, -⟩
    rw [stripPrefix?_eq_some_iff.mpr rfl] at found
    cases found
  | some after =>
    obtain rfl := stripPrefix?_eq_some_iff.mp found
    have length : (placeAt (front ++ term) after).position = front.length + term.length :=
      List.length_append
    have bounded : (! wholeWord || (isBoundary (placeAt front (term ++ after)) &&
        isBoundary (placeAt (front ++ term) after))) = true ↔ (wholeWord = true →
          Boundary front (term ++ after) ∧ Boundary (front ++ term) after) := by
      rw [Bool.or_eq_true, Bool.and_eq_true, isBoundary_placeAt, isBoundary_placeAt]
      cases wholeWord <;> simp
    rw [advance_placeAt, Option.isSome_some, Bool.true_and, apply_ite (Option.map Place.position),
      Option.map_some, Option.map_none, Option.ite_none_right_eq_some, bounded, length,
      Option.some.injEq, eq_comm (a := stop)]
    simp

theorem termEnd?_placeAt_eq_none_iff :
    termEnd? wholeWord terms (placeAt front back) = none ↔
      ∀ term ∈ terms, ¬ OccursAt wholeWord term (front ++ back) front.length := by
  rw [termEnd?_eq, List.findSome?_eq_none_iff]
  refine forall₂_congr fun term _ => ?_
  rw [Option.eq_none_iff_forall_ne_some]
  constructor
  · intro nowhere occurs
    exact nowhere _ (map_termStop?_eq_some_iff.mpr ⟨occurs, rfl⟩)
  · intro missing stop found
    exact missing (map_termStop?_eq_some_iff.mp found).1

/-- What is found at a place before which no term occurs is the first term of the text. -/
theorem exists_firstIn_of_termEnd? {stop : Nat}
    (missing : ∀ term ∈ terms, ∀ place < front.length,
      ¬ OccursAt wholeWord term (front ++ back) place)
    (found : termEnd? wholeWord terms (placeAt front back) = some stop) :
    ∃ term, FirstIn wholeWord terms (front ++ back) term front.length ∧
      stop = front.length + term.length := by
  rw [termEnd?_eq, List.findSome?_eq_some_iff] at found
  obtain ⟨earlier, term, later, listed, here, before⟩ := found
  obtain ⟨occurs, length⟩ := map_termStop?_eq_some_iff.mp here
  refine ⟨term, ⟨occurs, missing, earlier, later, listed, fun other mem occurs => ?_⟩, length⟩
  have none := before other mem
  rw [map_termStop?_eq_some_iff.mpr ⟨occurs, rfl⟩] at none
  cases none

/-- Where nothing is found, the places without a term are one more. -/
theorem missing_of_termEnd?_eq_none
    (missing : ∀ term ∈ terms, ∀ place < front.length,
      ¬ OccursAt wholeWord term (front ++ back) place)
    (here : termEnd? wholeWord terms (placeAt front back) = none) :
    ∀ term ∈ terms, ∀ place ≤ front.length, ¬ OccursAt wholeWord term (front ++ back) place := by
  intro term mem place bound occurs
  rcases Nat.lt_or_eq_of_le bound with earlier | rfl
  · exact missing term mem place earlier occurs
  · exact termEnd?_placeAt_eq_none_iff.mp here term mem occurs

/-- From a place before which no term occurs, a search finds the first term of the text, if there is
one. -/
theorem searchTerms_placeAt (front back : List Char)
    (missing : ∀ term ∈ terms, ∀ place < front.length,
      ¬ OccursAt wholeWord term (front ++ back) place) :
    (searchTerms wholeWord terms (front ++ back) (back.length + 1) (placeAt front back) = none ∧
        ∀ term ∈ terms, ∀ place, ¬ OccursAt wholeWord term (front ++ back) place) ∨
      ∃ term position, FirstIn wholeWord terms (front ++ back) term position ∧
        searchTerms wholeWord terms (front ++ back) (back.length + 1) (placeAt front back) =
          some ⟨front ++ back, [some ⟨position, position + term.length⟩]⟩ := by
  induction back generalizing front with
  | nil =>
    rw [List.length_nil, searchTerms]
    cases here : termEnd? wholeWord terms (placeAt front []) with
    | some stop =>
      obtain ⟨term, first, rfl⟩ := exists_firstIn_of_termEnd? missing here
      exact Or.inr ⟨term, _, first, rfl⟩
    | none =>
      refine Or.inl ⟨rfl, fun term mem place occurs => ?_⟩
      -- No place of the text is left.
      have bound := occurs.le
      rw [List.append_nil] at bound
      exact missing_of_termEnd?_eq_none missing here term mem place bound occurs
  | cons c back ih =>
    rw [List.length_cons, searchTerms]
    cases here : termEnd? wholeWord terms (placeAt front (c :: back)) with
    | some stop =>
      obtain ⟨term, first, rfl⟩ := exists_firstIn_of_termEnd? missing here
      exact Or.inr ⟨term, _, first, rfl⟩
    | none =>
      dsimp only
      rw [next?_placeAt, Option.bind_some, List.append_cons front c back]
      refine ih (front ++ [c]) fun term mem place before occurs => ?_
      rw [← List.append_cons] at occurs
      rw [List.length_append, List.length_singleton, Nat.lt_succ_iff] at before
      exact missing_of_termEnd?_eq_none missing here term mem place before occurs

/-- A search for terms finds the first, if one occurs at all. -/
theorem find?_terms (wholeWord : Bool) (terms : List (List Char)) (text : List Char) :
    ((Matcher.terms wholeWord terms).find? text = none ∧ ¬ Contains wholeWord terms text) ∨
      ∃ term position m, FirstIn wholeWord terms text term position ∧
        (Matcher.terms wholeWord terms).find? text = some m ∧ m.matched = term := by
  rcases searchTerms_placeAt [] text (fun _ _ _ => nofun) with
    ⟨none, nowhere⟩ | ⟨term, position, first, found⟩
  · exact Or.inl ⟨none, fun ⟨term, mem, position, occurs⟩ => nowhere term mem position occurs⟩
  · refine Or.inr ⟨term, position, _, first, found, ?_⟩
    obtain ⟨before, after, same, rfl, -⟩ := first.occurs
    rw [List.nil_append] at same ⊢
    have taken :
        (before ++ (term ++ after)).take (before.length + term.length) = before ++ term := by
      rw [← List.append_assoc, List.take_left' List.length_append]
    show ((text.take (before.length + term.length)).drop before.length) = term
    rw [same, taken, List.drop_left]

theorem find?_terms_eq_none_iff {text : List Char} :
    (Matcher.terms wholeWord terms).find? text = none ↔ ¬ Contains wholeWord terms text := by
  rcases find?_terms wholeWord terms text with none | ⟨term, position, m, first, found, -⟩
  · exact iff_of_true none.1 none.2
  · exact iff_of_false (found ▸ Option.some_ne_none m) (not_not.mpr first.contains)

end Search

end Matcher

/-! ### Literal rules -/

/-- A rule that was built from terms, with case and without exempt lines: from a specification, or
from the terms themselves, for any region and any files. -/
inductive IsLiteral : List String → Bool → PatternRule → Prop
  | ofSpec {spec : RuleSpec} {rule : PatternRule} (some : spec.terms ≠ [])
      (withCase : spec.ignoreCase = false) (noExempt : spec.exempt = none)
      (built : Rule.ofSpec spec = .ok (.pattern rule)) :
      IsLiteral spec.terms spec.wordBoundary rule
  | ofTerms {id message : String} {terms : List String} {wholeWord : Bool} {rule : PatternRule}
      (built : PatternRule.ofTerms id terms wholeWord message = .ok rule) (region : Region)
      (files : List Glob) (replacement : Option String) :
      IsLiteral terms wholeWord
        { rule with region := region, files := files, replacement := replacement }

/-- With case, a matcher is the list of the terms that are of use.  There are some, and what finds
the same is their pattern, which has been compiled. -/
theorem PatternRule.eq_of_termsMatcher {id : String} {terms : List String} {wholeWord : Bool}
    {matcher : Matcher} (built : termsMatcher id terms wholeWord false = .ok matcher) :
    matcher = .terms wholeWord (Matcher.usableTerms terms) ∧
      ∃ regex,
        Regex.compile false (Matcher.termsPattern wholeWord (Matcher.usableTerms terms)) =
          .ok regex ∧
        ∀ text, (Matcher.regex regex).find? text = matcher.find? text := by
  rw [termsMatcher] at built
  by_cases empty : (Matcher.usableTerms terms).isEmpty = true
  · rw [if_pos empty] at built
    cases built
  · rw [if_neg empty] at built
    obtain ⟨regex, compiled, ⟨⟩⟩ := exists_of_bind_eq_ok built
    have compiled := mapError_eq_ok_iff.mp compiled
    have any : Matcher.usableTerms terms ≠ [] := fun nil => empty (List.isEmpty_iff.mpr nil)
    refine ⟨rfl, regex, compiled, fun text => ?_⟩
    rw [Matcher.find?, Matcher.search_of_compile_termsPattern any compiled]
    rfl

/-- Terms make a matcher if there are some of use and their pattern is not too large. -/
theorem PatternRule.termsMatcher_eq_ok {id : String} {terms : List String} {wholeWord : Bool}
    (any : Matcher.usableTerms terms ≠ [])
    (small : (Matcher.termsExpr wholeWord (Matcher.usableTerms terms)).cost ≤
      Regex.Expr.sizeLimit) :
    termsMatcher id terms wholeWord false =
      .ok (.terms wholeWord (Matcher.usableTerms terms)) := by
  rw [termsMatcher, if_neg (mt List.isEmpty_iff.mp any), compileFor,
    Matcher.compile_termsPattern_eq wholeWord any, if_neg (Nat.not_lt.mpr small)]
  rfl

/-- A literal rule searches for terms as their pattern does, and exempts no lines. -/
theorem IsLiteral.searches {terms : List String} {wholeWord : Bool} {rule : PatternRule}
    (literal : IsLiteral terms wholeWord rule) :
    (rule.matcher = .terms wholeWord (Matcher.usableTerms terms) ∧
      ∃ regex,
        Regex.compile false (Matcher.termsPattern wholeWord (Matcher.usableTerms terms)) =
          .ok regex ∧
        ∀ text, (Matcher.regex regex).find? text = rule.matcher.find? text) ∧
      rule.exempt = none := by
  cases literal with
  | @ofSpec spec rule some withCase noExempt built =>
    rw [Rule.ofSpec] at built
    split at built
    · cases built
    · next many =>
      split at built
      · cases built
      · next few =>
        have others : spec.pattern = none ∧ spec.claim = none := by
          have first : ¬ spec.terms.isEmpty = true := mt List.isEmpty_iff.mp some
          rw [Rule.matcherCount, if_neg first] at few
          constructor
          · refine Option.not_isSome_iff_eq_none.mp fun given => few ?_
            rw [if_pos given]
            omega
          · refine Option.not_isSome_iff_eq_none.mp fun given => few ?_
            rw [if_pos given]
            omega
        rw [others.2] at built
        dsimp only at built
        rw [Rule.ofMatcher, others.1, noExempt, withCase] at built
        obtain ⟨matcher, made, built⟩ := exists_of_bind_eq_ok built
        obtain ⟨files, -, built⟩ := exists_of_bind_eq_ok built
        obtain ⟨exempt, compiled, ⟨⟩⟩ := exists_of_bind_eq_ok built
        exact ⟨PatternRule.eq_of_termsMatcher made, (Except.ok.inj compiled).symm⟩
  | ofTerms built region files replacement =>
    obtain ⟨matcher, made, ⟨⟩⟩ := exists_of_bind_eq_ok built
    exact ⟨PatternRule.eq_of_termsMatcher made, rfl⟩

/-- Without exempt lines, a line is reported for the first match. -/
theorem PatternRule.lineMatch?_of_noExempt {rule : PatternRule} (noExempt : rule.exempt = none)
    (runs : List Run) :
    rule.lineMatch? runs = runs.findSome? fun run => rule.matcher.find? run.text := by
  rw [lineMatch?, isExempt, noExempt]
  exact if_neg Bool.false_ne_true

/-- Matchers that find the same report the same. -/
theorem PatternRule.scanFile_congr {rule : PatternRule} {matcher : Matcher}
    (same : ∀ text, matcher.find? text = rule.matcher.find? text) (file : SourceFile) :
    ({ rule with matcher := matcher } : PatternRule).scanFile file = rule.scanFile file := by
  have lines (runs : List Run) :
      ({ rule with matcher := matcher } : PatternRule).lineMatch? runs = rule.lineMatch? runs := by
    simp only [lineMatch?, isExempt, same]
    rfl
  simp only [scanFile, lines]

section Literal

variable {terms : List String} {wholeWord : Bool} {rule : PatternRule}
  (literal : IsLiteral terms wholeWord rule)
include literal

/-- A line is not reported if no term occurs in its runs. -/
theorem IsLiteral.lineMatch?_eq_none_iff {runs : List Run} :
    rule.lineMatch? runs = none ↔
      ∀ run ∈ runs, ¬ Contains wholeWord (Matcher.usableTerms terms) run.text := by
  obtain ⟨⟨matcher, -⟩, noExempt⟩ := literal.searches
  rw [PatternRule.lineMatch?_of_noExempt noExempt, matcher, List.findSome?_eq_none_iff]
  exact forall₂_congr fun _ _ => Matcher.find?_terms_eq_none_iff

/-- A line is reported for the first term of the first run in which one occurs. -/
theorem IsLiteral.exists_of_lineMatch? {runs : List Run} {m : Match}
    (found : rule.lineMatch? runs = some m) :
    ∃ earlier run later term position, runs = earlier ++ run :: later ∧
      (∀ other ∈ earlier, ¬ Contains wholeWord (Matcher.usableTerms terms) other.text) ∧
      FirstIn wholeWord (Matcher.usableTerms terms) run.text term position ∧ m.matched = term := by
  obtain ⟨⟨matcher, -⟩, noExempt⟩ := literal.searches
  rw [PatternRule.lineMatch?_of_noExempt noExempt, matcher, List.findSome?_eq_some_iff] at found
  obtain ⟨earlier, run, later, split, here, before⟩ := found
  rcases Matcher.find?_terms wholeWord (Matcher.usableTerms terms) run.text with
    ⟨none, -⟩ | ⟨term, position, _, first, found, matched⟩
  · rw [none] at here
    cases here
  · obtain rfl := Option.some.inj (found.symm.trans here)
    exact ⟨earlier, run, later, term, position, split,
      fun other mem => Matcher.find?_terms_eq_none_iff.mp (before other mem), first, matched⟩

/-- **Literal rules are literal search.**  Lines are reported in order, each at most once: exactly
those with a run in which a term occurs, for the first term of the first such run.  The pattern of
the terms is a regular expression with which the same is reported. -/
theorem scanFile_literal (file : SourceFile) :
    (rule.scanFile file).Pairwise (fun v w => v.line < w.line) ∧
      (∀ line, (∃ v ∈ rule.scanFile file, v.line = line) ↔ ∃ run ∈ file.runsOn rule.region line,
        Contains wholeWord (Matcher.usableTerms terms) run.text) ∧
      (∀ v ∈ rule.scanFile file, ∃ earlier run later term position,
        file.runsOn rule.region v.line = earlier ++ run :: later ∧
        (∀ other ∈ earlier, ¬ Contains wholeWord (Matcher.usableTerms terms) other.text) ∧
        FirstIn wholeWord (Matcher.usableTerms terms) run.text term position ∧
        v = ⟨rule.id, file.path, v.line, rule.message, some (String.ofList term)⟩) ∧
      ∃ regex,
        Regex.compile false (Matcher.termsPattern wholeWord (Matcher.usableTerms terms)) =
          .ok regex ∧
        ({ rule with matcher := .regex regex } : PatternRule).scanFile file =
          rule.scanFile file := by
  refine ⟨rule.pairwise_scanFile file, fun line => ?_, fun v mem => ?_, ?_⟩
  · have reported : (∃ v ∈ rule.scanFile file, v.line = line) ↔
        rule.lineMatch? (file.runsOn rule.region line) ≠ none := by
      simp only [PatternRule.mem_scanFile_iff, Option.ne_none_iff_exists']
      constructor
      · rintro ⟨_, ⟨line, m, found, rfl⟩, rfl⟩
        exact ⟨m, found⟩
      · rintro ⟨m, found⟩
        exact ⟨_, ⟨line, m, found, rfl⟩, rfl⟩
    rw [reported, ne_eq, literal.lineMatch?_eq_none_iff]
    simp only [not_forall, not_not, exists_prop]
  · obtain ⟨line, m, found, rfl⟩ := PatternRule.mem_scanFile_iff.mp mem
    obtain ⟨earlier, run, later, term, position, split, before, first, rfl⟩ :=
      literal.exists_of_lineMatch? found
    exact ⟨earlier, run, later, _, position, split, before, first, rfl⟩
  · obtain ⟨⟨-, regex, compiled, same⟩, -⟩ := literal.searches
    exact ⟨regex, compiled, PatternRule.scanFile_congr same file⟩

end Literal

/-- A rule against two terms, of which one begins with the other. -/
def dotsRule : PatternRule where
  id := "dots"
  message := "no dots"
  matcher := .terms false ["a.b".toList, "a.b.c".toList]

/-- A line on which both terms occur at one place, and a line that only a pattern would match in
which the dot is not escaped. -/
def dotsFile : SourceFile := .of "a.ts" "axb\nf('a.b', xa.b.c)".toList

/-- The first occurrence lies in a literal.  Of the two terms that occur at the second place, the
one that is listed first is reported. -/
theorem scanFile_dots :
    IsLiteral [" a.b ", "", "a.b.c"] false dotsRule ∧
      (∀ line, (∃ v ∈ dotsRule.scanFile dotsFile, v.line = line) ↔
        ∃ run ∈ dotsFile.runsOn .code line,
          Contains false (Matcher.usableTerms [" a.b ", "", "a.b.c"]) run.text) ∧
      dotsRule.scanFile dotsFile = [⟨"dots", "a.ts", 2, "no dots", some "a.b"⟩] :=
  have built : PatternRule.ofTerms "dots" [" a.b ", "", "a.b.c"] false "no dots" =
      .ok dotsRule := by
    rw [PatternRule.ofTerms, PatternRule.termsMatcher_eq_ok (by decide) (by decide)]
    rfl
  have literal : IsLiteral [" a.b ", "", "a.b.c"] false dotsRule := .ofTerms built .code [] none
  ⟨literal, (scanFile_literal literal dotsFile).2.1, by decide +kernel⟩

end QualityGate
