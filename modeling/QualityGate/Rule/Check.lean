import QualityGate.Locale
import QualityGate.Rule.Matcher
import QualityGate.Rule.Spec
import QualityGate.Rule.Violation
import QualityGate.Text.Order

/-!
# Checks over source files

There are two kinds of rules.

* A *pattern rule* objects to lines.  It looks at a line run by run, so a match never reaches into
  another region, and it reports a line once, with the first match of the first run that has one.
* A *claim rule* objects to files that claim the same thing.  What a file claims is the text of the
  first group of a match; all files are read before any claim is judged.

A rule set runs its rules in order and sorts what they report.
-/

namespace QualityGate

open QualityGate.Source

/-- A source file that has been read and classified. -/
structure SourceFile where
  path : String
  text : List Char
  scanned : Scanned

/-- A source file with this text. -/
def SourceFile.of (path : String) (text : List Char) : SourceFile := ⟨path, text, scan text⟩

/-- A rule against a pattern. -/
structure PatternRule where
  id : String
  message : String
  matcher : Matcher
  region : Region := .code
  exempt : Option Regex := none
  files : List Glob := []
  replacement : Option String := none

/-- A rule against two files that claim the same. -/
structure ClaimRule where
  id : String
  message : String
  matcher : Regex
  region : Region := .code
  files : List Glob := []

/-- Compile the regular expression of a rule. -/
def compileFor (rule : String) (ignoreCase : Bool) (pattern : String) : Except RuleError Regex :=
  (Regex.compile ignoreCase pattern).mapError (.invalidRegex rule)

/-- Read the globs of a rule. -/
def globsFor (rule : String) (files : List String) : Except RuleError (List Glob) :=
  (Glob.ofStrings files).mapError (.invalidGlob rule)

namespace PatternRule

/-- A rule against a regular expression. -/
def ofPattern (id pattern message : String) : Except RuleError PatternRule := do
  return { id := id, message := message, matcher := .regex (← compileFor id false pattern) }

/-- The matcher of a list of terms, whose pattern has to compile.  With case they are searched for
directly, which finds the same. -/
def termsMatcher (id : String) (terms : List String) (wholeWord ignoreCase : Bool) :
    Except RuleError Matcher := do
  let usable := Matcher.usableTerms terms
  if usable.isEmpty then .error (.emptyTerms id)
  else
    let compiled ← compileFor id ignoreCase (Matcher.termsPattern wholeWord usable)
    return if ignoreCase then .regex compiled else .terms wholeWord usable

/-- A rule against a list of terms. -/
def ofTerms (id : String) (terms : List String) (wholeWord : Bool) (message : String) :
    Except RuleError PatternRule := do
  return { id := id, message := message, matcher := ← termsMatcher id terms wholeWord false }

/-- The rule restricted to the files that match any of these globs. -/
def withFiles (rule : PatternRule) (files : List String) : Except RuleError PatternRule := do
  return { rule with files := ← globsFor rule.id files }

/-- The rule without the lines that match this pattern. -/
def withExempt (rule : PatternRule) (exempt : String) : Except RuleError PatternRule := do
  return { rule with exempt := some (← compileFor rule.id false exempt) }

/-- Whether the rule looks at a file. -/
def appliesTo (rule : PatternRule) (path : String) : Bool :=
  rule.files.isEmpty || Glob.anyAdmits rule.files path

/-- Whether a line is exempt. -/
def isExempt (rule : PatternRule) (runs : List Run) : Bool :=
  rule.exempt.any fun exempt => runs.any fun run => exempt.isMatch run.text

/-- The match that a line is reported for. -/
def lineMatch? (rule : PatternRule) (runs : List Run) : Option Regex.Match :=
  if rule.isExempt runs then none else runs.findSome? fun run => rule.matcher.find? run.text

/-- The violations of a file, at most one for each line. -/
def scanFile (rule : PatternRule) (file : SourceFile) : List Violation :=
  ((file.scanned.lineRuns rule.region).zipIdx 1).filterMap fun (runs, line) =>
    (rule.lineMatch? runs).map fun m =>
      { Violation.onLine rule.id file.path line rule.message with
        snippet := some (String.ofList m.matched) }

/-- The violations of the files that the rule looks at. -/
def run (rule : PatternRule) (files : List SourceFile) : List Violation :=
  (files.filter fun file => rule.appliesTo file.path).flatMap rule.scanFile

end PatternRule

/-- What one match of a claim rule says. -/
structure Claim where
  capability : String
  file : String
  line : Nat
  /-- The text of the whole match. -/
  text : String
  deriving DecidableEq, Repr

namespace ClaimRule

/-- A claim rule, whose pattern has to have a group. -/
def ofPattern (id pattern message : String) (ignoreCase : Bool) : Except RuleError ClaimRule := do
  let matcher ← compileFor id ignoreCase pattern
  if matcher.groups < 2 then .error (.claimWithoutGroup id)
  else return { id := id, message := message, matcher := matcher }

/-- The rule restricted to the files that match any of these globs. -/
def withFiles (rule : ClaimRule) (files : List String) : Except RuleError ClaimRule := do
  return { rule with files := ← globsFor rule.id files }

/-- Whether the rule looks at a file. -/
def appliesTo (rule : ClaimRule) (path : String) : Bool :=
  rule.files.isEmpty || Glob.anyAdmits rule.files path

/-- What a match claims; a match whose first group took no part claims nothing. -/
def claim? (path : String) (line : Nat) (m : Regex.Match) : Option Claim :=
  (m.group? 1).map fun capability =>
    ⟨String.ofList capability, path, line, String.ofList m.matched⟩

/-- The claims of a file, in the order of the text. -/
def claimsOf (rule : ClaimRule) (file : SourceFile) : List Claim :=
  ((file.scanned.lineRuns rule.region).zipIdx 1).flatMap fun (runs, line) =>
    runs.flatMap fun run => (rule.matcher.findAll run.text).filterMap (claim? file.path line)

/-- The claims of the files that the rule looks at. -/
def claims (rule : ClaimRule) (files : List SourceFile) : List Claim :=
  (files.filter fun file => rule.appliesTo file.path).flatMap rule.claimsOf

/-- What is reported for the claims to one capability: nothing when all are from one file. -/
def conflicts (rule : ClaimRule) (capability : String) (claims : List Claim) : List Violation :=
  let claimants := Text.sortedSet (claims.map (·.file))
  if claimants.length < 2 then []
  else claims.map fun claim =>
    let others := ", ".intercalate (claimants.filter (· ≠ claim.file))
    { Violation.onLine rule.id claim.file claim.line
        s!"{rule.message} ('{capability}' also claimed by {others})" with
      snippet := some claim.text }

/-- The violations, capability by capability. -/
def run (rule : ClaimRule) (files : List SourceFile) : List Violation :=
  let claims := rule.claims files
  (Text.sortedSet (claims.map (·.capability))).flatMap fun capability =>
    rule.conflicts capability (claims.filter (·.capability == capability))

end ClaimRule

/-- A rule that is ready to run. -/
inductive Rule where
  | pattern (rule : PatternRule)
  | claim (rule : ClaimRule)

namespace Rule

/-- The name that violations are reported under. -/
def id : Rule → String
  | pattern rule => rule.id
  | claim rule => rule.id

/-- The pattern rule, if it is one. -/
def pattern? : Rule → Option PatternRule
  | pattern rule => some rule
  | claim _ => none

/-- The violations of some files. -/
def run : Rule → List SourceFile → List Violation
  | pattern rule, files => rule.run files
  | claim rule, files => rule.run files

/-- The number of ways in which a specification names what to look for. -/
def matcherCount (spec : RuleSpec) : Nat :=
  (if spec.terms.isEmpty then 0 else 1) + (if spec.pattern.isSome then 1 else 0)
    + (if spec.claim.isSome then 1 else 0)

/-- The claim rule of a specification. -/
def ofClaim (spec : RuleSpec) (claim : String) : Except RuleError Rule := do
  let rule ← ClaimRule.ofPattern spec.id claim spec.message spec.ignoreCase
  return .claim (← { rule with region := spec.region }.withFiles spec.files)

/-- The pattern rule of a specification. -/
def ofMatcher (spec : RuleSpec) : Except RuleError Rule := do
  let matcher ← match spec.pattern with
    | some source => Matcher.regex <$> compileFor spec.id spec.ignoreCase source
    | none => PatternRule.termsMatcher spec.id spec.terms spec.wordBoundary spec.ignoreCase
  let files ← globsFor spec.id spec.files
  let exempt ← spec.exempt.mapM (compileFor spec.id spec.ignoreCase)
  return .pattern {
    id := spec.id
    message := spec.message
    matcher := matcher
    region := spec.region
    exempt := exempt
    files := files
    replacement := spec.replacement }

/-- The rule of a specification. -/
def ofSpec (spec : RuleSpec) : Except RuleError Rule :=
  if matcherCount spec = 0 then .error (.noMatcher spec.id)
  else if 1 < matcherCount spec then .error (.conflictingMatchers spec.id)
  else match spec.claim with
    | some source => ofClaim spec source
    | none => ofMatcher spec

end Rule

/-- Rules in the order in which a project lists them. -/
structure RuleSet where
  rules : List Rule

namespace RuleSet

/-- The rules that are active in a locale; rules that are not are not looked at. -/
def build (specs : List RuleSpec) (locale : Locale) : Except RuleError RuleSet := do
  return ⟨← (specs.filter fun spec => locale.enables spec.locales).mapM Rule.ofSpec⟩

/-- Only the rules with these names, each of which has to exist. -/
def retain (set : RuleSet) (ids : List String) : Except RuleError RuleSet :=
  match ids.find? fun id => ! set.rules.any (·.id == id) with
  | some unknown => .error (.unknownRule unknown)
  | none => .ok ⟨set.rules.filter fun rule => ids.contains rule.id⟩

/-- The first pattern rule with this name. -/
def pattern? (set : RuleSet) (id : String) : Option PatternRule :=
  (set.rules.filterMap Rule.pattern?).find? (·.id == id)

/-- The violations of some files by file and line, those of one line in the order of the rules. -/
def run (set : RuleSet) (files : List SourceFile) : List Violation :=
  Violation.sort (set.rules.flatMap (·.run files))

end RuleSet

end QualityGate
