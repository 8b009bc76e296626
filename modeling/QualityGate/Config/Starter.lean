import QualityGate.Config.Basic

/-!
# The starter configuration

The configuration that a new project begins with.  It shows every section once; those that need
files of their own are commented out.
-/

namespace QualityGate.Config

/-- The lines of the starter configuration. -/
def starterLines : List String := [
  "# qualities: staged verification pipeline",
  "#",
  "# Stages run in the order listed and stop at the first failure.",
  "",
  "[project]",
  "locale = \"en\"",
  "algorithm = \"sha256\"",
  "default_timeout_secs = 600",
  "baseline_ref = \"HEAD\"",
  "",
  "[[stage]]",
  "id = \"policy:scan\"",
  "command = \"qualities\"",
  "args = [\"scan\"]",
  "kind = \"policy\"",
  "",
  "[[stage]]",
  "id = \"typecheck\"",
  "command = \"npx\"",
  "args = [\"tsc\", \"--noEmit\"]",
  "kind = \"typecheck\"",
  "requires = [\"tsconfig.json\"]",
  "",
  "[[stage]]",
  "id = \"lint\"",
  "command = \"npx\"",
  "args = [\"eslint\"]",
  "kind = \"lint\"",
  "# With --changed-only, changed files matching these globs replace `targets`.",
  "files = [\"**/*.ts\", \"**/*.tsx\"]",
  "targets = [\".\"]",
  "requires = [\"package.json\"]",
  "",
  "[[stage]]",
  "id = \"test\"",
  "command = \"npm\"",
  "args = [\"test\"]",
  "kind = \"test\"",
  "requires = [\"package.json\"]",
  "",
  "# Optional suite run after a passing test stage when its files changed.",
  "# [secondary]",
  "# dir = \"vibecoding\"",
  "# tracked = [\"vibecoding\", \"guarded/tests\"]",
  "# command = \"npm\"",
  "# args = [\"run\", \"test:vibecoding\"]",
  "",
  "[[rule]]",
  "id = \"anti_mvp\"",
  "message = \"placeholder scope marker in code\"",
  "terms = [\"MVP\"]",
  "word_boundary = true",
  "",
  "[[rule]]",
  "id = \"no_any_cast\"",
  "message = \"cast to any\"",
  "pattern = '\\bas\\s+any\\b'",
  "replacement = \"as unknown\"",
  "",
  "[[rule]]",
  "id = \"todo_ticket\"",
  "message = \"TODO without a ticket reference\"",
  "pattern = '\\bTODO\\b'",
  "region = \"comments\"",
  "exempt = '[A-Z][A-Z0-9]+-\\d+'",
  "",
  "# Stages bound to a unit fail while the unit's manifest is stale.",
  "# [[unit]]",
  "# id = \"lint-config\"",
  "# files = [\"eslint.config.js\", \"tsconfig.json\"]",
  "# context = \"docs/lint-config.md\""]

/-- The text of the starter configuration. -/
def starter : String := String.join (starterLines.map (· ++ "\n"))

end QualityGate.Config
