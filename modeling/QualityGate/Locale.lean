import QualityGate.Text.Blank
import QualityGate.Unicode.Casing

/-!
# Locales

Some rules only make sense for one language of the texts that a project shows to its users.  A
locale is a language tag without regard to case and to blanks around it.
-/

namespace QualityGate

/-- A language tag in lower case. -/
structure Locale where
  tag : String
  deriving DecidableEq, Repr

namespace Locale

/-- The locale that a tag denotes. -/
def ofTag (tag : String) : Locale := ⟨Unicode.lowercase (Text.trimmed tag)⟩

/-- The locale of a project that names none. -/
def default : Locale := ofTag "en"

/-- Whether something that is restricted to some locales is active; no restriction means all. -/
def enables (locale : Locale) (tags : List String) : Bool :=
  tags.isEmpty || tags.any fun tag => ofTag tag == locale

end Locale

end QualityGate
