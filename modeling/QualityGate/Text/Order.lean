/-!
# Strings in order

Strings are ordered by their code points, which is also the order of their bytes.  Wherever a set
of paths or names is written down it is written as a strictly increasing list, so equal sets have
equal texts.
-/

namespace QualityGate.Text

/-- The strings in increasing order, repetitions included. -/
def sorted (texts : List String) : List String := texts.mergeSort fun a b => decide (a ≤ b)

/-- The different strings in increasing order. -/
def sortedSet (texts : List String) : List String := sorted texts.eraseDups

@[simp] theorem mem_sorted {text : String} {texts : List String} :
    text ∈ sorted texts ↔ text ∈ texts := by
  simp [sorted]

@[simp] theorem mem_sortedSet {text : String} {texts : List String} :
    text ∈ sortedSet texts ↔ text ∈ texts := by
  simp [sortedSet]

end QualityGate.Text
