/-!
# Spans of characters

A property of characters is a list of inclusive ranges of code points. Membership is decided
by the ranges alone, so a table of a property is data and needs no reasoning of its own.
-/
namespace Covenant.Text

/-- Inclusive ranges of code points. -/
abbrev Spans := List (Nat × Nat)

/-- A character belongs to spans when one of the ranges holds its code point. -/
def Spans.holds (spans : Spans) (c : Char) : Bool :=
  spans.any fun span => span.1 ≤ c.toNat && c.toNat ≤ span.2

end Covenant.Text
