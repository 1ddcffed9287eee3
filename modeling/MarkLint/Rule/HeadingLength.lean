import MarkLint.Rule

/-!
# Maximum heading length

Flags headings whose plain text is longer than a maximum: markers, emphasis and link destinations do not count, the
alternative text of an image does. The option gives the maximum, which is 60 characters without one.
-/

namespace MarkLint.HeadingLength

/-- The name of the rule. -/
def id : String := "maximum-heading-length"

/-- The maximum without an option. -/
def defaultLimit : Int := 60

/-- Reads the option: the maximum length. -/
def readLimit (option : Option Scalar) : Except OptionFault Int :=
  (Setting.readCount option "maximum heading length" (some defaultLimit) false).map fun n => n.getD defaultLimit

/-- Is the heading longer than the limit? -/
def isTooLong (limit : Int) (n : Node) : Bool := limit < (n.plainText.length : Int)

/-- Reports every heading longer than `limit` characters. A limit that a text exceeds can be written. -/
def steps (limit : Int) (tree : Node) (loc : Location) : List Step :=
  let headings := (tree.walk (.kind "heading")).filter fun n => !n.isGenerated (some loc) && isTooLong limit n
  headings.map fun n => .message ("Use headings shorter than `" ++ toString limit ++ "`") (.node n)

/-- The rule. -/
def rule : Rule where
  id := id
  summary := "Flag headings whose plain text is longer than a maximum."
  optionKey := some "max_length"
  read option := (readLimit option).map fun limit => ⟨some (.int limit), steps limit⟩

end MarkLint.HeadingLength
