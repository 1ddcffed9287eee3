/-!
# Markdown elements

What reading Markdown yields before places in the source are known: a tree of elements that says of each block which
lines it spans, and nothing about columns.
-/

namespace MarkLint.Markdown

/-- One element. Kinds are an open vocabulary; `lines` are the first line of a block and the line after its last,
counted from 0. -/
structure Element where
  kind : String
  tag : String := ""
  lines : Option (Int × Int) := none
  content : String := ""
  info : String := ""
  markup : String := ""
  href : Option String := none
  src : Option String := none
  children : List Element := []
  deriving Repr, Inhabited

end MarkLint.Markdown
