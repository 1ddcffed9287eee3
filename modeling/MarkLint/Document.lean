import MarkLint.Document.FrontMatter
import MarkLint.Document.Tree
import MarkLint.Markdown.Reader

/-!
# Documents

A `Document` is a source text with the tree read from it.
-/

namespace MarkLint

/-- A source text and its tree. -/
structure Document where
  source : List Char
  tree : Node

namespace Document

/-- The document of a text, when `markdown` reads the part after the front matter. -/
def readWith (markdown : List Char → List Markdown.Element) (source : List Char) : Except TreeError Document :=
  let count := FrontMatter.lineCount source
  (buildTree source (markdown (FrontMatter.hide count source)) count).map fun tree => ⟨source, tree⟩

/-- The document of a text. -/
def read (source : List Char) : Except TreeError Document := readWith Markdown.elements source

end Document
end MarkLint
