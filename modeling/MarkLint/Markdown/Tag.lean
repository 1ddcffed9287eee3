import MarkLint.Text.Blank
import MarkLint.Text.Case

/-!
# HTML tags and other raw HTML

Each reader here takes a text and gives what follows the construct at its start, if there is one.
-/

namespace MarkLint.Markdown.Tag

open MarkLint.Text

/-- May `c` stand in the name of a tag, after its first letter? -/
def isNameChar (c : Char) : Bool := c.isAlphanum || c == '-'

/-- May `c` start the name of an attribute? -/
def startsAttribute (c : Char) : Bool := c.isAlpha || c == '_' || c == ':'

/-- May `c` stand in the name of an attribute? -/
def isAttributeChar (c : Char) : Bool := c.isAlphanum || c == '_' || c == ':' || c == '.' || c == '-'

/-- May `c` stand in an attribute value without quotes? -/
def isBareChar (c : Char) : Bool :=
  32 < c.toNat && c != '"' && c != '\'' && c != '=' && c != '<' && c != '>' && c != '\x60'

/-- The texts left after some of the blanks at the start, most blanks first. -/
def afterBlanks : List Char → List (List Char)
  | [] => [[]]
  | c :: rest => if isBlank c then afterBlanks rest ++ [c :: rest] else [c :: rest]

/-- The texts left after an attribute value without quotes, longest value first; `taken` says whether it has begun. -/
def afterBareValue (taken : Bool) : List Char → List (List Char)
  | [] => if taken then [[]] else []
  | c :: rest =>
    let here := if taken then [c :: rest] else []
    if isBareChar c then afterBareValue true rest ++ here else here

/-- The texts left after an attribute value. -/
def afterValue : List Char → List (List Char)
  | '"' :: rest =>
    match rest.dropWhile (· != '"') with
    | _ :: more => [more]
    | [] => []
  | '\'' :: rest =>
    match rest.dropWhile (· != '\'') with
    | _ :: more => [more]
    | [] => []
  | s => afterBareValue false s

/-- The texts left after the value of an attribute whose name has been read, if it has one. -/
def afterAttributeName (s : List Char) : List (List Char) :=
  match s.dropWhile isBlank with
  | '=' :: rest => (afterBlanks rest).flatMap afterValue
  | _ => [s]

/-- The text left after the end of an opening tag. -/
def afterTagEnd? (s : List Char) : Option (List Char) :=
  match s.dropWhile isBlank with
  | '>' :: rest => some rest
  | '/' :: '>' :: rest => some rest
  | _ => none

/-- The text left after the attributes and the end of an opening tag; `fuel` bounds the number of attributes. -/
def afterAttributes? : (fuel : Nat) → List Char → Option (List Char)
  | 0, _ => none
  | fuel + 1, s =>
    let further : List (List Char) :=
      match s with
      | c :: _ =>
        if isBlank c then
          match s.dropWhile isBlank with
          | d :: rest => if startsAttribute d then afterAttributeName (rest.dropWhile isAttributeChar) else []
          | [] => []
        else []
      | [] => []
    match further.findSome? (afterAttributes? fuel) with
    | some rest => some rest
    | none => afterTagEnd? s

/-- The text left after an opening tag. -/
def afterOpening? : List Char → Option (List Char)
  | '<' :: c :: rest =>
    if c.isAlpha then afterAttributes? (rest.length + 1) (rest.dropWhile isNameChar) else none
  | _ => none

/-- The text left after a closing tag. -/
def afterClosing? : List Char → Option (List Char)
  | '<' :: '/' :: c :: rest =>
    if c.isAlpha then
      match (rest.dropWhile isNameChar).dropWhile isBlank with
      | '>' :: more => some more
      | _ => none
    else none
  | _ => none

/-- The text left after a tag. -/
def afterTag? (s : List Char) : Option (List Char) :=
  match afterOpening? s with
  | some rest => some rest
  | none => afterClosing? s

/-- The text left after the first occurrence of `word`. -/
def afterWord? (word : List Char) : List Char → Option (List Char)
  | [] => if word.isEmpty then some [] else none
  | c :: rest => if word.isPrefixOf (c :: rest) then some ((c :: rest).drop word.length) else afterWord? word rest

/-- The text left after the body and the end of a comment. Two hyphens in the body may not be followed by `>`. -/
def afterCommentBody? : List Char → Option (List Char)
  | '-' :: '-' :: '>' :: rest => some rest
  | '-' :: '-' :: _ :: rest => afterCommentBody? rest
  | '-' :: c :: rest => if c == '-' then none else afterCommentBody? rest
  | ['-'] => none
  | _ :: rest => afterCommentBody? rest
  | [] => none

/-- The text left after a comment, a processing instruction, a declaration or a section of character data. -/
def afterMarkup? : List Char → Option (List Char)
  | '<' :: '!' :: '-' :: '-' :: rest =>
    match rest with
    | '>' :: more => some more
    | '-' :: '>' :: more => some more
    | _ => afterCommentBody? rest
  | '<' :: '?' :: rest => afterWord? ['?', '>'] rest
  | '<' :: '!' :: rest =>
    if "[CDATA[".toList.isPrefixOf rest then afterWord? [']', ']', '>'] (rest.drop 7)
    else match rest with
      | c :: more => if c.isAlpha then afterWord? ['>'] more else none
      | [] => none
  | _ => none

/-- The text left after any piece of raw HTML. -/
def afterHtml? (s : List Char) : Option (List Char) :=
  match afterTag? s with
  | some rest => some rest
  | none => afterMarkup? s

/-! ## HTML blocks -/

/-- What a line that starts an HTML block says of the block. -/
inductive BlockKind where
  /-- A block that ends with the line in which one of these texts occurs. -/
  | untilText (ends : List (List Char))
  /-- A block that ends before an empty line; `interrupts` says whether it may interrupt a paragraph. -/
  | untilEmpty (interrupts : Bool)

/-- The elements whose content is raw text. -/
def rawNames : List String := ["script", "pre", "style", "textarea"]

/-- The elements that stand for blocks. -/
def blockNames : List String := [
    "address", "article", "aside", "base", "basefont", "blockquote", "body", "caption", "center", "col",
    "colgroup", "dd", "details", "dialog", "dir", "div", "dl", "dt", "fieldset", "figcaption", "figure",
    "footer", "form", "frame", "frameset", "h1", "h2", "h3", "h4", "h5", "h6", "head", "header", "hr", "html",
    "iframe", "legend", "li", "link", "main", "menu", "menuitem", "nav", "noframes", "ol", "optgroup",
    "option", "p", "param", "search", "section", "summary", "table", "tbody", "td", "tfoot", "th", "thead",
    "title", "tr", "track", "ul"]

/-- Does the text go on, after the name of a tag, with white space, its end, or no more? -/
def endsName (slash : Bool) (s : List Char) : Bool :=
  match s with
  | [] => true
  | '>' :: _ => true
  | '/' :: '>' :: _ => slash
  | c :: _ => isBlank c

/-- Does the text start with one of the names, in any case, and does the name end there? -/
def startsWithName (names : List String) (slash : Bool) (s : List Char) : Bool :=
  names.any fun name => (dropWord? name.toList s).any (endsName slash)

/-- Does `word`, in small letters, occur in the text in any case? -/
def occursIn (word : List Char) : List Char → Bool
  | [] => word.isEmpty
  | c :: rest => (dropWord? word (c :: rest)).isSome || occursIn word rest

/-- The HTML block that a line starts. -/
def blockKind? (line : List Char) : Option BlockKind :=
  match line with
  | '<' :: rest =>
    if startsWithName rawNames false rest then
      some (.untilText (rawNames.map fun name => "</".toList ++ name.toList ++ ['>']))
    else if "!--".toList.isPrefixOf rest then some (.untilText ["-->".toList])
    else if "?".toList.isPrefixOf rest then some (.untilText ["?>".toList])
    else if rest.head? == some '!' && (rest.tail.head?).any Char.isUpper then some (.untilText [">".toList])
    else if "![CDATA[".toList.isPrefixOf rest then some (.untilText ["]]>".toList])
    else
      let named := match rest with
        | '/' :: more => more
        | _ => rest
      if startsWithName blockNames true named then some (.untilEmpty true)
      else if (afterTag? line).any isBlankText then some (.untilEmpty false)
      else none
  | _ => none

/-- Does the block end with this line? -/
def BlockKind.endsWith (kind : BlockKind) (line : List Char) : Bool :=
  match kind with
  | untilText ends => ends.any fun word => occursIn word line
  | untilEmpty _ => line.isEmpty

end MarkLint.Markdown.Tag
