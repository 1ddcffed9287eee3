import MarkLint.Rule
import MarkLint.Style
import MarkLint.Text.Blank

/-!
# Code block style

Flags code blocks that do not have the preferred style: fenced, by three or more backticks or tildes, or indented. The
option fixes the style; without one, or with `consistent`, the first code block of the document decides.
-/

namespace MarkLint

/-- How a code block is set off. -/
inductive CodeStyle where
  | fenced
  | indented
  deriving Repr, DecidableEq

/-- The name of a style, as the option and the message spell it. -/
def CodeStyle.name : CodeStyle → String
  | fenced => "fenced"
  | indented => "indented"

namespace CodeBlockStyle

/-- The name of the rule. -/
def id : String := "code-block-style"

/-- Reads the option: a fixed style, or `none` to take it from the document. -/
def readCodeStyle (option : Option Scalar) : Except OptionFault (Option CodeStyle) :=
  (Setting.readStyle option ["fenced", "indented"] "code block style").map fun
    | some "fenced" => some .fenced
    | some _ => some .indented
    | none => none

/-- Does the text open with a fence, after any white space? -/
def opensFence (s : List Char) : Bool :=
  match Text.trimStart s with
  | a :: b :: c :: _ => (a == '~' || a == '\x60') && b == a && c == a
  | _ => false

/-- The style of a code node: one with a language is fenced, otherwise its source decides. -/
def codeStyle (loc : Location) (n : Node) : Option CodeStyle :=
  if n.lang.any (· ≠ "") then some .fenced
  else do
    let start ← n.start?
    let stop ← n.stop?
    return if opensFence (loc.slice start.offset stop.offset) then .fenced else .indented

/-- The message for a code block that differs from the preferred style. -/
def report (v : Style.Verdict Node CodeStyle) : Step :=
  match v.observed with
  | some _ => .message ("Code blocks should be " ++ v.preferred.name) (.node v.item)
  | none => .breakDown "code block without a place"

/-- Reports every code block whose style differs from the preferred one. -/
def steps (style : Option CodeStyle) (tree : Node) (loc : Location) : List Step :=
  (Style.mismatches (fun n => n.isGenerated (some loc)) (codeStyle loc) style (tree.walk (.kind "code"))).map report

/-- The rule. -/
def rule : Rule where
  id := id
  summary := "Flag code blocks that do not use the preferred style."
  optionKey := some "style"
  read option := (readCodeStyle option).map fun style =>
    ⟨style.map fun s => .text s.name, steps style⟩

end CodeBlockStyle
end MarkLint
