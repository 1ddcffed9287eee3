import MarkLint.Scalar

/-!
# Reading rule options

A rule turns its raw option into a setting, or refuses it in words that quote it. Options that name a style and options
that give a number are read here; both know the word `consistent`, which leaves the choice to the document. A value that
cannot be quoted is not refused in words: reading it breaks down.
-/

namespace MarkLint

/-- Why an option was not read: it was refused with a text, or its reader broke down. -/
inductive OptionFault where
  | refused (text : String)
  | brokeDown (reason : String)
  deriving Repr, DecidableEq

/-- The refusal of a value that is quoted between two texts. -/
def OptionFault.refuse (before : String) (value : Scalar) (after : String) : OptionFault :=
  match value.shown with
  | .ok quoted => refused (before ++ quoted ++ after)
  | .error reason => brokeDown reason

namespace Setting

/-- The word that leaves the choice to the document. -/
def consistent : String := "consistent"

/-- The choices of a message: `a`, `a or b`, `a, b, or c`. -/
def orList (choices : List String) : String :=
  match choices.reverse with
  | last :: before =>
    if choices.length < 3 then " or ".intercalate choices
    else ", ".intercalate before.reverse ++ ", or " ++ last
  | [] => ""

/-- A choice of a message in its quotes. -/
def quote (choice : String) : String := "`'" ++ choice ++ "'`"

/-- The refusal of a value that names none of the styles. -/
def refuseStyle (label : String) (value : Scalar) (styles : List String) : OptionFault :=
  .refuse ("Incorrect " ++ label ++ " `") value ("`: use either " ++ orList ((consistent :: styles).map quote))

/-- The refusal of a value that is no number. -/
def refuseCount (label : String) (value : Scalar) (allowConsistent : Bool) : OptionFault :=
  .refuse ("Incorrect " ++ label ++ " `") value
    ("`: use " ++ if allowConsistent then "either " ++ quote consistent ++ " or a number" else "a number")

/-- Reads an option that names one of `styles`; `none` stands for the choice of the document. -/
def readStyle (option : Option Scalar) (styles : List String) (label : String) : Except OptionFault (Option String) :=
  match option with
  | none => .ok none
  | some value =>
    if value = .text consistent then .ok none
    else match value with
      | .text s => if styles.contains s then .ok (some s) else .error (refuseStyle label value styles)
      | _ => .error (refuseStyle label value styles)

/-- Reads an option that gives a number; an absent option gives `default`. -/
def readCount (option : Option Scalar) (label : String) (default : Option Int) (allowConsistent : Bool) :
    Except OptionFault (Option Int) :=
  match option with
  | none => .ok default
  | some value =>
    if allowConsistent && value == .text consistent then .ok none
    else match value with
      | .int n => if 0 ≤ n then .ok (some n) else .error (refuseCount label value allowConsistent)
      | _ => .error (refuseCount label value allowConsistent)

end Setting

end MarkLint
