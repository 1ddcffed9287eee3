/-!
# Consistent style

Several rules compare the style of each item of a sequence with a preferred style. Either the preferred style is fixed
and all items are compared with it, or the first item that has a style decides for the rest.
-/

namespace MarkLint.Style

/-- The outcome of comparing one item's style with the preferred style. -/
structure Verdict (α σ : Type) where
  item : α
  preferred : σ
  observed : Option σ

variable {α σ : Type}

/-- Do the two styles differ? -/
def Verdict.isMismatch [DecidableEq σ] (v : Verdict α σ) : Bool := v.observed != some v.preferred

/-- Compares the style of each item that is not skipped with the preferred style. Without a preferred style the first
style that is found becomes the preferred one, and the item that has it gets no verdict. -/
def infer (skip : α → Bool) (style : α → Option σ) (preferred : Option σ) : List α → List (Verdict α σ)
  | [] => []
  | item :: rest =>
    if skip item then infer skip style preferred rest
    else match preferred with
      | none => infer skip style (style item) rest
      | some p => ⟨item, p, style item⟩ :: infer skip style preferred rest

/-- The verdicts whose styles differ. -/
def mismatches [DecidableEq σ] (skip : α → Bool) (style : α → Option σ) (preferred : Option σ) (items : List α) :
    List (Verdict α σ) :=
  (infer skip style preferred items).filter Verdict.isMismatch

end MarkLint.Style
