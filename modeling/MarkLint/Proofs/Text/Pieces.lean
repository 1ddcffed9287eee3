import MarkLint.Text.Lines
import Mathlib.Data.List.Basic

/-!
# Pieces of a text

How a text is cut follows from how its parts are cut: of two texts, one after the other, the last piece of the first and
the first piece of the second become one (`exists_piecesBy_append`), and a separator ends a piece
(`piecesBy_append_cons`). So pieces that are joined by separators are cut again where they were joined
(`pieces_intercalate`). Cutting takes nothing away but the separators (`flatten_piecesBy`).
-/

namespace MarkLint.Text

/-- Whether all characters of a text are of some kind is decided on the text, not by going through all characters. -/
instance (priority := high) decidableForallText {p : Char → Prop} [DecidablePred p] (s : List Char) :
    Decidable (∀ c ∈ s, p c) :=
  List.decidableBAll p s

/-- The same for the character at an end of a text, if there is one. -/
instance (priority := high) decidableForallEnd {p : Char → Prop} [DecidablePred p] (last? : Option Char) :
    Decidable (∀ c ∈ last?, p c) :=
  Option.decidableForallMem last?

variable (test : Char → Bool)

theorem piecesBy_ne_nil : ∀ s : List Char, piecesBy test s ≠ []
  | [] => by simp [piecesBy]
  | c :: s => by
    rw [piecesBy]
    split
    · simp
    · split <;> simp

theorem piecesBy_cons_sep {c : Char} (hc : test c = true) (s : List Char) :
    piecesBy test (c :: s) = [] :: piecesBy test s := by
  rw [piecesBy, if_pos hc]

theorem piecesBy_cons {c : Char} {s l : List Char} {ls : List (List Char)} (hc : test c = false)
    (h : piecesBy test s = l :: ls) : piecesBy test (c :: s) = (c :: l) :: ls := by
  rw [piecesBy, hc, h]
  rfl

/-- A text without separators is its only piece. -/
theorem piecesBy_of_not_mem : ∀ {s : List Char}, (∀ c ∈ s, test c = false) → piecesBy test s = [s]
  | [], _ => rfl
  | c :: _, h =>
    piecesBy_cons test (h c List.mem_cons_self) (piecesBy_of_not_mem fun d hd => h d (List.mem_cons_of_mem _ hd))

/-- A separator ends the piece before it. -/
theorem piecesBy_append_cons {c : Char} (hc : test c = true) (t : List Char) : ∀ {s : List Char},
    (∀ d ∈ s, test d = false) → piecesBy test (s ++ c :: t) = s :: piecesBy test t
  | [], _ => piecesBy_cons_sep test hc t
  | d :: _, hs => piecesBy_cons test (hs d List.mem_cons_self)
      (piecesBy_append_cons hc t fun e he => hs e (List.mem_cons_of_mem _ he))

/-- The last piece of a text goes on with the first piece of the text after it. -/
theorem exists_piecesBy_append (t : List Char) : ∀ s : List Char, ∃ first last next rest,
    piecesBy test s = first ++ [last] ∧ piecesBy test t = next :: rest ∧
      piecesBy test (s ++ t) = first ++ (last ++ next) :: rest
  | [] => by
    obtain ⟨next, rest, ht⟩ := List.exists_cons_of_ne_nil (piecesBy_ne_nil test t)
    exact ⟨[], [], next, rest, rfl, ht, ht⟩
  | c :: s => by
    obtain ⟨first, last, next, rest, hs, ht, happend⟩ := exists_piecesBy_append t s
    cases hc : test c with
    | true =>
      refine ⟨[] :: first, last, next, rest, ?_, ht, ?_⟩
      · rw [piecesBy_cons_sep test hc, hs, List.cons_append]
      · rw [List.cons_append, piecesBy_cons_sep test hc, happend, List.cons_append]
    | false =>
      cases first with
      | nil => exact ⟨[], c :: last, next, rest, piecesBy_cons test hc hs, ht, piecesBy_cons test hc happend⟩
      | cons p ps =>
        exact ⟨(c :: p) :: ps, last, next, rest, piecesBy_cons test hc hs, ht, piecesBy_cons test hc happend⟩

/-- Text without separators that is added at the end goes to the last piece. -/
theorem piecesBy_append {t : List Char} (h : ∀ c ∈ t, test c = false) (s : List Char) :
    ∃ first last, piecesBy test s = first ++ [last] ∧ piecesBy test (s ++ t) = first ++ [last ++ t] := by
  obtain ⟨first, last, next, rest, hs, ht, happend⟩ := exists_piecesBy_append test t s
  rw [piecesBy_of_not_mem test h] at ht
  cases ht
  exact ⟨first, last, hs, happend⟩

/-- Pieces that hold no separators are the pieces of the text that they make. -/
theorem pieces_intercalate {sep : Char} : ∀ {ps : List (List Char)}, ps ≠ [] → (∀ p ∈ ps, sep ∉ p) →
    pieces sep ([sep].intercalate ps) = ps
  | [], h, _ => absurd rfl h
  | p :: ps, _, h => by
    obtain ⟨hp, hps⟩ := List.forall_mem_cons.1 h
    have hsep : ∀ c ∈ p, (c == sep) = false := fun c hc => beq_eq_false_iff_ne.2 (ne_of_mem_of_not_mem hc hp)
    cases ps with
    | nil => rw [List.intercalate_singleton, pieces, piecesBy_of_not_mem _ hsep]
    | cons p' ps =>
      rw [List.intercalate_cons_cons, List.append_assoc, List.singleton_append, pieces,
        piecesBy_append_cons (· == sep) (beq_self_eq_true sep) _ hsep]
      exact congrArg (p :: ·) (pieces_intercalate (List.cons_ne_nil p' ps) hps)

/-- The pieces of a text hold its characters except the separators. -/
theorem flatten_piecesBy : ∀ s : List Char, (piecesBy test s).flatten = s.filter fun c => !test c
  | [] => rfl
  | c :: s => by
    have ih := flatten_piecesBy s
    obtain ⟨p, ps, hs⟩ := List.exists_cons_of_ne_nil (piecesBy_ne_nil test s)
    cases hc : test c with
    | true => rw [piecesBy_cons_sep test hc, List.flatten_cons, ih, List.filter_cons_of_neg (by simp [hc])]; rfl
    | false =>
      rw [hs] at ih
      rw [piecesBy_cons test hc hs, List.filter_cons_of_pos (by simp [hc]), ← ih]
      rfl

end MarkLint.Text
