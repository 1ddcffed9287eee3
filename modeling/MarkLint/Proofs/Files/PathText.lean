import MarkLint.Files.Path
import MarkLint.Proofs.Text.Pieces
import Mathlib.Data.List.Flatten

/-!
# Paths as texts

A path that is made of names can be read back from its text (`ofString_toString`). Whatever text a path is read from,
its names hold no other characters than the text, and no more of them (`letters_ofString_sublist`), and its last name
ends as the text does, unless that ends in a slash or a dot (`exists_name_ofString`).
-/

namespace MarkLint.Files

open MarkLint.Text

/-- The name of an entry: it has characters, is not a single dot, and holds no slash. -/
def IsName (name : String) : Prop := name.toList ≠ [] ∧ name.toList ≠ ['.'] ∧ '/' ∉ name.toList

instance (name : String) : Decidable (IsName name) := inferInstanceAs (Decidable (_ ∧ _ ∧ _))

namespace Path

/-- The path is relative or starts at the root, and is made of names. -/
structure IsPlain (p : Path) : Prop where
  anchor : p.anchor = "" ∨ p.anchor = "/"
  names : ∀ name ∈ p.parts, IsName name

/-- The characters of the names of a path. -/
def letters (p : Path) : List Char := (p.parts.map String.toList).flatten

variable {p : Path} {parts : List String}

theorem toList_slash_intercalate (parts : List String) :
    ("/".intercalate parts).toList = ['/'].intercalate (parts.map String.toList) := String.toList_intercalate

/-- Names are the pieces of the text in which they are joined. -/
theorem pieces_names (h : ∀ name ∈ parts, IsName name) (hne : parts ≠ []) :
    pieces '/' ("/".intercalate parts).toList = parts.map String.toList := by
  rw [toList_slash_intercalate]
  refine pieces_intercalate (fun hnil => hne (List.map_eq_nil_iff.1 hnil)) fun s hs => ?_
  obtain ⟨name, hname, rfl⟩ := List.mem_map.1 hs
  exact (h name hname).2.2

/-- A text of names does not start with a slash. -/
theorem exists_names_cons (h : ∀ name ∈ parts, IsName name) (hne : parts ≠ []) :
    ∃ c rest, ("/".intercalate parts).toList = c :: rest ∧ c ≠ '/' := by
  obtain ⟨name, names, rfl⟩ := List.exists_cons_of_ne_nil hne
  obtain ⟨hfilled, -, hslash⟩ := h name List.mem_cons_self
  obtain ⟨c, letters, hname⟩ := List.exists_cons_of_ne_nil hfilled
  have hc : c ≠ '/' := by
    rintro rfl
    exact hslash (hname ▸ List.mem_cons_self)
  rw [toList_slash_intercalate, List.map_cons, hname]
  cases names with
  | nil => exact ⟨c, letters, List.intercalate_singleton, hc⟩
  | cons name' names =>
    rw [List.map_cons, List.intercalate_cons_cons]
    exact ⟨c, _, rfl, hc⟩

/-- All pieces that are names are kept, and read as they are. -/
theorem ofList_filter_names (h : ∀ name ∈ parts, IsName name) :
    ((parts.map String.toList).filter fun n => n ≠ [] ∧ n ≠ ['.']).map String.ofList = parts := by
  rw [List.filter_eq_self.2 fun n hn => ?_, List.map_map]
  · exact (List.map_congr_left fun name _ => String.ofList_toList).trans (List.map_id parts)
  · obtain ⟨name, hname, rfl⟩ := List.mem_map.1 hn
    exact decide_eq_true ⟨(h name hname).1, (h name hname).2.1⟩

theorem ofString_toString (h : p.IsPlain) : ofString p.toString = p := by
  obtain ⟨anchor, parts⟩ := p
  obtain ⟨hanchor, hnames⟩ := h
  by_cases hparts : parts = []
  · subst hparts
    rcases hanchor with rfl | rfl <;> rfl
  · obtain ⟨c, rest, htext, hc⟩ := exists_names_cons hnames hparts
    have hpieces := pieces_names hnames hparts
    have hstop : (c == '/') = false := beq_eq_false_iff_ne.2 hc
    have htoString : (Path.toString ⟨anchor, parts⟩).toList = anchor.toList ++ ("/".intercalate parts).toList := by
      rw [Path.toString, if_neg fun hempty => hparts hempty.2, String.toList_append]
    rcases hanchor with rfl | rfl
    · rw [String.toList_empty, List.nil_append] at htoString
      rw [ofString, htoString, hpieces, ofList_filter_names hnames, htext]
      simp [anchorOf, hstop]
    · have hroot : "/".toList = ['/'] := rfl
      rw [hroot, List.singleton_append] at htoString
      rw [ofString, htoString, pieces, piecesBy_cons_sep (· == '/') (beq_self_eq_true '/'), ← pieces, hpieces,
        List.filter_cons_of_neg (by simp), ofList_filter_names hnames, htext]
      simp [anchorOf, hstop]

/-- The text of a path has the characters of its names, apart from slashes. -/
theorem filter_toString (h : p.IsPlain) (hne : p.parts ≠ []) :
    p.toString.toList.filter (fun c => !(c == '/')) = p.letters := by
  have hanchor : p.anchor.toList.filter (fun c => !(c == '/')) = [] := by
    rcases h.anchor with heq | heq <;> rw [heq] <;> rfl
  rw [Path.toString, if_neg fun hempty => hne hempty.2, String.toList_append, List.filter_append, hanchor,
    List.nil_append, ← flatten_piecesBy, ← pieces, pieces_names h.names hne, letters]

/-- The names that are read are made of the characters of the text. -/
theorem letters_ofString_sublist (s : String) :
    (ofString s).letters.Sublist (s.toList.filter fun c => !(c == '/')) := by
  have hread : (((pieces '/' s.toList).filter fun n => n ≠ [] ∧ n ≠ ['.']).map String.ofList).map String.toList
      = (pieces '/' s.toList).filter fun n => n ≠ [] ∧ n ≠ ['.'] := by
    rw [List.map_map]
    exact (List.map_congr_left fun _ _ => String.toList_ofList).trans (List.map_id _)
  rw [letters, ofString, hread, ← flatten_piecesBy, ← pieces]
  exact (List.filter_sublist (l := pieces '/' s.toList)).flatten

/-- A text that ends in a character other than a slash or a dot is a path whose last name ends in it. -/
theorem exists_name_ofString {c : Char} (hslash : c ≠ '/') (hdot : c ≠ '.') (s : List Char) :
    ∃ front, (ofString (String.ofList (s ++ [c]))).name.toList = front ++ [c] := by
  have hsep : ∀ d ∈ [c], (d == '/') = false := fun d hd =>
    beq_eq_false_iff_ne.2 fun heq => hslash (List.mem_singleton.1 hd ▸ heq)
  obtain ⟨first, last, -, hpieces⟩ := piecesBy_append (· == '/') hsep s
  have hkept : [last ++ [c]].filter (fun n => n ≠ [] ∧ n ≠ ['.']) = [last ++ [c]] := by
    refine List.filter_eq_self.2 fun n hn => decide_eq_true ?_
    rw [List.mem_singleton.1 hn]
    refine ⟨by simp, fun heq => hdot ?_⟩
    have hends := congrArg List.getLast? heq
    rw [List.getLast?_concat] at hends
    exact Option.some.inj hends
  refine ⟨last, ?_⟩
  rw [name, ofString, String.toList_ofList, pieces, hpieces, List.filter_append, hkept, List.map_append,
    List.map_singleton, List.getLastD_eq_getLast?, List.getLast?_concat, Option.getD_some, String.toList_ofList]

end Path
end MarkLint.Files
