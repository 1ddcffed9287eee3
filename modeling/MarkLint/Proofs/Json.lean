import MarkLint.Json
import Mathlib.Data.List.TakeWhile

/-!
# Reading JSON text back

`Json.read?` reads JSON text whose numbers are integers, in any layout. The text of a value is read back as this value
(`read?_pretty`), so it determines the value.
-/

namespace MarkLint.Json

open MarkLint.Text

/-! ## A reader -/

/-- What a reader gives: what it read, and the text after it. -/
abbrev Reader (α : Type) := List Char → Option (α × List Char)

/-- The text after the white space that may stand between values. -/
def skipGap (s : List Char) : List Char := s.dropWhile fun c => c == ' ' || c == '\n' || c == '\t' || c == '\r'

/-- The character that a letter after a backslash stands for. -/
def unescape? : Char → Option Char
  | '"' => some '"'
  | '\\' => some '\\'
  | '/' => some '/'
  | 'b' => some (Char.ofNat 8)
  | 'f' => some (Char.ofNat 12)
  | 'n' => some '\n'
  | 'r' => some '\r'
  | 't' => some '\t'
  | _ => none

/-- Reads the rest of a string, up to its closing quote. -/
def readChars : Reader (List Char)
  | '"' :: s => some ([], s)
  | '\\' :: 'u' :: a :: b :: c :: d :: s =>
    if [a, b, c, d].all fun e => (hexValue? e).isSome then
      (readChars s).map fun (t, rest) => (Char.ofNat (digitsValue 16 [a, b, c, d]) :: t, rest)
    else none
  | '\\' :: e :: s => (unescape? e).bind fun c => (readChars s).map fun (t, rest) => (c :: t, rest)
  | c :: s => if c.toNat < 32 then none else (readChars s).map fun (t, rest) => (c :: t, rest)
  | [] => none

/-- Reads digits. -/
def readNat (s : List Char) : Option (Nat × List Char) :=
  let digits := s.takeWhile Char.isDigit
  if digits = [] then none else some (Nat.ofDigitChars 10 digits 0, s.drop digits.length)

/-- Reads an integer. -/
def readNumber : Reader Json
  | '-' :: s => (readNat s).map fun (n, rest) => (int (-n), rest)
  | s => (readNat s).map fun (n, rest) => (int n, rest)

/-- Reads a value that is a word. -/
def readWord : Reader Json
  | 'n' :: 'u' :: 'l' :: 'l' :: s => some (null, s)
  | 't' :: 'r' :: 'u' :: 'e' :: s => some (bool true, s)
  | 'f' :: 'a' :: 'l' :: 's' :: 'e' :: s => some (bool false, s)
  | _ => none

mutual

/-- Reads a value. -/
def readValue : (fuel : Nat) → Reader Json
  | 0, _ => none
  | fuel + 1, s =>
    match skipGap s with
    | [] => none
    | c :: s =>
      if c == '-' || c.isDigit then readNumber (c :: s)
      else if c == '"' then (readChars s).map fun (t, rest) => (str (String.ofList t), rest)
      else if c == '[' then
        match skipGap s with
        | ']' :: rest => some (arr [], rest)
        | _ => (readItems fuel s).map fun (xs, rest) => (arr xs, rest)
      else if c == '\x7b' then
        match skipGap s with
        | '\x7d' :: rest => some (obj [], rest)
        | _ => (readMembers fuel s).map fun (ms, rest) => (obj ms, rest)
      else readWord (c :: s)

/-- Reads the items of an array, up to its closing bracket. -/
def readItems : (fuel : Nat) → Reader (List Json)
  | 0, _ => none
  | fuel + 1, s =>
    (readValue fuel s).bind fun (x, s) =>
      match skipGap s with
      | ',' :: s => (readItems fuel s).map fun (xs, rest) => (x :: xs, rest)
      | ']' :: rest => some ([x], rest)
      | _ => none

/-- Reads the members of an object, up to its closing brace. -/
def readMembers : (fuel : Nat) → Reader (List (String × Json))
  | 0, _ => none
  | fuel + 1, s =>
    match skipGap s with
    | '"' :: s =>
      (readChars s).bind fun (k, s) =>
        match skipGap s with
        | ':' :: s =>
          (readValue fuel s).bind fun (x, s) =>
            match skipGap s with
            | ',' :: s => (readMembers fuel s).map fun (ms, rest) => ((String.ofList k, x) :: ms, rest)
            | '\x7d' :: rest => some ([(String.ofList k, x)], rest)
            | _ => none
        | _ => none
    | _ => none

end

/-- The value that a text holds, with nothing but white space around it. -/
def read? (s : List Char) : Option Json :=
  (readValue (s.length + 1) s).bind fun (j, rest) => if skipGap rest = [] then some j else none

/-! ## Strings -/

/-- A control character is written with four digits, which are read back. -/
theorem readChars_hexDigits {n : Nat} (h : n < 32) (s : List Char) :
    readChars ('\\' :: 'u' :: (hexDigits 4 n ++ s)) = (readChars s).map fun (t, rest) => (Char.ofNat n :: t, rest) := by
  have hdigits : ∀ n < 32, (hexDigits 4 n).length = 4 ∧
      ((hexDigits 4 n).all fun e => (hexValue? e).isSome) = true ∧ digitsValue 16 (hexDigits 4 n) = n := by
    decide +kernel
  obtain ⟨hlength, hall, hvalue⟩ := hdigits n h
  match hexDigits 4 n, hlength, hall, hvalue with
  | [a, b, c, d], _, hall, hvalue => simp only [List.cons_append, List.nil_append, readChars, hall, if_true, hvalue]

/-- The characters that are written with a letter after a backslash. -/
def hasLetter : List Char := ['"', '\\', '\n', '\r', '\t', Char.ofNat 8, Char.ofNat 12]

/-- The other control characters are written with digits, all other characters as they are. -/
theorem escapeChar_of_not_mem {c : Char} (h : c ∉ hasLetter) :
    escapeChar c = if c.toNat < 32 then ['\\', 'u'] ++ hexDigits 4 c.toNat else [c] := by
  have hcode : ∀ {n : Nat}, c ≠ Char.ofNat n → ¬ c.toNat = n := by
    rintro n hn rfl
    exact hn (Char.ofNat_toNat c).symm
  simp only [hasLetter, List.mem_cons, List.not_mem_nil, or_false, not_or] at h
  obtain ⟨hquote, hbackslash, hfeed, hreturn, htab, hbackspace, hpage⟩ := h
  simp only [escapeChar, beq_iff_eq, hquote, hbackslash, hfeed, hreturn, htab, hcode hbackspace, hcode hpage, if_false]

/-- A character is read back, whether it is written after a backslash or as it is. -/
theorem readChars_escapeChar (c : Char) (s : List Char) :
    readChars (escapeChar c ++ s) = (readChars s).map fun (t, rest) => (c :: t, rest) := by
  by_cases hletter : c ∈ hasLetter
  · simp only [hasLetter, List.mem_cons, List.not_mem_nil, or_false] at hletter
    rcases hletter with rfl | rfl | rfl | rfl | rfl | rfl | rfl <;> rfl
  · rw [escapeChar_of_not_mem hletter]
    split
    · rename_i hcontrol
      rw [List.append_assoc, List.cons_append, List.cons_append, List.nil_append, readChars_hexDigits hcontrol,
        Char.ofNat_toNat]
    · rename_i hcontrol
      simp only [hasLetter, List.mem_cons, not_or] at hletter
      rw [List.singleton_append, readChars, if_neg hcontrol]
      · exact hletter.1
      · rintro a b d e t rfl
        exact absurd rfl hletter.2.1
      · rintro e t rfl
        exact absurd rfl hletter.2.1

theorem readChars_flatMap (t s : List Char) : readChars (t.flatMap escapeChar ++ '"' :: s) = some (t, s) := by
  induction t with
  | nil => rfl
  | cons c t ih =>
    rw [List.flatMap_cons, List.append_assoc, readChars_escapeChar, ih]
    rfl

theorem toList_quote (s : String) : (quote s).toList = '"' :: (s.toList.flatMap escapeChar ++ ['"']) := by
  simp [quote]

/-! ## Numbers -/

/-- A text that would not be read as further digits of a number. -/
def StopsNumber (s : List Char) : Prop := ∀ c ∈ s.head?, c.isDigit = false

theorem readNat_toDigits (n : Nat) {rest : List Char} (h : StopsNumber rest) :
    readNat (Nat.toDigits 10 n ++ rest) = some (n, rest) := by
  have hstop : rest.takeWhile Char.isDigit = [] := by
    cases rest with
    | nil => rfl
    | cons c rest => rw [List.takeWhile_cons, h c rfl]; rfl
  have hdigits : (Nat.toDigits 10 n ++ rest).takeWhile Char.isDigit = Nat.toDigits 10 n := by
    rw [List.takeWhile_append_of_pos fun c hc => Nat.isDigit_of_mem_toDigits (by decide) (by decide) hc, hstop,
      List.append_nil]
  rw [readNat, hdigits, if_neg Nat.toDigits_ne_nil, Nat.ofDigitChars_toDigits (by decide) (by decide),
    List.drop_left]

/-- A number starts as no other value does, and is read back. -/
theorem readNumber_toString (n : Int) {rest : List Char} (h : StopsNumber rest) : ∃ c t,
    (toString n).toList = c :: t ∧ (c == '-' || c.isDigit) = true ∧
      readNumber (c :: (t ++ rest)) = some (int n, rest) := by
  cases n with
  | ofNat n =>
    have htext : (toString (n : Int)).toList = Nat.toDigits 10 n := Nat.toList_repr
    obtain ⟨c, t, hdigits⟩ := List.exists_cons_of_ne_nil (Nat.toDigits_ne_nil (n := n) (b := 10))
    have hdigit : c.isDigit = true :=
      Nat.isDigit_of_mem_toDigits (b := 10) (n := n) (by decide) (by decide) (hdigits ▸ List.mem_cons_self)
    have hminus : c ≠ '-' := by
      rintro rfl
      exact absurd hdigit (by decide)
    refine ⟨c, t, htext.trans hdigits, by simp [hdigit], ?_⟩
    rw [readNumber, ← List.cons_append, ← hdigits, readNat_toDigits n h]
    · rfl
    · intro s heq
      exact hminus (List.cons.inj heq).1
  | negSucc n =>
    have htext : (toString (Int.negSucc n)).toList = '-' :: Nat.toDigits 10 (n + 1) := by
      show ("-" ++ (n + 1).repr).toList = _
      rw [String.toList_append, Nat.toList_repr]
      rfl
    refine ⟨'-', Nat.toDigits 10 (n + 1), htext, rfl, ?_⟩
    rw [readNumber, readNat_toDigits (n + 1) h]
    rfl

/-! ## Layout -/

/-- White space before a value, a comma or a bracket is skipped. -/
theorem skipGap_newLine (depth : Nat) (s : List Char) : skipGap ((newLine depth).toList ++ s) = skipGap s := by
  have hspaces : ∀ n : Nat, skipGap (List.replicate n ' ' ++ s) = skipGap s := by
    intro n
    induction n with
    | zero => rfl
    | succ n ih => exact ih
  simp only [newLine, String.toList_append, String.toList_ofList, List.append_assoc]
  exact hspaces (2 * depth)

theorem readValue_newLine (fuel depth : Nat) (s : List Char) :
    readValue fuel ((newLine depth).toList ++ s) = readValue fuel s := by
  cases fuel with
  | zero => rfl
  | succ fuel => rw [readValue, readValue, skipGap_newLine]

theorem readValue_space (fuel : Nat) (s : List Char) : readValue fuel (' ' :: s) = readValue fuel s := by
  cases fuel with
  | zero => rfl
  | succ fuel =>
    rw [readValue, readValue]
    rfl

/-- A line break stops a number. -/
theorem stopsNumber_newLine (depth : Nat) (s : List Char) : StopsNumber ((newLine depth).toList ++ s) := by
  rw [newLine, String.toList_append]
  rintro c ⟨⟩
  rfl

theorem stopsNumber_renderItems (depth depth' : Nat) (xs : List Json) (s : List Char) :
    StopsNumber ((renderItems depth xs).toList ++ ((newLine depth').toList ++ s)) := by
  cases xs with
  | nil => exact stopsNumber_newLine depth' s
  | cons x xs =>
    simp only [renderItems, String.toList_append, List.append_assoc]
    rintro c ⟨⟩
    rfl

theorem stopsNumber_renderMembers (depth depth' : Nat) (ms : List (String × Json)) (s : List Char) :
    StopsNumber ((renderMembers depth ms).toList ++ ((newLine depth').toList ++ s)) := by
  cases ms with
  | nil => exact stopsNumber_newLine depth' s
  | cons m ms =>
    obtain ⟨k, x⟩ := m
    simp only [renderMembers, String.toList_append, List.append_assoc]
    rintro c ⟨⟩
    rfl

/-! ## Texts

What stands between the brackets of an array is the text of its items without the comma before the first, and a line
break. Likewise for objects. -/

section Texts

variable {depth : Nat}

theorem toList_null : (render depth null).toList = ['n', 'u', 'l', 'l'] := by simp [render]

theorem toList_true : (render depth (bool true)).toList = ['t', 'r', 'u', 'e'] := by simp [render]

theorem toList_false : (render depth (bool false)).toList = ['f', 'a', 'l', 's', 'e'] := by simp [render]

theorem toList_arr_nil : (render depth (arr [])).toList = ['[', ']'] := by simp [render]

theorem toList_obj_nil : (render depth (obj [])).toList = ['\x7b', '\x7d'] := by simp [render]

theorem toList_arr_cons (x : Json) (xs : List Json) : (render depth (arr (x :: xs))).toList =
    '[' :: ((renderItems (depth + 1) (x :: xs)).toList.tail ++ ((newLine depth).toList ++ [']'])) := by
  simp [render, renderItems]

theorem toList_obj_cons (m : String × Json) (ms : List (String × Json)) : (render depth (obj (m :: ms))).toList =
    '\x7b' :: ((renderMembers (depth + 1) (m :: ms)).toList.tail ++ ((newLine depth).toList ++ ['\x7d'])) := by
  simp [render, renderMembers]

theorem toList_renderItems_cons (x : Json) (xs : List Json) : (renderItems depth (x :: xs)).toList =
    ',' :: ((newLine depth).toList ++ ((render depth x).toList ++ (renderItems depth xs).toList)) := by
  simp [renderItems]

theorem toList_renderMembers_cons (k : String) (x : Json) (ms : List (String × Json)) :
    (renderMembers depth ((k, x) :: ms)).toList = ',' :: ((newLine depth).toList ++ ('"' :: (k.toList.flatMap escapeChar
      ++ ('"' :: ':' :: ' ' :: ((render depth x).toList ++ (renderMembers depth ms).toList))))) := by
  simp [renderMembers, toList_quote]

end Texts

/-! ## Values -/

section Values

variable {fuel depth : Nat} {rest s t : List Char} {c : Char}

/-- Can a value start with the character? -/
def startsValue (c : Char) : Bool := c == '-' || c.isDigit || ['"', '[', '\x7b', 'n', 't', 'f'].contains c

theorem exists_toList_render (depth : Nat) (j : Json) :
    ∃ c t, (render depth j).toList = c :: t ∧ startsValue c = true := by
  cases j with
  | null => exact ⟨_, _, toList_null, rfl⟩
  | bool b =>
    cases b with
    | false => exact ⟨_, _, toList_false, rfl⟩
    | true => exact ⟨_, _, toList_true, rfl⟩
  | int n =>
    have hstops : StopsNumber [] := fun c hc => by cases hc
    obtain ⟨c, t, htext, hstart, -⟩ := readNumber_toString n hstops
    exact ⟨c, t, by rw [render, htext], by rw [startsValue, hstart]; rfl⟩
  | str t => exact ⟨_, _, by rw [render, toList_quote], rfl⟩
  | arr xs =>
    cases xs with
    | nil => exact ⟨_, _, toList_arr_nil, rfl⟩
    | cons x xs => exact ⟨_, _, toList_arr_cons x xs, rfl⟩
  | obj ms =>
    cases ms with
    | nil => exact ⟨_, _, toList_obj_nil, rfl⟩
    | cons m ms => exact ⟨_, _, toList_obj_cons m ms, rfl⟩

/-- A value does not start with white space. -/
theorem skipGap_of_startsValue (h : startsValue c = true) (s : List Char) : skipGap (c :: s) = c :: s := by
  refine List.dropWhile_cons_of_neg ?_
  simp only [Bool.or_eq_true, beq_iff_eq, not_or]
  refine ⟨⟨⟨?_, ?_⟩, ?_⟩, ?_⟩
  all_goals
    rintro rfl
    exact absurd h (by decide)

theorem readValue_null : readValue (fuel + 1) ((render depth null).toList ++ rest) = some (null, rest) := by
  rw [toList_null, readValue]
  rfl

theorem readValue_bool (b : Bool) :
    readValue (fuel + 1) ((render depth (bool b)).toList ++ rest) = some (bool b, rest) := by
  cases b with
  | false =>
    rw [toList_false, readValue]
    rfl
  | true =>
    rw [toList_true, readValue]
    rfl

theorem readValue_arr_nil : readValue (fuel + 1) ((render depth (arr [])).toList ++ rest) = some (arr [], rest) := by
  rw [toList_arr_nil, readValue]
  rfl

theorem readValue_obj_nil : readValue (fuel + 1) ((render depth (obj [])).toList ++ rest) = some (obj [], rest) := by
  rw [toList_obj_nil, readValue]
  rfl

theorem readValue_int (n : Int) (h : StopsNumber rest) :
    readValue (fuel + 1) ((render depth (int n)).toList ++ rest) = some (int n, rest) := by
  obtain ⟨c, t, htext, hstart, hread⟩ := readNumber_toString n h
  rw [render, htext, List.cons_append, readValue, skipGap_of_startsValue (by rw [startsValue, hstart]; rfl)]
  simp only [hstart, if_true, hread]

theorem readValue_str (t : String) :
    readValue (fuel + 1) ((render depth (str t)).toList ++ rest) = some (str t, rest) := by
  have hread : readValue (fuel + 1) ('"' :: (t.toList.flatMap escapeChar ++ '"' :: rest)) =
      (readChars (t.toList.flatMap escapeChar ++ '"' :: rest)).map fun (t, rest) => (str (String.ofList t), rest) := by
    rw [readValue]
    rfl
  rw [render, toList_quote, List.cons_append, List.append_assoc, List.singleton_append, hread, readChars_flatMap]
  simp

/-- An array is read if its items are. -/
theorem readValue_arr {x : Json} {xs ys : List Json}
    (h : readItems fuel ((renderItems (depth + 1) (x :: xs)).toList.tail ++ s) = some (ys, rest)) :
    readValue (fuel + 1) ('[' :: ((renderItems (depth + 1) (x :: xs)).toList.tail ++ s)) = some (arr ys, rest) := by
  obtain ⟨c, t, hhead, hstart⟩ := exists_toList_render (depth + 1) x
  have hgap : ∃ t, skipGap ((renderItems (depth + 1) (x :: xs)).toList.tail ++ s) = c :: t := by
    rw [toList_renderItems_cons, List.tail_cons, List.append_assoc, skipGap_newLine, hhead]
    exact ⟨_, skipGap_of_startsValue hstart _⟩
  obtain ⟨t, hgap⟩ := hgap
  have hread : ∀ s, readValue (fuel + 1) ('[' :: s) = match skipGap s with
      | ']' :: rest => some (arr [], rest)
      | _ => (readItems fuel s).map fun (xs, rest) => (arr xs, rest) := by
    intro s
    rw [readValue]
    rfl
  rw [hread, hgap, h]
  split
  · rename_i heq
    obtain rfl := (List.cons.inj heq).1
    exact absurd hstart (by decide)
  · rfl

/-- An object is read if its members are. -/
theorem readValue_obj {m : String × Json} {ms ns : List (String × Json)}
    (h : readMembers fuel ((renderMembers (depth + 1) (m :: ms)).toList.tail ++ s) = some (ns, rest)) :
    readValue (fuel + 1) ('\x7b' :: ((renderMembers (depth + 1) (m :: ms)).toList.tail ++ s)) =
      some (obj ns, rest) := by
  have hgap : ∃ t, skipGap ((renderMembers (depth + 1) (m :: ms)).toList.tail ++ s) = '"' :: t := by
    rw [toList_renderMembers_cons, List.tail_cons, List.append_assoc, skipGap_newLine]
    exact ⟨_, rfl⟩
  obtain ⟨t, hgap⟩ := hgap
  have hread : ∀ s, readValue (fuel + 1) ('\x7b' :: s) = match skipGap s with
      | '\x7d' :: rest => some (obj [], rest)
      | _ => (readMembers fuel s).map fun (ms, rest) => (obj ms, rest) := by
    intro s
    rw [readValue]
    rfl
  rw [hread, hgap, h]
  rfl

end Values

/-! ## Reading values back

Each call of a reader has at least one character to itself. So a reader that calls others with less fuel has enough, if
it starts with more fuel than characters. -/

/-- With this fuel the text of any value that is shorter is read as the value, whatever comes after it. -/
def ReadsValues (fuel : Nat) : Prop := ∀ (j : Json) (depth : Nat) (rest : List Char),
  (render depth j).toList.length < fuel → StopsNumber rest →
    readValue fuel ((render depth j).toList ++ rest) = some (j, rest)

/-- With this fuel the text of any items that is shorter is read as the items. -/
def ReadsItems (fuel : Nat) : Prop := ∀ (x : Json) (xs : List Json) (depth depth' : Nat) (rest : List Char),
  (renderItems depth (x :: xs)).toList.length < fuel →
    readItems fuel ((renderItems depth (x :: xs)).toList.tail ++ ((newLine depth').toList ++ ']' :: rest)) =
      some (x :: xs, rest)

/-- With this fuel the text of any members that is shorter is read as the members. -/
def ReadsMembers (fuel : Nat) : Prop :=
  ∀ (m : String × Json) (ms : List (String × Json)) (depth depth' : Nat) (rest : List Char),
    (renderMembers depth (m :: ms)).toList.length < fuel → readMembers fuel
        ((renderMembers depth (m :: ms)).toList.tail ++ ((newLine depth').toList ++ '\x7d' :: rest)) =
      some (m :: ms, rest)

section Step

variable {fuel : Nat}

theorem readsValues_succ (hitems : ReadsItems fuel) (hmembers : ReadsMembers fuel) : ReadsValues (fuel + 1) := by
  intro j depth rest hfuel hrest
  cases j with
  | null => exact readValue_null
  | bool b => exact readValue_bool b
  | int n => exact readValue_int n hrest
  | str t => exact readValue_str t
  | arr xs =>
    cases xs with
    | nil => exact readValue_arr_nil
    | cons x xs =>
      rw [toList_arr_cons] at hfuel ⊢
      simp only [List.length_cons, List.length_append, List.length_tail] at hfuel
      rw [List.cons_append, List.append_assoc, List.append_assoc]
      exact readValue_arr (hitems x xs (depth + 1) depth rest (by omega))
  | obj ms =>
    cases ms with
    | nil => exact readValue_obj_nil
    | cons m ms =>
      rw [toList_obj_cons] at hfuel ⊢
      simp only [List.length_cons, List.length_append, List.length_tail] at hfuel
      rw [List.cons_append, List.append_assoc, List.append_assoc]
      exact readValue_obj (hmembers m ms (depth + 1) depth rest (by omega))

theorem readsItems_succ (hvalues : ReadsValues fuel) (hitems : ReadsItems fuel) : ReadsItems (fuel + 1) := by
  intro x xs depth depth' rest hfuel
  rw [toList_renderItems_cons] at hfuel ⊢
  simp only [List.length_cons, List.length_append] at hfuel
  have hx := hvalues x depth _ (by omega) (stopsNumber_renderItems depth depth' xs (']' :: rest))
  rw [List.tail_cons, List.append_assoc, List.append_assoc, readItems, readValue_newLine, hx, Option.bind_some]
  cases xs with
  | nil =>
    have hgap : skipGap ((renderItems depth []).toList ++ ((newLine depth').toList ++ ']' :: rest)) = ']' :: rest :=
      skipGap_newLine depth' (']' :: rest)
    simp only [hgap]
  | cons y ys =>
    have hys := hitems y ys depth depth' rest (by omega)
    have hgap : skipGap ((renderItems depth (y :: ys)).toList ++ ((newLine depth').toList ++ ']' :: rest)) =
        ',' :: ((renderItems depth (y :: ys)).toList.tail ++ ((newLine depth').toList ++ ']' :: rest)) := by
      rw [toList_renderItems_cons]
      rfl
    simp only [hgap, hys]
    rfl

theorem readsMembers_succ (hvalues : ReadsValues fuel) (hmembers : ReadsMembers fuel) : ReadsMembers (fuel + 1) := by
  intro m ms depth depth' rest hfuel
  obtain ⟨k, x⟩ := m
  rw [toList_renderMembers_cons] at hfuel ⊢
  simp only [List.length_cons, List.length_append] at hfuel
  have hx := hvalues x depth _ (by omega) (stopsNumber_renderMembers depth depth' ms ('\x7d' :: rest))
  have hkey : ∀ s, skipGap ((newLine depth).toList ++ '"' :: s) = '"' :: s := fun s => skipGap_newLine depth ('"' :: s)
  have hcolon : ∀ s, skipGap (':' :: s) = ':' :: s := fun s => rfl
  simp only [List.tail_cons, List.append_assoc, List.cons_append, readMembers, hkey, readChars_flatMap,
    Option.bind_some, hcolon, readValue_space, hx]
  cases ms with
  | nil =>
    have hgap : skipGap ((renderMembers depth []).toList ++ ((newLine depth').toList ++ '\x7d' :: rest)) =
        '\x7d' :: rest := skipGap_newLine depth' ('\x7d' :: rest)
    simp only [hgap, String.ofList_toList]
  | cons n ns =>
    have hns := hmembers n ns depth depth' rest (by omega)
    have hgap : skipGap ((renderMembers depth (n :: ns)).toList ++ ((newLine depth').toList ++ '\x7d' :: rest)) =
        ',' :: ((renderMembers depth (n :: ns)).toList.tail ++ ((newLine depth').toList ++ '\x7d' :: rest)) := by
      obtain ⟨k', y⟩ := n
      rw [toList_renderMembers_cons]
      rfl
    simp only [hgap, hns, Option.map_some, String.ofList_toList]

end Step

/-- Any text is read back with more fuel than it has characters. -/
theorem reads (fuel : Nat) : ReadsValues fuel ∧ ReadsItems fuel ∧ ReadsMembers fuel := by
  induction fuel with
  | zero => exact ⟨fun _ _ _ h => absurd h (Nat.not_lt_zero _), fun _ _ _ _ _ h => absurd h (Nat.not_lt_zero _),
      fun _ _ _ _ _ h => absurd h (Nat.not_lt_zero _)⟩
  | succ fuel ih =>
    obtain ⟨hvalues, hitems, hmembers⟩ := ih
    exact ⟨readsValues_succ hitems hmembers, readsItems_succ hvalues hitems, readsMembers_succ hvalues hmembers⟩

/-- The text of a value is read back as this value, also with white space after it. -/
theorem read?_pretty (j : Json) {s : List Char} (hs : skipGap s = []) : read? ((pretty j).toList ++ s) = some j := by
  have hstop : StopsNumber s := by
    intro c hc
    have hgap := List.dropWhile_eq_nil_iff.1 hs c (List.mem_of_mem_head? hc)
    simp only [Bool.or_eq_true, beq_iff_eq] at hgap
    rcases hgap with ((rfl | rfl) | rfl) | rfl <;> rfl
  have hlength : (pretty j).toList.length < ((pretty j).toList ++ s).length + 1 := by
    rw [List.length_append]
    omega
  have hvalue : readValue (((pretty j).toList ++ s).length + 1) ((pretty j).toList ++ s) = some (j, s) :=
    (reads _).1 j 0 s hlength hstop
  rw [read?, hvalue]
  exact if_pos hs

/-- So the text determines the value. -/
theorem pretty_injective : Function.Injective pretty := by
  intro j k h
  have hj := read?_pretty j (s := []) rfl
  rw [h, read?_pretty k rfl] at hj
  exact (Option.some.inj hj).symm

end MarkLint.Json
