import MarkLint.Proofs.Suppression.Comment

/-!
# Comments as they are written

`IsWritten keyword ids text` says how a suppression comment is put on paper: the names of rules, if it lists any, are
joined by commas, white space may stand between the parts, and the keywords may be in any letter case. Such a text is a
comment, and its scope are the names in small letters (`IsWritten.exists_isComment`): neither hyphens at the end of a
name nor missing space before the end of the comment make it a comment about all rules.
-/

namespace MarkLint.Suppression

open MarkLint.Text

/-! ## Comments on paper -/

/-- White space within a line. -/
def IsSpacing (gap : List Char) : Prop := gap.all isBlank = true ∧ '\n' ∉ gap

/-- May `c` stand in the name of a rule? -/
def isIdChar (c : Char) : Bool := c.isAlphanum || c == '-'

/-- Names of rules that can be listed: none is empty, and the first does not start with a hyphen. -/
structure AreIds (ids : List (List Char)) : Prop where
  filled : ∀ id ∈ ids, id ≠ []
  chars : ∀ id ∈ ids, id.all isIdChar = true
  first : ∀ id ∈ ids.head?, id.head?.any Char.isAlphanum = true

/-- Names joined by commas, with white space around them. -/
inductive IsJoined : List (List Char) → List Char → Prop
  | one (id : List Char) : IsJoined [id] id
  | more {id gap gap' text : List Char} {ids : List (List Char)} : IsSpacing gap → IsSpacing gap' →
      IsJoined ids text → IsJoined (id :: ids) (id ++ (gap ++ ',' :: (gap' ++ text)))

/-- What is written after the keyword: nothing, or a colon and names. -/
inductive IsWrittenList : Option (List (List Char)) → List Char → Prop
  | none : IsWrittenList none []
  | some {gap text : List Char} {ids : List (List Char)} : IsSpacing gap → AreIds ids → IsJoined ids text →
      IsWrittenList (some ids) (':' :: (gap ++ text))

/-- What every comment starts with. -/
def opening : List Char := ['<', '!', '-', '-']

/-- A comment with the given keyword and names, as it is written. -/
inductive IsWritten (keyword : List Char) : Option (List (List Char)) → List Char → Prop
  | intro {gap tool gap' word list gap'' : List Char} {ids : Option (List (List Char))} :
      IsSpacing gap → tool.map Char.toLower = "margot:".toList → IsSpacing gap' → word.map Char.toLower = keyword →
      IsWrittenList ids list → IsSpacing gap'' → IsWritten keyword ids
        (opening ++ (gap ++ (tool ++ (gap' ++ (word ++ (list ++ (gap'' ++ ['-', '-', '>'])))))))

/-- The name in small letters. -/
def ruleName (id : List Char) : String := String.ofList (id.map Char.toLower)

/-- Does a comment name the rule? One without names is about all rules. -/
def names : Option (List (List Char)) → String → Bool
  | none, _ => true
  | some ids, ruleId => ids.any fun id => ruleName id == ruleId

/-! ## Letters -/

/-- A capital letter becomes a small one, and any other character stays. -/
theorem toLower_eq_or (c : Char) : c.toLower = c ∨ 97 ≤ c.toLower.toNat ∧ c.toNat ≤ 90 := by
  unfold Char.toLower
  split
  · rename_i h
    have hlow : 65 ≤ c.toNat := UInt32.le_iff_toNat_le.1 h.1
    have hhigh : c.toNat ≤ 90 := UInt32.le_iff_toNat_le.1 h.2
    refine Or.inr ⟨?_, hhigh⟩
    show 97 ≤ (c.val + 32).toNat
    rw [UInt32.toNat_add]
    show 97 ≤ (c.toNat + 32) % 4294967296
    omega
  · exact Or.inl rfl

/-- A letter in any case matches its small form. -/
theorem matchesLetter_of_toLower {w c : Char} (h : c.toLower = w) : matchesLetter w c = true := by
  rcases toLower_eq_or c with hsame | ⟨-, hlt⟩
  · simp [matchesLetter, ← h, hsame]
  · have hlt : c.toNat < 128 := by omega
    simp [matchesLetter, h, hlt]

theorem spells_of_map_toLower : ∀ {word text : List Char}, text.map Char.toLower = word → Spells word text
  | _, [], h => h ▸ .nil
  | _, _ :: _, h => h ▸ .cons (matchesLetter_of_toLower rfl) (spells_of_map_toLower rfl)

/-- A letter does not match the small form of another letter. The long s, the Kelvin sign and the odd forms of `i` are
left out here. -/
theorem not_matchesLetter {v w c : Char} (hc : c.toLower = v)
    (hne : v ≠ w ∧ w.toLower = w ∧ w ≠ 's' ∧ w ≠ 'k' ∧ w ≠ 'i') : ¬ matchesLetter w c = true := by
  obtain ⟨hvw, hw, hs, hk, hi⟩ := hne
  have hcw : c ≠ w := by
    rintro rfl
    exact hvw (hc.symm.trans hw)
  simp [matchesLetter, hcw, hc, hvw, hs, hk, hi]

/-- A character below the letters matches itself only. -/
theorem eq_of_matchesLetter {w c : Char} (hw : w.toNat < 97) (h : matchesLetter w c = true) : c = w := by
  have hne : ∀ {d : Char}, 97 ≤ d.toNat → w ≠ d := by
    rintro d hd rfl
    omega
  have hs := hne (d := 's') (by decide)
  have hk := hne (d := 'k') (by decide)
  have hi := hne (d := 'i') (by decide)
  simp only [matchesLetter, Bool.or_eq_true, Bool.and_eq_true, beq_iff_eq, hs, hk, hi, false_and, or_false] at h
  rcases h with rfl | ⟨-, h⟩
  · rfl
  · rcases toLower_eq_or c with hsame | ⟨hlow, -⟩
    · exact hsame.symm.trans h
    · rw [h] at hlow
      omega

theorem eq_of_spells : ∀ {word text : List Char}, (∀ w ∈ word, w.toNat < 97) → Spells word text → text = word
  | [], _, _, .nil => rfl
  | w :: word, _ :: _, hword, .cons hc htext => by
    rw [eq_of_matchesLetter (hword w List.mem_cons_self) hc,
      eq_of_spells (fun v hv => hword v (List.mem_cons_of_mem _ hv)) htext]

theorem isIdChar_lt {c : Char} (h : isIdChar c = true) : 45 ≤ c.toNat ∧ c.toNat ≤ 122 := by
  have hletter : c.isAlpha = (c.isUpper || c.isLower) := rfl
  simp only [isIdChar, Bool.or_eq_true, beq_iff_eq, Char.isAlphanum, hletter] at h
  rcases h with ((hupper | hlower) | hdigit) | rfl
  · have := toNat_mem_of_isAlphanum (Or.inl hupper)
    omega
  · have := toNat_mem_of_isAlphanum (Or.inr (Or.inl hlower))
    omega
  · have := toNat_mem_of_isAlphanum (Or.inr (Or.inr hdigit))
    omega
  · decide

theorem isNameChar_of_isIdChar {c : Char} (h : isIdChar c = true) : isNameChar c = true := by
  simp only [isIdChar, Char.isAlphanum, Bool.or_eq_true, beq_iff_eq] at h
  simp only [isNameChar, startsNames, isLetterFolded, Bool.or_eq_true, beq_iff_eq]
  tauto

theorem not_isBlank_of_isIdChar {c : Char} (h : isIdChar c = true) : isBlank c = false := by
  have := isIdChar_lt h
  simp only [isBlank, Bool.or_eq_false_iff, Bool.and_eq_false_iff, decide_eq_false_iff_not, beq_eq_false_iff_ne]
  omega

theorem lowerFrom_of_lt : ∀ {before s : List Char}, (∀ c ∈ s, c.toNat < 128) → lowerFrom before s = s.map Char.toLower
  | _, [], _ => rfl
  | before, c :: s, h => by
    rw [lowerFrom, lowerChar, if_pos (h c List.mem_cons_self),
      lowerFrom_of_lt fun d hd => h d (List.mem_cons_of_mem _ hd)]
    rfl

/-! ## Names -/

/-- A text without blanks is kept by trimming. -/
theorem trim_of_not_isBlank {s : List Char} (h : ∀ c ∈ s, isBlank c = false) : trim s = s := by
  have hdrop : ∀ {t : List Char}, (∀ c ∈ t, isBlank c = false) → t.dropWhile isBlank = t := by
    intro t ht
    cases t with
    | nil => rfl
    | cons c t => exact List.dropWhile_cons_of_neg (by simp [ht c List.mem_cons_self])
  rw [trim, trimStart, hdrop h, trimEnd, hdrop fun c hc => h c (List.mem_reverse.1 hc), List.reverse_reverse]

/-- A name with blanks around it holds no comma, and trimming gives it back. -/
theorem trim_padded {id gap gap' : List Char} (hid : id.all isIdChar = true) (hgap : gap.all isBlank = true)
    (hgap' : gap'.all isBlank = true) :
    (∀ c ∈ gap ++ (id ++ gap'), (c == ',') = false) ∧ trim (gap ++ (id ++ gap')) = id := by
  refine ⟨fun c hc => ?_, ?_⟩
  · have hchar : isBlank c = true ∨ isIdChar c = true := by
      rw [List.mem_append, List.mem_append] at hc
      rcases hc with hc | hc | hc
      · exact Or.inl (List.all_eq_true.1 hgap c hc)
      · exact Or.inr (List.all_eq_true.1 hid c hc)
      · exact Or.inl (List.all_eq_true.1 hgap' c hc)
    rw [beq_eq_false_iff_ne]
    rintro rfl
    revert hchar
    decide
  · rw [trim, trimStart_append hgap, ← trim, trim_append hgap',
      trim_of_not_isBlank fun c hc => not_isBlank_of_isIdChar (List.all_eq_true.1 hid c hc)]

/-- The names are read back from their list, between commas and without the white space. -/
theorem IsJoined.map_trim_pieces {ids : List (List Char)} {text : List Char} (h : IsJoined ids text)
    (hids : ∀ id ∈ ids, id.all isIdChar = true) :
    ∀ gap : List Char, gap.all isBlank = true → (pieces ',' (gap ++ text)).map trim = ids := by
  induction h with
  | one id =>
    intro gap hgap
    have hnothing : ([] : List Char).all isBlank = true := rfl
    obtain ⟨hcomma, htrim⟩ := trim_padded (hids id List.mem_cons_self) hgap hnothing
    rw [List.append_nil] at hcomma htrim
    rw [pieces, piecesBy_of_not_mem _ hcomma, List.map_singleton, htrim]
  | @more id gap₁ gap₂ text ids hgap₁ hgap₂ _ ih =>
    intro gap hgap
    obtain ⟨hcomma, htrim⟩ := trim_padded (hids id List.mem_cons_self) hgap hgap₁.1
    have hsplit : gap ++ (id ++ (gap₁ ++ ',' :: (gap₂ ++ text))) = (gap ++ (id ++ gap₁)) ++ ',' :: (gap₂ ++ text) := by
      simp
    have hrest := ih (fun other hother => hids other (List.mem_cons_of_mem _ hother)) gap₂ hgap₂.1
    rw [pieces] at hrest
    rw [hsplit, pieces, piecesBy_append_cons (· == ',') (beq_self_eq_true _) _ hcomma, List.map_cons, htrim, hrest]

/-- A list of names holds commas and white space between the characters of the names. -/
theorem IsJoined.forall_mem {ids : List (List Char)} {text : List Char} (h : IsJoined ids text)
    (hids : ∀ id ∈ ids, id.all isIdChar = true) :
    ∀ c ∈ text, isIdChar c = true ∨ c = ',' ∨ isBlank c = true ∧ c ≠ '\n' := by
  have hspacing : ∀ {gap : List Char}, IsSpacing gap → ∀ c ∈ gap, isBlank c = true ∧ c ≠ '\n' := fun hgap c hc =>
    ⟨List.all_eq_true.1 hgap.1 c hc, fun heq => hgap.2 (heq ▸ hc)⟩
  induction h with
  | one id => exact fun c hc => Or.inl (List.all_eq_true.1 (hids id List.mem_cons_self) c hc)
  | @more id gap gap' text ids hgap hgap' _ ih =>
    intro c hc
    simp only [List.mem_append, List.mem_cons] at hc
    rcases hc with hc | hc | hc | hc | hc
    · exact Or.inl (List.all_eq_true.1 (hids id List.mem_cons_self) c hc)
    · exact Or.inr (Or.inr (hspacing hgap c hc))
    · exact Or.inr (Or.inl hc)
    · exact Or.inr (Or.inr (hspacing hgap' c hc))
    · exact ih (fun other hother => hids other (List.mem_cons_of_mem _ hother)) c hc

/-- A list of names starts with its first name. -/
theorem IsJoined.exists_append {ids : List (List Char)} {text : List Char} (h : IsJoined ids text) :
    ∃ id ∈ ids.head?, ∃ rest, text = id ++ rest := by
  cases h with
  | one id => exact ⟨text, rfl, [], (List.append_nil _).symm⟩
  | more => exact ⟨_, rfl, _, rfl⟩

/-- The characters of a list of names may stand in one, and the first may start one. -/
theorem IsJoined.exists_cons {ids : List (List Char)} {text : List Char} (h : IsJoined ids text) (hids : AreIds ids) :
    ∃ c more, text = c :: more ∧ startsNames c = true ∧ more.all isNameChar = true := by
  obtain ⟨id, hid, rest, rfl⟩ := h.exists_append
  have hchars : (id ++ rest).all isNameChar = true := by
    refine List.all_eq_true.2 fun c hc => ?_
    rcases h.forall_mem hids.chars c hc with hc | rfl | ⟨hc, -⟩
    · exact isNameChar_of_isIdChar hc
    · decide
    · simp [isNameChar, hc]
  have hfirst := hids.first id hid
  cases id with
  | nil => cases hfirst
  | cons c more =>
    rw [List.cons_append, List.all_cons, Bool.and_eq_true] at hchars
    refine ⟨c, more ++ rest, rfl, ?_, hchars.2⟩
    simp only [List.head?_cons, Option.any_some, Char.isAlphanum, Bool.or_eq_true] at hfirst
    simp only [startsNames, isLetterFolded, Bool.or_eq_true]
    tauto

/-- What a comment with the given names is about. -/
def namedScope : Option (List (List Char)) → Scope
  | none => .all
  | some ids => .only (ids.map ruleName)

theorem covers_namedScope (ids : Option (List (List Char))) (ruleId : String) :
    (namedScope ids).covers ruleId = names ids ruleId := by
  cases ids with
  | none => rfl
  | some ids =>
    rw [Bool.eq_iff_iff, namedScope, Scope.covers, names, List.contains_iff_mem, List.mem_map, List.any_eq_true]
    simp

/-- Listed names give the scope of these names in small letters. -/
theorem IsJoined.scopeOf {ids : List (List Char)} {text : List Char} (h : IsJoined ids text) (hids : AreIds ids) :
    scopeOf (some text) = namedScope (some ids) := by
  have hpieces : (pieces ',' text).map trim = ids := h.map_trim_pieces hids.chars [] rfl
  have hfilter : ids.filter (fun id => decide (id ≠ [])) = ids :=
    List.filter_eq_self.2 fun id hid => decide_eq_true (hids.filled id hid)
  have hne : ids.isEmpty = false := by cases h <;> rfl
  have hlower : ids.map (fun id => String.ofList (lower id)) = ids.map ruleName := by
    refine List.map_congr_left fun id hid => ?_
    rw [lower, lowerFrom_of_lt fun c hc => ?_, ruleName]
    have := isIdChar_lt (List.all_eq_true.1 (hids.chars id hid) c hc)
    omega
  simp only [Suppression.scopeOf, hpieces, hfilter, hne, hlower]
  rfl

/-- A comment that is written is one, and what it is about are the names in small letters. -/
theorem IsWritten.exists_isComment {keyword text : List Char} {ids : Option (List (List Char))}
    (h : IsWritten keyword ids text) : ∃ raw, IsComment keyword raw text ∧ scopeOf raw = namedScope ids := by
  cases h with
  | @intro gap tool gap' word list gap'' _ hgap htool hgap' hword hlist hgap'' =>
    have hopening : Spells "<!--".toList opening := spells_of_map_toLower (by decide)
    have htool := spells_of_map_toLower htool
    have hword := spells_of_map_toLower hword
    cases hlist with
    | none =>
      exact ⟨none, .intro hopening hgap.1 htool hgap'.1 hword .none hgap''.1, rfl⟩
    | @some gap₀ text ids hgap₀ hids htext =>
      have hscope := htext.scopeOf hids
      obtain ⟨c, more, rfl, hc, hmore⟩ := htext.exists_cons hids
      exact ⟨some (c :: more), .intro hopening hgap.1 htool hgap'.1 hword (.some hgap₀.1 hc hmore) hgap''.1, hscope⟩

end MarkLint.Suppression
