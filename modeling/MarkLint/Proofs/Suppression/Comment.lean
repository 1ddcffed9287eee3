import MarkLint.Proofs.Text.Blank
import MarkLint.Suppression
import Mathlib.Data.List.Forall2

/-!
# What a suppression comment is

`IsComment keyword raw text` says of a whole text that it is a suppression comment with the keyword, which lists the
names `raw`. The reader at the start of a text finds a comment exactly if the text starts with one (`commentAt?_sound`,
`commentAt?_complete`). So the `comments` of a line are all the texts in it that are comments (`mem_comments`), and the
reader of a line takes the first (`head?_comments`).
-/

namespace MarkLint.Suppression

open MarkLint.Text

/-! ## Comments as texts -/

/-- The text is the word, when case is ignored. -/
def Spells (word text : List Char) : Prop := List.Forall₂ (fun w c => matchesLetter w c = true) word text

/-- What stands between the keyword and the end of a comment: nothing, or a colon and a list of names. -/
inductive IsNameList : Option (List Char) → List Char → Prop
  | none : IsNameList none []
  | some {gap names : List Char} {c : Char} : gap.all isBlank = true → startsNames c = true →
      names.all isNameChar = true → IsNameList (some (c :: names)) (':' :: (gap ++ c :: names))

/-- The text is a comment with the given keyword and list of names. -/
inductive IsComment (keyword : List Char) : Option (List Char) → List Char → Prop
  | intro {opening gap tool gap' word list gap'' : List Char} {raw : Option (List Char)} :
      Spells "<!--".toList opening → gap.all isBlank = true → Spells "margot:".toList tool → gap'.all isBlank = true →
      Spells keyword word → IsNameList raw list → gap''.all isBlank = true →
      IsComment keyword raw (opening ++ (gap ++ (tool ++ (gap' ++ (word ++ (list ++ (gap'' ++ ['-', '-', '>'])))))))

/-- All comments of a line with the given keyword, as the scopes that they give. -/
def comments (keyword : List Char) : List Char → List Scope
  | [] => []
  | c :: rest => (commentAt? keyword (c :: rest)).toList ++ comments keyword rest

/-! ## Words -/

/-- Letters and digits of the Latin alphabet lie between `0` and `z`. -/
theorem toNat_mem_of_isAlphanum {c : Char} (h : c.isUpper = true ∨ c.isLower = true ∨ c.isDigit = true) :
    48 ≤ c.toNat ∧ c.toNat ≤ 122 := by
  have hrange : ∀ {a b : UInt32}, (decide (c.val ≥ a) && decide (c.val ≤ b)) = true →
      a.toNat ≤ c.toNat ∧ c.toNat ≤ b.toNat := by
    intro a b hab
    rw [Bool.and_eq_true, decide_eq_true_iff, decide_eq_true_iff] at hab
    exact ⟨UInt32.le_iff_toNat_le.1 hab.1, UInt32.le_iff_toNat_le.1 hab.2⟩
  rcases h with hupper | hlower | hdigit
  · have hupper : c.val ≥ 'A'.val ∧ c.val ≤ 'Z'.val := of_decide_eq_true hupper
    have hlow : 65 ≤ c.toNat := UInt32.le_iff_toNat_le.1 hupper.1
    have hhigh : c.toNat ≤ 90 := UInt32.le_iff_toNat_le.1 hupper.2
    omega
  · have hlower : 97 ≤ c.toNat ∧ c.toNat ≤ 122 := hrange hlower
    omega
  · have hdigit : 48 ≤ c.toNat ∧ c.toNat ≤ 57 := hrange hdigit
    omega

/-- Capital letters are not blank. -/
theorem not_isBlank_of_isUpper {c : Char} (h : c.isUpper = true) : isBlank c = false := by
  have hrange := toNat_mem_of_isAlphanum (Or.inl h)
  simp only [isBlank, Bool.or_eq_false_iff, Bool.and_eq_false_iff, decide_eq_false_iff_not, beq_eq_false_iff_ne]
  omega

/-- A character that may start names is not blank. -/
theorem not_isBlank_of_startsNames {c : Char} (h : startsNames c = true) : isBlank c = false := by
  have hrange : 48 ≤ c.toNat ∧ c.toNat ≤ 122 ∨ c.toNat = 0x17F ∨ c.toNat = 0x212A ∨ c.toNat = 0x130 ∨
      c.toNat = 0x131 := by
    simp only [startsNames, isLetterFolded, Bool.or_eq_true, beq_iff_eq] at h
    rcases h with ((((halpha | h) | h) | h) | h) | hdigit
    · rcases Bool.or_eq_true_iff.1 (show (c.isUpper || c.isLower) = true from halpha) with hupper | hlower
      · exact Or.inl (toNat_mem_of_isAlphanum (Or.inl hupper))
      · exact Or.inl (toNat_mem_of_isAlphanum (Or.inr (Or.inl hlower)))
    · exact Or.inr (Or.inl h)
    · exact Or.inr (Or.inr (Or.inl h))
    · exact Or.inr (Or.inr (Or.inr (Or.inl h)))
    · exact Or.inr (Or.inr (Or.inr (Or.inr h)))
    · exact Or.inl (toNat_mem_of_isAlphanum (Or.inr (Or.inr hdigit)))
  simp only [isBlank, Bool.or_eq_false_iff, Bool.and_eq_false_iff, decide_eq_false_iff_not, beq_eq_false_iff_ne]
  omega

/-- A character that matches a letter is no more blank than the letter. -/
theorem not_isBlank_of_matchesLetter {w c : Char} (h : matchesLetter w c = true) (hw : isBlank w = false) :
    isBlank c = false := by
  simp only [matchesLetter, Bool.or_eq_true, Bool.and_eq_true, beq_iff_eq, decide_eq_true_eq] at h
  rcases h with ((((rfl | ⟨hlt, hlower⟩) | ⟨-, hc⟩) | ⟨-, hc⟩) | ⟨-, hc | hc⟩)
  · exact hw
  · by_cases hupper : c.isUpper = true
    · exact not_isBlank_of_isUpper hupper
    · have hsame : c.toLower = c := dif_neg fun hrange => hupper (decide_eq_true hrange)
      rwa [← hlower, hsame] at hw
  all_goals simp [isBlank, hc]

theorem dropWord?_eq_some_iff : ∀ {word s rest : List Char},
    dropWord? word s = some rest ↔ ∃ text, s = text ++ rest ∧ Spells word text
  | [], s, rest => by
    rw [dropWord?, Option.some.injEq]
    refine ⟨fun h => ⟨[], h, .nil⟩, ?_⟩
    rintro ⟨text, rfl, htext⟩
    cases htext
    rfl
  | w :: word, [], rest => by
    constructor
    · intro h
      cases h
    · rintro ⟨text, h, htext⟩
      cases htext
      cases h
  | w :: word, c :: s, rest => by
    rw [dropWord?]
    constructor
    · intro h
      split at h
      · rename_i hc
        obtain ⟨text, rfl, htext⟩ := dropWord?_eq_some_iff.1 h
        exact ⟨c :: text, rfl, .cons hc htext⟩
      · cases h
    · rintro ⟨text, h, htext⟩
      cases htext with
      | cons hc htext =>
        cases h
        rw [if_pos hc]
        exact dropWord?_eq_some_iff.2 ⟨_, rfl, htext⟩

/-- The word is not empty and does not start with a blank. -/
def StartsFilled (word : List Char) : Prop := ∃ w rest, word = w :: rest ∧ isBlank w = false

/-- A word that stands after blanks is found again by trimming. -/
theorem Spells.trimStart_append {word text gap : List Char} (h : Spells word text) (hword : StartsFilled word)
    (hgap : gap.all isBlank = true) (rest : List Char) : trimStart (gap ++ (text ++ rest)) = text ++ rest := by
  obtain ⟨w, _, rfl, hw⟩ := hword
  cases h with
  | cons hc _ =>
    rw [Text.trimStart_append hgap]
    exact trimStart_of_not_isBlank (not_isBlank_of_matchesLetter hc hw) _

/-! ## The end of a comment -/

theorem closes_iff {s : List Char} :
    closes s = true ↔ ∃ gap rest, gap.all isBlank = true ∧ s = gap ++ ('-' :: '-' :: '>' :: rest) := by
  constructor
  · intro h
    obtain ⟨gap, hgap, hs⟩ := exists_eq_append_trimStart s
    obtain ⟨rest, hrest⟩ := List.isPrefixOf_iff_prefix.1 h
    exact ⟨gap, rest, hgap, hs.trans (by rw [← hrest]; rfl)⟩
  · rintro ⟨gap, rest, hgap, rfl⟩
    rw [closes, trimStart_append hgap, trimStart_of_not_isBlank (by decide)]
    rfl

/-- Characters of names before the end of a comment are blank if the end can be reached over them. -/
theorem all_isBlank_of_closes {more rest : List Char} (hmore : more.all isNameChar = true) (hrest : closes rest = true)
    (h : closes (more ++ rest) = true) : more.all isBlank = true := by
  obtain ⟨gap, after, hgap, heq⟩ := closes_iff.1 h
  rcases List.append_eq_append_iff.1 heq with ⟨x, rfl, -⟩ | ⟨x, rfl, hx⟩
  · rw [List.all_append, Bool.and_eq_true] at hgap
    exact hgap.1
  · obtain ⟨gap', after', hgap', rfl⟩ := closes_iff.1 hrest
    -- the end that is reached over `x` begins in `x`, but neither a name nor a blank holds its last character
    have hend : ∀ c ∈ x ++ gap', c ≠ '>' := by
      intro c hc
      rintro rfl
      rcases List.mem_append.1 hc with hc | hc
      · exact absurd (List.all_eq_true.1 hmore _ (List.mem_append_right _ hc)) (by decide)
      · exact absurd (List.all_eq_true.1 hgap' _ hc) (by decide)
    rw [← List.append_assoc] at hx
    have hnil : x ++ gap' = [] := by
      match x ++ gap', hend, hx with
      | [], _, _ => rfl
      | [_], _, hx => cases hx
      | [_, _], _, hx => cases hx
      | _ :: _ :: c :: _, hend, hx =>
        cases hx
        exact absurd rfl (hend '>' (by simp))
    rw [(List.append_eq_nil_iff.1 hnil).1, List.append_nil]
    exact hgap

/-! ## Names -/

/-- The names that are read can stand in a list, and the end of the comment can be reached after them. -/
theorem names?_sound : ∀ {s names : List Char}, names? s = some names →
    ∃ rest, s = names ++ rest ∧ names ≠ [] ∧ names.all isNameChar = true ∧ closes rest = true
  | c :: s, names, h => by
    unfold names? at h
    split at h
    · rename_i hc
      split at h
      · rename_i hcloses
        cases h
        exact ⟨s, rfl, List.cons_ne_nil c [], by rw [List.all_cons, hc]; rfl, hcloses⟩
      · obtain ⟨names', hnames', rfl⟩ := Option.map_eq_some_iff.1 h
        obtain ⟨rest, rfl, -, hall, hrest⟩ := names?_sound hnames'
        exact ⟨rest, rfl, List.cons_ne_nil c names', by rw [List.all_cons, hc, hall]; rfl, hrest⟩
    · cases h

/-- Names up to the end of a comment are read, apart from blanks at their end. -/
theorem names?_complete {rest : List Char} (hrest : closes rest = true) : ∀ {more : List Char} {c : Char},
    isNameChar c = true → more.all isNameChar = true →
    ∃ names gap, names? (c :: (more ++ rest)) = some names ∧ gap.all isBlank = true ∧ c :: more = names ++ gap := by
  intro more
  induction more with
  | nil =>
    intro c hc _
    exact ⟨[c], [], by rw [List.nil_append, names?, if_pos hc, if_pos hrest], rfl, rfl⟩
  | cons d more ih =>
    intro c hc hmore
    by_cases hcloses : closes (d :: more ++ rest) = true
    · exact ⟨[c], d :: more, by rw [names?, if_pos hc, if_pos hcloses], all_isBlank_of_closes hmore hrest hcloses, rfl⟩
    · rw [List.all_cons, Bool.and_eq_true] at hmore
      obtain ⟨names, gap, hnames, hgap, heq⟩ := ih hmore.1 hmore.2
      refine ⟨c :: names, gap, ?_, hgap, by rw [heq]; rfl⟩
      rw [names?, if_pos hc, if_neg hcloses, List.cons_append, hnames]
      rfl

/-- Blanks at the end of names make no difference to the scope. -/
theorem scopeOf_append {gap : List Char} (h : gap.all isBlank = true) (names : List Char) :
    scopeOf (some (names ++ gap)) = scopeOf (some names) := by
  simp only [scopeOf, map_trim_pieces_append (show isBlank ',' = false by decide) h]

/-- What is read after a colon is a list of names. -/
theorem namesAfterColon?_sound {s names : List Char} (h : namesAfterColon? s = some names) :
    ∃ list rest, s = list ++ rest ∧ IsNameList (some names) list ∧ closes rest = true := by
  unfold namesAfterColon? at h
  split at h
  · rename_i after
    split at h
    · rename_i c more htrim
      split at h
      · rename_i hc
        obtain ⟨gap, hgap, hafter⟩ := exists_eq_append_trimStart after
        obtain ⟨rest, heq, hne, hall, hrest⟩ := names?_sound h
        obtain ⟨d, names', rfl⟩ := List.exists_cons_of_ne_nil hne
        rw [List.cons_append, List.cons.injEq] at heq
        obtain ⟨rfl, rfl⟩ := heq
        rw [List.all_cons, Bool.and_eq_true] at hall
        refine ⟨':' :: (gap ++ c :: names'), rest, ?_, .some hgap hc hall.2, hrest⟩
        rw [hafter, htrim]
        simp
      · cases h
    · cases h
  · cases h

/-- A list of names before the end of a comment is read, apart from blanks at its end. -/
theorem namesAfterColon?_complete {names list rest : List Char} (h : IsNameList (some names) list)
    (hrest : closes rest = true) :
    ∃ names', namesAfterColon? (list ++ rest) = some names' ∧ scopeOf (some names') = scopeOf (some names) := by
  cases h with
  | @some gap more c hgap hc hmore =>
    have hname : isNameChar c = true := by simp [isNameChar, hc]
    obtain ⟨names', gap', hnames', hgap', heq⟩ := names?_complete hrest hname hmore
    have htrim : trimStart (gap ++ (c :: (more ++ rest))) = c :: (more ++ rest) :=
      (trimStart_append hgap _).trans (trimStart_of_not_isBlank (not_isBlank_of_startsNames hc) _)
    refine ⟨names', ?_, by rw [heq, scopeOf_append hgap']⟩
    simp only [List.cons_append, List.append_assoc, namesAfterColon?, htrim, if_pos hc, hnames']

/-- There are no names where the comment ends. -/
theorem namesAfterColon?_of_closes {s : List Char} (h : closes s = true) : namesAfterColon? s = none := by
  obtain ⟨gap, rest, hgap, rfl⟩ := closes_iff.1 h
  cases gap with
  | nil => rfl
  | cons c gap =>
    have hcolon : c ≠ ':' := by
      rintro rfl
      cases hgap
    unfold namesAfterColon?
    split
    · rename_i heq
      cases heq
      exact absurd rfl hcolon
    · rfl

/-! ## Comments at the start of a text -/

theorem startsFilled_tool : StartsFilled "margot:".toList := ⟨'m', _, rfl, by decide⟩

/-- A comment that is read is one, and its names give the scope. -/
theorem commentAt?_sound {keyword s : List Char} {scope : Scope} (h : commentAt? keyword s = some scope) :
    ∃ text rest raw, s = text ++ rest ∧ IsComment keyword raw text ∧ scope = scopeOf raw := by
  unfold commentAt? at h
  obtain ⟨afterOpen, hopen, h'⟩ := Option.bind_eq_some_iff.1 h
  obtain ⟨afterTool, htool, h''⟩ := Option.bind_eq_some_iff.1 h'
  obtain ⟨afterKeyword, hkeyword, hread⟩ := Option.bind_eq_some_iff.1 h''
  obtain ⟨opening, rfl, hopening⟩ := dropWord?_eq_some_iff.1 hopen
  obtain ⟨gap, hgap, hafterOpen⟩ := exists_eq_append_trimStart afterOpen
  obtain ⟨tool, heq, htool⟩ := dropWord?_eq_some_iff.1 htool
  obtain ⟨gap', hgap', hafterTool⟩ := exists_eq_append_trimStart afterTool
  obtain ⟨word, heq', hword⟩ := dropWord?_eq_some_iff.1 hkeyword
  rw [hafterOpen, heq, hafterTool, heq']
  -- the text up to the end of a name list makes a comment with any such list
  have hcomment : ∀ {raw list rest}, afterKeyword = list ++ rest → IsNameList raw list → closes rest = true →
      ∃ text rest, opening ++ (gap ++ (tool ++ (gap' ++ (word ++ afterKeyword)))) = text ++ rest ∧
        IsComment keyword raw text := by
    intro raw list rest hsplit hlist hcloses
    obtain ⟨gap'', after, hgap'', rfl⟩ := closes_iff.1 hcloses
    exact ⟨_, after, by simp [hsplit], .intro hopening hgap htool hgap' hword hlist hgap''⟩
  split at hread
  · rename_i names hnames
    cases hread
    obtain ⟨list, rest, hsplit, hlist, hcloses⟩ := namesAfterColon?_sound hnames
    obtain ⟨text, rest, htext, hcomment⟩ := hcomment hsplit hlist hcloses
    exact ⟨text, rest, some names, htext, hcomment, rfl⟩
  · split at hread
    · rename_i hcloses
      cases hread
      obtain ⟨text, rest, htext, hcomment⟩ := hcomment (List.nil_append _).symm .none hcloses
      exact ⟨text, rest, none, htext, hcomment, rfl⟩
    · cases hread

/-- A comment at the start of a text is read. -/
theorem commentAt?_complete {keyword text : List Char} {raw : Option (List Char)} (hkeyword : StartsFilled keyword)
    (h : IsComment keyword raw text) (rest : List Char) : commentAt? keyword (text ++ rest) = some (scopeOf raw) := by
  cases h with
  | @intro opening gap tool gap' word list gap'' _ hopening hgap htool hgap' hword hlist hgap'' =>
    have hcloses : closes (gap'' ++ ('-' :: '-' :: '>' :: rest)) = true := closes_iff.2 ⟨gap'', rest, hgap'', rfl⟩
    simp only [List.append_assoc, List.cons_append, List.nil_append]
    unfold commentAt?
    rw [dropWord?_eq_some_iff.2 ⟨opening, rfl, hopening⟩, Option.bind_eq_bind, Option.bind_some,
      htool.trimStart_append startsFilled_tool hgap, dropWord?_eq_some_iff.2 ⟨tool, rfl, htool⟩, Option.bind_some,
      hword.trimStart_append hkeyword hgap', dropWord?_eq_some_iff.2 ⟨word, rfl, hword⟩, Option.bind_some]
    cases raw with
    | some names =>
      obtain ⟨names', hnames', hscope⟩ := namesAfterColon?_complete hlist hcloses
      rw [hnames', ← hscope]
    | none =>
      cases hlist
      rw [List.nil_append, namesAfterColon?_of_closes hcloses, if_pos hcloses]
      rfl

/-- A comment ends in its closing bracket. -/
theorem IsComment.exists_eq_append {keyword text : List Char} {raw : Option (List Char)}
    (h : IsComment keyword raw text) : ∃ before, text = before ++ ['>'] := by
  cases h with
  | @intro opening gap tool gap' word list gap'' _ _ _ _ _ _ _ _ =>
    exact ⟨opening ++ (gap ++ (tool ++ (gap' ++ (word ++ (list ++ (gap'' ++ ['-', '-'])))))), by simp⟩

/-- A character that is no closing bracket ends no comment. -/
theorem commentAt?_append_singleton {keyword : List Char} (hkeyword : StartsFilled keyword) {c : Char} (hc : c ≠ '>')
    (s : List Char) : commentAt? keyword (s ++ [c]) = commentAt? keyword s := by
  cases hs : commentAt? keyword s with
  | some scope =>
    obtain ⟨text, rest, raw, rfl, hcomment, rfl⟩ := commentAt?_sound hs
    rw [List.append_assoc]
    exact commentAt?_complete hkeyword hcomment _
  | none =>
    cases happend : commentAt? keyword (s ++ [c]) with
    | none => rfl
    | some scope =>
      obtain ⟨text, rest, raw, heq, hcomment, rfl⟩ := commentAt?_sound happend
      obtain ⟨before, rfl⟩ := hcomment.exists_eq_append
      rcases List.eq_nil_or_concat rest with rfl | ⟨rest, d, rfl⟩
      · rw [List.append_nil] at heq
        exact absurd (List.cons.inj (List.append_inj' heq rfl).2).1 hc
      · rw [List.concat_eq_append, ← List.append_assoc] at heq
        rw [(List.append_inj' heq rfl).1, commentAt?_complete hkeyword hcomment] at hs
        cases hs

/-! ## Comments of a line -/

/-- A character that is no closing bracket at the end of a line makes no difference to its first comment. -/
theorem firstComment?_append_singleton {keyword : List Char} (hkeyword : StartsFilled keyword) {c : Char}
    (hc : c ≠ '>') :
    ∀ line : List Char, firstComment? keyword (line ++ [c]) = firstComment? keyword line
  | [] => by
    have hnone : commentAt? keyword [c] = none := (commentAt?_append_singleton hkeyword hc []).trans rfl
    simp only [List.nil_append, firstComment?, hnone]
  | d :: line => by
    rw [List.cons_append, firstComment?, ← List.cons_append, commentAt?_append_singleton hkeyword hc,
      firstComment?_append_singleton hkeyword hc line, firstComment?]

/-- The reader of a line finds the first comment. -/
theorem head?_comments (keyword : List Char) : ∀ line : List Char,
    (comments keyword line).head? = firstComment? keyword line
  | [] => rfl
  | c :: rest => by
    rw [comments, firstComment?]
    cases commentAt? keyword (c :: rest) with
    | none => exact head?_comments keyword rest
    | some scope => rfl

theorem mem_comments_iff_commentAt? {keyword : List Char} {scope : Scope} : ∀ {line : List Char},
    scope ∈ comments keyword line ↔ ∃ before rest, line = before ++ rest ∧ commentAt? keyword rest = some scope
  | [] => by
    constructor
    · intro h
      cases h
    · rintro ⟨before, rest, h, hscope⟩
      obtain ⟨-, rfl⟩ := List.append_eq_nil_iff.1 h.symm
      cases hscope
  | c :: line => by
    rw [comments, List.mem_append, Option.mem_toList, mem_comments_iff_commentAt?]
    constructor
    · rintro (h | ⟨before, rest, rfl, h⟩)
      · exact ⟨[], c :: line, rfl, h⟩
      · exact ⟨c :: before, rest, rfl, h⟩
    · rintro ⟨before, rest, heq, h⟩
      cases before with
      | nil =>
        rw [List.nil_append] at heq
        subst heq
        exact Or.inl h
      | cons d before =>
        cases heq
        exact Or.inr ⟨before, rest, rfl, h⟩

/-- The scopes of a line are those of the texts in it that are comments. -/
theorem mem_comments {keyword line : List Char} {scope : Scope} (hkeyword : StartsFilled keyword) :
    scope ∈ comments keyword line ↔
      ∃ before text rest raw, line = before ++ (text ++ rest) ∧ IsComment keyword raw text ∧ scope = scopeOf raw := by
  rw [mem_comments_iff_commentAt?]
  constructor
  · rintro ⟨before, rest, rfl, h⟩
    obtain ⟨text, rest', raw, rfl, hcomment, hscope⟩ := commentAt?_sound h
    exact ⟨before, text, rest', raw, rfl, hcomment, hscope⟩
  · rintro ⟨before, text, rest, raw, rfl, hcomment, rfl⟩
    exact ⟨before, text ++ rest, rfl, commentAt?_complete hkeyword hcomment rest⟩

end MarkLint.Suppression
