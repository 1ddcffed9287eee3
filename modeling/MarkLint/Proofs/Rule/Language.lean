import MarkLint.Proofs.Text.Numeral
import MarkLint.Rule.All
import Mathlib.Tactic.ByContra
import Mathlib.Tactic.Push

/-!
# What the rules understand as their options

An `OptionLanguage` lists the values that a rule accepts as its option, those of them that mean the same as no option,
and the words in which any other value is refused. `ruleLanguages` gives one to each built-in rule. A rule speaks its
language (`Rule.Speaks`) if it reads exactly these values, refuses all others in these words, and takes the same steps
for values with the same meaning. A refusal quotes the value, so it takes a value that can be quoted
(`Scalar.IsQuotable`).
-/

namespace MarkLint

/-! ## Refusals -/

/-- Only an integer that cannot be written cannot be quoted. -/
def Scalar.IsQuotable (value : Scalar) : Prop := ∀ n : Int, value = .int n → Text.IsWritable n

theorem Scalar.exists_shown {value : Scalar} (h : value.IsQuotable) : ∃ quoted, value.shown = .ok quoted := by
  cases value with
  | int n => exact ⟨_, Text.writeInt_of_isWritable (h n rfl)⟩
  | text s => exact ⟨_, rfl⟩
  | bool b => exact ⟨_, rfl⟩
  | fraction digits places => exact ⟨_, rfl⟩
  | negativeZero => exact ⟨_, rfl⟩
  | infinity isNegative => exact ⟨_, rfl⟩
  | notANumber => exact ⟨_, rfl⟩

theorem Scalar.shown_of_not_isQuotable {value : Scalar} (h : ¬ value.IsQuotable) :
    value.shown = .error Text.tooLong := by
  unfold IsQuotable at h
  push Not at h
  obtain ⟨n, rfl, hwritable⟩ := h
  exact Text.writeInt_of_not_isWritable hwritable

theorem OptionFault.refuse_of_shown {value : Scalar} {quoted : String} (h : value.shown = .ok quoted)
    (before after : String) : refuse before value after = .refused (before ++ quoted ++ after) := by
  rw [refuse, h]

theorem OptionFault.refuse_of_not_isQuotable {value : Scalar} (h : ¬ value.IsQuotable) (before after : String) :
    refuse before value after = .brokeDown Text.tooLong := by
  rw [refuse, Scalar.shown_of_not_isQuotable h]

/-! ## Languages -/

/-- The options of a rule: the values that it accepts, those that mean the same as no option, and what a refusal says
before and after the refused value. -/
structure OptionLanguage where
  accepts : Scalar → Prop
  unset : List Scalar
  before : String
  after : String
  accepts_unset : ∀ value ∈ unset, accepts value

namespace OptionLanguage

/-- No option, or a value of the language. -/
def Accepts (L : OptionLanguage) (option : Option Scalar) : Prop := ∀ value ∈ option, L.accepts value

/-- No option, or a value that means the same. -/
def IsUnset (L : OptionLanguage) (option : Option Scalar) : Prop := ∀ value ∈ option, value ∈ L.unset

/-- Two spellings of one option. -/
def SameMeaning (L : OptionLanguage) (option option' : Option Scalar) : Prop :=
  option = option' ∨ L.IsUnset option ∧ L.IsUnset option'

/-- The refusal of a value that is quoted. -/
def refusal (L : OptionLanguage) (quoted : String) : String := L.before ++ quoted ++ L.after

/-- The language of a rule that takes no option. -/
def silent (ruleId : String) : OptionLanguage where
  accepts _ := False
  unset := []
  before := "Unexpected option `"
  after := "`: " ++ ruleId ++ " takes none"
  accepts_unset := by simp

end OptionLanguage

/-- An indentation is a number from 0 on or left to the document, which 0 does too. -/
def BlockquoteIndentation.language : OptionLanguage where
  accepts value := value = .text "consistent" ∨ ∃ n : Int, 0 ≤ n ∧ value = .int n
  unset := [.text "consistent", .int 0]
  before := "Incorrect block quote indentation `"
  after := "`: use either `'consistent'` or a number"
  accepts_unset := by simp

/-- A style of code blocks is named or left to the document. -/
def CodeBlockStyle.language : OptionLanguage where
  accepts value := value = .text "consistent" ∨ value = .text "fenced" ∨ value = .text "indented"
  unset := [.text "consistent"]
  before := "Incorrect code block style `"
  after := "`: use either `'consistent'`, `'fenced'`, or `'indented'`"
  accepts_unset := by simp

/-- A maximum is a number from 0 on, by default 60. -/
def HeadingLength.language : OptionLanguage where
  accepts value := ∃ n : Int, 0 ≤ n ∧ value = .int n
  unset := [.int 60]
  before := "Incorrect maximum heading length `"
  after := "`: use a number"
  accepts_unset := by simp

/-- The built-in rules with their languages. -/
def ruleLanguages : List (Rule × OptionLanguage) :=
  [(BlockquoteIndentation.rule, BlockquoteIndentation.language),
    (CheckboxContentIndent.rule, .silent "checkbox-content-indent"),
    (CodeBlockStyle.rule, CodeBlockStyle.language),
    (HeadingLength.rule, HeadingLength.language),
    (DuplicateHeadings.rule, .silent "no-duplicate-headings")]

/-- The rule reads the values of the language, refuses all others in its words, and takes the steps that it takes
without an option for the values that mean the same. -/
structure Rule.Speaks (r : Rule) (L : OptionLanguage) : Prop where
  accepts : ∀ option, L.Accepts option → ∃ setup, r.read option = .ok setup
  refuses : ∀ value, ¬ L.accepts value → r.read (some value) = .error (.refuse L.before value L.after)
  unset : ∀ value ∈ L.unset, ∃ setup setup', r.read none = .ok setup ∧ r.read (some value) = .ok setup' ∧
    setup.steps = setup'.steps

/-! ## Readers of options -/

section Readers

variable {label : String} {default : Option Int}

theorem Setting.readCount_int {n : Int} (h : 0 ≤ n) (label : String) (default : Option Int) (allowConsistent : Bool) :
    readCount (some (.int n)) label default allowConsistent = .ok (some n) := by
  simp [readCount, h]

/-- Anything but a number from 0 on is refused where a number is required, and so is all else but the word for the
choice of the document where this is allowed. -/
theorem Setting.readCount_refused {value : Scalar} {allowConsistent : Bool}
    (hword : allowConsistent = true → value ≠ .text consistent) (hnumber : ∀ n : Int, 0 ≤ n → value ≠ .int n) :
    readCount (some value) label default allowConsistent = .error (refuseCount label value allowConsistent) := by
  have hskip : (allowConsistent && value == .text consistent) = false := by
    cases allowConsistent with
    | false => rfl
    | true => simpa using hword rfl
  simp only [readCount, hskip, Bool.false_eq_true, if_false]
  cases value with
  | int n => exact if_neg fun h => hnumber n h rfl
  | _ => rfl

theorem Setting.readStyle_refused {value : Scalar} {styles : List String} (hword : value ≠ .text consistent)
    (hstyle : ∀ s ∈ styles, value ≠ .text s) :
    readStyle (some value) styles label = .error (refuseStyle label value styles) := by
  simp only [readStyle, if_neg hword]
  cases value with
  | text s => exact if_neg fun h => hstyle s (List.contains_iff_mem.1 h) rfl
  | _ => rfl

end Readers

/-! ## Each rule speaks its language -/

theorem Rule.speaks_silent {r : Rule} {ruleId : String} {steps : Node → Location → List Step}
    (h : r.read = readNothing ruleId steps) : r.Speaks (.silent ruleId) where
  accepts option haccepts := by
    cases option with
    | none => exact ⟨_, by rw [h]; rfl⟩
    | some value => exact (haccepts value rfl).elim
  refuses value _ := by
    rw [h]
    rfl
  unset value hvalue := by cases hvalue

theorem BlockquoteIndentation.speaks : rule.Speaks language where
  accepts option haccepts := by
    cases option with
    | none => exact ⟨_, rfl⟩
    | some value =>
      rcases haccepts value rfl with rfl | ⟨n, hn, rfl⟩
      · exact ⟨_, rfl⟩
      · exact ⟨_, by simp only [rule, readIndent, Setting.readCount_int hn]; rfl⟩
  refuses value hvalue := by
    obtain ⟨hword, hnumber⟩ := not_or.1 hvalue
    simp only [rule, readIndent]
    rw [Setting.readCount_refused (fun _ => hword) fun n hn heq => hnumber ⟨n, hn, heq⟩]
    rfl
  unset value hvalue := by
    simp only [language, List.mem_cons, List.not_mem_nil, or_false] at hvalue
    rcases hvalue with rfl | rfl <;> exact ⟨_, _, rfl, rfl, rfl⟩

theorem CodeBlockStyle.speaks : rule.Speaks language where
  accepts option haccepts := by
    cases option with
    | none => exact ⟨_, rfl⟩
    | some value => rcases haccepts value rfl with rfl | rfl | rfl <;> exact ⟨_, rfl⟩
  refuses value hvalue := by
    simp only [language, not_or] at hvalue
    obtain ⟨hword, hfenced, hindented⟩ := hvalue
    simp only [rule, readCodeStyle]
    rw [Setting.readStyle_refused hword (by simp [hfenced, hindented])]
    rfl
  unset value hvalue := by
    obtain rfl := List.mem_singleton.1 hvalue
    exact ⟨_, _, rfl, rfl, rfl⟩

theorem HeadingLength.speaks : rule.Speaks language where
  accepts option haccepts := by
    cases option with
    | none => exact ⟨_, rfl⟩
    | some value =>
      obtain ⟨n, hn, rfl⟩ := haccepts value rfl
      exact ⟨_, by simp only [rule, readLimit, Setting.readCount_int hn]; rfl⟩
  refuses value hvalue := by
    simp only [rule, readLimit]
    rw [Setting.readCount_refused (by simp) fun n hn heq => hvalue ⟨n, hn, heq⟩]
    rfl
  unset value hvalue := by
    obtain rfl := List.mem_singleton.1 hvalue
    exact ⟨_, _, rfl, rfl, rfl⟩

theorem speaks_of_mem {p : Rule × OptionLanguage} (h : p ∈ ruleLanguages) : p.1.Speaks p.2 := by
  simp only [ruleLanguages, List.mem_cons, List.not_mem_nil, or_false] at h
  rcases h with rfl | rfl | rfl | rfl | rfl
  · exact BlockquoteIndentation.speaks
  · exact Rule.speaks_silent rfl
  · exact CodeBlockStyle.speaks
  · exact HeadingLength.speaks
  · exact Rule.speaks_silent rfl

/-- Each built-in rule has a language. -/
theorem exists_language_of_mem {r : Rule} (h : r ∈ allRules) : ∃ L, (r, L) ∈ ruleLanguages := by
  have hrules : ruleLanguages.map Prod.fst = allRules := rfl
  rw [← hrules] at h
  obtain ⟨⟨r, L⟩, hmem, rfl⟩ := List.mem_map.1 h
  exact ⟨L, hmem⟩

/-! ## What is read -/

namespace Rule.Speaks

variable {r : Rule} {L : OptionLanguage} {option : Option Scalar}

/-- A rule reads exactly the values of its language. -/
theorem exists_read_iff (h : r.Speaks L) : (∃ setup, r.read option = .ok setup) ↔ L.Accepts option := by
  refine ⟨fun ⟨setup, hread⟩ value hvalue => ?_, h.accepts option⟩
  obtain rfl := Option.mem_def.1 hvalue
  by_contra hrefused
  rw [h.refuses value hrefused] at hread
  cases hread

/-- An option is read, or it is a value outside the language. -/
theorem read_cases (h : r.Speaks L) (option : Option Scalar) : (∃ setup, r.read option = .ok setup) ∨
    ∃ value, option = some value ∧ ¬ L.accepts value ∧
      r.read option = .error (.refuse L.before value L.after) := by
  cases option with
  | none => exact Or.inl (h.accepts none fun value hvalue => by cases hvalue)
  | some value =>
    by_cases haccepts : L.accepts value
    · refine Or.inl (h.accepts _ fun value' hvalue => ?_)
      obtain rfl := Option.some.inj hvalue
      exact haccepts
    · exact Or.inr ⟨value, rfl, haccepts, h.refuses value haccepts⟩

end Rule.Speaks

end MarkLint
