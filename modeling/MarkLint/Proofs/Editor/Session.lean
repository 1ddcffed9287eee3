import MarkLint.Proofs.Document.Readable
import MarkLint.Proofs.Editor.Marks
import Mathlib.Algebra.Group.Nat.Defs

/-!
# What an editor shows

Each event is answered by one publication for its document (`respond_answers`), so a session gives one for each event
in their order (`session_answers`). What was published last for a document therefore answers what happened to it last
(`latest_rel`): an editor shows the findings for the current text of each open document, and none for a closed one
(`session_shows`).
-/

namespace MarkLint.Editor

/-- The document of an event. -/
def Event.uri : Event → String
  | .opened uri _ => uri
  | .changed uri _ => uri
  | .closed uri => uri

/-- The text of the document after an event, if it is open. -/
def Event.text? : Event → Option (List Char)
  | .opened _ text => some text
  | .changed _ text => some text
  | .closed _ => none

/-! ## One event -/

/-- The publication is for the document of the event. It shows all findings for the text of an open document, at places
that can be sent, and none for a closed document. -/
structure Event.Answers (analyze : List Char → Except Document.TreeError Findings) (event : Event) (p : Publication) :
    Prop where
  uri_eq : p.uri = event.uri
  of_open : ∀ text, event.text? = some text → ∃ findings, analyze text = .ok findings ∧
    findings.diagnostics.mapM markOf = .ok p.marks ∧ List.Forall₂ (Mark.Shows text) findings.diagnostics p.marks
  of_closed : event.text? = none → p.marks = []

variable {markdown : List Char → List Markdown.Element} {rules : List Rule} {events : List Event}

/-- The text is short enough for its places to be sent, and it can be read. -/
def IsFit (markdown : List Char → List Markdown.Element) (text : List Char) : Prop :=
  text.length < 2 ^ 31 ∧ ∃ document, Document.readWith markdown text = .ok document

/-- Every short text is fit for the program's own reader. -/
theorem isFit_elements {text : List Char} (h : text.length < 2 ^ 31) : IsFit Markdown.elements text :=
  ⟨h, Document.exists_read text⟩

/-- All findings for a text are published. -/
theorem exists_publish {text : List Char} (uri : String)
    (hrules : ∀ r ∈ rules, ∃ b ∈ allRules, ∃ option, r = { b with option := option }) (hfit : IsFit markdown text) :
    ∃ findings marks, publish (Analysis.analyzeWith markdown rules) uri text = .ok ⟨uri, marks⟩ ∧
      Analysis.analyzeWith markdown rules text = .ok findings ∧ findings.diagnostics.mapM markOf = .ok marks ∧
      List.Forall₂ (Mark.Shows text) findings.diagnostics marks := by
  obtain ⟨hsize, hread⟩ := hfit
  obtain ⟨findings, hfindings, hreliable⟩ := Analysis.exists_reliable_findings hrules hread
  obtain ⟨marks, hmarks, hshows⟩ := exists_marks (Nat.le_of_lt_succ hsize) hreliable
  refine ⟨findings, marks, ?_, hfindings, hmarks, hshows⟩
  simp only [publish, hfindings, hmarks]

/-- Every event is answered. -/
theorem respond_answers (hrules : ∀ r ∈ rules, ∃ b ∈ allRules, ∃ option, r = { b with option := option })
    {event : Event} (hfit : ∀ text, event.text? = some text → IsFit markdown text) :
    ∃ p, respond (Analysis.analyzeWith markdown rules) event = .ok p ∧
      event.Answers (Analysis.analyzeWith markdown rules) p := by
  cases event with
  | opened uri text =>
    obtain ⟨findings, marks, hpublish, hanswer⟩ := exists_publish uri hrules (hfit text rfl)
    exact ⟨_, hpublish, rfl, fun text' h => by cases h; exact ⟨findings, hanswer⟩, fun h => by cases h⟩
  | changed uri text =>
    obtain ⟨findings, marks, hpublish, hanswer⟩ := exists_publish uri hrules (hfit text rfl)
    exact ⟨_, hpublish, rfl, fun text' h => by cases h; exact ⟨findings, hanswer⟩, fun h => by cases h⟩
  | closed uri => exact ⟨_, rfl, rfl, fun _ h => (by cases h), fun _ => rfl⟩

/-! ## Sessions -/

/-- All events are answered, one by one. -/
theorem session_answers (hrules : ∀ r ∈ rules, ∃ b ∈ allRules, ∃ option, r = { b with option := option })
    (hfit : ∀ event ∈ events, ∀ text, event.text? = some text → IsFit markdown text) :
    ∃ ps, session (Analysis.analyzeWith markdown rules) events = .ok ps ∧
      List.Forall₂ (Event.Answers (Analysis.analyzeWith markdown rules)) events ps :=
  exists_mapM_eq_ok fun event hevent => respond_answers hrules (hfit event hevent)

section Latest

variable {α β : Type} {f : α → String} {g : β → String}

/-- The last element that is about a document. -/
def latest (f : α → String) (uri : String) (items : List α) : Option α := (items.filter fun a => f a = uri).getLast?

/-- Some element is about each document of the list, so there is a last one. -/
theorem exists_latest {uri : String} {items : List α} (h : uri ∈ items.map f) : ∃ a, latest f uri items = some a := by
  obtain ⟨a, ha, rfl⟩ := List.mem_map.1 h
  exact Option.isSome_iff_exists.1 (by simpa [latest] using ⟨a, ha, rfl⟩)

/-- An element counts only if no later one is about the same document. -/
theorem latest_cons (uri : String) (a : α) (items : List α) :
    latest f uri (a :: items) = (latest f uri items).or (if f a = uri then some a else none) := by
  by_cases h : f a = uri <;> simp [latest, h, List.getLast?_cons]

/-- Lists that correspond one by one correspond in their latest elements. -/
theorem latest_rel {R : α → β → Prop} (hkeys : ∀ a b, R a b → g b = f a) (uri : String) {as : List α} {bs : List β}
    (h : List.Forall₂ R as bs) : Option.Rel R (latest f uri as) (latest g uri bs) := by
  induction h with
  | nil => exact .none
  | @cons a b as bs hab _ ih =>
    rw [latest_cons, latest_cons, hkeys a b hab]
    generalize latest f uri as = x, latest g uri bs = y at ih
    cases ih with
    | some hlatest => exact .some hlatest
    | none =>
      by_cases hkey : f a = uri
      · simpa [hkey] using Option.Rel.some hab
      · simp [hkey]

end Latest

/-- Take any built-in rules with any options, and any events on any documents whose texts are fit. Each event is
answered by one publication for its document. For each document, what was published last answers what happened to it
last: it shows the findings for the current text of an open document, all within the text, and none for a closed one. -/
theorem session_shows (hrules : ∀ r ∈ rules, ∃ b ∈ allRules, ∃ option, r = { b with option := option })
    (hfit : ∀ event ∈ events, ∀ text, event.text? = some text → IsFit markdown text) :
    ∃ ps, session (Analysis.analyzeWith markdown rules) events = .ok ps ∧
      List.Forall₂ (Event.Answers (Analysis.analyzeWith markdown rules)) events ps ∧
      ∀ uri ∈ events.map Event.uri, ∃ event p, latest Event.uri uri events = some event ∧
        latest Publication.uri uri ps = some p ∧ event.Answers (Analysis.analyzeWith markdown rules) p := by
  obtain ⟨ps, hps, hanswers⟩ := session_answers hrules hfit
  refine ⟨ps, hps, hanswers, fun uri huri => ?_⟩
  obtain ⟨event, hevent⟩ := exists_latest huri
  have hrel := latest_rel (g := Publication.uri) (fun _ _ h => h.uri_eq) uri hanswers
  rw [hevent] at hrel
  cases hp : latest Publication.uri uri ps with
  | none =>
    rw [hp] at hrel
    cases hrel
  | some p =>
    rw [hp] at hrel
    cases hrel with
    | some h => exact ⟨event, p, hevent, rfl, h⟩

/-- Two documents are opened, one is changed, and the other closed. -/
def editing : List Event :=
  [.opened "a.md" "> b".toList, .opened "b.md" "# c".toList, .changed "b.md" "d\n# ee".toList, .closed "a.md"]

/-- A rule that marks points, and one that marks spans. -/
def editorRules : List Rule :=
  [{ BlockquoteIndentation.rule with option := some (.int 3) }, { HeadingLength.rule with option := some (.int 1) }]

/-- The new heading of the changed document is marked, and the quote of the closed document is not any more. -/
theorem session_shows_editing :
    (∀ r ∈ editorRules, ∃ b ∈ allRules, ∃ option, r = { b with option := option }) ∧
    (∀ event ∈ editing, ∀ text, event.text? = some text → IsFit Markdown.elements text) ∧
    ∃ ps event p q, session (Analysis.analyze editorRules) editing = .ok ps ∧
      latest Event.uri "b.md" editing = some event ∧ latest Publication.uri "b.md" ps = some p ∧
      event.Answers (Analysis.analyze editorRules) p ∧
      p.marks.map (fun m => (m.start, m.stop)) = [(⟨1, 0⟩, ⟨1, 4⟩)] ∧
      latest Publication.uri "a.md" ps = some q ∧ q.marks = [] := by
  have hrules : ∀ r ∈ editorRules, ∃ b ∈ allRules, ∃ option, r = { b with option := option } := by
    intro r hr
    simp only [editorRules, List.mem_cons, List.not_mem_nil, or_false] at hr
    rcases hr with rfl | rfl
    · exact ⟨BlockquoteIndentation.rule, by simp [allRules], _, rfl⟩
    · exact ⟨HeadingLength.rule, by simp [allRules], _, rfl⟩
  have hfit : ∀ event ∈ editing, ∀ text, event.text? = some text → IsFit Markdown.elements text := by
    have hsizes : ∀ event ∈ editing, ∀ text ∈ event.text?, text.length < 2 ^ 31 := by decide +kernel
    exact fun event hevent text htext => isFit_elements (hsizes event hevent text htext)
  obtain ⟨ps, hps, -, hlatest⟩ := session_shows hrules hfit
  obtain ⟨event, p, hevent, hp, hanswers⟩ := hlatest "b.md" (by decide)
  obtain ⟨closing, q, hclosing, hq, hanswers'⟩ := hlatest "a.md" (by decide)
  have hnone : closing.text? = none := by
    obtain rfl : Event.closed "a.md" = closing := Option.some.inj hclosing
    rfl
  have hmarks : ((session (Analysis.analyze editorRules) editing).toOption.bind (latest Publication.uri "b.md")).map
      (fun p => p.marks.map fun m => (m.start, m.stop)) = some [(⟨1, 0⟩, ⟨1, 4⟩)] := by decide +kernel
  have hps' : session (Analysis.analyze editorRules) editing = .ok ps := hps
  rw [hps'] at hmarks
  simp only [Except.toOption, Option.bind_some, hp, Option.map_some, Option.some.injEq] at hmarks
  exact ⟨hrules, hfit, ps, event, p, q, hps, hevent, hp, hanswers, hmarks, hq, hanswers'.of_closed hnone⟩

end MarkLint.Editor
