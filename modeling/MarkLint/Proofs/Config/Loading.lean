import MarkLint.Config.Load
import MarkLint.Proofs.Config.RuleTables
import MarkLint.Proofs.Results

/-!
# Loading the configuration

The nearest configuration file is loaded exactly if its octets are UTF-8 and, in case they are TOML, `tool` and
`tool.margot` are tables where they exist (`load_ok_iff`). Then the sections of the right shape are kept, and there is a
warning about each entry of another shape (`IsReading`). Other files stop the run (`load_stopped`).
-/

namespace MarkLint.Config

open MarkLint.Files
open MarkLint.Text

/-! ## The nearest file -/

variable {disk : Disk} {start : Path} {octets : List Nat}

/-- Of the directories from `start` upwards, the first that has a configuration file has one with these octets. -/
def IsNearest (disk : Disk) (start : Path) (octets : List Nat) : Prop :=
  ∃ before dir after, start :: start.parents = before ++ dir :: after ∧
    (∀ d ∈ before, disk.isFile (d.child "pyproject.toml") = false) ∧
    disk.readFile (dir.child "pyproject.toml") = .ok octets

theorem isFile_iff {p : Path} : disk.isFile p = true ↔ ∃ octets, disk.readFile p = .ok octets := by
  unfold Disk.isFile Disk.readFile
  cases disk.find p with
  | error e => simp
  | ok entry => cases entry <;> simp

theorem findFile?_eq (disk : Disk) (start : Path) : findFile? disk start =
    ((start :: start.parents).find? fun d => disk.isFile (d.child "pyproject.toml")).map (·.child "pyproject.toml") := by
  rw [findFile?, List.find?_map]
  rfl

/-- The nearest file is the one that is loaded. -/
theorem load_of_isNearest (h : IsNearest disk start octets) : load disk start = ofOctets octets := by
  obtain ⟨before, dir, after, hsplit, hbefore, hread⟩ := h
  have hfound : (start :: start.parents).find? (fun d => disk.isFile (d.child "pyproject.toml")) = some dir := by
    refine List.find?_eq_some_iff_append.2 ⟨isFile_iff.2 ⟨octets, hread⟩, before, after, hsplit, fun d hd => ?_⟩
    rw [hbefore d hd]
    rfl
  rw [load, findFile?_eq, hfound, Option.map_some]
  simp only [hread]

/-- There is a nearest file, or there is none at all, and then the configuration is the default. -/
theorem isNearest_or (disk : Disk) (start : Path) : (∃ octets, IsNearest disk start octets) ∨
    (∀ d ∈ start :: start.parents, disk.isFile (d.child "pyproject.toml") = false) ∧
      load disk start = .ok ({}, []) := by
  cases hfound : (start :: start.parents).find? fun d => disk.isFile (d.child "pyproject.toml") with
  | none =>
    refine Or.inr ⟨fun d hd => by simpa using List.find?_eq_none.1 hfound d hd, ?_⟩
    rw [load, findFile?_eq, hfound]
    rfl
  | some dir =>
    obtain ⟨hfile, before, after, hsplit, hbefore⟩ := List.find?_eq_some_iff_append.1 hfound
    obtain ⟨octets, hread⟩ := isFile_iff.1 hfile
    exact Or.inl ⟨octets, before, dir, after, hsplit, fun d hd => by simpa using hbefore d hd, hread⟩

/-! ## The section of a document -/

variable {document section_ : Toml.Table} {key : String} {w : Warning}

/-- In the document, `tool` and `tool.margot` are tables where they exist. -/
structure HasTables (document : Toml.Table) : Prop where
  tool : ∀ v, document.lookup "tool" = some v → table? v ≠ none
  margot : ∀ v, (entriesOf (document.lookup "tool")).lookup "margot" = some v → table? v ≠ none

/-- The table `tool.margot` of a document, empty if it is missing. -/
def sectionOf (document : Toml.Table) : Toml.Table :=
  entriesOf ((entriesOf (document.lookup "tool")).lookup "margot")

/-- The section lists names under the key. They are read in small letters. -/
def ListsNames (section_ : Toml.Table) (key : String) (ids : List String) : Prop :=
  ∃ texts : List String, section_.lookup key = some (.array (texts.map .text)) ∧ ids = texts.map lowerName

/-- What has to be warned about: no list of texts where names are expected, or an entry below `rules`. -/
inductive IsMalformed (section_ : Toml.Table) : Warning → Prop
  | names {key : String} {v : Toml.Value} : key = "select" ∨ key = "ignore" → section_.lookup key = some v →
      (∀ texts : List String, v ≠ .array (texts.map .text)) → IsMalformed section_ (.notRuleIds key)
  | rules {w : Warning} : IsMisshapen (section_.lookup "rules") w → IsMalformed section_ w

/-- What the section has in the right shape is in the configuration, and there is a warning about each entry of another
shape, and about nothing else. -/
structure IsReading (section_ : Toml.Table) (config : Config) (warnings : List Warning) : Prop where
  select : ∀ ids, config.select = some ids ↔ ListsNames section_ "select" ids
  ignore : ∀ id, id ∈ config.ignore ↔ ∃ ids, ListsNames section_ "ignore" ids ∧ id ∈ ids
  options : ∀ name, config.ruleOptions.lookup name =
    (lastTable? name (entriesOf (section_.lookup "rules"))).map scalars
  warnings : ∀ w, w ∈ warnings ↔ IsMalformed section_ w

theorem texts?_eq_some_iff {items : List Toml.Value} : ∀ {texts : List String},
    texts? items = some texts ↔ items = texts.map .text := by
  induction items with
  | nil => intro texts; cases texts <;> simp [texts?]
  | cons v rest ih =>
    intro texts
    cases v with
    | text s =>
      rw [texts?, Option.map_eq_some_iff]
      constructor
      · rintro ⟨more, hmore, rfl⟩
        rw [ih.1 hmore, List.map_cons]
      · intro h
        cases texts with
        | nil => cases h
        | cons s' more =>
          obtain ⟨hs, hrest⟩ := List.cons.inj h
          cases hs
          exact ⟨more, ih.2 hrest, rfl⟩
    | _ => cases texts <;> simp [texts?]

theorem map_text_injective : Function.Injective (List.map Toml.Value.text) :=
  List.map_injective_iff.2 fun _ _ h => Toml.Value.text.inj h

/-- A value under a key is read as names if it is an array of texts, and any other value is warned about. -/
theorem ruleIds_spec (section_ : Toml.Table) (key : String) :
    (∀ ids, (ruleIds section_ key).1 = some ids ↔ ListsNames section_ key ids) ∧
    ∀ w, w ∈ (ruleIds section_ key).2 ↔ w = .notRuleIds key ∧
      ∃ v, section_.lookup key = some v ∧ ∀ texts : List String, v ≠ .array (texts.map .text) := by
  simp only [ListsNames, ruleIds]
  cases section_.lookup key with
  | none => simp
  | some v =>
    cases v with
    | array items =>
      cases htexts : texts? items with
      | none =>
        have hne : ∀ texts : List String, items ≠ texts.map .text := fun texts h => by
          rw [texts?_eq_some_iff.2 h] at htexts
          cases htexts
        simp [htexts, hne]
      | some texts =>
        obtain rfl := texts?_eq_some_iff.1 htexts
        simp [htexts, map_text_injective.eq_iff, eq_comm]
    | _ => simp

/-- A table is found under a key unless something else is there. -/
theorem subtable_eq_ok_iff {t inner : Toml.Table} : subtable t key = .ok inner ↔
    (∀ v, t.lookup key = some v → table? v ≠ none) ∧ inner = entriesOf (t.lookup key) := by
  unfold subtable entriesOf
  cases t.lookup key with
  | none => simp [eq_comm]
  | some v => cases v <;> simp [table?, eq_comm]

/-- What is read from the table `tool.margot`. -/
def readSection (section_ : Toml.Table) : Config × List Warning :=
  (⟨(ruleIds section_ "select").1, (ruleIds section_ "ignore").1.getD [],
      (ruleOptionsOf (section_.lookup "rules")).1⟩,
    (ruleIds section_ "select").2 ++ (ruleIds section_ "ignore").2 ++ (ruleOptionsOf (section_.lookup "rules")).2)

/-- A document is read exactly if the tables in it can be found. -/
theorem ofDocument_eq_ok_iff {result : Config × List Warning} :
    ofDocument document = .ok result ↔ HasTables document ∧ result = readSection (sectionOf document) := by
  rw [ofDocument, bind_eq_ok_iff]
  constructor
  · rintro ⟨tool, htool, h⟩
    obtain ⟨section_, hsection, h⟩ := bind_eq_ok_iff.1 h
    obtain ⟨hhasTool, rfl⟩ := subtable_eq_ok_iff.1 htool
    obtain ⟨hhasMargot, rfl⟩ := subtable_eq_ok_iff.1 hsection
    exact ⟨⟨hhasTool, hhasMargot⟩, (Except.ok.inj h).symm⟩
  · rintro ⟨⟨hhasTool, hhasMargot⟩, rfl⟩
    exact ⟨_, subtable_eq_ok_iff.2 ⟨hhasTool, rfl⟩, bind_eq_ok_iff.2 ⟨_, subtable_eq_ok_iff.2 ⟨hhasMargot, rfl⟩, rfl⟩⟩

/-- The table is read with a warning about each entry of another shape. -/
theorem isReading_readSection (section_ : Toml.Table) :
    IsReading section_ (readSection section_).1 (readSection section_).2 := by
  obtain ⟨hselect, hselectWarnings⟩ := ruleIds_spec section_ "select"
  obtain ⟨hignore, hignoreWarnings⟩ := ruleIds_spec section_ "ignore"
  obtain ⟨-, hoptions, hoptionWarnings⟩ := ruleOptionsOf_spec (section_.lookup "rules")
  refine ⟨hselect, fun id => ?_, hoptions, fun w => ?_⟩
  · simp only [← hignore, readSection]
    cases (ruleIds section_ "ignore").1 <;> simp
  · rw [readSection, List.mem_append, List.mem_append, hselectWarnings, hignoreWarnings, hoptionWarnings]
    constructor
    · rintro ((⟨rfl, v, hv, hne⟩ | ⟨rfl, v, hv, hne⟩) | hrules)
      · exact .names (Or.inl rfl) hv hne
      · exact .names (Or.inr rfl) hv hne
      · exact .rules hrules
    · rintro (⟨rfl | rfl, hv, hne⟩ | hrules)
      · exact Or.inl (Or.inl ⟨rfl, _, hv, hne⟩)
      · exact Or.inl (Or.inr ⟨rfl, _, hv, hne⟩)
      · exact Or.inr hrules

/-! ## The file -/

/-- The octets are UTF-8 without integers that are too long to be read, and if they are TOML the tables in them can be
found. -/
def IsLoadable (octets : List Nat) : Prop :=
  ∃ text, decodeUtf8 octets = .ok text ∧ Toml.read text ≠ .error .tooLong ∧
    ∀ document, Toml.read text = .ok document → HasTables document

theorem ofOctets_of_malformed {text : List Char} (htext : decodeUtf8 octets = .ok text)
    (h : Toml.read text = .error .malformed) : ofOctets octets = .ok ({}, [.unreadable]) := by
  rw [ofOctets, htext]
  simp only [h]

theorem ofOctets_eq_ok_iff {text : List Char} {result : Config × List Warning} (htext : decodeUtf8 octets = .ok text)
    (h : Toml.read text = .ok document) : ofOctets octets = .ok result ↔ ofDocument document = .ok result := by
  rw [ofOctets, htext]
  simp only [h]
  cases ofDocument document <;> simp

/-- A file is loaded exactly if it can be decoded, its integers are not too long, and the tables in it can be found. -/
theorem exists_ofOctets_iff : (∃ result, ofOctets octets = .ok result) ↔ IsLoadable octets := by
  unfold IsLoadable
  cases htext : decodeUtf8 octets with
  | error e => simp [ofOctets, htext]
  | ok text =>
    cases hread : Toml.read text with
    | error fault =>
      cases fault with
      | malformed => simp [ofOctets_of_malformed htext hread, hread]
      | tooLong => simp [ofOctets, htext, hread]
    | ok document => simp [ofOctets_eq_ok_iff htext hread, ofDocument_eq_ok_iff, hread]

/-- The configuration is loaded exactly if the nearest file, if there is one, can be decoded, its integers are not too
long to be read, and the tables in it can be found. Without a file it is the default, and with a file that is no TOML it
is too, with a warning. Otherwise it has what `tool.margot` has in the right shape, with a warning about each entry of
another shape. -/
theorem load_ok_iff (disk : Disk) (start : Path) :
    ((∃ result, load disk start = .ok result) ↔ ∀ octets, IsNearest disk start octets → IsLoadable octets) ∧
    ((∃ octets, IsNearest disk start octets) ∨
      (∀ d ∈ start :: start.parents, disk.isFile (d.child "pyproject.toml") = false) ∧
        load disk start = .ok ({}, [])) ∧
    ∀ octets text, IsNearest disk start octets → decodeUtf8 octets = .ok text →
      (Toml.read text = .error .malformed → load disk start = .ok ({}, [.unreadable])) ∧
      ∀ document, Toml.read text = .ok document → HasTables document → ∃ config warnings,
        load disk start = .ok (config, warnings) ∧ IsReading (sectionOf document) config warnings := by
  refine ⟨⟨fun h octets hnearest => ?_, fun h => ?_⟩, isNearest_or disk start, fun octets text hnearest htext => ?_⟩
  · rwa [load_of_isNearest hnearest, exists_ofOctets_iff] at h
  · rcases isNearest_or disk start with ⟨octets, hnearest⟩ | ⟨-, hload⟩
    · rw [load_of_isNearest hnearest, exists_ofOctets_iff]
      exact h octets hnearest
    · exact ⟨_, hload⟩
  · rw [load_of_isNearest hnearest]
    refine ⟨ofOctets_of_malformed htext, fun document hread htables => ?_⟩
    exact ⟨_, _, (ofOctets_eq_ok_iff htext hread).2 (ofDocument_eq_ok_iff.2 ⟨htables, rfl⟩),
      isReading_readSection (sectionOf document)⟩

/-- A directory with a configuration file, and nothing else. -/
def diskWith (octets : List Nat) : Disk := ⟨.folder [("pyproject.toml", .file octets)], []⟩

/-- An octet that is no UTF-8 stops the run, and so does a number in the place of the table `tool`. -/
theorem load_stopped :
    (¬ ∀ (disk : Disk) (start : Path), ∃ result, load disk start = .ok result) ∧
    load (diskWith [255]) ⟨"/", []⟩ = .error (.notUtf8 ⟨.invalidStart, 0, 1, 255⟩) ∧
    load (diskWith ("tool = 1".toList.flatMap utf8Octets)) ⟨"/", []⟩ = .error (.shape (.notATable "tool")) := by
  have hstopped : load (diskWith [255]) ⟨"/", []⟩ = .error (.notUtf8 ⟨.invalidStart, 0, 1, 255⟩) := rfl
  refine ⟨fun h => ?_, hstopped, rfl⟩
  obtain ⟨result, hresult⟩ := h (diskWith [255]) ⟨"/", []⟩
  rw [hstopped] at hresult
  cases hresult

end MarkLint.Config
