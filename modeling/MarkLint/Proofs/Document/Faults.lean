import MarkLint.Proofs.Document.Placement

/-!
# Which elements make no document

`sites` lists all elements in document order, each with the elements that enclose it. What is at fault can be told from
a single site (`Site.fault?`): a heading that is read as one needs a level, and nothing but parts of lines may stand in
a part of a line. The builder fails exactly with the first fault in document order (`faultOf_placedNodes`).
-/

namespace MarkLint.Document

open MarkLint.Markdown
open MarkLint.Text

/-! ## Sites -/

/-- An element and what encloses it, nearest first. -/
structure Site where
  above : List Element
  element : Element

mutual

/-- All elements of a forest inside those of `above`, in document order. -/
def sites (above : List Element) : List Element → List Site
  | [] => []
  | e :: rest => sitesOf above e ++ sites above rest

/-- An element inside those of `above`, and all elements in it. -/
def sitesOf (above : List Element) : Element → List Site
  | ⟨kind, tag, lines, content, info, markup, href, src, children⟩ =>
    let e : Element := ⟨kind, tag, lines, content, info, markup, href, src, children⟩
    ⟨above, e⟩ :: sites (e :: above) children

end

theorem sitesOf_eq (above : List Element) (e : Element) :
    sitesOf above e = ⟨above, e⟩ :: sites (e :: above) e.children := by
  cases e
  rw [sitesOf]

/-- Whatever encloses a forest encloses its elements. -/
theorem suffix_of_mem_sites {es : List Element} :
    ∀ {above : List Element} {s : Site}, s ∈ sites above es → above <:+ s.above := by
  induction es using Element.forest_induction with
  | nil =>
    intro above s hs
    cases hs
  | cons e rest ihe ihrest =>
    intro above s hs
    rw [sites, sitesOf_eq, List.mem_append, List.mem_cons] at hs
    rcases hs with (rfl | hs) | hs
    · exact List.suffix_rfl
    · exact (List.suffix_cons e above).trans (ihe hs)
    · exact ihrest hs

/-- Is one of the elements a part of a line? -/
def anyInline (es : List Element) : Bool := es.any fun e => isInline e.kind

/-- Is one of the elements an image? -/
def anyImage (es : List Element) : Bool := es.any fun e => e.kind == "image"

/-- Is one of the elements a block whose lines do not lie in a text of `count` lines? -/
def anyUnplaced (count : Nat) (es : List Element) : Bool :=
  es.any fun e => !isTransparent e.kind && !isInline e.kind && !liesIn count e.lines

namespace Site

/-- Is the element a heading without a level? A heading in a part of a line is not read as one, and no level is looked
for below a block without a place. -/
def lacksLevel (count : Nat) (s : Site) : Bool :=
  s.element.kind == "heading" && !anyUnplaced count s.above && !anyInline s.above
    && (readInt? (s.element.tag.toList.drop 1)).isNone

/-- Does the element stand in a part of a line, without being one itself? Nothing in an image is looked at. -/
def isStray (s : Site) : Bool := !isInline s.element.kind && anyInline s.above && !anyImage s.above

/-- The fault of the element. -/
def fault? (count : Nat) (s : Site) : Option TreeError :=
  if s.lacksLevel count then some (.headingTag s.element.tag)
  else if s.isStray then some (.unknownInline s.element.kind)
  else none

theorem fault?_eq_none_iff {count : Nat} {s : Site} :
    s.fault? count = none ↔ s.lacksLevel count = false ∧ s.isStray = false := by
  rw [fault?]
  cases s.lacksLevel count <;> cases s.isStray <;> simp

theorem isSome_fault? {count : Nat} {s : Site} :
    (s.fault? count).isSome = true ↔ s.lacksLevel count = true ∨ s.isStray = true := by
  rw [fault?]
  cases s.lacksLevel count <;> cases s.isStray <;> simp

end Site

/-- The first fault of a forest inside the elements of `above`. -/
def firstFault (count : Nat) (above es : List Element) : Option TreeError :=
  (sites above es).findSome? (Site.fault? count)

section FirstFault

variable {count : Nat} {above : List Element} {e : Element}

theorem firstFault_cons (count : Nat) (above : List Element) (e : Element) (rest : List Element) :
    firstFault count above (e :: rest) = ((Site.fault? count ⟨above, e⟩).or
      (firstFault count (e :: above) e.children)).or (firstFault count above rest) := by
  rw [firstFault, sites, sitesOf_eq, List.cons_append, List.findSome?_cons, List.findSome?_append]
  cases Site.fault? count ⟨above, e⟩ <;> rfl

/-- An image is a part of a line. -/
theorem anyInline_of_anyImage {es : List Element} (h : anyImage es = true) : anyInline es = true := by
  obtain ⟨e, he, hkind⟩ := List.any_eq_true.1 h
  rw [beq_iff_eq] at hkind
  exact List.any_eq_true.2 ⟨e, he, by rw [hkind]; decide⟩

/-- What stands in an image somewhere stands in it everywhere below. -/
theorem anyImage_of_mem_sites (h : anyImage above = true) {es : List Element} {s : Site} (hs : s ∈ sites above es) :
    anyImage s.above = true := by
  obtain ⟨e, he, hkind⟩ := List.any_eq_true.1 h
  exact List.any_eq_true.2 ⟨e, (suffix_of_mem_sites hs).subset he, hkind⟩

/-- Nothing in an image is at fault. -/
theorem firstFault_of_anyImage (h : anyImage above = true) (es : List Element) : firstFault count above es = none := by
  rw [firstFault, List.findSome?_eq_none_iff]
  intro s hs
  have himage := anyImage_of_mem_sites h hs
  rw [Site.fault?_eq_none_iff, Site.lacksLevel, Site.isStray, himage, anyInline_of_anyImage himage]
  simp

/-- A part of a line is not at fault itself. -/
theorem Site.fault?_of_isInline (count : Nat) (above : List Element) (h : isInline e.kind = true) :
    Site.fault? count ⟨above, e⟩ = none := by
  have hkind : (e.kind == "heading") = false :=
    beq_eq_false_iff_ne.2 (ne_of_apply_ne isInline (by rw [h]; decide))
  rw [Site.fault?_eq_none_iff, Site.lacksLevel, Site.isStray, h, hkind]
  exact ⟨rfl, rfl⟩

/-- An element that is no part of a line is at fault inside one. -/
theorem Site.fault?_of_anyInline (count : Nat) (h : isInline e.kind = false) (hinline : anyInline above = true)
    (himage : anyImage above = false) : Site.fault? count ⟨above, e⟩ = some (.unknownInline e.kind) := by
  have hlevel : Site.lacksLevel count ⟨above, e⟩ = false := by simp [Site.lacksLevel, hinline]
  have hstray : Site.isStray ⟨above, e⟩ = true := by simp [Site.isStray, h, hinline, himage]
  rw [Site.fault?, hlevel, hstray]
  rfl

/-- Outside of lines only a heading can be at fault. -/
theorem Site.fault?_of_not_anyInline (count : Nat) (e : Element) (h : anyInline above = false) :
    Site.fault? count ⟨above, e⟩ = if e.kind = "heading" ∧ anyUnplaced count above = false ∧
      readInt? (e.tag.toList.drop 1) = none then some (.headingTag e.tag) else none := by
  have hstray : Site.isStray ⟨above, e⟩ = false := by simp [Site.isStray, h]
  rw [Site.fault?, hstray]
  simp [Site.lacksLevel, h, and_assoc]

end FirstFault

/-! ## Where the builder fails -/

/-- The fault with which there is no answer. -/
def faultOf {α : Type} : Except TreeError α → Option TreeError
  | .ok _ => none
  | .error f => some f

section FaultOf

variable {α β : Type} {x : Except TreeError α}

theorem faultOf_eq_some_iff {f : TreeError} : faultOf x = some f ↔ x = .error f := by
  cases x with
  | ok a => simp [faultOf]
  | error g => simp [faultOf]

theorem faultOf_bind {f : α → Except TreeError β} {later : Option TreeError}
    (h : ∀ a, x = .ok a → faultOf (f a) = later) : faultOf (x >>= f) = (faultOf x).or later := by
  cases x with
  | ok a => exact h a rfl
  | error g => rfl

/-- A step that cannot fail makes no difference. -/
theorem faultOf_bind_ok {f : α → Except TreeError β} (h : ∀ a, x = .ok a → ∃ b, f a = .ok b) :
    faultOf (x >>= f) = faultOf x := by
  have hnone : ∀ a, x = .ok a → faultOf (f a) = none := by
    intro a ha
    obtain ⟨b, hb⟩ := h a ha
    rw [hb]
    rfl
  rw [faultOf_bind hnone, Option.or_none]

theorem faultOf_map (f : α → β) (x : Except TreeError α) : faultOf (x.map f) = faultOf x := by
  cases x <;> rfl

end FaultOf

section Builder

variable {count : Nat} {above : List Element} {e : Element}

/-- A part of a line fails with the first fault in it, if its children do. -/
theorem faultOf_inlineNode_of (hi : isInline e.kind = true) (h : e.kind ≠ "image" →
    faultOf (inlineNodes e.children) = firstFault count (e :: above) e.children) :
    faultOf (inlineNode e) = (Site.fault? count ⟨above, e⟩).or (firstFault count (e :: above) e.children) := by
  obtain ⟨k, hk⟩ := Option.isSome_iff_exists.1 hi
  rw [Site.fault?_of_isInline count above hi, Option.none_or, inlineNode_eq, hk]
  by_cases himage : e.kind = "image"
  · have hany : anyImage (e :: above) = true := by simp [anyImage, himage]
    rw [firstFault_of_anyImage hany]
    simp only [if_pos himage]
    rfl
  · rw [← h himage]
    simp only [if_neg himage]
    cases inlineNodes e.children <;> rfl

/-- The children of a part of a line fail with the first fault among them. -/
theorem faultOf_inlineNodes (es : List Element) : ∀ {above : List Element}, anyInline above = true →
    anyImage above = false → faultOf (inlineNodes es) = firstFault count above es := by
  induction es using Element.forest_induction with
  | nil => exact fun _ _ => rfl
  | cons e rest ihe ihrest =>
    intro above hinline himage
    have hnode : faultOf (inlineNode e)
        = (Site.fault? count ⟨above, e⟩).or (firstFault count (e :: above) e.children) := by
      cases hi : isInline e.kind with
      | true =>
        refine faultOf_inlineNode_of hi fun hkind => ihe ?_ ?_
        · simp [anyInline, hi]
        · simpa [anyImage, hkind] using himage
      | false =>
        have hlookup : inlineKinds.lookup e.kind = none := by simpa [isInline] using hi
        rw [Site.fault?_of_anyInline count hi hinline himage, inlineNode_eq, hlookup]
        rfl
    rw [inlineNodes, firstFault_cons, ← hnode, ← ihrest hinline himage]
    exact faultOf_bind fun node _ => faultOf_bind_ok fun nodes _ => ⟨_, rfl⟩

/-- A part of a line fails with the first fault in it. -/
theorem faultOf_inlineNode (hi : isInline e.kind = true) (habove : anyInline above = false) :
    faultOf (inlineNode e) = (Site.fault? count ⟨above, e⟩).or (firstFault count (e :: above) e.children) := by
  refine faultOf_inlineNode_of hi fun hkind => faultOf_inlineNodes e.children ?_ ?_
  · simp [anyInline, hi]
  · have himage : anyImage above = false := by
      rw [← Bool.not_eq_true] at habove ⊢
      exact fun h => habove (anyInline_of_anyImage h)
    simpa [anyImage, hkind] using himage

/-- Below a block without a place no headings are read, so only the parts of lines can be at fault. -/
theorem faultOf_bareNodes (es : List Element) : ∀ {above : List Element}, anyInline above = false →
    anyUnplaced count above = true → faultOf (bareNodes es) = firstFault count above es := by
  induction es using Element.forest_induction with
  | nil => exact fun _ _ => rfl
  | cons e rest ihe ihrest =>
    intro above habove hunplaced
    have hnode : faultOf (bareNode e)
        = (Site.fault? count ⟨above, e⟩).or (firstFault count (e :: above) e.children) := by
      rw [bareNode_eq]
      cases hi : isInline e.kind with
      | true =>
        rw [if_neg (by simp [isTransparent_of_isInline hi]), if_pos rfl, ← faultOf_inlineNode hi habove]
        exact faultOf_bind_ok fun node _ => ⟨_, rfl⟩
      | false =>
        have hinside : faultOf (bareNodes e.children) = firstFault count (e :: above) e.children := by
          refine ihe ?_ ?_
          · simpa [anyInline, hi] using habove
          · simp only [anyUnplaced, List.any_cons, Bool.or_eq_true]
            exact Or.inr hunplaced
        have hself : Site.fault? count ⟨above, e⟩ = none := by
          rw [Site.fault?_of_not_anyInline count e habove, hunplaced]
          simp
        rw [hself, Option.none_or, ← hinside]
        split
        · rfl
        · exact faultOf_bind_ok fun inner _ => ⟨_, rfl⟩
    rw [bareNodes, firstFault_cons, ← hnode, ← ihrest habove hunplaced]
    exact faultOf_bind fun nodes _ => faultOf_bind_ok fun more _ => ⟨_, rfl⟩

/-- A block fails by itself only if it is a heading without a level. -/
theorem faultOf_blockData (e : Element) : faultOf (blockData e)
    = if e.kind = "heading" ∧ readInt? (e.tag.toList.drop 1) = none then some (.headingTag e.tag) else none := by
  unfold blockData
  by_cases hheading : e.kind = "heading"
  · simp only [if_pos hheading]
    cases hlevel : readInt? (e.tag.toList.drop 1) with
    | some level => rw [if_neg (by simp)]; rfl
    | none => rw [if_pos ⟨hheading, rfl⟩]; rfl
  · have hnone : ¬ (e.kind = "heading" ∧ readInt? (e.tag.toList.drop 1) = none) := fun h => hheading h.1
    simp only [if_neg hheading, if_neg hnone]
    split
    · rfl
    · split
      · rfl
      · split <;> rfl

/-- Blocks inside those that have a place are without one only by their own lines. -/
theorem anyUnplaced_cons (hi : isInline e.kind = false) (habove : anyUnplaced count above = false) :
    anyUnplaced count (e :: above) = (!isTransparent e.kind && !liesIn count e.lines) := by
  have hrest : above.any _ = false := habove
  rw [anyUnplaced, List.any_cons, hrest, hi]
  simp

section Placed

variable {source : List Char}

/-- A block fails with its own fault or else with the first fault in it, if its children do. -/
theorem faultOf_placedNode_block (cs : List Container) (ht : isTransparent e.kind = false)
    (hi : isInline e.kind = false) (habove : anyInline (e :: above) = false)
    (hplaced : anyUnplaced (lines source).length above = false)
    (h : ∀ cs, anyUnplaced (lines source).length (e :: above) = false →
      faultOf (placedNodes (Sheet.ofText source) cs e.children)
        = firstFault (lines source).length (e :: above) e.children) :
    faultOf (placedNode (Sheet.ofText source) cs e)
      = (faultOf (blockData e)).or (firstFault (lines source).length (e :: above) e.children) := by
  have hunplaced := anyUnplaced_cons hi hplaced
  rw [ht, Bool.not_false, Bool.true_and] at hunplaced
  cases hdata : blockData e with
  | error f =>
    rw [placedNode_fault ht hi hdata]
    rfl
  | ok node =>
    have hlies := isSome_blockLines source e.lines
    cases hlines : blockLines (Sheet.ofText source) e.lines with
    | none =>
      rw [hlines] at hlies
      rw [placedNode_bare ht hi hdata hlines, faultOf_map]
      exact faultOf_bareNodes e.children habove (by rw [hunplaced, ← hlies]; rfl)
    | some p =>
      rw [hlines] at hlies
      rw [placedNode_block ht hi hdata hlines]
      refine (faultOf_bind_ok fun inner hinner => ?_).trans (h _ (by rw [hunplaced, ← hlies]; rfl))
      have hsound := ((placedNodes_yields source e.children _).of_ok hinner).isSound
      obtain ⟨block, hblock, -⟩ := @readTask_ofText source
        { node with position := some (blockPlace source cs e.kind p.1 p.2), children := inner } hsound
      rw [hblock]
      exact ⟨_, rfl⟩

/-- The builder fails with the first fault of its elements. -/
theorem faultOf_placedNodes (source : List Char) (es : List Element) : ∀ {above : List Element} (cs : List Container),
    anyInline above = false → anyUnplaced (lines source).length above = false →
    faultOf (placedNodes (Sheet.ofText source) cs es) = firstFault (lines source).length above es := by
  induction es using Element.forest_induction with
  | nil => exact fun _ _ _ => rfl
  | cons e rest ihe ihrest =>
    intro above cs habove hplaced
    have hnode : faultOf (placedNode (Sheet.ofText source) cs e) = (Site.fault? (lines source).length ⟨above, e⟩).or
        (firstFault (lines source).length (e :: above) e.children) := by
      cases hi : isInline e.kind with
      | true => rw [placedNode_inline hi, faultOf_map, faultOf_inlineNode hi habove]
      | false =>
        have hinline : anyInline (e :: above) = false := by simpa [anyInline, hi] using habove
        rw [Site.fault?_of_not_anyInline _ e habove]
        cases ht : isTransparent e.kind with
        | true =>
          have hkind : e.kind ≠ "heading" := ne_of_apply_ne isTransparent (by rw [ht]; decide)
          rw [placedNode_transparent ht, if_neg fun h => hkind h.1, Option.none_or]
          exact ihe cs hinline (by rw [anyUnplaced_cons hi hplaced, ht]; rfl)
        | false =>
          rw [faultOf_placedNode_block cs ht hi hinline hplaced fun cs => ihe cs hinline, faultOf_blockData]
          simp only [hplaced, true_and]
    rw [placedNodes, firstFault_cons, ← hnode, ← ihrest cs habove hplaced]
    exact faultOf_bind fun nodes _ => faultOf_bind_ok fun more _ => ⟨_, rfl⟩

end Placed

end Builder

end MarkLint.Document
