import Mathlib.Algebra.Order.Field.Basic
import Mathlib.Algebra.Order.Field.Rat
import Mathlib.Tactic.Linarith
import ReadmeAudit.Proofs.Markdown.Outermost
import ReadmeAudit.Readme.Detection

/-!
# What the detection of the layout counts

The visitor of `detect` keeps scores while it walks over the tree. This module says what the scores
are without the walk: `shownBy` is the set of the known sections that show a layout, by their
addresses, and `HasItemHeading`, `HasTypedCode` and `tables` are the other signals of a document.
The layout that is detected and its scores are determined by them.
-/

namespace ReadmeAudit.Detection

open Text Markdown

/-! ### Signals -/

/-- What follows the heading of a section shows a layout: a table, or a heading of level 3, perhaps
after one paragraph. -/
def Shows : Layout → Place → Prop
  | .table, heading => ∃ next, heading.next? = some next ∧ next.kind = .table
  | .document, heading => ∃ next rest, heading.after = next :: rest
      ∧ (next.isHeadingOf 3 = true
        ∨ next.kind = .paragraph ∧ ∃ item, rest.head? = some item ∧ item.isHeadingOf 3 = true)

/-- The known sections of a document that show a layout. -/
def shownBy (layout : Layout) (root : Node) : Set Address :=
  {address | ∃ heading, Place.Outermost Kind.isHeading ⟨root, []⟩ address heading
    ∧ heading.node.isHeadingOf 2 = true ∧ isKnown heading.node.plainText = true
    ∧ Shows layout heading}

/-- A document has a heading of level 3 that is in no other heading. -/
def HasItemHeading (root : Node) : Prop :=
  ∃ address heading, Place.Outermost Kind.isHeading ⟨root, []⟩ address heading
    ∧ heading.node.isHeadingOf 3 = true

/-- An outermost code block of one of the two kinds names a structured type. -/
def HasTypedCode (root : Node) : Prop :=
  ∃ isCode ∈ [isFence, isIndentedCode], ∃ address block,
    Place.Outermost isCode ⟨root, []⟩ address block ∧ namesType block.node.kind = true

/-- The outermost tables of a document. -/
def tables (root : Node) : Set Address :=
  {address | ∃ table, Place.Outermost (· = .table) ⟨root, []⟩ address table}

open Classical in
/-- One point if something is the case. -/
noncomputable def point (holds : Prop) : Nat :=
  if holds then 1 else 0

theorem point_eq {holds : Prop} {b : Bool} (h : b = true ↔ holds) :
  point holds = if b then 1 else 0
  := by
  rw [point]
  simp only [← h]

/-- The points for tables that the sections give. -/
noncomputable def tablePoints (root : Node) : Nat :=
  (shownBy .table root).ncard

/-- The points for headings that the sections and the headings of level 3 give. -/
noncomputable def headingPoints (root : Node) : Nat :=
  (shownBy .document root).ncard + 2 * point (HasItemHeading root)

/-! ### One step of the count -/

theorem shown?_eq_some_iff {layout : Layout} {heading : Place} :
  shown? heading.after = some layout ↔ Shows layout heading
  := by
  cases layout with
  | table =>
      rw [Shows, Place.next?]
      cases heading.after with
      | nil => simp [shown?]
      | cons next rest =>
          by_cases htable : next.kind = .table
          · simp [shown?, htable]
          · simp [shown?, htable, apply_ite (· = some Layout.table)]
  | document =>
      rw [Shows]
      cases heading.after with
      | nil => simp [shown?]
      | cons next rest =>
          by_cases htable : next.kind = .table
          · simp [shown?, htable, Node.isHeadingOf, Node.headingLevel?, Kind.headingLevel?]
          · by_cases hparagraph : next.kind = .paragraph
            · simp [shown?, hparagraph, Node.isHeadingOf, Node.headingLevel?, Kind.headingLevel?,
                Option.any_eq_true]
            · simp [shown?, htable, hparagraph]

/-- Whether a heading is that of a known section that shows a layout. -/
def scoresFor (layout : Layout) (heading : Place) : Bool :=
  heading.node.isHeadingOf 2 && isKnown heading.node.plainText
    && shown? heading.after == some layout

theorem mem_shownBy_iff {layout : Layout} {root : Node} {address : Address} :
  address ∈ shownBy layout root
    ↔ ∃ heading, Place.Outermost Kind.isHeading ⟨root, []⟩ address heading
      ∧ scoresFor layout heading = true
  := by
  simp only [shownBy, scoresFor, Set.mem_ofPred_eq, Bool.and_eq_true, beq_iff_eq,
    shown?_eq_some_iff, and_assoc]

/-- A count with what a heading adds to it: a point for each layout that it scores for. -/
def counted (count : Count) (heading : Place) : Count :=
  ⟨⟨count.scores.table + (if scoresFor .table heading then 1 else 0),
      count.scores.heading + (if scoresFor .document heading then 1 else 0)⟩,
    count.hasItemHeading || heading.node.isHeadingOf 3⟩

/-- The visitor counts headings, and does not look into them. -/
theorem tally_folds :
  Folds Kind.isHeading (fun _ => true) counted tally
  := by
  intro place count
  cases hlevel : place.node.headingLevel? with
  | none =>
      have hheading : place.node.kind.isHeading = false := by
        rw [Kind.isHeading, ← Node.headingLevel?, hlevel, Option.isSome_none]
      rw [tally, hlevel, hheading]
      rfl
  | some level =>
      have hheading : place.node.kind.isHeading = true := by
        rw [Kind.isHeading, ← Node.headingLevel?, hlevel, Option.isSome_some]
      rw [tally, hlevel, hheading, if_pos rfl, if_pos rfl, counted]
      simp only [scoresFor, Node.isHeadingOf, hlevel, Option.some_beq_some]
      by_cases hitem : level = 3
      · simp [hitem]
      · have hitem' : (level == 3) = false := beq_eq_false_iff_ne.mpr hitem
        by_cases hsection : level = 2
        · cases isKnown place.node.plainText with
          | false => simp [hsection]
          | true =>
              cases shown? place.after with
              | none => simp [hsection]
              | some layout => cases layout <;> simp [hsection]
        · simp [hitem, hitem', hsection]

/-! ### The whole count -/

/-- Headings add up what each of them adds. -/
theorem foldl_counted (headings : List Place) (count : Count) :
  headings.foldl counted count
    = ⟨⟨count.scores.table + headings.countP (scoresFor .table),
        count.scores.heading + headings.countP (scoresFor .document)⟩,
      count.hasItemHeading || headings.any (·.node.isHeadingOf 3)⟩
  := by
  induction headings generalizing count with
  | nil => simp
  | cons heading headings ih =>
      rw [List.foldl_cons, ih, counted, List.countP_cons, List.countP_cons, List.any_cons,
        Bool.or_assoc, Nat.add_assoc, Nat.add_assoc]
      simp only [Nat.add_comm]

theorem ncard_shownBy (layout : Layout) (root : Node) :
  (shownBy layout root).ncard = (root.find Kind.isHeading).countP (scoresFor layout)
  := by
  rw [← ncard_outermost_eq_countP]
  congr 1
  ext address
  apply mem_shownBy_iff

theorem hasTypedCode_iff {root : Node} :
  hasTypedCode root = true ↔ HasTypedCode root
  := by
  rw [hasTypedCode, HasTypedCode, List.any_eq_true]
  simp only [any_find_iff]

theorem ncard_tables (root : Node) :
  (tables root).ncard = (root.find (· = .table)).length
  := by
  rw [← List.countP_true, ← ncard_outermost_eq_countP]
  simp only [tables, and_true]

/-- What the walk over a document counts. -/
theorem walk_tally (root : Node) :
  (root.walk tally ⟨⟨0, 0⟩, false⟩).2
    = ⟨⟨(shownBy .table root).ncard, (shownBy .document root).ncard⟩,
      (root.find Kind.isHeading).any (·.node.isHeadingOf 3)⟩
  := by
  rw [tally_folds.walk_eq, foldl_counted, ncard_shownBy, ncard_shownBy]
  simp only [Nat.zero_add, Bool.false_or]

/-- The final scores of a document. -/
theorem score_eq (root : Node) :
  score root
    = if tablePoints root = headingPoints root then
        ⟨tablePoints root + point (1 < (tables root).ncard),
          headingPoints root + point (HasTypedCode root)⟩
      else ⟨tablePoints root, headingPoints root⟩
  := by
  have hmany : decide (1 < (root.find (· = .table)).length) = true ↔ 1 < (tables root).ncard := by
    rw [decide_eq_true_iff, ncard_tables]
  have hitem : (root.find Kind.isHeading).any (·.node.isHeadingOf 3) = true
      ↔ HasItemHeading root := any_find_iff
  have hscores : (if (root.find Kind.isHeading).any (·.node.isHeadingOf 3) then
        (⟨(shownBy .table root).ncard, (shownBy .document root).ncard + 2⟩ : Scores)
      else ⟨(shownBy .table root).ncard, (shownBy .document root).ncard⟩)
      = ⟨tablePoints root, headingPoints root⟩ := by
    rw [tablePoints, headingPoints, point_eq hitem]
    split
    · rfl
    · rfl
  rw [score, walk_tally]
  simp only [hscores, point_eq hmany, point_eq hasTypedCode_iff, decide_eq_true_eq]

/-! ### The outcome -/

/-- The confidence is the distance of the scores as a part of their sum. -/
theorem confidence_eq (detection : Detection) :
  detection.confidence
    = if detection.scores.table + detection.scores.heading = 0 then 0
      else |(detection.scores.table : ℚ) - detection.scores.heading|
        / (detection.scores.table + detection.scores.heading)
  := by
  obtain ⟨layout, table, heading⟩ := detection
  dsimp only [confidence]
  rw [Nat.cast_sub min_le_max, Nat.cast_max, Nat.cast_min, max_sub_min_eq_abs',
    Nat.cast_add]

theorem confidence_mem_unit (detection : Detection) :
  0 ≤ detection.confidence ∧ detection.confidence ≤ 1
  := by
  rw [confidence_eq]
  split
  · use le_refl 0
    apply zero_le_one
  · next hscores =>
    have hsum : (0 : ℚ) < detection.scores.table + detection.scores.heading := by
      exact_mod_cast Nat.pos_of_ne_zero hscores
    have htable : (0 : ℚ) ≤ detection.scores.table := Nat.cast_nonneg _
    have hheading : (0 : ℚ) ≤ detection.scores.heading := Nat.cast_nonneg _
    use div_nonneg (abs_nonneg _) hsum.le
    rw [div_le_one hsum, abs_sub_le_iff]
    constructor
    · linarith
    · linarith

/-- Tables win if they have more points, or if there is a tie that only the number of tables
breaks. -/
theorem layout_eq_table_iff {root : Node} :
  (detect root).layout = .table
    ↔ headingPoints root < tablePoints root
      ∨ tablePoints root = headingPoints root ∧ 1 < (tables root).ncard ∧ ¬ HasTypedCode root
  := by
  have hlayout : (detect root).layout = .table ↔ (score root).heading < (score root).table := by
    rw [detect]
    split <;> simp [*]
  rw [hlayout, score_eq]
  split
  · next htie =>
    simp only [htie, lt_self_iff_false, true_and, false_or, point]
    by_cases hmany : 1 < (tables root).ncard
    · by_cases htyped : HasTypedCode root
      · simp [hmany, htyped]
      · simp [hmany, htyped]
    · simp [hmany]
  · next htie => simp [htie]

/-- A document with a heading of level 3 has the layout of tables only if tables follow two of its
known sections at least. -/
theorem two_le_ncard_of_layout_eq_table {root : Node} (hitem : HasItemHeading root)
    (h : (detect root).layout = .table) :
  2 ≤ (shownBy .table root).ncard
  := by
  have hpoints : headingPoints root ≤ tablePoints root := by
    rcases layout_eq_table_iff.mp h with hlt | ⟨htie, -⟩
    · apply hlt.le
    · apply htie.ge
  rw [headingPoints, tablePoints, point, if_pos hitem] at hpoints
  apply le_trans (Nat.le_add_left 2 _) hpoints

/-- The detection of a layout is determined by the signals of a document. It gives the layout of
tables exactly if these have more points than headings, or as many and there are several tables and
no typed code, and else that of headings. The scores are the points, to which the number of tables
and the typed code add one each in the case of a tie; the confidence is how far the scores are apart
in proportion to their sum, and lies between 0 and 1. A document with a heading of level 3 has the
layout of tables only if a table follows at least two known sections. -/
theorem detect_determined_by_signals (root : Node) :
  ((detect root).layout = .table
      ↔ headingPoints root < tablePoints root
        ∨ tablePoints root = headingPoints root ∧ 1 < (tables root).ncard ∧ ¬ HasTypedCode root)
    ∧ ((detect root).layout = .document ↔ ¬ (detect root).layout = .table)
    ∧ (detect root).scores
      = (if tablePoints root = headingPoints root then
          ⟨tablePoints root + point (1 < (tables root).ncard),
            headingPoints root + point (HasTypedCode root)⟩
        else ⟨tablePoints root, headingPoints root⟩)
    ∧ (detect root).confidence
      = (if (detect root).scores.table + (detect root).scores.heading = 0 then 0
        else |((detect root).scores.table : ℚ) - (detect root).scores.heading|
          / ((detect root).scores.table + (detect root).scores.heading))
    ∧ (0 ≤ (detect root).confidence ∧ (detect root).confidence ≤ 1)
    ∧ ¬ (HasItemHeading root ∧ (detect root).layout = .table ∧ (shownBy .table root).ncard < 2)
  := by
  use layout_eq_table_iff
  use by cases (detect root).layout <;> simp
  use score_eq root
  use confidence_eq (detect root)
  use confidence_mem_unit (detect root)
  rintro ⟨hitem, htable, hlt⟩
  apply absurd hlt (Nat.not_lt.mpr (two_le_ncard_of_layout_eq_table hitem htable))

end ReadmeAudit.Detection
