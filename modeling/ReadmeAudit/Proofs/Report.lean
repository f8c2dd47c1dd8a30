import ReadmeAudit.Proofs.Failure
import ReadmeAudit.Proofs.Report.Markup
import ReadmeAudit.Report

/-!
# Which reports can be shown

A report can be shown unless the summary cannot, whatever the problems are, and the summary can be
shown unless a bracket that the path of the README leaves open is closed in the path of the module.
A report that cannot be shown is a failure that is not foreseen.
-/

namespace ReadmeAudit.Report

open Text Markup

/-! ### Plain texts -/

theorem isPlain_of_isDigit {chars : List Char} (h : ∀ c ∈ chars, c.isDigit = true) :
  IsPlain chars
  := by
  intro c hc
  have hdigit := h c hc
  constructor
  · rintro rfl
    cases hdigit
  · rintro rfl
    cases hdigit

theorem isPlain_append {first second : String} (hfirst : IsPlain first.toList)
    (hsecond : IsPlain second.toList) :
  IsPlain (first ++ second).toList
  := by
  rw [String.toList_append]
  apply hfirst.append hsecond

theorem toDigits_isPlain (number : Nat) :
  IsPlain (Nat.toDigits 10 number)
  := by
  apply isPlain_of_isDigit
  intro c hc
  apply Nat.isDigit_of_mem_toDigits (by decide) (by decide) hc

theorem toString_isPlain (number : Nat) :
  IsPlain (toString number).toList
  := by
  rw [Nat.toString_eq_ofList_toDigits, String.toList_ofList]
  apply toDigits_isPlain

theorem withPoint_isPlain (places value : Nat) :
  IsPlain (Decimal.withPoint places value).toList
  := by
  have hdigits : IsPlain (List.replicate (places + 1 - (Nat.toDigits 10 value).length) '0'
      ++ Nat.toDigits 10 value) := by
    apply IsPlain.append _ (toDigits_isPlain value)
    intro c hc
    rw [List.eq_of_mem_replicate hc]
    decide
  rw [Decimal.withPoint, String.toList_ofList]
  apply IsPlain.append
  · intro c hc
    apply hdigits c (List.mem_of_mem_take hc)
  · rintro c (_ | ⟨_, hc⟩)
    · decide
    · apply hdigits c (List.mem_of_mem_drop hc)

theorem fixed_isPlain (places : Nat) (value : Rat) :
  IsPlain (Decimal.fixed places value).toList
  := by
  rw [Decimal.fixed]
  split
  · apply withPoint_isPlain
  · decide

theorem layout_isPlain (layout : Layout) :
  IsPlain layout.name.toList
  := by
  cases layout <;> decide

/-! ### Summaries -/

theorem detectionText_isPlain (detection : Detection) :
  IsPlain (detectionText detection).toList
  := by
  have hbegin : IsPlain " (detected, confidence ".toList := by decide
  have htable : IsPlain "; table ".toList := by decide
  have hheading : IsPlain ", heading ".toList := by decide
  have hend : IsPlain ")".toList := by decide
  apply isPlain_append _ hend
  apply isPlain_append _ (toString_isPlain _)
  apply isPlain_append _ hheading
  apply isPlain_append _ (toString_isPlain _)
  apply isPlain_append _ htable
  apply isPlain_append hbegin (fixed_isPlain _ _)

variable {summary : Summary} {rest : List Char}

theorem layoutLine_toList (summary : Summary) :
  (layoutLine summary).toList
    = "Format: ".toList ++ '[' :: ("cyan".toList ++ ']' :: (summary.layout.name.toList
      ++ '[' :: ('/' :: "cyan".toList
        ++ ']' :: ((summary.detection.map detectionText).getD "").toList)))
  := by
  unfold layoutLine
  simp only [String.toList_append, List.append_assoc]
  rfl

theorem safe_statusLine (problems : List Problem) :
  Safe (statusLine problems).toList
  := by
  rw [statusLine]
  split
  · have hplain : IsPlain "README is consistent with the module".toList := by decide
    have hgreen : "green" ∈ colors := by decide
    apply safe_nil.color hgreen hplain
  · have hred : "red" ∈ colors := by decide
    have hplain : IsPlain (toString problems.length ++ " problem(s) found").toList := by
      apply isPlain_append (toString_isPlain _)
      decide
    have hline : ("[red]" ++ toString problems.length ++ " problem(s) found[/red]").toList
        = '[' :: ("red".toList ++ ']' :: ((toString problems.length ++ " problem(s) found").toList
          ++ '[' :: ('/' :: "red".toList ++ [']']))) := by
      simp only [String.toList_append, List.append_assoc]
      rfl
    rw [hline]
    apply safe_nil.color hred hplain

/-- The description of the layout may stand before a safe text. -/
theorem safe_layoutLine (h : Safe rest) (summary : Summary) :
  Safe ((layoutLine summary).toList ++ rest)
  := by
  have hformat : IsPlain "Format: ".toList := by decide
  have hcyan : "cyan" ∈ colors := by decide
  have hdetection : IsPlain ((summary.detection.map detectionText).getD "").toList := by
    cases summary.detection with
    | none => decide
    | some detection => apply detectionText_isPlain
  rw [layoutLine_toList]
  simp only [List.append_assoc, List.cons_append]
  apply Safe.plain _ hformat
  apply Safe.color _ hcyan (layout_isPlain _)
  apply h.plain hdetection

theorem closesNext_layoutLine (summary : Summary) (rest : List Char) :
  closesNext ((layoutLine summary).toList ++ rest) = false
  := by
  rw [layoutLine_toList]
  rfl

/-- A summary is safe unless a bracket that one path leaves open is closed in the other. -/
theorem safe_summaryText (problems : List Problem)
    (hcross : ¬ (EndsOpen summary.readme.toList ∧ BeginsClosed summary.module.toList)) :
  Safe (summaryText summary problems)
  := by
  have hreadme : IsPlain "README: ".toList := by decide
  have hmodule : IsPlain "Module: ".toList ∧ Bracketless "Module: ".toList := by decide
  have hnewline : IsPlain ['\n'] := by decide
  have htext : summaryText summary problems
      = "README: ".toList ++ (escape summary.readme ++ '\n' :: ("Module: ".toList
        ++ (escape summary.module ++ '\n' :: ((layoutLine summary).toList
          ++ '\n' :: (statusLine problems).toList)))) := by
    have hlead : "\nModule: ".toList = '\n' :: "Module: ".toList := by decide
    unfold summaryText
    rw [hlead]
    simp only [List.append_assoc]
    simp only [List.cons_append]
  rw [htext]
  apply Safe.plain _ hreadme
  apply Safe.escaped _ _ hmodule.1 hmodule.2 hcross
  · apply Safe.plain _ hnewline
    apply safe_layoutLine
    apply (safe_statusLine problems).plain hnewline
  · rw [closesNext_cons_of_ne (by decide) (by decide), closesNext_layoutLine]

/-! ### Reports -/

theorem exists_row (number : Nat) (problem : Problem) :
  ∃ cells, row number problem = .ok cells
  := by
  obtain ⟨seen, hseen⟩ := exists_shown_escape problem.message
  use [toString number, problem.kind.name, String.ofList seen]
  rw [row, hseen]
  rfl

theorem exists_rows (problems : List Problem) :
  ∃ cells, rows problems = .ok cells
  := by
  rw [rows]
  induction problems.zipIdx with
  | nil =>
      use []
      rfl
  | cons numbered others ih =>
      obtain ⟨problem, number⟩ := numbered
      obtain ⟨first, hfirst⟩ := exists_row (number + 1) problem
      obtain ⟨cells, hcells⟩ := ih
      use first :: cells
      rw [List.mapM_cons]
      dsimp only
      rw [hfirst, hcells]
      rfl

theorem exists_panel {text seen : List Char} (h : shown text = .ok seen) (width : Nat)
    (title : String) :
  ∃ lines, panel width title text = .ok lines
  := by
  have hbody : ∃ body, panelBody width text = .ok body := by
    rw [panelBody, h]
    split
    · use []
      rfl
    · apply Exists.intro _
      rfl
  obtain ⟨body, hbody⟩ := hbody
  rw [panel, hbody]
  apply Exists.intro _
  rfl

/-- A report can be shown unless a bracket that one path leaves open is closed in the other. -/
theorem exists_render (width : Nat) (problems : List Problem)
    (hcross : ¬ (EndsOpen summary.readme.toList ∧ BeginsClosed summary.module.toList)) :
  ∃ text, render width summary problems = .ok text
  := by
  obtain ⟨seen, hseen⟩ := (safe_summaryText problems hcross).exists_shown
  obtain ⟨above, habove⟩ := exists_panel hseen width title
  obtain ⟨cells, hcells⟩ := exists_rows problems
  have hbelow : ∃ below, tableLines width problems = .ok below := by
    rw [tableLines, hcells]
    split
    · use []
    · use table width cells
      rfl
  obtain ⟨below, hbelow⟩ := hbelow
  have hlines : ∃ found, lines width summary problems = .ok found := by
    rw [lines, habove, hbelow]
    split
    · use []
      rfl
    · use (above ++ below).map (cut width)
      rfl
  obtain ⟨found, hfound⟩ := hlines
  use String.join (found.map (· ++ "\n"))
  rw [render, hfound]
  rfl

/-! ### Failures -/

theorem closeMeant_failsUnforeseen (rendering : Rendering) (isMeant : Tag → Bool) :
  FailsUnforeseen (rendering.closeMeant isMeant)
  := by
  rw [Rendering.closeMeant]
  split
  · apply FailsUnforeseen.error
    rintro error ⟨⟩
  · apply FailsUnforeseen.ok

theorem close_failsUnforeseen (rendering : Rendering) (name : String) :
  FailsUnforeseen (rendering.close name)
  := by
  rw [Rendering.close]
  split
  · apply closeMeant_failsUnforeseen
  · apply (FailsUnforeseen.number _).bind
    intro name
    apply closeMeant_failsUnforeseen

theorem add_failsUnforeseen (rendering : Rendering) (piece : Piece) :
  FailsUnforeseen (rendering.add piece)
  := by
  cases piece with
  | char c => apply FailsUnforeseen.ok
  | tag content =>
      rw [Rendering.add]
      dsimp only
      split
      · apply close_failsUnforeseen
      · apply (FailsUnforeseen.number _).bind
        intro name
        apply FailsUnforeseen.ok

theorem addAll_failsUnforeseen (rendering : Rendering) (pieces : List Piece) :
  FailsUnforeseen (rendering.addAll pieces)
  := by
  induction pieces generalizing rendering with
  | nil => apply FailsUnforeseen.ok
  | cons piece pieces ih => apply (add_failsUnforeseen rendering piece).bind ih

theorem acceptStyle_failsUnforeseen (description : String) :
  FailsUnforeseen (Rendering.acceptStyle description)
  := by
  rw [Rendering.acceptStyle]
  split
  · apply FailsUnforeseen.error
    rintro error ⟨⟩
  · apply FailsUnforeseen.ok

theorem shown_failsUnforeseen (chars : List Char) :
  FailsUnforeseen (shown chars)
  := by
  apply (addAll_failsUnforeseen _ _).bind
  intro rendering
  apply FailsUnforeseen.bind
  · apply (FailsUnforeseen.forM acceptStyle_failsUnforeseen _).bind
    intro _
    apply FailsUnforeseen.ok
  · intro seen
    apply FailsUnforeseen.ok

theorem panel_failsUnforeseen (width : Nat) (title : String) (text : List Char) :
  FailsUnforeseen (panel width title text)
  := by
  apply FailsUnforeseen.bind
  · rw [panelBody]
    split
    · apply FailsUnforeseen.ok
    · apply (shown_failsUnforeseen text).bind
      intro seen
      apply FailsUnforeseen.ok
  · intro body
    apply FailsUnforeseen.ok

theorem rows_failsUnforeseen (problems : List Problem) :
  FailsUnforeseen (rows problems)
  := by
  apply FailsUnforeseen.mapM
  rintro ⟨problem, number⟩
  apply (shown_failsUnforeseen _).bind
  intro seen
  apply FailsUnforeseen.ok

theorem render_failsUnforeseen (width : Nat) (summary : Summary) (problems : List Problem) :
  FailsUnforeseen (render width summary problems)
  := by
  apply FailsUnforeseen.map
  rw [lines]
  split
  · apply FailsUnforeseen.ok
  · apply (panel_failsUnforeseen _ _ _).bind
    intro above
    apply FailsUnforeseen.bind
    · rw [tableLines]
      split
      · apply FailsUnforeseen.ok
      · apply (rows_failsUnforeseen problems).map
    · intro below
      apply FailsUnforeseen.ok

end ReadmeAudit.Report
