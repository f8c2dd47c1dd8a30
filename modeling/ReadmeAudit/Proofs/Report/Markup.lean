import Mathlib.Data.List.Basic
import Mathlib.Tactic.Use
import ReadmeAudit.Report.Markup

/-!
# Which marked-up texts can be shown

A text that is escaped has no tags of its own: reading it shows characters only, in front of any
text that is `Separate` from it, unless a bracket that it leaves open is closed there. A text is
`Safe` if it leaves no tag open and closes none that is not open. Such a text can be shown.
-/

namespace ReadmeAudit.Report

open Text

/-! ### Brackets -/

/-- There are no brackets. -/
def Bracketless (chars : List Char) : Prop :=
  '[' ∉ chars ∧ ']' ∉ chars

instance (chars : List Char) : Decidable (Bracketless chars) :=
  inferInstanceAs (Decidable (_ ∧ _))

/-- The last bracket is an opening one. -/
def EndsOpen (chars : List Char) : Prop :=
  ∃ before after, chars = before ++ '[' :: after ∧ Bracketless after

/-- The first bracket is a closing one. -/
def BeginsClosed (chars : List Char) : Prop :=
  ∃ before after, chars = before ++ ']' :: after ∧ Bracketless before

variable {chars rest : List Char} {c : Char}

@[simp]
theorem bracketless_nil :
  Bracketless []
  := by
  constructor
  · apply List.not_mem_nil
  · apply List.not_mem_nil

@[simp]
theorem bracketless_cons_iff :
  Bracketless (c :: chars) ↔ (c ≠ '[' ∧ c ≠ ']') ∧ Bracketless chars
  := by
  simp only [Bracketless, List.mem_cons, not_or]
  grind

theorem EndsOpen.cons (h : EndsOpen chars) (c : Char) :
  EndsOpen (c :: chars)
  := by
  obtain ⟨before, after, rfl, hafter⟩ := h
  use c :: before, after, rfl

theorem closesNext_cons (c : Char) (rest : List Char) :
  closesNext (c :: rest) = if c = '[' then false else if c = ']' then true else closesNext rest
  := by
  rw [closesNext, List.dropWhile_cons]
  by_cases hopen : c = '['
  · subst hopen
    rfl
  · by_cases hclose : c = ']'
    · subst hclose
      rfl
    · simp [hopen, hclose, closesNext]

@[simp]
theorem closesNext_cons_of_ne (hopen : c ≠ '[') (hclose : c ≠ ']') :
  closesNext (c :: rest) = closesNext rest
  := by
  rw [closesNext_cons, if_neg hopen, if_neg hclose]

theorem closesNext_of_bracketless (h : Bracketless chars) :
  closesNext (chars ++ rest) = closesNext rest
  := by
  induction chars with
  | nil => rfl
  | cons c chars ih =>
      obtain ⟨⟨hopen, hclose⟩, hchars⟩ := bracketless_cons_iff.mp h
      rw [List.cons_append, closesNext_cons_of_ne hopen hclose, ih hchars]

@[simp]
theorem closesNext_backslashes (count : Nat) (rest : List Char) :
  closesNext (backslashes count ++ rest) = closesNext rest
  := by
  apply closesNext_of_bracketless
  constructor
  · intro h
    cases List.eq_of_mem_replicate h
  · intro h
    cases List.eq_of_mem_replicate h

theorem beginsClosed_of_closesNext (h : closesNext chars = true) :
  BeginsClosed chars
  := by
  induction chars with
  | nil => cases h
  | cons c chars ih =>
      rw [closesNext_cons] at h
      split at h
      · cases h
      · next hopen =>
        split at h
        · next hclose =>
          use [], chars, by rw [hclose]; rfl
          apply bracketless_nil
        · next hclose =>
          obtain ⟨before, after, rfl, hbefore⟩ := ih h
          use c :: before, after, rfl
          apply bracketless_cons_iff.mpr ⟨⟨hopen, hclose⟩, hbefore⟩

/-- What follows makes no difference after a bracket, and closes nothing where it matters. -/
theorem closesNext_append (h : Bracketless chars → closesNext rest = false) :
  closesNext (chars ++ rest) = closesNext chars
  := by
  induction chars with
  | nil => apply h bracketless_nil
  | cons c chars ih =>
      rw [List.cons_append, closesNext_cons, closesNext_cons]
      split
      · rfl
      · next hopen =>
        split
        · rfl
        · next hclose =>
          apply ih
          intro hchars
          apply h (bracketless_cons_iff.mpr ⟨⟨hopen, hclose⟩, hchars⟩)

/-! ### Escaping -/

@[simp]
theorem escapeAfter_slash (slashes : Nat) (rest : List Char) :
  escapeAfter slashes ('\\' :: rest) = escapeAfter (slashes + 1) rest
  := by
  rw [escapeAfter, if_pos rfl]

/-- A character is preceded by some backslashes, which are odd in number before a tag. -/
theorem exists_escapeAfter_cons (hc : c ≠ '\\') (slashes : Nat) (rest : List Char) :
  ∃ count, escapeAfter slashes (c :: rest) = backslashes count ++ c :: escapeAfter 0 rest
    ∧ (c = '[' → isTag rest = true → count % 2 = 1) ∧ (slashes = 0 → c ≠ '[' → count = 0)
  := by
  rw [escapeAfter, if_neg hc]
  refine ⟨_, rfl, ?_, ?_⟩
  · intro hopen htag
    simp [hopen, htag]
  · intro hslashes hopen
    simp [hslashes, hopen]

/-- Backslashes stay in front. -/
theorem exists_escapeAfter_succ (slashes : Nat) (chars : List Char) :
  ∃ after, escapeAfter (slashes + 1) chars = '\\' :: after
  := by
  induction chars generalizing slashes with
  | nil =>
      use backslashes slashes
      rfl
  | cons c chars ih =>
      by_cases hc : c = '\\'
      · subst hc
        rw [escapeAfter_slash]
        apply ih
      · rw [escapeAfter, if_neg hc]
        dsimp only
        split
        · use backslashes (2 * (slashes + 1)) ++ c :: escapeAfter 0 chars
          rfl
        · use backslashes slashes ++ c :: escapeAfter 0 chars
          rfl

/-- Escaping adds no brackets. -/
theorem closesNext_escapeAfter (slashes : Nat) (chars rest : List Char) :
  closesNext (escapeAfter slashes chars ++ rest) = closesNext (chars ++ rest)
  := by
  induction chars generalizing slashes with
  | nil => apply closesNext_backslashes
  | cons c chars ih =>
      by_cases hc : c = '\\'
      · subst hc
        rw [escapeAfter_slash, ih, List.cons_append,
          closesNext_cons_of_ne (by decide) (by decide)]
      · obtain ⟨count, heq, -⟩ := exists_escapeAfter_cons hc slashes chars
        rw [heq, List.append_assoc, closesNext_backslashes, List.cons_append, closesNext_cons,
          ih, List.cons_append, closesNext_cons]

theorem isTag_backslashes {count : Nat} (h : isTag rest = false) :
  isTag (backslashes count ++ rest) = false
  := by
  cases count with
  | zero => apply h
  | succ count => rfl

/-- What is escaped is a tag if it is one unescaped. -/
theorem isTag_escapeAfter (hrest : isTag rest = false)
    (hcross : Bracketless chars → closesNext rest = false) :
  isTag (escapeAfter 0 chars ++ rest) = isTag chars
  := by
  cases chars with
  | nil => apply hrest
  | cons c chars =>
      by_cases hc : c = '\\'
      · subst hc
        obtain ⟨after, hafter⟩ := exists_escapeAfter_succ 0 chars
        rw [escapeAfter_slash, hafter]
        rfl
      · obtain ⟨count, heq, -, hcount⟩ := exists_escapeAfter_cons hc 0 chars
        by_cases hopen : c = '['
        · subst hopen
          rw [heq, List.append_assoc]
          apply isTag_backslashes
          rfl
        · rw [heq, hcount rfl hopen]
          change (isTagStart c && closesNext (escapeAfter 0 chars ++ rest))
            = (isTagStart c && closesNext chars)
          by_cases hclose : c = ']'
          · subst hclose
            rfl
          · rw [closesNext_escapeAfter, closesNext_append]
            intro hchars
            apply hcross
            apply bracketless_cons_iff.mpr ⟨⟨hopen, hclose⟩, hchars⟩

namespace Markup

/-! ### Texts without tags -/

/-- Reading a text after some backslashes shows characters only, until a rest of it is left. -/
def ShowsUntil (rest : List Char) (slashes : Nat) (chars : List Char) : Prop :=
  ∃ seen : List Char, pieces (.text slashes) chars = seen.map .char ++ pieces (.text 0) rest

variable {slashes : Nat} {middle : List Char}

theorem ShowsUntil.refl (rest : List Char) :
  ShowsUntil rest 0 rest
  := by
  use []
  rfl

theorem ShowsUntil.trans
    (h : ShowsUntil middle slashes chars) (hmiddle : ShowsUntil rest 0 middle) :
  ShowsUntil rest slashes chars
  := by
  obtain ⟨seen, hseen⟩ := h
  obtain ⟨more, hmore⟩ := hmiddle
  use seen ++ more
  rw [hseen, hmore, List.map_append, List.append_assoc]

/-- A character that begins no tag is shown after the backslashes. -/
theorem showsUntil_cons (hc : c ≠ '\\')
    (htag : c = '[' → isTag chars = true → slashes % 2 = 1) :
  ShowsUntil chars slashes (c :: chars)
  := by
  have hshown : ∀ count, pieces (.text slashes) (c :: chars)
      = shownSlashes count ++ .char c :: pieces (.text 0) chars →
        ShowsUntil chars slashes (c :: chars) := by
    intro count h
    use backslashes count ++ [c]
    rw [h]
    simp [shownSlashes]
  by_cases hopen : c = '['
  · subst hopen
    cases h : isTag chars with
    | true =>
        apply hshown (slashes / 2)
        rw [pieces, if_neg hc, if_pos rfl, if_pos h, if_pos (htag rfl h)]
    | false =>
        apply hshown (slashes - 1)
        rw [pieces, if_neg hc, if_pos rfl, if_neg (Bool.eq_false_iff.mp h)]
  · apply hshown slashes
    rw [pieces, if_neg hc, if_neg hopen]

theorem showsUntil_backslashes {count : Nat} (h : ShowsUntil rest (slashes + count) chars) :
  ShowsUntil rest slashes (backslashes count ++ chars)
  := by
  induction count generalizing slashes with
  | zero => apply h
  | succ count ih =>
      have hpieces : pieces (.text slashes) (backslashes (count + 1) ++ chars)
          = pieces (.text (slashes + 1)) (backslashes count ++ chars) := by
        rw [backslashes, List.replicate_succ, List.cons_append, pieces, if_pos rfl]
        rfl
      rw [ShowsUntil, hpieces]
      apply ih
      rw [Nat.add_right_comm, Nat.add_assoc]
      apply h

/-- A text is separate if it does not continue what stands before it: backslashes before it are
shown, and a bracket before it begins no tag. -/
structure Separate (rest : List Char) : Prop where
  /-- Backslashes are shown. -/
  showsUntil (slashes : Nat) : ShowsUntil rest slashes rest
  /-- There is no tag. -/
  isTag_eq : isTag rest = false

theorem separate_nil :
  Separate []
  := by
  constructor
  · intro slashes
    use backslashes slashes
    rw [pieces, pieces, shownSlashes, shownSlashes]
    simp [backslashes]
  · rfl

theorem separate_newline (rest : List Char) :
  Separate ('\n' :: rest)
  := by
  constructor
  · intro slashes
    have hshown : ∀ count, pieces (.text count) ('\n' :: rest)
        = shownSlashes count ++ .char '\n' :: pieces (.text 0) rest := by
      intro count
      rw [pieces, if_neg (by decide), if_neg (by decide)]
    use backslashes slashes
    rw [hshown, hshown]
    rfl
  · rfl

/-- An escaped text has no tags, unless a bracket that it leaves open is closed after it. -/
theorem showsUntil_escapeAfter (hrest : Separate rest) (count slashes : Nat)
    (hcross : EndsOpen chars → closesNext rest = false) :
  ShowsUntil rest 0 (escapeAfter slashes chars ++ (backslashes count ++ rest))
  := by
  induction chars generalizing slashes with
  | nil =>
      apply showsUntil_backslashes
      apply showsUntil_backslashes
      apply hrest.showsUntil
  | cons c chars ih =>
      have hchars : EndsOpen chars → closesNext rest = false := by
        intro h
        apply hcross (h.cons c)
      by_cases hc : c = '\\'
      · subst hc
        rw [escapeAfter_slash]
        apply ih _ hchars
      · obtain ⟨before, heq, hodd, -⟩ := exists_escapeAfter_cons hc slashes chars
        rw [heq, List.append_assoc]
        apply showsUntil_backslashes
        apply (showsUntil_cons hc _).trans (ih 0 hchars)
        -- The bracket begins a tag only if it does so in the text itself.
        intro hopen htag
        rw [Nat.zero_add]
        apply hodd hopen
        rw [← htag, eq_comm]
        apply isTag_escapeAfter (isTag_backslashes hrest.isTag_eq)
        intro hbracketless
        rw [closesNext_backslashes]
        apply hcross
        use [], chars
        constructor
        · rw [hopen]
          rfl
        · apply hbracketless

theorem exists_escape_eq (text : String) :
  ∃ count, escape text = escapeAfter 0 text.toList ++ backslashes count
  := by
  rw [escape, doubleLast]
  split
  · use 0
    apply (List.append_nil _).symm
  · use 1
    rfl
  · use 0
    apply (List.append_nil _).symm

theorem closesNext_escape {text : String} (h : closesNext rest = false) :
  closesNext (escape text ++ rest) = closesNext text.toList
  := by
  obtain ⟨count, heq⟩ := exists_escape_eq text
  rw [heq, List.append_assoc, closesNext_escapeAfter]
  apply closesNext_append
  intro _
  rw [closesNext_backslashes, h]

theorem showsUntil_escape {text : String} (hrest : Separate rest)
    (hcross : EndsOpen text.toList → closesNext rest = false) :
  ShowsUntil rest 0 (escape text ++ rest)
  := by
  obtain ⟨count, heq⟩ := exists_escape_eq text
  rw [heq, List.append_assoc]
  apply showsUntil_escapeAfter hrest count 0 hcross

/-- There is nothing in a text that would have to be escaped. -/
def IsPlain (chars : List Char) : Prop :=
  ∀ c ∈ chars, c ≠ '[' ∧ c ≠ '\\'

instance (chars : List Char) : Decidable (IsPlain chars) :=
  List.decidableBAll _ chars

theorem IsPlain.append {others : List Char} (h : IsPlain chars) (hothers : IsPlain others) :
  IsPlain (chars ++ others)
  := by
  intro c hc
  rcases List.mem_append.mp hc with hc | hc
  · apply h c hc
  · apply hothers c hc

theorem showsUntil_plain (h : IsPlain chars) :
  ShowsUntil rest 0 (chars ++ rest)
  := by
  induction chars with
  | nil => apply ShowsUntil.refl
  | cons c chars ih =>
      obtain ⟨⟨hopen, hslash⟩, hchars⟩ := List.forall_mem_cons.mp h
      apply (showsUntil_cons hslash _).trans (ih hchars)
      intro hc
      apply absurd hc hopen

/-! ### Tags -/

theorem pieces_inTag {content : List Char} (h : ']' ∉ content) :
  pieces .tag (content ++ ']' :: rest) = pieces (.text 0) rest
  := by
  induction content with
  | nil => rw [List.nil_append, pieces, if_pos rfl]
  | cons c content ih =>
      obtain ⟨hc, hcontent⟩ := not_or.mp (mt List.mem_cons.mpr h)
      rw [List.cons_append, pieces, if_neg (Ne.symm hc), ih hcontent]

theorem isTag_append (h : isTag chars = true) :
  isTag (chars ++ rest) = true
  := by
  cases chars with
  | nil => cases h
  | cons c chars =>
      obtain ⟨hstart, hclose⟩ := Bool.and_eq_true_iff.mp h
      apply Bool.and_eq_true_iff.mpr
      use hstart
      change closesNext (chars ++ rest) = true
      rw [closesNext_append, hclose]
      intro hbracketless
      obtain ⟨before, after, rfl, -⟩ := beginsClosed_of_closesNext hclose
      apply absurd (List.mem_append_right before List.mem_cons_self) hbracketless.2

theorem pieces_tag {content : List Char} (htag : isTag (content ++ [']']) = true)
    (hcontent : ']' ∉ content) :
  pieces (.text 0) ('[' :: (content ++ ']' :: rest)) = .tag content :: pieces (.text 0) rest
  := by
  have htag : isTag (content ++ ']' :: rest) = true := by
    rw [← List.singleton_append, ← List.append_assoc]
    apply isTag_append htag
  have htake : (content ++ ']' :: rest).takeWhile (· != ']') = content := by
    rw [List.takeWhile_append_of_pos, List.takeWhile_cons_of_neg, List.append_nil]
    · simp
    · intro c hc
      apply bne_iff_ne.mpr
      rintro rfl
      apply hcontent hc
  rw [pieces, if_neg (by decide), if_pos rfl, if_pos htag, if_neg (by decide), htake,
    pieces_inTag hcontent]
  rfl

/-- The colours of a summary. -/
def colors : List String := ["cyan", "green", "red"]

variable {name : String} {rendering : Rendering}

theorem add_color (h : name ∈ colors) :
  rendering.add (.tag name.toList)
    = .ok { rendering with opened := ⟨name, none⟩ :: rendering.opened }
  := by
  have hname : ∀ name ∈ colors, split name.toList = (name, none)
      ∧ Text.startsWith "/" name = false ∧ normalize name = .ok name := by
    decide
  obtain ⟨hsplit, hstart, hnormal⟩ := hname name h
  rw [Rendering.add, hsplit]
  dsimp only
  rw [hstart, hnormal]
  rfl

theorem close_innermost {opened : List Tag} (hname : name.isEmpty = false)
    (hnormal : normalize name = .ok name)
    (hopened : rendering.opened = ⟨name, none⟩ :: opened) :
  rendering.close name
    = .ok { rendering with opened := opened, styles := name :: rendering.styles }
  := by
  rw [Rendering.close, hname, hnormal]
  change rendering.closeMeant (fun tag => name == tag.name) = _
  simp [Rendering.closeMeant, hopened, Tag.style]

theorem add_color_end (h : name ∈ colors) {opened : List Tag}
    (hopened : rendering.opened = ⟨name, none⟩ :: opened) :
  rendering.add (.tag ('/' :: name.toList))
    = .ok { rendering with opened := opened, styles := name :: rendering.styles }
  := by
  have hname : ∀ name ∈ colors, split ('/' :: name.toList) = ("/" ++ name, none)
      ∧ Text.startsWith "/" ("/" ++ name) = true ∧ strip (dropLead "/" ("/" ++ name)) = name
      ∧ name.isEmpty = false ∧ normalize name = .ok name := by
    decide
  obtain ⟨hsplit, hstart, hstrip, hempty, hnormal⟩ := hname name h
  rw [Rendering.add, hsplit]
  dsimp only
  rw [hstart, if_pos rfl, hstrip, close_innermost hempty hnormal hopened]

/-! ### Safe texts -/

/-- A rendering is sound if no tag is open in it and the styles of those that were closed are
accepted. -/
structure Rendering.IsSound (rendering : Rendering) : Prop where
  /-- No tag is open. -/
  opened_eq : rendering.opened = []
  /-- The styles are accepted. -/
  accepted : ∀ style ∈ rendering.styles, acceptStyle style = .ok ()

/-- A text is safe if a rendering that is sound stays so when the text is added. -/
structure Safe (chars : List Char) : Prop where
  /-- The text can be added. -/
  exists_addAll (rendering : Rendering) (h : rendering.IsSound) :
    ∃ after, rendering.addAll (pieces (.text 0) chars) = .ok after ∧ after.IsSound

theorem safe_nil :
  Safe []
  := by
  constructor
  intro rendering h
  use rendering, rfl

theorem addAll_cons {piece : Piece} {after : Rendering} (h : rendering.add piece = .ok after)
    (others : List Piece) :
  rendering.addAll (piece :: others) = after.addAll others
  := by
  rw [Rendering.addAll, h]
  rfl

theorem addAll_chars (rendering : Rendering) (seen : List Char) (others : List Piece) :
  rendering.addAll (seen.map .char ++ others)
    = { rendering with shown := seen.reverse ++ rendering.shown }.addAll others
  := by
  induction seen generalizing rendering with
  | nil => rfl
  | cons c seen ih =>
      rw [List.map_cons, List.cons_append, addAll_cons rfl, ih, List.reverse_cons,
        List.append_assoc]
      rfl

theorem Safe.of_showsUntil (h : Safe rest) (hchars : ShowsUntil rest 0 chars) :
  Safe chars
  := by
  obtain ⟨seen, hseen⟩ := hchars
  constructor
  intro rendering hrendering
  rw [hseen, addAll_chars]
  apply h.exists_addAll
  constructor
  · apply hrendering.opened_eq
  · apply hrendering.accepted

theorem Safe.plain (h : Safe rest) (hplain : IsPlain chars) :
  Safe (chars ++ rest)
  := h.of_showsUntil (showsUntil_plain hplain)

/-- A plain text in a colour is safe. -/
theorem Safe.color (h : Safe rest) (hname : name ∈ colors) (hplain : IsPlain chars) :
  Safe ('[' :: (name.toList ++ ']' :: (chars ++ '[' :: ('/' :: name.toList ++ ']' :: rest))))
  := by
  have hcolors : ∀ name ∈ colors, isTag (name.toList ++ [']']) = true
      ∧ isTag ('/' :: name.toList ++ [']']) = true ∧ ']' ∉ '/' :: name.toList
      ∧ Rendering.acceptStyle name = .ok () := by
    decide
  obtain ⟨htag, htagEnd, hcontent, haccepted⟩ := hcolors name hname
  constructor
  intro rendering hrendering
  have hshown : ShowsUntil ('[' :: ('/' :: name.toList ++ ']' :: rest)) 0 _ :=
    showsUntil_plain hplain
  obtain ⟨seen, hseen⟩ := hshown
  rw [pieces_tag htag (mt (List.mem_cons_of_mem _) hcontent), addAll_cons (add_color hname), hseen,
    addAll_chars, pieces_tag htagEnd hcontent, addAll_cons (add_color_end hname rfl)]
  apply h.exists_addAll
  constructor
  · apply hrendering.opened_eq
  · rintro style (_ | ⟨_, hstyle⟩)
    · apply haccepted
    · apply hrendering.accepted style hstyle

theorem forM_acceptStyle {styles : List String}
    (h : ∀ style ∈ styles, Rendering.acceptStyle style = .ok ()) :
  styles.forM Rendering.acceptStyle = .ok ()
  := by
  induction styles with
  | nil => rfl
  | cons style styles ih =>
      obtain ⟨hstyle, hstyles⟩ := List.forall_mem_cons.mp h
      rw [List.forM, hstyle]
      apply ih hstyles

/-- A safe text can be shown. -/
theorem Safe.exists_shown (h : Safe chars) :
  ∃ seen, shown chars = .ok seen
  := by
  have hempty : Rendering.IsSound {} := by
    constructor
    · rfl
    · apply List.forall_mem_nil
  obtain ⟨after, hafter, hsound⟩ := h.exists_addAll {} hempty
  have hfinish : after.finish = .ok after.shown.reverse := by
    rw [Rendering.finish, hsound.opened_eq, List.map_nil, List.append_nil,
      forM_acceptStyle hsound.accepted]
    rfl
  use after.shown.reverse.filter fun c => !isHidden c
  rw [shown, hafter]
  change (after.finish >>= _) = _
  rw [hfinish]
  rfl

/-- Two escaped texts are safe in front of lines that close nothing, unless a bracket that the first
leaves open is closed in the second. -/
theorem Safe.escaped {first second : String} {lead : List Char} (h : Safe ('\n' :: rest))
    (hrest : closesNext ('\n' :: rest) = false) (hplain : IsPlain lead)
    (hbracketless : Bracketless lead)
    (hcross : ¬ (EndsOpen first.toList ∧ BeginsClosed second.toList)) :
  Safe (escape first ++ '\n' :: (lead ++ (escape second ++ '\n' :: rest)))
  := by
  have hsecond : Safe (escape second ++ '\n' :: rest) := by
    apply h.of_showsUntil (showsUntil_escape (separate_newline rest) _)
    intro _
    apply hrest
  have hline : Safe ('\n' :: (lead ++ (escape second ++ '\n' :: rest))) := by
    have hnewline : IsPlain ['\n'] := by decide
    apply (hsecond.plain hplain).plain hnewline
  apply hline.of_showsUntil (showsUntil_escape (separate_newline _) _)
  intro hopen
  rw [closesNext_cons_of_ne (by decide) (by decide), closesNext_of_bracketless hbracketless,
    closesNext_escape hrest, Bool.eq_false_iff]
  intro hclosed
  apply hcross ⟨hopen, beginsClosed_of_closesNext hclosed⟩

/-- An escaped text can be shown by itself. -/
theorem exists_shown_escape (text : String) :
  ∃ seen, shown (escape text) = .ok seen
  := by
  have hshown : ShowsUntil [] 0 (escape text ++ []) := by
    apply showsUntil_escape separate_nil
    intro _
    rfl
  rw [List.append_nil] at hshown
  apply (safe_nil.of_showsUntil hshown).exists_shown

end Markup

end ReadmeAudit.Report
