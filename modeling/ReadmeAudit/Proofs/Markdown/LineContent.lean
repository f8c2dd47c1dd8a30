import Mathlib.Tactic.Use
import ReadmeAudit.Proofs.Markdown.Address
import ReadmeAudit.Readme.Content

/-!
# Line content has no headings

`Node.Every P` says that a node and all nodes below it have a property. Reading line content makes
texts, breaks, code spans, links, images, HTML tags and emphasis, and no headings: each step of the
reader keeps this, whatever its tokens are. Links are made by that reader only, so that in the tree
of a document no heading is below a link.
-/

namespace ReadmeAudit.Markdown

/-! ### Properties of all nodes of a tree -/

/-- A node and every node below it have a property. -/
inductive Node.Every (P : Node → Prop) : Node → Prop where
  /-- The node has the property, and so have its children and what is below them. -/
  | mk {kind : Kind} {children : List Node} (hnode : P (.mk kind children))
      (hchildren : ∀ child ∈ children, Every P child) : Every P (.mk kind children)

namespace Node

variable {P Q : Node → Prop} {node : Node}

theorem Every.self (h : node.Every P) :
  P node
  := by
  cases h with
  | mk hnode _ => apply hnode

theorem Every.child (h : node.Every P) {child : Node} (hchild : child ∈ node.children) :
  child.Every P
  := by
  cases h with
  | mk _ hchildren => apply hchildren child hchild

theorem every_mk_iff {kind : Kind} {children : List Node} :
  (mk kind children).Every P ↔ P (mk kind children) ∧ ∀ child ∈ children, child.Every P
  := by
  constructor
  · intro h
    use h.self
    intro child hchild
    apply h.child hchild
  · rintro ⟨hnode, hchildren⟩
    apply Every.mk hnode hchildren

/-- What follows from a property at a node and everything below it holds at and below it. -/
theorem Every.extend (h : node.Every P) (hPQ : ∀ node : Node, node.Every P → Q node) :
  node.Every Q
  := by
  induction h with
  | mk hnode hchildren ih => apply Every.mk (hPQ _ (.mk hnode hchildren)) ih

/-- The place at an address keeps the property. -/
theorem Every.at? {after : List Node} {address : Address} {found : Place} (h : node.Every P)
    (hat : Place.at? ⟨node, after⟩ address = some found) :
  found.node.Every P
  := by
  induction address generalizing node after with
  | nil =>
      obtain rfl := Option.some.inj hat
      apply h
  | cons index address ih =>
      rw [Place.at?, Option.bind_eq_some_iff] at hat
      obtain ⟨child, hchild, hat⟩ := hat
      rw [Place.child?_eq_some_iff] at hchild
      have hmem : child.node ∈ node.children :=
        List.mem_of_mem_drop (hchild ▸ List.mem_cons_self)
      apply ih (h.child hmem) hat

/-- A node is headless if neither it nor any node below it is a heading. -/
def Headless (node : Node) : Prop :=
  node.Every fun node => node.kind.isHeading = false

theorem headless_mk {kind : Kind} {children : List Node} (h : kind.isHeading = false)
    (hchildren : ∀ child ∈ children, child.Headless) :
  (mk kind children).Headless
  := Every.mk h hchildren

theorem headless_leaf {kind : Kind} (h : kind.isHeading = false) :
  (leaf kind).Headless
  := headless_mk h (by simp)

/-- The links of a tree are headless. -/
def LinksHeadless (root : Node) : Prop :=
  root.Every fun node => Readme.isLink node.kind = true → node.Headless

theorem Headless.linksHeadless (h : node.Headless) :
  node.LinksHeadless
  := by
  apply Every.extend h
  intro node hnode _
  apply hnode

end Node

/-! ### Emphasis -/

theorem joinText_headless {escapes : Bool} {nodes : List Node} (h : ∀ node ∈ nodes, node.Headless) :
  ∀ node ∈ joinText escapes nodes, node.Headless
  := by
  have htext : ∀ content, (Node.leaf (.text content)).Headless :=
    fun content => Node.headless_leaf rfl
  induction nodes with
  | nil => simp [joinText]
  | cons node rest ih =>
      rw [List.forall_mem_cons] at h
      have ih := ih h.2
      rw [joinText]
      split
      · next content next more _ heq =>
        rw [heq, List.forall_mem_cons] at ih
        split
        · rw [List.forall_mem_cons]
          use htext _, ih.2
        · rw [List.forall_mem_cons, List.forall_mem_cons]
          use htext _, ih.1, ih.2
      · rw [List.forall_mem_cons]
        use htext _
        simp
      · rw [List.forall_mem_cons]
        use h.1, ih

/-- Delimiters open emphasis only. -/
theorem Role.isHeading_of_mem_below {delimiters : Array Delimiter} {bound place : Nat} {kind : Kind}
    (h : (place, Role.opens kind) ∈ Role.below delimiters bound) :
  kind.isHeading = false
  := by
  fun_induction Role.below delimiters bound with
  | case1 => cases h
  | case2 number _ _ ih => apply ih h
  | case3 => grind [Kind.isHeading, Kind.headingLevel?]
  | case4 => grind [Kind.isHeading, Kind.headingLevel?]

namespace Piece

/-- A piece is headless if it is no finished node or a headless one. -/
def Headless : Piece → Prop
  | .node finished => finished.Headless
  | _ => True

/-- Open emphasis is headless if all its nodes are, and the nodes that it will become are. -/
structure Open.Headless (current : Open) : Prop where
  /-- The nodes of the innermost emphasis are headless. -/
  inner : ∀ node ∈ current.1, node.Headless
  /-- The emphasis around it is of no heading. -/
  kinds : ∀ level ∈ current.2, level.1.isHeading = false
  /-- The nodes of the emphasis around it are headless. -/
  outer : ∀ level ∈ current.2, ∀ node ∈ level.2, node.Headless

variable {delimiters : Array Delimiter} {bound : Nat} {current : Open}

theorem Open.Headless.push (h : Open.Headless current) {node : Node} (hnode : node.Headless) :
  Open.Headless (node :: current.1, current.2)
  := ⟨List.forall_mem_cons.mpr ⟨hnode, h.inner⟩, h.kinds, h.outer⟩

/-- Each piece keeps open emphasis headless. -/
theorem place_headless {piece : Piece × Nat} (h : Open.Headless current)
    (hpiece : piece.1.Headless) :
  Open.Headless (place (Role.below delimiters bound) current piece)
  := by
  obtain ⟨nodes, outer⟩ := current
  obtain ⟨piece, number⟩ := piece
  cases piece with
  | text content => apply h.push (Node.headless_leaf rfl)
  | node finished => apply h.push hpiece
  | delimiter mark length opens closes =>
      simp only [place]
      split
      · apply h.push (Node.headless_leaf rfl)
      · apply h.push (Node.headless_leaf rfl)
      · next kind hlookup =>
        obtain ⟨_, _, hroles, -⟩ := List.lookup_eq_some_iff.mp hlookup
        have hkind : kind.isHeading = false :=
          Role.isHeading_of_mem_below (hroles ▸ List.mem_append_right _ List.mem_cons_self)
        constructor
        · simp
        · rw [List.forall_mem_cons]
          use hkind, h.kinds
        · rw [List.forall_mem_cons]
          use h.inner, h.outer
      · cases outer with
        | nil => apply h
        | cons level outer =>
            obtain ⟨hinner, hkinds, houter⟩ := h
            rw [List.forall_mem_cons] at hkinds houter
            have hnode : (Node.mk level.1 (joinText false nodes.reverse)).Headless := by
              apply Node.headless_mk hkinds.1
              apply joinText_headless
              simpa using hinner
            use List.forall_mem_cons.mpr ⟨hnode, houter.1⟩, hkinds.2, houter.2

theorem foldl_place_headless {placed : List (Piece × Nat)} (h : Open.Headless current)
    (hplaced : ∀ piece ∈ placed, piece.1.Headless) :
  Open.Headless (placed.foldl (place (Role.below delimiters bound)) current)
  := by
  induction placed generalizing current with
  | nil => apply h
  | cons piece placed ih =>
      rw [List.forall_mem_cons] at hplaced
      apply ih (place_headless h hplaced.1) hplaced.2

/-- Headless pieces become headless nodes. -/
theorem nest_headless {pieces : List Piece} (h : ∀ piece ∈ pieces, piece.Headless) :
  ∀ node ∈ nest pieces, node.Headless
  := by
  have hstart : Open.Headless ([], []) := by
    constructor
    · simp
    · simp
    · simp
  apply joinText_headless
  intro node hnode
  apply (foldl_place_headless hstart _).inner node (List.mem_reverse.mp hnode)
  intro piece hpiece
  apply h _ (List.fst_mem_of_mem_zipIdx hpiece)

end Piece

/-! ### Line content -/

theorem Content.pending_headless (text : List Char) :
  ∀ piece ∈ pending text, piece.Headless
  := by
  rw [pending]
  split
  · simp
  · simp [Piece.Headless]

/-- A headless node between text and headless pieces makes headless pieces. -/
theorem Content.pending_append_headless (text : List Char) {node : Node} {rest : List Piece}
    (hnode : node.Headless) (hrest : ∀ piece ∈ rest, piece.Headless) :
  ∀ piece ∈ pending text ++ .node node :: rest, piece.Headless
  := by
  rw [List.forall_mem_append, List.forall_mem_cons]
  use pending_headless text, hnode

/-- The pieces of line content are headless, if the descriptions of images are. -/
theorem Content.pieces_headless (content : Content) {describe : List Char → List Node}
    (hdescribe : ∀ chars, ∀ node ∈ describe chars, node.Headless)
    (fuel depth past : Nat) (text : List Char) (position : Nat) (passed : Passed) :
  ∀ piece ∈ (content.pieces describe fuel depth past text position passed).1, piece.Headless
  := by
  induction fuel generalizing depth past text position passed with
  | zero => apply pending_headless
  | succ fuel ih =>
      rw [pieces]
      split
      · apply pending_headless
      · -- One case for each kind of token that is treated on its own, and one for all others.
        dsimp only
        split
        · apply ih
        · apply ih
        · rw [List.forall_mem_append, List.forall_mem_append]
          refine ⟨⟨pending_headless text, ?_⟩, ih _ _ _ _ _⟩
          intro piece hpiece
          rw [List.eq_of_mem_replicate hpiece]
          trivial
        · apply pending_append_headless _ _ (ih _ _ _ _ _)
          apply Node.headless_leaf
          split
          · rfl
          · rfl
        · apply pending_append_headless _ _ (ih _ _ _ _ _)
          apply Node.headless_mk rfl
          apply Piece.nest_headless (ih _ _ _ _ _)
        · apply pending_append_headless _ _ (ih _ _ _ _ _)
          split
          · apply Node.headless_leaf rfl
          · apply Node.headless_leaf rfl
          · apply Node.headless_leaf rfl
          · apply Node.headless_mk rfl (hdescribe _)
          · apply Node.headless_mk rfl
            rw [List.forall_mem_singleton]
            apply Node.headless_leaf rfl
          · apply Node.headless_leaf rfl

theorem rawNodes_headless (definitions : List Definition) (room : Nat) (chars : List Char) :
  ∀ node ∈ rawNodes definitions room chars, node.Headless
  := by
  induction room generalizing chars with
  | zero => simp [rawNodes]
  | succ room ih =>
      rw [rawNodes]
      dsimp only
      apply Piece.nest_headless
      apply Content.pieces_headless _ ih _ _ _ _ _ _

mutual

theorem joinEscapes_headless :
    ∀ node : Node, node.Headless → (joinEscapes node).Headless
  | .mk kind children, h => by
      by_cases himage : kind = .image
      · rw [himage, joinEscapes, ← himage]
        apply h
      · rw [joinEscapes]
        · apply Node.headless_mk h.self
          apply joinText_headless
          apply joinEscapesAll_headless children
          intro child hchild
          apply h.child hchild
        · apply himage

theorem joinEscapesAll_headless :
    ∀ nodes : List Node, (∀ node ∈ nodes, node.Headless) →
      ∀ node ∈ joinEscapesAll nodes, node.Headless
  | [], _ => by simp [joinEscapesAll]
  | node :: rest, h => by
      rw [List.forall_mem_cons] at h
      rw [joinEscapesAll, List.forall_mem_cons]
      use joinEscapes_headless node h.1, joinEscapesAll_headless rest h.2

end

/-- Line content has no headings. -/
theorem inlineNode_headless (definitions : List Definition) (chars : List Char) :
  (inlineNode definitions chars).Headless
  := by
  apply joinEscapes_headless
  apply Node.headless_mk rfl
  apply rawNodes_headless

/-! ### Documents -/

/-- A node that is no link keeps the links of a tree headless. -/
theorem Node.linksHeadless_mk {kind : Kind} {children : List Node}
    (hkind : Readme.isLink kind = false) (h : ∀ child ∈ children, child.LinksHeadless) :
  (Node.mk kind children).LinksHeadless
  := by
  apply Node.Every.mk _ h
  intro hlink
  rw [Node.kind, hkind] at hlink
  cases hlink

theorem Node.linksHeadless_leaf {kind : Kind} (hkind : Readme.isLink kind = false) :
  (Node.leaf kind).LinksHeadless
  := linksHeadless_mk hkind (by simp)

theorem Node.linksHeadless_inline {kind : Kind} (hkind : Readme.isLink kind = false)
    (definitions : List Definition) (content : List Char) :
  (Node.mk kind [inlineNode definitions content]).LinksHeadless
  := by
  apply linksHeadless_mk hkind
  rw [List.forall_mem_singleton]
  apply (inlineNode_headless definitions content).linksHeadless

/-- The links in a row of cells are headless. -/
theorem Node.linksHeadless_row {cell : Kind} (hcell : Readme.isLink cell = false)
    (definitions : List Definition) (cells : List (List Char)) :
  (Node.mk .tableRow (cells.map fun content =>
    .mk cell [inlineNode definitions content])).LinksHeadless
  := by
  apply linksHeadless_mk rfl
  rw [List.forall_mem_map]
  intro content _
  apply linksHeadless_inline hcell

mutual

theorem Block.node_linksHeadless (definitions : List Definition) :
    ∀ block : Block, (Block.node definitions block).LinksHeadless
  | .heading level content => by
      apply Node.linksHeadless_inline rfl
  | .paragraph content => by
      apply Node.linksHeadless_inline rfl
  | .fence content => by
      apply Node.linksHeadless_leaf rfl
  | .code content => by
      apply Node.linksHeadless_leaf rfl
  | .html => by
      apply Node.linksHeadless_leaf rfl
  | .thematicBreak => by
      apply Node.linksHeadless_leaf rfl
  | .quote blocks => by
      apply Node.linksHeadless_mk rfl (Block.nodes_linksHeadless definitions blocks)
  | .list ordered items => by
      apply Node.linksHeadless_mk _ (Block.itemNodes_linksHeadless definitions items)
      cases ordered with
      | true => rfl
      | false => rfl
  | .table head rows => by
      rw [Block.node]
      apply Node.linksHeadless_mk rfl
      rw [List.forall_mem_cons]
      constructor
      · apply Node.linksHeadless_mk rfl
        rw [List.forall_mem_singleton]
        apply Node.linksHeadless_row rfl
      · split
        · simp
        · rw [List.forall_mem_singleton]
          apply Node.linksHeadless_mk rfl
          rw [List.forall_mem_map]
          intro cells _
          apply Node.linksHeadless_row rfl

theorem Block.nodes_linksHeadless (definitions : List Definition) :
    ∀ blocks : List Block, ∀ node ∈ Block.nodes definitions blocks, node.LinksHeadless
  | [] => by simp [Block.nodes]
  | block :: rest => by
      rw [Block.nodes, List.forall_mem_cons]
      use Block.node_linksHeadless definitions block, Block.nodes_linksHeadless definitions rest

theorem Block.itemNodes_linksHeadless (definitions : List Definition) :
    ∀ items : List (List Block), ∀ node ∈ Block.itemNodes definitions items, node.LinksHeadless
  | [] => by simp [Block.itemNodes]
  | item :: rest => by
      rw [Block.itemNodes, List.forall_mem_cons]
      use Node.linksHeadless_mk rfl (Block.nodes_linksHeadless definitions item)
      apply Block.itemNodes_linksHeadless definitions rest

end

/-- In the tree of a document, no heading is below a link. -/
theorem parse_linksHeadless (text : String) :
  (parse text).LinksHeadless
  := by
  apply Node.linksHeadless_mk rfl
  apply Block.nodes_linksHeadless

end ReadmeAudit.Markdown
