import Mathlib.Data.Set.Card
import ReadmeAudit.Proofs.Markdown.Address

/-!
# Outermost nodes

A node is outermost among those with a property if no node above it has the property.
`Place.Outermost` says so in terms of addresses: the place is found at its address, and none of the
addresses on the way there leads to a place with the property. The places that a walk gathers are
the outermost ones, so that `Node.find` lists the outermost nodes with a property in the order of
the document, and a count of gathered places is a count of addresses.
-/

namespace ReadmeAudit.Markdown

namespace Place

/-- A place is outermost at an address among those with a property. -/
structure Outermost (p : Kind → Bool) (start : Place) (address : Address) (found : Place) :
    Prop where
  /-- The place is found at the address. -/
  at?_eq : start.at? address = some found
  /-- The place has the property. -/
  holds : p found.node.kind = true
  /-- No place above it has the property. -/
  above : ∀ upper, upper <+: address → upper ≠ address →
    ∀ place, start.at? upper = some place → p place.node.kind = false

variable {p : Kind → Bool} {start found : Place} {address : Address}

/-- At the start itself, the start is outermost if it has the property. -/
@[simp]
theorem outermost_nil_iff :
  start.Outermost p [] found ↔ found = start ∧ p start.node.kind = true
  := by
  constructor
  · rintro ⟨hat, hp, -⟩
    obtain rfl := Option.some.inj hat
    use rfl
  · rintro ⟨rfl, hp⟩
    use rfl, hp
    intro upper hprefix hne
    apply absurd (List.prefix_nil.mp hprefix) hne

/-- Below the start, a place is outermost if the start does not have the property, and the place is
outermost below a child. -/
@[simp]
theorem outermost_cons_iff {index : Nat} :
  start.Outermost p (index :: address) found
    ↔ p start.node.kind = false
      ∧ ∃ child, start.child? index = some child ∧ child.Outermost p address found
  := by
  constructor
  · rintro ⟨hat, hp, habove⟩
    rw [at?, Option.bind_eq_some_iff] at hat
    obtain ⟨child, hchild, hat⟩ := hat
    use habove [] List.nil_prefix (List.cons_ne_nil index address).symm start rfl
    use child, hchild, hat, hp
    intro upper hprefix hne place hplace
    apply habove (index :: upper)
    · apply List.cons_prefix_cons.mpr ⟨rfl, hprefix⟩
    · intro heq
      apply hne (List.cons.inj heq).2
    · rw [at?, hchild]
      apply hplace
  · rintro ⟨hstart, child, hchild, hat, hp, habove⟩
    constructor
    · rw [at?, hchild]
      apply hat
    · apply hp
    · intro upper hprefix hne place hplace
      rcases List.prefix_cons_iff.mp hprefix with rfl | ⟨upper, rfl, hrest⟩
      · obtain rfl := Option.some.inj hplace
        apply hstart
      · rw [at?, hchild] at hplace
        apply habove upper hrest _ place hplace
        rintro rfl
        apply hne rfl

/-- What is outermost below a node does not depend on the siblings after the node. -/
theorem Outermost.exists_of_after {node found : Node} {after after' : List Node}
    (h : Outermost p ⟨node, after⟩ address ⟨found, after'⟩) (other : List Node) :
  ∃ after', Outermost p ⟨node, other⟩ address ⟨found, after'⟩
  := by
  cases address with
  | nil =>
      obtain ⟨heq, hp⟩ := outermost_nil_iff.mp h
      obtain ⟨rfl, rfl⟩ := Place.mk.inj heq
      use other
      rw [outermost_nil_iff]
      use rfl, hp
  | cons index address =>
      rw [outermost_cons_iff] at h
      use after'
      rw [outermost_cons_iff]
      apply h

/-- What is outermost below a place is outermost below a higher one, if no place on the way has the
property. -/
theorem Outermost.append {upper : Address} {place : Place} (hat : start.at? upper = some place)
    (habove : ∀ between, between <+: upper → between ≠ upper →
      ∀ found, start.at? between = some found → p found.node.kind = false)
    (h : place.Outermost p address found) :
  start.Outermost p (upper ++ address) found
  := by
  induction upper generalizing start with
  | nil =>
      obtain rfl := Option.some.inj hat
      apply h
  | cons index upper ih =>
      rw [at?, Option.bind_eq_some_iff] at hat
      obtain ⟨child, hchild, hat⟩ := hat
      apply outermost_cons_iff.mpr
      use habove [] List.nil_prefix (List.cons_ne_nil index upper).symm start rfl, child, hchild
      apply ih hat
      intro between hprefix hne found hfound
      apply habove (index :: between) (List.cons_prefix_cons.mpr ⟨rfl, hprefix⟩)
      · intro heq
        apply hne (List.cons.inj heq).2
      · rw [at?, hchild]
        apply hfound

end Place

/-! ### Gathered places are outermost -/

variable {closed wanted : Kind → Bool} {address : Address} {found : Place}

/-- What is gathered from siblings is gathered from the one at the position where its address
begins. -/
theorem mem_gatheredAmong_iff {index position : Nat} {nodes : List Node} :
  (position :: address, found) ∈ gatheredAmong closed wanted index nodes
    ↔ ∃ offset node after, position = index + offset ∧ nodes.drop offset = node :: after
      ∧ (address, found) ∈ gatheredFrom closed wanted after node
  := by
  induction nodes generalizing index with
  | nil => simp [gatheredAmong]
  | cons first rest ih =>
      have hfirst : (position :: address, found)
            ∈ (gatheredFrom closed wanted rest first).map (fun found => (index :: found.1, found.2))
          ↔ position = index ∧ (address, found) ∈ gatheredFrom closed wanted rest first := by
        simp [eq_comm, and_comm]
      rw [gatheredAmong, List.mem_append, hfirst, ih]
      constructor
      · rintro (⟨rfl, h⟩ | ⟨offset, node, after, rfl, hdrop, h⟩)
        · use 0, first, rest, rfl, rfl
        · use offset + 1, node, after, by omega, hdrop
      · rintro ⟨offset, node, after, rfl, hdrop, h⟩
        cases offset with
        | zero =>
            obtain ⟨rfl, rfl⟩ := List.cons.inj hdrop
            apply Or.inl ⟨rfl, h⟩
        | succ offset =>
            apply Or.inr
            use offset, node, after, by omega, hdrop

/-- A place is gathered at the node itself if the node is closed and wanted. -/
theorem nil_mem_gatheredFrom_iff {after : List Node} {node : Node} :
  ([], found) ∈ gatheredFrom closed wanted after node
    ↔ found = ⟨node, after⟩ ∧ closed node.kind = true ∧ wanted node.kind = true
  := by
  obtain ⟨kind, children⟩ := node
  have hamong : ([], found) ∉ gatheredAmong closed wanted 0 children := by
    intro h
    obtain ⟨position, rest, heq, -⟩ :=
      exists_eq_cons_of_mem_gatheredAmong (List.mem_map_of_mem h)
    cases heq
  rw [gatheredFrom]
  cases hclosed : closed kind with
  | true => cases hwanted : wanted kind <;> simp [Node.kind, hclosed, hwanted]
  | false => simp [Node.kind, hclosed, hamong]

/-- A place is gathered below a node if the node is not closed, and the place is gathered from a
child. -/
theorem cons_mem_gatheredFrom_iff {after : List Node} {node : Node} {index : Nat} :
  (index :: address, found) ∈ gatheredFrom closed wanted after node
    ↔ closed node.kind = false ∧ ∃ child, Place.child? ⟨node, after⟩ index = some child
      ∧ (address, found) ∈ gatheredFrom closed wanted child.after child.node
  := by
  obtain ⟨kind, children⟩ := node
  rw [gatheredFrom]
  cases hclosed : closed kind with
  | true => cases hwanted : wanted kind <;> simp [Node.kind, hclosed]
  | false =>
      simp only [Node.kind, hclosed, Bool.false_eq_true, if_false, mem_gatheredAmong_iff,
        Place.child?_eq_some_iff, Node.children, true_and, Nat.zero_add]
      constructor
      · rintro ⟨offset, node, after, rfl, hdrop, h⟩
        use ⟨node, after⟩, hdrop
      · rintro ⟨⟨node, after⟩, hdrop, h⟩
        use index, node, after, rfl, hdrop

/-- The places that are gathered from a node are the outermost closed ones that are wanted. -/
@[simp]
theorem mem_gatheredFrom_iff {after : List Node} {node : Node} :
  (address, found) ∈ gatheredFrom closed wanted after node
    ↔ Place.Outermost closed ⟨node, after⟩ address found ∧ wanted found.node.kind = true
  := by
  induction address generalizing after node with
  | nil =>
      rw [nil_mem_gatheredFrom_iff, Place.outermost_nil_iff]
      constructor
      · rintro ⟨rfl, hclosed, hwanted⟩
        use ⟨rfl, hclosed⟩
      · rintro ⟨⟨rfl, hclosed⟩, hwanted⟩
        use rfl, hclosed
  | cons index address ih =>
      rw [cons_mem_gatheredFrom_iff, Place.outermost_cons_iff, and_assoc]
      simp only [ih, exists_and_right, ← and_assoc]

/-- The walk over a tree takes the outermost closed places that are wanted. -/
theorem Gathers.mem_walk_iff {visit : Visitor (List Place)} (h : Gathers closed wanted visit)
    {node : Node} {place : Place} :
  place ∈ (node.walk visit []).2
    ↔ ∃ address, Place.Outermost closed ⟨node, []⟩ address place
      ∧ wanted place.node.kind = true
  := by
  rw [Node.walk, walkNode_eq h]
  simp

/-! ### Outermost nodes -/

/-- A node has another as an outermost node with a property if the other is outermost at some
address. -/
def Node.HasOutermost (p : Kind → Bool) (node found : Node) : Prop :=
  ∃ address place, Place.Outermost p ⟨node, []⟩ address place ∧ place.node = found

/-- The outermost nodes with a property are found in the order of the document. -/
theorem Node.find_eq (node : Node) (p : Kind → Bool) :
  node.find p = (gatheredFrom p (fun _ => true) [] node).map Prod.snd
  := by
  have hcollect : Gathers p (fun _ => true) (collect p) := by
    intro place found
    rfl
  rw [find, walk, walkNode_eq hcollect, List.append_nil, List.reverse_reverse]

theorem Node.exists_mem_find_iff {p : Kind → Bool} {node found : Node} :
  (∃ place ∈ node.find p, place.node = found) ↔ node.HasOutermost p found
  := by
  simp only [find_eq, List.mem_map, Prod.exists, mem_gatheredFrom_iff, and_true, exists_eq_right]
  constructor
  · rintro ⟨place, ⟨address, houtermost⟩, rfl⟩
    use address, place, houtermost
  · rintro ⟨address, place, houtermost, rfl⟩
    use place, ⟨address, houtermost⟩

/-- A walk that looks into no node with a property folds over the outermost ones. -/
theorem Folds.walk_eq {σ : Type} {p : Kind → Bool} {f : σ → Place → σ} {visit : Visitor σ}
    (h : Folds p (fun _ => true) f visit) (root : Node) (state : σ) :
  root.walk visit state = (.finished, (root.find p).foldl f state)
  := by
  rw [Node.walk, walkNode_folds h, Node.find_eq]

variable {p : Kind → Bool} {q : Place → Bool} {root : Node}

/-- One of the nodes that are found has a further property if an outermost node has it. -/
theorem any_find_iff :
  (root.find p).any q = true
    ↔ ∃ address found, Place.Outermost p ⟨root, []⟩ address found ∧ q found = true
  := by
  simp [Node.find_eq]

/-- As many outermost nodes have a further property as nodes that are found. -/
theorem ncard_outermost_eq_countP :
  {address | ∃ found, Place.Outermost p ⟨root, []⟩ address found ∧ q found = true}.ncard
    = (root.find p).countP q
  := by
  let addresses := ((gatheredFrom p (fun _ => true) [] root).filter (q ·.2)).map Prod.fst
  have hnodup : addresses.Nodup :=
    (gatheredFrom_nodup [] root).sublist (List.filter_sublist.map Prod.fst)
  have hset : {address | ∃ found, Place.Outermost p ⟨root, []⟩ address found ∧ q found = true}
      = addresses.toFinset := by
    ext address
    simp [addresses]
  rw [hset, Set.ncard_coe_finset, List.toFinset_card_of_nodup hnodup, List.length_map,
    Node.find_eq, List.countP_map, List.countP_eq_length_filter]
  rfl

end ReadmeAudit.Markdown
