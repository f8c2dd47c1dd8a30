import Mathlib.Data.List.Lex
import Mathlib.Data.List.Nodup
import Mathlib.Tactic.Use
import ReadmeAudit.Markdown.Walk

/-!
# Addresses in document trees

Equal nodes may occur in several places of a tree. An `Address` tells them apart: it lists the
positions of the children on the way from the root to a node. Addresses are ordered as the document
is, a node before what is below it. `gatheredFrom` lists the places that a walk gathers together
with their addresses. The walk goes through exactly these places, in this order, and their addresses
increase.
-/

namespace ReadmeAudit.Markdown

/-- The positions of the children on the way from a node to one below it. -/
abbrev Address := List Nat

/-! ### Document order -/

/-- An address comes before another in the order of the document. -/
def Address.Precedes (first second : Address) : Prop :=
  List.Lex (· < ·) first second

namespace Address.Precedes

variable {first second : Address}

theorem cons_cons_iff {index index' : Nat} :
  Precedes (index :: first) (index' :: second)
    ↔ index < index' ∨ index = index' ∧ Precedes first second
  := List.cons_lex_cons_iff

theorem irrefl (address : Address) :
  ¬ Precedes address address
  := List.lex_irrefl Nat.lt_irrefl address

theorem ne (h : Precedes first second) :
  first ≠ second
  := by
  rintro rfl
  apply irrefl first h

theorem trans {third : Address} (h : Precedes first second) (h' : Precedes second third) :
  Precedes first third
  := List.lex_trans Nat.lt_trans h h'

/-- What comes before a node comes before what is below it. -/
theorem append_right (h : Precedes first second) (rest : Address) :
  Precedes first (second ++ rest)
  := List.Lex.append_right _ rest h

theorem append_left (parent : Address) (h : Precedes first second) :
  Precedes (parent ++ first) (parent ++ second)
  := by
  induction parent with
  | nil => apply h
  | cons index parent ih => apply cons_cons_iff.mpr (Or.inr ⟨rfl, ih⟩)

/-- What is below a node comes before what is below a later node of the same depth. -/
theorem append (h : Precedes first second) (hlength : first.length = second.length)
    (rest rest' : Address) :
  Precedes (first ++ rest) (second ++ rest')
  := by
  induction h with
  | nil => cases hlength
  | rel hlt => apply cons_cons_iff.mpr (Or.inl hlt)
  | cons h ih =>
      apply cons_cons_iff.mpr
      apply Or.inr ⟨rfl, ih (Nat.succ.inj hlength)⟩

/-- What comes after a node is below it, or at or below a later sibling, or else after everything
below its parent. -/
theorem cases_concat {parent : Address} {index : Nat} (h : Precedes (parent ++ [index]) second) :
  parent ++ [index] <+: second
    ∨ (∃ position rest, index < position ∧ second = parent ++ position :: rest)
    ∨ ∀ lower, Precedes (parent ++ lower) second
  := by
  induction parent generalizing second with
  | nil =>
      cases second with
      | nil => cases h
      | cons position rest =>
          rcases cons_cons_iff.mp h with hlt | ⟨rfl, -⟩
          · apply Or.inr (Or.inl ⟨position, rest, hlt, rfl⟩)
          · apply Or.inl ⟨rest, rfl⟩
  | cons first parent ih =>
      cases second with
      | nil => cases h
      | cons position rest =>
          rcases cons_cons_iff.mp h with hlt | ⟨rfl, hrest⟩
          · apply Or.inr (Or.inr fun _ => cons_cons_iff.mpr (Or.inl hlt))
          · rcases ih hrest with hbelow | ⟨position, rest, hlt, rfl⟩ | hafter
            · apply Or.inl (List.cons_prefix_cons.mpr ⟨rfl, hbelow⟩)
            · apply Or.inr (Or.inl ⟨position, rest, hlt, rfl⟩)
            · apply Or.inr (Or.inr fun lower => cons_cons_iff.mpr (Or.inr ⟨rfl, hafter lower⟩))

end Address.Precedes

/-- The address of the sibling that comes so many positions later. -/
def Address.later (address : Address) (offset : Nat) : Address :=
  address.dropLast ++ [address.getLastD 0 + offset]

@[simp]
theorem Address.later_concat (parent : Address) (index offset : Nat) :
  Address.later (parent ++ [index]) offset = parent ++ [index + offset]
  := by
  simp [later]

theorem Address.precedes_later (address : Address) (offset : Nat) :
  address.Precedes (address.later (offset + 1))
  := by
  rcases List.eq_nil_or_concat' address with rfl | ⟨parent, index, rfl⟩
  · apply List.Lex.nil
  · rw [later_concat]
    apply Precedes.append_left parent (List.Lex.rel (by omega))

namespace Place

/-- The child at a position. -/
def child? (place : Place) (index : Nat) : Option Place :=
  match place.node.children.drop index with
  | [] => none
  | node :: after => some ⟨node, after⟩

/-- The place at an address. -/
def at? : Place → Address → Option Place
  | place, [] => some place
  | place, index :: address => (place.child? index).bind (at? · address)

@[simp]
theorem at?_append (place : Place) (address rest : Address) :
  place.at? (address ++ rest) = (place.at? address).bind (at? · rest)
  := by
  induction address generalizing place with
  | nil => rfl
  | cons index address ih =>
      rw [List.cons_append, at?, at?, Option.bind_assoc]
      simp only [ih]

@[simp]
theorem at?_singleton (place : Place) (index : Nat) :
  place.at? [index] = place.child? index
  := Option.bind_fun_some _

theorem at?_concat (place : Place) (address : Address) (index : Nat) :
  place.at? (address ++ [index]) = (place.at? address).bind (child? · index)
  := by
  simp

theorem child?_eq_some_iff {place child : Place} {index : Nat} :
  place.child? index = some child ↔ place.node.children.drop index = child.node :: child.after
  := by
  rw [child?]
  cases child
  cases place.node.children.drop index with
  | nil => simp
  | cons node after => simp

/-- The siblings after a node stand at the next addresses. -/
theorem at?_sibling {place found : Place} {parent : Address} {index offset : Nat} {node : Node}
    (h : place.at? (parent ++ [index]) = some found) (hnode : found.after[offset]? = some node) :
  ∃ after, place.at? (parent ++ [index + 1 + offset]) = some ⟨node, after⟩
  := by
  rw [at?_concat, Option.bind_eq_some_iff] at h
  obtain ⟨above, habove, hchild⟩ := h
  rw [child?_eq_some_iff] at hchild
  use found.after.drop (offset + 1)
  rw [at?_concat, habove, Option.bind_some, child?_eq_some_iff, ← List.drop_drop, ← List.drop_drop,
    hchild, List.drop_one, List.tail_cons]
  obtain ⟨hoffset, rfl⟩ := List.getElem?_eq_some_iff.mp hnode
  apply List.drop_eq_getElem_cons

end Place

/-! ### Gathered places -/

mutual

/-- The places that are gathered from a node, with their addresses. -/
def gatheredFrom (closed wanted : Kind → Bool) (after : List Node) :
    Node → List (Address × Place)
  | .mk kind children =>
    if closed kind then
      if wanted kind then [([], ⟨.mk kind children, after⟩)] else []
    else gatheredAmong closed wanted 0 children

/-- The places that are gathered from siblings, of which the first has the given position. -/
def gatheredAmong (closed wanted : Kind → Bool) (index : Nat) :
    List Node → List (Address × Place)
  | [] => []
  | node :: rest =>
    (gatheredFrom closed wanted rest node).map (fun found => (index :: found.1, found.2))
      ++ gatheredAmong closed wanted (index + 1) rest

end

variable {closed wanted : Kind → Bool}

/-! ### Walks that fold over places -/

/-- A visitor folds a function over places if it leaves out the children of the closed nodes, and of
no others, and changes its state by the function at the closed places that are wanted. -/
def Folds {σ : Type} (closed wanted : Kind → Bool) (f : σ → Place → σ) (visit : Visitor σ) : Prop :=
  ∀ place state, visit place state
    = if closed place.node.kind then
        (.skip, if wanted place.node.kind then f state place else state)
      else (.descend, state)

section

variable {σ : Type} {f : σ → Place → σ} {visit : Visitor σ}

mutual

/-- The walk over a node folds over the places that are gathered from it, in order. -/
theorem walkNode_folds (h : Folds closed wanted f visit) (after : List Node) :
    ∀ (node : Node) (state : σ),
      walkNode visit after node state
        = (.finished, ((gatheredFrom closed wanted after node).map Prod.snd).foldl f state)
  | .mk kind children, state => by
      rw [walkNode, h, gatheredFrom]
      cases hclosed : closed kind with
      | true =>
          cases hwanted : wanted kind with
          | true => simp [Node.kind, hclosed, hwanted]
          | false => simp [Node.kind, hclosed, hwanted]
      | false =>
          simp only [Node.kind, hclosed, Bool.false_eq_true, if_false]
          apply walkNodes_folds h 0 children state

/-- The walk over siblings folds over the places that are gathered from them, in order. -/
theorem walkNodes_folds (h : Folds closed wanted f visit) (index : Nat) :
    ∀ (nodes : List Node) (state : σ),
      walkNodes visit nodes state
        = (.finished, ((gatheredAmong closed wanted index nodes).map Prod.snd).foldl f state)
  | [], state => by
      rw [walkNodes, gatheredAmong]
      rfl
  | node :: rest, state => by
      rw [walkNodes, walkNode_folds h rest node state, gatheredAmong, List.map_append,
        List.map_map, List.foldl_append]
      apply walkNodes_folds h (index + 1) rest

end

end

/-- A visitor gathers places if it folds over them and takes each. -/
def Gathers (closed wanted : Kind → Bool) (visit : Visitor (List Place)) : Prop :=
  Folds closed wanted (fun found place => place :: found) visit

/-- The walk over a node takes the places that are gathered from it, in order. -/
theorem walkNode_eq {visit : Visitor (List Place)} (h : Gathers closed wanted visit)
    (after : List Node) (node : Node) (found : List Place) :
  walkNode visit after node found
    = (.finished, ((gatheredFrom closed wanted after node).map Prod.snd).reverse ++ found)
  := by
  rw [walkNode_folds h, List.foldl_flip_cons_eq_append, List.map_id']

/-! ### The order of gathered places -/

theorem map_fst_gatheredAmong_cons (index : Nat) (node : Node) (rest : List Node) :
  (gatheredAmong closed wanted index (node :: rest)).map Prod.fst
    = ((gatheredFrom closed wanted rest node).map Prod.fst).map (index :: ·)
      ++ (gatheredAmong closed wanted (index + 1) rest).map Prod.fst
  := by
  rw [gatheredAmong, List.map_append, List.map_map, List.map_map]
  rfl

/-- The addresses of places that are gathered from siblings begin with the positions of these. -/
theorem exists_eq_cons_of_mem_gatheredAmong {index : Nat} {nodes : List Node} {address : Address}
    (h : address ∈ (gatheredAmong closed wanted index nodes).map Prod.fst) :
  ∃ position rest, address = position :: rest ∧ index ≤ position
  := by
  induction nodes generalizing index with
  | nil =>
      rw [gatheredAmong] at h
      cases h
  | cons node nodes ih =>
      rw [map_fst_gatheredAmong_cons, List.mem_append, List.mem_map] at h
      rcases h with ⟨rest, -, rfl⟩ | h
      · use index, rest, rfl, Nat.le_refl index
      · obtain ⟨position, rest, rfl, hle⟩ := ih h
        use position, rest, rfl
        apply Nat.le_of_succ_le hle

mutual

/-- Places are gathered in the order of the document. -/
theorem gatheredFrom_sorted (after : List Node) :
    ∀ node : Node, ((gatheredFrom closed wanted after node).map Prod.fst).Pairwise Address.Precedes
  | .mk kind children => by
      rw [gatheredFrom]
      split
      · split
        · apply List.pairwise_singleton
        · apply List.Pairwise.nil
      · apply gatheredAmong_sorted

theorem gatheredAmong_sorted (index : Nat) :
    ∀ nodes : List Node,
      ((gatheredAmong closed wanted index nodes).map Prod.fst).Pairwise Address.Precedes
  | [] => by
      rw [gatheredAmong]
      apply List.Pairwise.nil
  | node :: rest => by
      rw [map_fst_gatheredAmong_cons, List.pairwise_append]
      refine ⟨?_, gatheredAmong_sorted (index + 1) rest, ?_⟩
      · apply (gatheredFrom_sorted rest node).map
        intro first second h
        apply List.Lex.cons h
      · intro first hfirst second hsecond
        obtain ⟨address, -, rfl⟩ := List.mem_map.mp hfirst
        obtain ⟨position, rest, rfl, hlt⟩ := exists_eq_cons_of_mem_gatheredAmong hsecond
        apply Address.Precedes.cons_cons_iff.mpr (Or.inl hlt)

end

/-- Different gathered places have different addresses. -/
theorem gatheredFrom_nodup (after : List Node) (node : Node) :
  ((gatheredFrom closed wanted after node).map Prod.fst).Nodup
  := (gatheredFrom_sorted after node).imp Address.Precedes.ne

end ReadmeAudit.Markdown
