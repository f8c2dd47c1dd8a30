import ReadmeAudit.Markdown.Node

/-!
# Walks over document trees

A walk visits the nodes of a tree in document order, a node before its children. The visitor keeps
a state of its own and answers each visit by a `Step`: to go on below the node, to leave out its
children, or to end the walk. No answer means to go on. `Node.find` collects the outermost nodes
with a property, and `Node.plainText` the text at and below a node.
-/

namespace ReadmeAudit.Markdown

/-- The answer of a visitor at a node. -/
inductive Step where
  /-- Go on with the children. -/
  | descend
  /-- No answer, which is taken for `descend`. -/
  | silent
  /-- Leave out the children. -/
  | skip
  /-- End the walk. -/
  | stop
deriving Repr, DecidableEq

/-- The end of a walk. -/
inductive Ending where
  /-- Every node that was not left out has been visited. -/
  | finished
  /-- A visitor ended the walk. -/
  | stopped
deriving Repr, DecidableEq

/-- A visitor with a state of type `σ`. -/
abbrev Visitor (σ : Type) := Place → σ → Step × σ

mutual

/-- The walk over a node that the given siblings follow. -/
def walkNode {σ : Type} (visit : Visitor σ) (after : List Node) : Node → σ → Ending × σ
  | .mk kind children, state =>
    match visit ⟨.mk kind children, after⟩ state with
    | (.stop, state) => (.stopped, state)
    | (.skip, state) => (.finished, state)
    | (.descend, state) | (.silent, state) => walkNodes visit children state

/-- The walk over a list of siblings. -/
def walkNodes {σ : Type} (visit : Visitor σ) : List Node → σ → Ending × σ
  | [], state => (.finished, state)
  | node :: rest, state =>
    match walkNode visit rest node state with
    | (.stopped, state) => (.stopped, state)
    | (.finished, state) => walkNodes visit rest state

end

namespace Node

/-- The walk over a tree from its root, which no sibling follows. -/
def walk {σ : Type} (node : Node) (visit : Visitor σ) (state : σ) : Ending × σ :=
  walkNode visit [] node state

/-- The visitor that collects the places of nodes with a property, last first, and does not look
below them. -/
def collect (p : Kind → Bool) : Visitor (List Place) := fun place found =>
  if p place.node.kind then (.skip, place :: found) else (.descend, found)

/-- The outermost nodes with a property at or below a node, in document order. -/
def find (node : Node) (p : Kind → Bool) : List Place :=
  (node.walk (collect p) []).2.reverse

/-- The visitor that collects the text of nodes, last first. -/
def collectText : Visitor (List String) := fun place parts =>
  (.descend, place.node.kind.ownText :: parts)

/-- The text at and below a node. -/
def plainText (node : Node) : String :=
  String.join (node.walk collectText []).2.reverse

end Node

end ReadmeAudit.Markdown
