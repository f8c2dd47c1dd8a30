import ReadmeAudit.Item.Index
import ReadmeAudit.Problem

/-!
# Reconciliation

`reconcile` compares the items that a module declares with those that its README documents, and
reports each item that one side has and the other has not, the declared ones first.
-/

namespace ReadmeAudit

/-- The outcome of a comparison. -/
structure Reconciliation where
  /-- The items that the module declares. -/
  declared : Index
  /-- The items that the README documents. -/
  documented : Index

namespace Reconciliation

/-- The comparison of two lists of names. -/
def ofNames (declared documented : List String) : Reconciliation :=
  ⟨.ofNames declared, .ofNames documented⟩

/-- The items of one side that the other has not, in the order of their keys. -/
def unmatched (side other : Index) : List Item :=
  side.sorted.filter fun item => !other.has item

/-- The problems that a comparison shows, for items of a type. -/
def problems (comparison : Reconciliation) (itemType : String) : List Problem :=
  (unmatched comparison.declared comparison.documented).map
      (fun item => .undocumented itemType item.spelling)
    ++ (unmatched comparison.documented comparison.declared).map
      (fun item => .undeclared itemType item.spelling)

end Reconciliation

/-- The problems that declared and documented names of a type show. -/
def reconcile (declared documented : List String) (itemType : String) : List Problem :=
  (Reconciliation.ofNames declared documented).problems itemType

end ReadmeAudit
