import ReadmeAudit.Pairs

/-!
# Values of module files

The value of an attribute, as far as it can be told without evaluating anything: an object, a
tuple, a literal number, truth value or null, or a text. Every other expression counts as a text. A
module file as a whole is the list of its fields.
-/

namespace ReadmeAudit.Hcl

/-- A value. -/
inductive Value where
  /-- An object with its fields in order. -/
  | object (fields : List (String × Value))
  /-- A tuple with its elements. -/
  | tuple (items : List Value)
  /-- A text, or an expression. -/
  | text
  /-- A number, a truth value or null. -/
  | scalar

namespace Value

mutual

/-- Decide whether two values are the same. -/
def decEq : (value other : Value) → Decidable (value = other)
  | object fields, object others =>
    have := decEqFields fields others
    decidable_of_decidable_of_iff ⟨congrArg object, object.inj⟩
  | tuple items, tuple others =>
    have := decEqItems items others
    decidable_of_decidable_of_iff ⟨congrArg tuple, tuple.inj⟩
  | text, text | scalar, scalar => isTrue rfl
  | object _, tuple _ | object _, text | object _, scalar
  | tuple _, object _ | tuple _, text | tuple _, scalar
  | text, object _ | text, tuple _ | text, scalar
  | scalar, object _ | scalar, tuple _ | scalar, text => isFalse nofun

/-- Decide whether two lists of fields are the same. -/
def decEqFields : (fields others : List (String × Value)) → Decidable (fields = others)
  | [], [] => isTrue rfl
  | [], _ :: _ | _ :: _, [] => isFalse nofun
  | field :: fields, other :: others =>
    have := decEqField field other
    have := decEqFields fields others
    decidable_of_decidable_of_iff List.cons_eq_cons.symm

/-- Decide whether two fields are the same. -/
def decEqField : (field other : String × Value) → Decidable (field = other)
  | (name, value), (name', value') =>
    have := decEq value value'
    decidable_of_decidable_of_iff Prod.ext_iff.symm

/-- Decide whether two lists of values are the same. -/
def decEqItems : (items others : List Value) → Decidable (items = others)
  | [], [] => isTrue rfl
  | [], _ :: _ | _ :: _, [] => isFalse nofun
  | item :: items, other :: others =>
    have := decEq item other
    have := decEqItems items others
    decidable_of_decidable_of_iff List.cons_eq_cons.symm

end

instance : DecidableEq Value := decEq

end Value

/-- The fields of an object or of a file, in order, no two with the same name. -/
abbrev Fields := List (String × Value)

namespace Fields

/-- The fields with an element added to the tuple of a name. -/
def push (name : String) (value : Value) (fields : Fields) : Fields :=
  match fields.lookup name with
  | some (.tuple items) => Pairs.put name (.tuple (items ++ [value])) fields
  | _ => Pairs.put name (.tuple [value]) fields

end Fields

/-- A value inside objects of one field each, whose names are given from the outermost on. -/
def Value.under (labels : List String) (value : Value) : Value :=
  labels.foldr (fun label inner => .object [(label, inner)]) value

end ReadmeAudit.Hcl
