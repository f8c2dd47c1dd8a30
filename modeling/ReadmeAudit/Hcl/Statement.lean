import ReadmeAudit.Hcl.Value

/-!
# Statements of module files

The body of a module file is a list of statements: attributes and blocks, which have bodies again.
`Body.fields?` collects the statements of a body into fields. The blocks of a type form a tuple, a
later attribute replaces what has its name, and a block must not have the name of an attribute
before it.
-/

namespace ReadmeAudit.Hcl

/-- A statement of a body. -/
inductive Statement where
  /-- An attribute with its value. -/
  | attribute (name : String) (value : Value)
  /-- A block of a type with its labels and its body. -/
  | block (type : String) (labels : List String) (body : List Statement)

/-- What has been collected from a body. -/
structure Collection where
  /-- The fields. -/
  fields : Fields
  /-- The names of the attributes. -/
  attributes : List String

namespace Collection

/-- Nothing collected. -/
def empty : Collection := ⟨[], []⟩

end Collection

/-- The field that marks the object of a block. -/
def blockMark : String := "__is_block__"

mutual

/-- The collection with a statement added. -/
def Statement.collect? : Statement → Collection → Option Collection
  | .attribute name value, collection =>
    some ⟨Pairs.put name value collection.fields, name :: collection.attributes⟩
  | .block type labels body, collection =>
    if collection.attributes.contains type then none
    else
      match Body.collect? body .empty with
      | none => none
      | some inner =>
        let value := (Value.object (Pairs.put blockMark .scalar inner.fields)).under labels
        some { collection with fields := collection.fields.push type value }

/-- The collection with the statements of a body added. -/
def Body.collect? : List Statement → Collection → Option Collection
  | [], collection => some collection
  | statement :: rest, collection =>
    match statement.collect? collection with
    | none => none
    | some collection => Body.collect? rest collection

end

/-- The fields of a body. -/
def Body.fields? (body : List Statement) : Option Fields :=
  (Body.collect? body .empty).map (·.fields)

end ReadmeAudit.Hcl
