import TieredSearch.Schema.Field
import TieredSearch.Json.Printer
import TieredSearch.Digest
import TieredSearch.Sorting

/-!
# The schema of an index

A schema is the table of an index's fields, read off the mapping that the search backend reports.
Nested objects and plain objects are walked through; a node with a supported type and no
properties of its own is a field.
-/

namespace TieredSearch

/-- Why a mapping has no fields to read. -/
inductive MappingFault where
  /-- The answer names no index. -/
  | empty
  /-- The index has no section of mappings. -/
  | noMappings
  /-- The mappings have no properties. -/
  | noProperties
  deriving DecidableEq, Repr

/-- The wording of a fault. -/
def MappingFault.detail : MappingFault → String
  | .empty => "Mapping response is empty"
  | .noMappings => "Mapping response has no mappings section"
  | .noProperties => "Mapping has no properties"

/-- The reasons, outermost first, for which the mapping of an index could not be read. -/
def MappingFault.reasons (index : String) (fault : MappingFault) : List String :=
  ["Failed to read mapping properties for " ++ index, fault.detail]

/-- The field table of an index. -/
structure Schema where
  /-- The index. -/
  index : String
  /-- The digest of the mapping the table was read off. -/
  contentHash : String
  /-- The fields, each name once. -/
  fields : List Field
  deriving Repr

namespace Schema

/-! ### Looking fields up -/

/-- The field of a name. -/
def field? (s : Schema) (name : String) : Option Field := s.fields.find? (·.name = name)

/-- The nested objects around a field, outermost first; none around an unknown one. -/
def nestedPath (s : Schema) (name : String) : List String :=
  match s.field? name with
  | some f => f.nestedPath
  | none => []

/-- The names of the fields that keyword search covers, in ascending order. -/
def searchableFields (s : Schema) : List String :=
  Sorting.ascending ((s.fields.filter (·.searchable)).map (·.name))

/-- The fields by ascending name. -/
def sortedFields (s : Schema) : List Field := Sorting.stable (fun f g => f.name < g.name) s.fields

/-! ### Walking a mapping -/

/-- What the walk is told about the index. -/
structure Walk where
  /-- Fields that hold several values. -/
  arrayFields : List String
  /-- The name of the analyzed form of a text field. -/
  analyzedSuffix : String

variable {R : Type}

/-- The type a node of a mapping declares. -/
def nodeType? (node : List (String × Json R)) : Option String :=
  (Json.lookup "type" node).bind Json.str?

/-- The nested objects around the children of a node. -/
def scopesInside (scopes : List String) (path : String) (node : List (String × Json R)) :
    List String :=
  if nodeType? node = some "nested" then scopes ++ [path] else scopes

/-- The field a node without properties declares, if its type is supported. -/
def leafField? (w : Walk) (scopes : List String) (path : String) (node : List (String × Json R)) :
    Option Field := do
  let kind ← (nodeType? node).bind FieldKind.ofMappingType?
  let analyzed := (Json.lookup "fields" node).bind (·.get? w.analyzedSuffix)
  return {
    name := path
    kind := kind
    nestedPath := scopes
    isArray := w.arrayFields.contains path
    searchable := kind = .text && scopes.isEmpty && analyzed.isSome }

mutual

/-- The fields declared by a list of properties whose names start with `lead`. -/
def declaredIn (w : Walk) (scopes : List String) (lead : String) :
    List (String × Json R) → List Field
  | [] => []
  | (name, node) :: rest =>
    declaredAt w scopes (lead ++ name) node ++ declaredIn w scopes lead rest

/-- The fields declared by the node at a path. -/
def declaredAt (w : Walk) (scopes : List String) (path : String) : Json R → List Field
  | .obj node =>
    match declaredBelow? w (scopesInside scopes path node) (path ++ ".") node with
    | some fields => fields
    | none => (leafField? w scopes path node).toList
  | _ => []

/-- The fields below a node that has properties. -/
def declaredBelow? (w : Walk) (scopes : List String) (lead : String) :
    List (String × Json R) → Option (List Field)
  | [] => none
  | (key, value) :: rest =>
    if key = "properties" then
      match value with
      | .obj children => some (declaredIn w scopes lead children)
      | _ => none
    else declaredBelow? w scopes lead rest

end

/-- Of fields with one name only the last is kept. -/
def lastDeclared : List Field → List Field
  | [] => []
  | f :: rest => if rest.any (·.name = f.name) then lastDeclared rest else f :: lastDeclared rest

/-- The properties of the first index in a mapping answer: those of its mappings, or else those
of the given mapping type, or of the first one. -/
def properties? (docType : Option String) (mapping : Json R) :
    Except MappingFault (List (String × Json R)) :=
  match mapping with
  | .obj ((_, index) :: _) =>
    match index.get? "mappings" with
    | none => .error .noMappings
    | some mappings =>
      match (mappings.get? "properties").bind Json.members? with
      | some properties => .ok properties
      | none =>
        let typed := match docType with
          | some t => mappings.get? t
          | none => (mappings.members?.bind List.head?).map Prod.snd
        match typed.bind (·.get? "properties") |>.bind Json.members? with
        | some properties => .ok properties
        | none => .error .noProperties
  | _ => .error .empty

/-- The digest of a mapping's text. -/
def contentHashOf [Scalar R] (mapping : Json R) : String := Digest.ofText mapping.compact

/-- The schema a mapping describes. -/
def ofMapping [Scalar R] (index : String) (docType : Option String) (w : Walk)
    (mapping : Json R) : Except MappingFault Schema := do
  let properties ← properties? docType mapping
  return {
    index := index
    contentHash := contentHashOf mapping
    fields := lastDeclared (declaredIn w [] "" properties) }

end Schema

end TieredSearch
