/-
  Schemas of declared types.

  A type is a `Form`: a basic form, one built from others, or the name of a declaration.  What
  the names mean is a list of declarations.  `schemaOf` writes the schema of a form: where the
  form itself is a name its declaration is written out, and inside it names are references.
  The declarations that are referred to, directly or through others, are added under
  `definitions`.
-/
import FunctionCalling.Json.Basic

namespace FunctionCalling.Schema

/-- A type, as far as its schema is concerned. -/
inductive Form where
  | text
  | flag
  | byte
  | integer
  | real
  | anything
  | optional (of : Form)
  | list (of : Form)
  /-- An object with any keys. -/
  | table (of : Form)
  | named (name : String)
deriving DecidableEq, Repr

/-- A field of a record.  A default is shown, and only a field that must be there is required. -/
structure Field where
  name : String
  description : Option String := none
  form : Form
  required : Bool := true
  default : Option Json := none

/-- What a name stands for. -/
inductive Declaration where
  /-- One of several words. -/
  | choice (words : List String)
  /-- An object with fields; a closed one has no others. -/
  | record (description : Option String) (closed : Bool) (fields : List Field)
  /-- Nothing but `null`. -/
  | nothing

/-- The declarations that forms may name. -/
abbrev Declarations :=
  List (String × Declaration)

/-! ## Schemas -/

/-- A schema that gives a type by name. -/
def typed (type : String) (more : List (String × Json)) : Json :=
  .ofMembers (("type", .text type) :: more)

/-- The same schema, with `null` allowed as well. -/
def nullable (schema : Json) : Json :=
  match schema with
  | .object members =>
    match members.lookup "type" with
    | some t => .ofMembers (members ++ [("type", .list [t, .text "null"])])
    | none => if members.isEmpty then schema else alternatives
  | _ => alternatives
where
  /-- Either the schema or `null`. -/
  alternatives : Json :=
    .object [("anyOf", .list [schema, typed "null" []])]

/-- The schema of a form, in which names are references. -/
def Form.schema : Form → Json
  | text => typed "string" []
  | flag => typed "boolean" []
  | byte =>
    typed "integer" [("format", .text "uint8"), ("minimum", .number (.real (Number.Binary64.zero false)))]
  | integer => typed "integer" [("format", .text "int64")]
  | real => typed "number" [("format", .text "double")]
  | anything => .object []
  | optional of => nullable of.schema
  | list of => typed "array" [("items", of.schema)]
  | table of => typed "object" [("additionalProperties", of.schema)]
  | named name => .object [("$ref", .text ("#/definitions/" ++ name))]

/-- A key and the value under it, when there is one. -/
def member (key : String) (value : Option Json) : List (String × Json) :=
  match value with
  | some v => [(key, v)]
  | none => []

/-- The members of a schema and more. -/
def extended (schema : Json) (more : List (String × Json)) : Json :=
  match schema with
  | .object members => .ofMembers (members ++ more)
  | other => other

/-- The schema of a field. -/
def Field.schema (f : Field) : Json :=
  extended f.form.schema
    (member "description" (f.description.map .text) ++ member "default" f.default)

/-- The schema of a declaration, in which names are references. -/
def Declaration.schema : Declaration → Json
  | choice words => typed "string" [("enum", .list (words.map .text))]
  | nothing => typed "null" []
  | record description closed fields =>
    let properties := Json.sortMembers (fields.map fun f => (f.name, f.schema))
    let needed := properties.filter fun (n, _) => fields.any fun f => f.required && f.name == n
    typed "object"
      (member "description" (description.map .text)
        ++ member "additionalProperties" (if closed then some (.bool false) else none)
        ++ member "properties" (if properties.isEmpty then none else some (.object properties))
        ++ member "required"
          (if needed.isEmpty then none else some (.list (needed.map fun (n, _) => .text n))))

/-! ## References -/

/-- The name in a form, when it has one. -/
def Form.reference? : Form → Option String
  | optional of => of.reference?
  | list of => of.reference?
  | table of => of.reference?
  | named name => some name
  | _ => none

/-- The names in a declaration. -/
def Declaration.references : Declaration → List String
  | record _ _ fields => fields.filterMap (·.form.reference?)
  | _ => []

/-- The names reached from a list of names in at most `steps` rounds, each once. -/
def reached (declarations : Declarations) : Nat → List String → List String
  | 0, names => names
  | steps + 1, names =>
    reached declarations steps
      ((names ++ names.flatMap fun n =>
        ((declarations.lookup n).map Declaration.references).getD []).eraseDups)

/-- The declarations that are referred to from a list of names, each under its name. -/
def definitions (declarations : Declarations) (names : List String) : Option Json :=
  match (reached declarations declarations.length names.eraseDups).filterMap fun n =>
    (declarations.lookup n).map fun d => (n, d.schema) with
  | [] => none
  | members => some (.ofMembers members)

/-- The schema of a form with all it refers to. -/
def schemaOf (declarations : Declarations) : Form → Json
  | .named name =>
    match declarations.lookup name with
    | some d => extended d.schema (member "definitions" (definitions declarations d.references))
    | none => .object []
  | form =>
    extended form.schema (member "definitions" (definitions declarations form.reference?.toList))

example : schemaOf [] (.optional .flag) =
    .object [("type", .list [.text "boolean", .text "null"])] := by decide +kernel

end FunctionCalling.Schema
