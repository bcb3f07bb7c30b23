import Registrar.Json.Basic
/-!
# Schemas

A schema says of which type a value is, and for an object which members it has. It is built up from
its type by adding what else is known about the value.
-/

set_option autoImplicit false

namespace Registrar

structure Schema where
  entries : List (String × Json)
deriving DecidableEq, Repr, Inhabited

namespace Schema

def ofType (type : String) : Schema :=
  ⟨[("type", .string type)]⟩

def add (schema : Schema) (name : String) (value : Json) : Schema :=
  ⟨schema.entries ++ [(name, value)]⟩

def toJson (schema : Schema) : Json :=
  .object schema.entries

def text : Schema :=
  ofType "string"

def boolean : Schema :=
  ofType "boolean"

def integer (format : String) : Schema :=
  (ofType "integer").add "format" (.string format)

def list (items : Schema) : Schema :=
  (ofType "array").add "items" items.toJson

def record (members : List (String × Schema)) (needed : List String) : Schema :=
  let schema := (ofType "object").add "properties"
    (.object (members.map fun (name, schema) => (name, schema.toJson)))
  if needed.isEmpty then schema else schema.add "required" (.strings needed)

def orNull (schema : Schema) : Schema :=
  schema.add "nullable" (.bool true)

def described (schema : Schema) (description : String) : Schema :=
  schema.add "description" (.string description)

def orElse (schema : Schema) (value : Json) : Schema :=
  schema.add "default" value

def oneOf (schema : Schema) (values : List String) : Schema :=
  schema.add "enum" (.strings values)

end Schema

end Registrar
