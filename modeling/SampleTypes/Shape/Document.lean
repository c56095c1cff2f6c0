import SampleTypes.Json.Value
import SampleTypes.Shape.Basic

/-!
# Shapes as documents

How a shape is written down as a JSON value: an object with the kind of the shape and its parts.
-/

namespace SampleTypes

open Json (Value)

/-- The name of a kind. -/
def Primitive.name : Primitive → String
  | .null => "Null"
  | .bool => "Bool"
  | .integer => "Integer"
  | .float => "Float"
  | .string => "String"

namespace Shape

mutual

/-- The document for a shape. -/
def toDocument : Shape → Value
  | .unknown => .object [("kind", .string "unknown")]
  | .primitive kind => .object [("kind", .string "primitive"), ("of", .string kind.name)]
  | .object fields =>
    .object [("kind", .string "object"), ("fields", .array (fieldDocuments fields))]
  | .array element => .object [("kind", .string "array"), ("element", toDocument element)]
  | .nullable inner => .object [("kind", .string "nullable"), ("inner", toDocument inner)]
  | .union arms =>
    .object [("kind", .string "union"), ("alternatives", .array (armDocuments arms))]

/-- The documents for fields. -/
def fieldDocuments : List Field → List Value
  | [] => []
  | ⟨key, shape, optional⟩ :: fields =>
    .object [("key", .string key), ("type", toDocument shape), ("optional", .bool optional)]
      :: fieldDocuments fields

/-- The documents for arms. -/
def armDocuments : List Shape → List Value
  | [] => []
  | arm :: arms => toDocument arm :: armDocuments arms

end

end Shape

end SampleTypes
