import DubCheck.Failure
/-!
# Responses

A response repeats the identifier of its request and has either the result or what went wrong.
-/

namespace DubCheck.Service

/-- A response.  If it is a success, only the result counts, else only the two others. -/
structure Response where
  /-- The identifier of the request. -/
  id : Document
  /-- Whether the request succeeded. -/
  ok : Bool
  /-- The result. -/
  result : Document := .null
  /-- What is said about the failure. -/
  error : Document := .null
  /-- The name of the failure. -/
  errorKind : Document := .null

namespace Response

/-- The response to a request that succeeded. -/
def success (id result : Document) : Response where
  id := id
  ok := true
  result := result

/-- The response to a request that failed. -/
def failure (id : Document) (e : Failure) : Response where
  id := id
  ok := false
  error := .string e.message
  errorKind := .string e.kind

/-- The document that a response is sent as. -/
def toDocument (r : Response) : Document :=
  .object ([("id", r.id), ("ok", .bool r.ok)] ++
    if r.ok then [("result", r.result)] else [("error", r.error), ("error_type", r.errorKind)])

/-- The response that a document gives. -/
def ofDocument (d : Document) : Except ShapeError Response := do
  return {
    id := ← d.getD "id" .null
    ok := (← d.getD "ok" (.bool false)).truthy
    result := ← d.getD "result" .null
    error := ← d.getD "error" .null
    errorKind := ← d.getD "error_type" .null }

end Response

end DubCheck.Service
