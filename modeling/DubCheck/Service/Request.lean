import DubCheck.Failure
import DubCheck.Document.Display
/-!
# Requests

A request is an object with the name of a command under `subcmd`.  It may have an `id`, which the
response repeats, and it may name the component it is for under `cmd`.  All other members are
arguments of the command.
-/

namespace DubCheck.Service

/-- The component that requests are for. -/
def component : String := "dub"

/-- The keys of a request that are not arguments. -/
def reservedKeys : List String :=
  ["id", "cmd", "subcmd"]

/-- A request. -/
structure Request where
  /-- The name of the command. -/
  command : String
  /-- The arguments. -/
  arguments : List (String × Document) := []
  /-- What the response repeats. -/
  id : Document := .null

namespace Request

/-- The request that a document gives. -/
def ofDocument : Document → Except RequestError Request
  | .object members =>
    match members.lookup "subcmd" with
    | some (.string command) =>
      let target := (members.lookup "cmd").getD (.string component)
      if command.isEmpty then .error .noCommand
      else if !target.equals (.string component) then .error (.unknownComponent target.display)
      else .ok ⟨command, members.filter fun m => !reservedKeys.contains m.1,
        (members.lookup "id").getD .null⟩
    | _ => .error .noCommand
  | _ => .error .notObject

/-- The member that holds an identifier, unless that is null. -/
def idMember : Document → List (String × Document)
  | .null => []
  | d => [("id", d)]

/-- The members of a request that are not arguments. -/
def ownMembers (r : Request) : List (String × Document) :=
  [("cmd", .string component), ("subcmd", .string r.command)] ++ idMember r.id

/-- The document that gives a request.  An argument takes the place of another member under its
key. -/
def toDocument (r : Request) : Document :=
  .object (r.arguments.foldl (fun members a => insertPair a.1 a.2 members) r.ownMembers)

/-- An argument, which must be there. -/
def require (r : Request) (key : String) : Except RequestError Document :=
  match r.arguments.lookup key with
  | some value => .ok value
  | none => .error (.missing key)

/-- An argument, which must be there and be a text. -/
def text (r : Request) (key : String) : Except RequestError String := do
  match ← r.require key with
  | .string s => return s
  | _ => throw (.notText key)

end Request

end DubCheck.Service
