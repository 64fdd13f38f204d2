import DubCheck.Document.Shape
import DubCheck.Dub.Program
import DubCheck.Text.Base64
import DubCheck.Text.Utf8
/-!
# Recordings of dub

A recording is a document that says how dub answers, so that it need not be run.  Under `list`,
`describe` and `build` there are rules for the three ways in which dub is run.  The first rule whose
conditions hold for the arguments gives the answer; without one, dub prints nothing and succeeds.
In the text of an answer, `@config@`, `@build@`, `@compiler@` and `@arch@` stand for what is
selected on the command line.
-/

namespace DubCheck.Dub.Recording

/-- What can be selected on the command line. -/
def selectorNames : List String :=
  ["config", "build", "compiler", "arch"]

/-- What the arguments select under a name. -/
def selected? (arguments : List String) (name : String) : Option String :=
  let mark := ("--" ++ name ++ "=").toList
  arguments.findSome? fun a =>
    if mark.isPrefixOf a.toList then some (String.ofList (a.toList.drop mark.length)) else none

/-- Whether the conditions of a rule hold. -/
def holds (arguments : List String) (conditions : List (String × Document)) : Bool :=
  conditions.all fun (name, value) =>
    match selected? arguments name, value with
    | some s, .string v => s == v
    | none, .string v => v.isEmpty
    | none, .null => true
    | _, _ => false

/-- A text with every occurrence of a mark replaced.  The first `skip` characters belong to a mark
that has been replaced. -/
def replaceFrom (mark replacement : List Char) : Nat → List Char → List Char
  | _, [] => []
  | skip + 1, _ :: cs => replaceFrom mark replacement skip cs
  | 0, c :: cs =>
    if !mark.isEmpty && mark.isPrefixOf (c :: cs) then
      replacement ++ replaceFrom mark replacement (mark.length - 1) cs
    else c :: replaceFrom mark replacement 0 cs

/-- A text with what is selected in the place of the marks. -/
def fillIn (arguments : List String) (text : String) : String :=
  let put (cs : List Char) (name : String) : List Char :=
    replaceFrom ("@" ++ name ++ "@").toList ((selected? arguments name).getD "").toList 0 cs
  String.ofList (selectorNames.foldl put text.toList)

/-- The bytes that a document gives: a text, or any bytes under `b64`. -/
def bytesOf (arguments : List String) : Option Document → List UInt8
  | some (.string s) => Text.Utf8.encode (fillIn arguments s)
  | some d => ((d.get? "b64").bind Document.string?).elim [] Text.Base64.decode
  | none => []

/-- The answer that a rule gives. -/
def replyOf (arguments : List String) (rule : Document) : Reply :=
  match (rule.get? "raise").bind Document.string? with
  | some "missing" => .noProgram
  | some "denied" => .denied
  | some "timeout" => .timedOut
  | some "interrupt" => .interrupted
  | _ =>
    let status := match rule.get? "exit" with
      | some (.int i) => i
      | _ => 0
    let printed (name : String) : List UInt8 := bytesOf arguments (rule.get? name)
    .finished (printed "stdout") (printed "stderr") status

/-- The rules for a way of running dub: one rule or several. -/
def rulesFor (recording : Document) (key : String) : List Document :=
  match recording.get? key with
  | some (.array rules) => rules
  | some rule => [rule]
  | none => []

/-- The way in which dub is run with some arguments. -/
def keyOf (arguments : List String) : String :=
  if arguments.head? = some "build" then "build"
  else if arguments.contains "--data-list" then "list"
  else "describe"

/-- The program that answers as a recording says. -/
def program (recording : Document) : Program := fun arguments =>
  let conditions (rule : Document) : List (String × Document) :=
    match rule.get? "if" with
    | some (.object members) => members
    | _ => []
  let rules := rulesFor recording (keyOf arguments)
  match rules.find? fun rule => holds arguments (conditions rule) with
  | some rule => replyOf arguments rule
  | none => .finished [] [] 0

end DubCheck.Dub.Recording
