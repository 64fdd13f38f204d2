import DubCheck.CommandLine.Grammar
import DubCheck.Text.Numeral
import DubCheck.Text.Quoted
import DubCheck.Text.Search
/-!
# Reading the command line

The arguments are classified first: an argument is an option, or plain, or the double hyphen after
which all arguments are plain.  Then options and operands are taken from left to right.

* A long option may be shortened as long as it stays clear which one is meant, and its value may
  follow an equals sign.
* Short options that take no value may be written together, and the last one of them may have its
  value joined on.  An equals sign counts only right after the first option: it separates what is
  joined to that option, and anywhere else it is a character like any other.
* A negative number, and an argument with a blank in it that is no known option, are plain.
* The double hyphen is no value.  Where it is joined to an option that takes one, the value counts
  as left out, and nothing is asked of it.
* Arguments that nobody takes are collected; they are an error in the end.

`read` gives what was asked for, or says why the program stops instead.
-/

namespace DubCheck.CommandLine

/-- Why the program stops before it does anything. -/
inductive Stop where
  /-- Somebody asked how the program is used. -/
  | help (g : Grammar)
  /-- Somebody asked for the version. -/
  | version
  /-- The command line is wrong. -/
  | error (g : Grammar) (message : String)

/-- An argument that is an option. -/
structure Use where
  /-- The option, if there is one of that name. -/
  choice : Option Choice
  /-- Its name, written out. -/
  name : List Char
  /-- The text joined to it, without an equals sign between them. -/
  joined : Option (List Char)

/-- What an argument is. -/
inductive Role where
  /-- A value or an operand. -/
  | plain
  /-- The double hyphen. -/
  | dashes
  /-- An option. -/
  | option (use : Use)

/-- An argument and what it is. -/
structure Argument where
  /-- The text of the argument. -/
  text : String
  /-- What it is. -/
  role : Role

/-- Whether an argument is an option. -/
def Argument.isOption (a : Argument) : Bool :=
  match a.role with
  | .option _ => true
  | _ => false

/-! ## Classifying arguments -/

/-- The option of the given name. -/
def Grammar.choice? (g : Grammar) (name : List Char) : Option Choice :=
  g.choices.find? fun c => c.names.any (·.toList == name)

/-- All options with their names, in the order of their declaration. -/
def Grammar.named (g : Grammar) : List (List Char × Choice) :=
  g.choices.flatMap fun c => c.names.map fun n => (n.toList, c)

/-- The text before the first equals sign, and the text after it if there is one. -/
def splitValue (cs : List Char) : List Char × Option (List Char) :=
  match Text.splitAtFirst? ['='] cs with
  | some (name, value) => (name, some value)
  | none => (cs, none)

/-- The options that an argument with two hyphens may mean. -/
def Grammar.longUses (g : Grammar) (cs : List Char) : List Use :=
  let (start, value) := splitValue cs
  (g.named.filter fun (name, _) => start.isPrefixOf name).map fun (name, c) =>
    ⟨some c, name, value⟩

/-- The options that an argument with one hyphen may mean. -/
def Grammar.shortUses (g : Grammar) (cs : List Char) : List Use :=
  g.named.filterMap fun (name, c) =>
    if name == cs.take 2 then some ⟨some c, name, some (cs.drop 2)⟩
    else if cs.isPrefixOf name then some ⟨some c, name, none⟩
    else none

/-- Whether a text is a negative number, with or without a point.  A newline may follow. -/
def isNegativeNumber (cs : List Char) : Bool :=
  let cs := if cs.getLast? == some '\n' then cs.dropLast else cs
  match cs with
  | '-' :: rest =>
    match rest.dropWhile Text.isDigit with
    | [] => !rest.isEmpty
    | '.' :: places => !places.isEmpty && places.all Text.isDigit
    | _ => false
  | _ => false

/-- What an argument is that begins with a hyphen and is no option written out. -/
def Grammar.guess (g : Grammar) (cs : List Char) : Except Stop Role :=
  let uses := if cs.take 2 == ['-', '-'] then g.longUses cs else g.shortUses cs
  match uses with
  | [use] => .ok (.option use)
  | [] =>
    if isNegativeNumber cs || cs.contains ' ' then .ok .plain
    else .ok (.option ⟨none, cs, none⟩)
  | _ =>
    let meant := ", ".intercalate (uses.map fun u => String.ofList u.name)
    .error (.error g s!"ambiguous option: {String.ofList cs} could match {meant}")

/-- What an argument is, if no double hyphen came before. -/
def Grammar.roleOf (g : Grammar) (text : String) : Except Stop Role :=
  let cs := text.toList
  match cs with
  | '-' :: _ :: _ =>
    match g.choice? cs, splitValue cs with
    | some c, _ => .ok (.option ⟨some c, cs, none⟩)
    | none, (name, some value) =>
      match g.choice? name with
      | some c => .ok (.option ⟨some c, name, some value⟩)
      | none => g.guess cs
    | none, (_, none) => g.guess cs
  | _ => .ok .plain

/-- What each argument is. -/
def Grammar.classify (g : Grammar) : List String → Except Stop (List Argument)
  | [] => .ok []
  | text :: rest =>
    if text = "--" then .ok (⟨text, .dashes⟩ :: rest.map (⟨·, .plain⟩))
    else do
      let role ← g.roleOf text
      return ⟨text, role⟩ :: (← g.classify rest)

/-! ## Taking options -/

/-- What is given with an option. -/
inductive Given where
  /-- A value. -/
  | value (text : String)
  /-- Nothing: the option takes no value, or its value is left out. -/
  | nothing
deriving DecidableEq, Repr

/-- What the text of a value gives. -/
def Given.ofText (text : String) : Given :=
  if text = "--" then .nothing else .value text

/-- What has been read. -/
structure Reading where
  /-- The options and what is given with them, in order. -/
  settings : List (Key × Given) := []
  /-- The operand, once it has been taken. -/
  operand : Option (List String) := none
  /-- The arguments that nobody takes. -/
  extras : List String := []

/-- An error about an option. -/
def Grammar.complain {α : Type} (g : Grammar) (c : Choice) (message : String) : Except Stop α :=
  .error (.error g ("argument " ++ "/".intercalate c.names ++ ": " ++ message))

/-- Do what an option asks for. -/
def Grammar.act (g : Grammar) (r : Reading) (c : Choice) (given : Given) : Except Stop Reading :=
  let put : Reading := { r with settings := r.settings ++ [(c.key, given)] }
  match c.key, given with
  | .help, _ => .error (.help g)
  | .version, _ => .error .version
  | .parent, .value text =>
    if (Text.integer? text).isSome then .ok put
    else g.complain c ("invalid int value: " ++ Text.quoted text)
  | _, _ => .ok put

/-- What an argument with options comes to: the options and what is given with them, and whether
the next argument is a value of the last one. -/
structure Cluster where
  /-- The options and what is given with them. -/
  found : List (Choice × Given) := []
  /-- Whether the next argument is the value of the last option. -/
  takesNext : Bool := false

/-- Put an option in front of a cluster. -/
def Cluster.push (c : Choice) (k : Cluster) : Cluster :=
  { k with found := (c, .nothing) :: k.found }

/-- What an option without joined text comes to, when `next` is the argument after it. -/
def Grammar.alone (g : Grammar) (c : Choice) (next : Option Argument) : Except Stop Cluster :=
  match c.value, next with
  | none, _ => .ok { found := [(c, .nothing)] }
  | some _, some ⟨text, .plain⟩ => .ok { found := [(c, .ofText text)], takesNext := true }
  | some _, _ => g.complain c "expected one argument"

/-- What the option `c`, written `name`, comes to with the text joined to it.  If a short option
takes no value, the text must go on with further short options. -/
def Grammar.cluster (g : Grammar) (next : Option Argument) (c : Choice) (name : List Char) :
    List Char → Except Stop Cluster
  | [] =>
    if c.value.isSome then .ok { found := [(c, .value "")] }
    else g.complain c ("ignored explicit argument " ++ Text.quoted "")
  | first :: rest =>
    let text := String.ofList (first :: rest)
    if c.value.isSome then .ok { found := [(c, .ofText text)] }
    else
      let following := if name[1]? == some '-' then none else g.choice? ['-', first]
      match following, rest with
      | none, _ => g.complain c ("ignored explicit argument " ++ Text.quoted text)
      | some d, [] => (g.alone d next).map (·.push c)
      | some d, rest => (g.cluster next d ['-', first] rest).map (·.push c)

/-- Take the option at the head of the arguments.  The result also says whether the next argument
has been taken with it. -/
def Grammar.takeOption (g : Grammar) (r : Reading) (text : String) (use : Use)
    (next : Option Argument) : Except Stop (Reading × Bool) := do
  match use.choice with
  | none => return ({ r with extras := r.extras ++ [text] }, false)
  | some c =>
    let k ← match use.joined with
      | some text => g.cluster next c use.name text
      | none => g.alone c next
    return (← k.found.foldlM (fun r (c, given) => g.act r c given) r, k.takesNext)

/-! ## Taking operands -/

/-- How many of the arguments an operand takes, if it can be taken here. -/
def Operand.size? (o : Operand) (arguments : List Argument) : Option Nat :=
  let isDashes (a : Argument) : Bool := a.role matches .dashes
  let isPlain (a : Argument) : Bool := a.role matches .plain
  let leading := (arguments.takeWhile isDashes).length
  let rest := arguments.drop leading
  match o, rest with
  | .directory, a :: rest =>
    if isPlain a then some (leading + 1 + (rest.takeWhile isDashes).length) else some leading
  | .directory, [] => some leading
  | .command, a :: _ => if isPlain a then some arguments.length else none
  | .command, [] => none

/-- The operand that some arguments give.  The first double hyphen before a directory does not
count. -/
def Operand.value (o : Operand) (arguments : List Argument) : List String :=
  let texts := arguments.map (·.text)
  match o with
  | .directory => texts.erase "--"
  | .command => texts

/-- Take the operand if it can be taken here; the result also says how many arguments it took. -/
def Grammar.takeOperand (g : Grammar) (r : Reading) (arguments : List Argument) : Reading × Nat :=
  if r.operand.isSome then (r, 0)
  else match g.operand.size? arguments with
    | none => (r, 0)
    | some n => ({ r with operand := some (g.operand.value (arguments.take n)) }, n)

/-- Take options and operands from left to right.  `fuel` bounds the number of steps; there is one
step for each argument at most. -/
def Grammar.walk (g : Grammar) : Nat → Reading → List Argument → Except Stop Reading
  | 0, r, _ => .ok r
  | fuel + 1, r, arguments =>
    let before := (arguments.takeWhile (!·.isOption)).length
    let fromOption (r : Reading) (arguments : List Argument) : Except Stop Reading :=
      match arguments with
      | ⟨text, .option use⟩ :: rest => do
        let (r, tookNext) ← g.takeOption r text use rest.head?
        g.walk fuel r (if tookNext then rest.drop 1 else rest)
      | _ => .ok r
    if before = arguments.length then
      let (r, n) := g.takeOperand r arguments
      .ok { r with extras := r.extras ++ (arguments.drop n).map (·.text) }
    else if before = 0 then fromOption r arguments
    else
      match g.takeOperand r arguments with
      | (r, 0) =>
        fromOption { r with extras := r.extras ++ (arguments.take before).map (·.text) }
          (arguments.drop before)
      | (r, n) => g.walk fuel r (arguments.drop n)

/-- What the arguments give under a grammar. -/
def Grammar.read (g : Grammar) (arguments : List String) : Except Stop Reading := do
  let found ← g.classify arguments
  g.walk (found.length + 1) {} found

/-! ## The whole command line -/

/-- What a command line asks for. -/
structure Invocation where
  /-- The command. -/
  command : CommandName
  /-- The project directory, if it is given. -/
  directory : Option String
  /-- The options and what is given with them, in order. -/
  settings : List (Key × Given)
deriving Repr

/-- What is given with an option, if that is there; the last time counts. -/
def Invocation.given? (i : Invocation) (key : Key) : Option Given :=
  (i.settings.reverse.find? (·.1 == key)).map (·.2)

/-- Whether an option is there. -/
def Invocation.has (i : Invocation) (key : Key) : Bool :=
  (i.given? key).isSome

/-- The value of an option, if it has one. -/
def Invocation.value? (i : Invocation) (key : Key) : Option String :=
  match i.given? key with
  | some (.value text) => some text
  | _ => none

/-- The command of the given name. -/
def commandOf (name : String) : Except Stop CommandName :=
  match CommandName.ofText? name with
  | some c => .ok c
  | none =>
    let known := ", ".intercalate (CommandName.all.map fun c => Text.quoted c.text)
    .error (.error mainGrammar
      ("argument command: invalid choice: " ++ Text.quoted name ++
        " (choose from " ++ known ++ ")"))

/-- Fail if there are arguments that nobody takes. -/
def refuseExtras (extras : List String) : Except Stop Unit :=
  if extras.isEmpty then .ok ()
  else .error (.error mainGrammar ("unrecognized arguments: " ++ " ".intercalate extras))

/-- What a command line asks for.  Without a command, it asks how the program is used. -/
def read (arguments : List String) : Except Stop Invocation := do
  let r ← mainGrammar.read arguments
  match r.operand with
  | some (name :: rest) =>
    let command ← commandOf name
    let s ← command.grammar.read rest
    refuseExtras (r.extras ++ s.extras)
    return ⟨command, (s.operand.getD []).head?, s.settings⟩
  | _ =>
    refuseExtras r.extras
    throw (.help mainGrammar)

end DubCheck.CommandLine
