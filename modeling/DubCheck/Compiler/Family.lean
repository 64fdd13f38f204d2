import DubCheck.Host.Path
import DubCheck.Text.Case
/-!
# Families of compilers

The compilers of the language come in three families.  A compiler is recognised by the name of its
program, in any case, with or without `.exe`; what follows the first hyphen is a version.
-/

namespace DubCheck

/-- A family of compilers. -/
inductive Family where
  /-- The reference compiler. -/
  | dmd
  /-- The compilers with an LLVM back end. -/
  | ldc
  /-- The compilers with a GCC back end. -/
  | gdc
deriving DecidableEq, Repr

namespace Family

/-- The name of a family. -/
def name : Family → String
  | .dmd => "dmd"
  | .ldc => "ldc"
  | .gdc => "gdc"

/-- The programs of each family. -/
def programs : List (String × Family) :=
  [("dmd", .dmd), ("ldc2", .ldc), ("ldmd2", .ldc), ("gdc", .gdc), ("gdmd", .gdc)]

/-- A text without an ending, if it has it. -/
def withoutEnding (ending text : List Char) : List Char :=
  if ending.isSuffixOf text then text.take (text.length - ending.length) else text

/-- The family of a program, given by its name or path. -/
def ofProgram? (program : String) : Option Family :=
  let name := withoutEnding ".exe".toList (Text.lower (Path.ofText program).name).toList
  programs.lookup (String.ofList (name.takeWhile (· != '-')))

/-- The family with a given name. -/
def ofName? (name : String) : Option Family :=
  [Family.dmd, .ldc, .gdc].find? (·.name == name)

/-- The flag that keeps a compiler from writing any output. -/
def noOutputFlag : Family → String
  | .gdc => "-fsyntax-only"
  | _ => "-o-"

end Family

end DubCheck
