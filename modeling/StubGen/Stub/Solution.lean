import StubGen.Stub.Context

/-!
# The solution container

The part of a stub file that the user fills in: the function with its declared types and a body that
returns the default value.
-/

namespace StubGen.Context

/-- A Java class with one method. -/
def javaSolution (c : Context) : List String :=
  ["class Solution \x7b",
   "    public " ++ c.returnMapped.syntaxText ++ " " ++ c.functionName
     ++ "(" ++ Text.joined ", " c.typedNames ++ ") \x7b",
   "        // Write your logic here",
   "        " ++ c.defaultReturn,
   "    \x7d",
   "\x7d"]

/-- A Python class with one annotated method. -/
def pythonSolution (c : Context) : List String :=
  let annotated := c.parameters.map fun p => p.name ++ ": " ++ p.mapped.syntaxText
  ["class Solution:",
   "    def " ++ c.functionName ++ "(" ++ Text.joined ", " ("self" :: annotated) ++ ") -> "
     ++ c.returnMapped.syntaxText ++ ":",
   "        # Write your logic here",
   "        " ++ c.defaultReturn]

/-- A C++ class with one public method. -/
def cppSolution (c : Context) : List String :=
  ["class Solution \x7b",
   "public:",
   "    " ++ c.returnMapped.syntaxText ++ " " ++ c.functionName
     ++ "(" ++ Text.joined ", " c.typedNames ++ ") \x7b",
   "        // Write your logic here",
   "        " ++ c.defaultReturn,
   "    \x7d",
   "\x7d;"]

/-- A JavaScript function; the types are in its documentation comment only. -/
def javascriptSolution (c : Context) : List String :=
  let documented := c.parameters.map fun p =>
    " * @param \x7b" ++ p.mapped.syntaxText ++ "\x7d " ++ p.name
  ["/**"] ++ documented ++
  [" * @return \x7b" ++ c.returnMapped.syntaxText ++ "\x7d",
   " */",
   "var " ++ c.functionName ++ " = function(" ++ Text.joined ", " c.names ++ ") \x7b",
   "    // Write your logic here",
   "    " ++ c.defaultReturn,
   "\x7d;"]

def solution (c : Context) : Family → List String
  | .java => c.javaSolution
  | .python => c.pythonSolution
  | .cpp => c.cppSolution
  | .javascript => c.javascriptSolution

end StubGen.Context
