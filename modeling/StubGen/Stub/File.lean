import StubGen.Stub.Harness
import StubGen.Stub.Solution

/-!
# Stub files

A stub file is a sequence of blocks with one blank line between them: imports, the tree node
definition if there is one, the solution container, the harness.
-/

namespace StubGen

namespace Context

def blocks (c : Context) (family : Family) : List String :=
  [Text.lines c.imports] ++
  (if family = .cpp then ["using namespace std;"] else []) ++
  [c.treeNode, Text.lines (c.solution family), Text.lines (c.harness family)]

def assemble (c : Context) (family : Family) : String :=
  Text.joinBlocks (c.blocks family) ++ "\n"

end Context

def Target.render (target : Target) (s : TypedSignature) : String :=
  (target.context s).assemble target.family

end StubGen
