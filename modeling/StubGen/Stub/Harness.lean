import StubGen.Stub.Argument

/-!
# The harness

The part of a stub file that runs it: it reads the input, decodes the arguments, calls the user's
function and prints the result as JSON.
-/

namespace StubGen.Context

/-- A Java main class. -/
def javaHarness (c : Context) : List String :=
  ["public class Main \x7b",
   "    public static void main(String[] args) \x7b",
   "        // Do not edit below this line",
   "        Scanner scanner = new Scanner(System.in);",
   "        StringBuilder input = new StringBuilder();",
   "        while (scanner.hasNextLine()) \x7b",
   "            input.append(scanner.nextLine());",
   "        \x7d",
   "",
   "        try \x7b",
   "            Gson gson = new Gson();",
   "            JsonObject data = gson.fromJson(input.toString(), JsonObject.class);",
   "",
   "            Solution solution = new Solution();",
   "            " ++ c.returnMapped.syntaxText ++ " result = solution." ++ c.functionName ++ "("
     ++ Text.joined ", " (c.parameters.map MappedParameter.javaArgument) ++ ");",
   "            System.out.println(gson.toJson(result));",
   "        \x7d catch (Exception e) \x7b",
   "            System.err.println(\"Error: \" + e.getMessage());",
   "            System.exit(1);",
   "        \x7d",
   "    \x7d",
   "\x7d"]

/-- The Python function that rebuilds a tree. -/
def pythonTreeBuilder : List String :=
  ["def _build_tree(node):",
   "    if node is None:",
   "        return None",
   "    return TreeNode(node[\"val\"], _build_tree(node.get(\"left\")), _build_tree(node.get(\"right\")))"]

/-- A Python main block, after the function that rebuilds trees if an argument holds one. Results
are encoded field by field when the file defines tree nodes. -/
def pythonHarness (c : Context) : List String :=
  let encoder := if c.treeNode = "" then "str" else "vars"
  (if c.parameters.any fun p => p.type.contains .tree then pythonTreeBuilder ++ ["", ""] else []) ++
  ["if __name__ == \"__main__\":",
   "    # Do not edit below this line",
   "    try:",
   "        data = json.loads(sys.stdin.read())",
   "        solution = Solution()",
   "        result = solution." ++ c.functionName ++ "("
     ++ Text.joined ", " (c.parameters.map MappedParameter.pythonArgument) ++ ")",
   "        print(json.dumps(result, default=" ++ encoder ++ "))",
   "    except Exception as e:",
   "        print(f\"Error: \x7be\x7d\", file=sys.stderr)",
   "        sys.exit(1)"]

/-- A C++ main function with one placeholder for each argument. -/
def cppHarness (c : Context) : List String :=
  ["int main() \x7b",
   "    // Do not edit below this line",
   "    ios_base::sync_with_stdio(false);",
   "    cin.tie(NULL);",
   "",
   "    string input, line;",
   "    while (getline(cin, line)) \x7b",
   "        input += line;",
   "    \x7d",
   "",
   "    Solution solution;",
   "    // Decode each parameter from the JSON object held in \x60input\x60:"] ++
  c.parameters.map MappedParameter.cppPlaceholder ++
  ["    // auto result = solution." ++ c.functionName ++ "(" ++ Text.joined ", " c.names ++ ");",
   "    // Print \x60result\x60 to stdout as JSON.",
   "",
   "    return 0;",
   "\x7d"]

/-- The JavaScript function that rebuilds a tree. -/
def javascriptTreeBuilder : List String :=
  ["    const buildTree = (node) => \x7b",
   "        if (node === null || node === undefined) \x7b",
   "            return null;",
   "        \x7d",
   "        return new TreeNode(node.val, buildTree(node.left), buildTree(node.right));",
   "    \x7d;"]

/-- A JavaScript main block, with the function that rebuilds trees if a parameter is one. -/
def javascriptHarness (c : Context) : List String :=
  ["// Do not edit below this line",
   "if (typeof module !== 'undefined' && module.exports) \x7b",
   "    const fs = require('fs');",
   ""] ++
  (if c.parameters.any fun p => p.type.category = .tree then javascriptTreeBuilder ++ [""] else []) ++
  ["    try \x7b",
   "        const input = fs.readFileSync(0, 'utf8');",
   "        const data = JSON.parse(input);",
   "        const result = " ++ c.functionName ++ "("
     ++ Text.joined ", " (c.parameters.map MappedParameter.javascriptArgument) ++ ");",
   "        console.log(JSON.stringify(result));",
   "    \x7d catch (error) \x7b",
   "        console.error('Error:', error.message);",
   "        process.exit(1);",
   "    \x7d",
   "\x7d"]

def harness (c : Context) : Family → List String
  | .java => c.javaHarness
  | .python => c.pythonHarness
  | .cpp => c.cppHarness
  | .javascript => c.javascriptHarness

end StubGen.Context
