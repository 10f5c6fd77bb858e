import StubGen.TypeExpr.Basic

/-!
# Target languages

A target is a language for which stubs are generated. Its family fixes how types are spelled and how
a file is laid out; the literals, the baseline imports and the rejected categories are its own.
-/

namespace StubGen

/-- The rules of spelling and layout that a target follows. -/
inductive Family where
  | java | python | cpp | javascript
  deriving DecidableEq, Repr, Inhabited

structure Literals where
  nullValue : String
  zero : String
  falseValue : String
  emptyString : String
  /-- The statement used when no default value fits. -/
  fallback : String
  deriving DecidableEq, Repr, Inhabited

structure Target where
  /-- The name of the definition that registers the target. -/
  name : String
  /-- Tells definitions apart that are alike in everything else. -/
  number : Nat
  language : String
  family : Family
  literals : Literals
  /-- The imports that every file starts with. -/
  baselineImports : List String
  /-- A type that contains one of these categories is not supported. -/
  rejected : List Category
  deriving DecidableEq, Repr, Inhabited

/-- The extension of a family's files. -/
def Family.fileExtension : Family → String
  | java => ".java"
  | python => ".py"
  | cpp => ".cpp"
  | javascript => ".js"

namespace Target

def supports (target : Target) (t : TypeExpr) : Bool :=
  target.rejected.all fun category => !t.contains category

def java : Target where
  name := "JavaBackend"
  number := 0
  language := "java"
  family := .java
  literals := ⟨"null", "0", "false", "\"\"", "return null;"⟩
  baselineImports := ["import java.util.*;", "import com.google.gson.*;"]
  rejected := []

def python : Target where
  name := "PythonBackend"
  number := 0
  language := "python"
  family := .python
  literals := ⟨"None", "0", "False", "\"\"", "pass"⟩
  baselineImports := ["import json", "import sys"]
  rejected := []

def cpp : Target where
  name := "CppBackend"
  number := 0
  language := "cpp"
  family := .cpp
  literals := ⟨"nullptr", "0", "false", "\"\"", "return \x7b\x7d;"⟩
  baselineImports :=
    ["#include <iostream>", "#include <vector>", "#include <string>", "#include <algorithm>"]
  rejected := []

def javascript : Target where
  name := "JavaScriptBackend"
  number := 0
  language := "javascript"
  family := .javascript
  literals := ⟨"null", "0", "false", "\"\"", "return null;"⟩
  baselineImports := ["'use strict';"]
  rejected := []

/-- The targets that are there from the start, in registration order. -/
def builtins : List Target := [java, python, cpp, javascript]

end Target

end StubGen
