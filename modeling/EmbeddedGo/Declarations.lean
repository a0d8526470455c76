/-
EmbeddedGo.Declarations — TypeScript declarations for the functions of a Go unit.

  §1 the TypeScript name of a Go type: numbers of every width are `number`, what has no counterpart
     is `any`, and no type at all is `void`
  §2 `Declarations.render`: one declared function for each, and the object that holds them all
-/
import EmbeddedGo.Go.Signature

namespace EmbeddedGo.Declarations

/-! ## §1 Types -/

/-- The Go types that are numbers. -/
def numberTypes : List Text := [
  "int", "int8", "int16", "int32", "int64",
  "uint", "uint8", "uint16", "uint32", "uint64", "uintptr",
  "float32", "float64", "byte", "rune"]

/-- The names that mean a type in TypeScript already. -/
def ownTypes : List Text := ["number", "string", "boolean", "void", "any", "unknown"]

/-- The TypeScript type for the name of a Go type. -/
def typeName (goType : Text) : Text :=
  if goType = [] then "void"
  else if ownTypes.contains goType then goType
  else if numberTypes.contains goType then "number"
  else if goType = "bool".toList then "boolean"
  else "any"

/-- The TypeScript type for a Go type that may be absent. -/
def typeOf (goType : Option Text) : Text := typeName (goType.getD [])

/-! ## §2 Declarations -/

/-- A parameter as declared. -/
def parameter (p : Go.Parameter) : Text := p.name ++ ": " ++ typeName p.type

/-- The line that declares a function. -/
def functionLine (f : Go.Function) : Text :=
  "export function " ++ f.name ++ "(" ++ Text.join ", " (f.params.map parameter) ++ "): " ++
    typeOf f.result ++ ";"

/-- The line of a function in the object that is exported by default. -/
def memberLine (f : Go.Function) : Text := "  " ++ f.name ++ ": typeof " ++ f.name ++ ";"

/-- The lines between the first one and the end. -/
def body (functions : List Go.Function) : List Text :=
  if functions.isEmpty then ["export default any;"]
  else
    functions.map functionLine ++ ([[], "declare const bindings: \x7b"] : List Text) ++
      functions.map memberLine ++ (["\x7d;", "export default bindings;"] : List Text)

/-- The text of a declaration file. -/
def render (functions : List Go.Function) : Text :=
  Text.join "\n" ("// Generated by use-golang. Do not edit." :: [] :: body functions) ++ "\n"

end EmbeddedGo.Declarations
