import CppSurface.Extraction
import CppSurface.Json.Reader
import CppSurface.Json.Writer

/-!
# The published schema

How an extraction is written as JSON, and read back.  The names of the fields are a contract with
those who generate code from them.  The file of a function or value type is not written; reading
gives every record the empty path.
-/

namespace CppSurface

namespace Schema

open Json

/-! ## 1. Writing -/

/-- A line number. -/
def lineJson (line : UInt32) : Json := .natural line.toNat

/-- The three lists of a list of variables. -/
def variableMembers (v : Variables) : List (String × Json) :=
  [("var_names", texts v.names), ("raw_var_types", texts v.rawTypes),
   ("simple_var_types", texts v.simpleTypes)]

/-- A function. -/
def functionJson (f : FunctionRecord) : Json :=
  record
    ([("name", text f.signature.name),
      ("raw_return_type", text f.signature.rawReturnType),
      ("simple_return_type", text f.signature.simpleReturnType)] ++
     variableMembers f.signature.parameters ++
     [("declaration_line", optional lineJson f.declarationLine),
      ("definition_line", optional lineJson f.definitionLine)])

/-- A constructor. -/
def constructorJson (c : Constructor) : Json :=
  record (variableMembers c.parameters ++ [("definition_line", lineJson c.definitionLine)])

/-- A value type. -/
def valueTypeJson (v : ValueType) : Json :=
  record
    ([("name", text v.name)] ++ variableMembers v.fields ++
     [("definition_line", lineJson v.definitionLine),
      ("constructor_list", .array (v.constructors.map constructorJson)),
      ("base_structs", texts v.bases)])

/-- A path. -/
def pathJson (p : Path) : Json := text p.text

/-- The entry of a file. -/
def entryJson (e : FileEntry) : Json :=
  record
    [("file", optional pathJson e.file),
     ("function_list", .array (e.functions.map functionJson)),
     ("value_type_list", .array (e.valueTypes.map valueTypeJson)),
     ("include_list", .array (e.includes.map pathJson))]

/-- **An extraction as JSON.** -/
def toJson (x : Extraction) : Json := .array (x.entries.map entryJson)

/-! ## 2. Reading -/

/-- The path that records are given when they are read. -/
def noFile : Path := ⟨""⟩

/-- A path. -/
def path? (v : Json) : Option Path := v.text?.map Path.mk

/-- The names of a function's fields. -/
def functionFields : List String :=
  ["name", "raw_return_type", "simple_return_type", "var_names", "raw_var_types",
   "simple_var_types", "declaration_line", "definition_line"]

/-- Read a function. -/
def function? (v : Json) : Option FunctionRecord :=
  match v.fields? functionFields with
  | some [name, rawReturn, simpleReturn, names, raws, simples, declaration, definition] => do
    let name ← required? text? name
    let rawReturn ← required? text? rawReturn
    let simpleReturn ← required? text? simpleReturn
    let names ← required? texts? names
    let raws ← required? texts? raws
    let simples ← required? texts? simples
    let declaration ← optional? uint32? declaration
    let definition ← optional? uint32? definition
    return ⟨⟨name, rawReturn, simpleReturn, ⟨names, raws, simples⟩⟩, declaration, definition, noFile⟩
  | _ => none

/-- The names of a constructor's fields. -/
def constructorFields : List String :=
  ["var_names", "raw_var_types", "simple_var_types", "definition_line"]

/-- Read a constructor. -/
def constructor? (v : Json) : Option Constructor :=
  match v.fields? constructorFields with
  | some [names, raws, simples, line] => do
    let names ← required? texts? names
    let raws ← required? texts? raws
    let simples ← required? texts? simples
    let line ← required? uint32? line
    return ⟨⟨names, raws, simples⟩, line⟩
  | _ => none

/-- The names of a value type's fields. -/
def valueTypeFields : List String :=
  ["name", "var_names", "raw_var_types", "simple_var_types", "definition_line",
   "constructor_list", "base_structs"]

/-- Read a value type. -/
def valueType? (v : Json) : Option ValueType :=
  match v.fields? valueTypeFields with
  | some [name, names, raws, simples, line, constructors, bases] => do
    let name ← required? text? name
    let names ← required? texts? names
    let raws ← required? texts? raws
    let simples ← required? texts? simples
    let line ← required? uint32? line
    let constructors ← required? (list? constructor?) constructors
    let bases ← required? texts? bases
    return ⟨name, ⟨names, raws, simples⟩, line, constructors, bases, noFile⟩
  | _ => none

/-- The names of an entry's fields. -/
def entryFields : List String := ["file", "function_list", "value_type_list", "include_list"]

/-- Read the entry of a file. -/
def entry? (v : Json) : Option FileEntry :=
  match v.fields? entryFields with
  | some [file, functions, valueTypes, includes] => do
    let file ← optional? path? file
    let functions ← required? (list? function?) functions
    let valueTypes ← required? (list? valueType?) valueTypes
    let includes ← required? (list? path?) includes
    return ⟨file, functions, valueTypes, includes⟩
  | _ => none

/-- **The extraction that a JSON value describes**, if it does. -/
def ofJson? (v : Json) : Option Extraction := (v.list? entry?).map Extraction.mk

/-! ## 3. Texts -/

/-- The compact text of an extraction. -/
def compact (x : Extraction) : String := (toJson x).compact

/-- The indented text of an extraction. -/
def pretty (x : Extraction) : String := (toJson x).pretty

/-- The extraction that a text describes. -/
def parse? (s : String) : Option Extraction := (Json.read s.toList).bind ofJson?

end Schema

end CppSurface
