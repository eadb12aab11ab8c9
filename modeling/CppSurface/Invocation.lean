import CppSurface.Policy
import CppSurface.Settings.Overrides

/-!
# Invocations

What the arguments of the program ask for.  They are read in two steps.  `Item.ofArguments` cuts
them into items, without a view of the whole: an argument that makes no sense where it stands
becomes `Item.invalid`, and nothing after it matters.  `Invocation.ofItems` then goes through the
items from left to right.  The first item that cannot stand makes the whole a usage error, unless a
request for help or for the version came before it.
-/

namespace CppSurface

/-! ## 1. Items -/

/-- An option that stands for itself. -/
inductive Flag where
  | noIncludes
  | acceptAll
  | pretty
  | verbose
  | help
  | version
  deriving Repr, DecidableEq

/-- An option that takes a value. -/
inductive Setting where
  | config
  | includePattern
  | excludePattern
  | includePath
  | std
  | clang
  | accept
  | ignore
  | logFile
  deriving Repr, DecidableEq

/-- One thing that the arguments say. -/
inductive Item where
  | flag (f : Flag)
  | value (s : Setting) (text : String)
  | input (text : String)
  | invalid
  deriving Repr, DecidableEq

namespace Flag

/-- The flag of a long name. -/
def ofName? (name : String) : Option Flag :=
  [("no-includes", noIncludes), ("accept-all", acceptAll), ("pretty", pretty),
   ("verbose", verbose), ("help", help), ("version", version)].lookup name

/-- The flag of a letter. -/
def ofLetter? (c : Char) : Option Flag :=
  [('v', verbose), ('h', help), ('V', version)].lookup c

end Flag

namespace Setting

/-- The setting of a long name. -/
def ofName? (name : String) : Option Setting :=
  [("config", config), ("include", includePattern), ("exclude", excludePattern), ("std", std),
   ("clang", clang), ("accept", accept), ("ignore", ignore), ("log-file", logFile)].lookup name

/-- Whether the setting may be given more than once. -/
def isRepeatable : Setting → Bool
  | includePattern | excludePattern | includePath | accept | ignore => true
  | config | std | clang | logFile => false

/-- Whether the value is a path, which cannot be empty. -/
def takesPath : Setting → Bool
  | config | logFile => true
  | _ => false

end Setting

namespace Item

/-! ## 2. Cutting arguments into items -/

/-- Whether an argument has the form of an option, and so is never the value of another. -/
def looksLikeOption (argument : String) : Bool :=
  match argument.toList with
  | '-' :: _ :: _ => true
  | _ => false

/-- Read what follows two dashes.  The second result is a setting that still waits for its
value. -/
def ofLong (body : List Char) : List Item × Option Setting :=
  let name := String.ofList (body.takeWhile (· ≠ '='))
  let value? := match body.dropWhile (· ≠ '=') with
    | [] => none
    | _ :: v => some (String.ofList v)
  match Flag.ofName? name, Setting.ofName? name, value? with
  | some f, _, none => ([.flag f], none)
  | none, some s, some v => ([.value s v], none)
  | none, some s, none => ([], some s)
  | _, _, _ => ([.invalid], none)

/-- Read the letters that follow one dash: flags, up to a setting whose value is the rest. -/
def ofLetters : List Char → List Item × Option Setting
  | [] => ([], none)
  | 'I' :: [] => ([], some .includePath)
  | 'I' :: '=' :: v => ([.value .includePath (String.ofList v)], none)
  | 'I' :: v => ([.value .includePath (String.ofList v)], none)
  | c :: rest =>
    match Flag.ofLetter? c with
    | some f =>
      let (items, waiting) := ofLetters rest
      (.flag f :: items, waiting)
    | none => ([.invalid], none)

/-- Read one argument on its own. -/
def ofArgument (argument : String) : List Item × Option Setting :=
  match argument.toList with
  | '-' :: '-' :: body => ofLong body
  | '-' :: c :: rest => ofLetters (c :: rest)
  | _ => ([.input argument], none)

/-- Read arguments, when a setting may still wait for its value. -/
def ofArgumentsWith : (waiting : Option Setting) → List String → List Item
  | none, [] => []
  | some _, [] => [.invalid]
  | some s, argument :: rest =>
    if looksLikeOption argument then [.invalid]
    else .value s argument :: ofArgumentsWith none rest
  | none, argument :: rest =>
    if argument = "--" then rest.map .input
    else
      let (items, waiting) := ofArgument argument
      items ++ ofArgumentsWith waiting rest

/-- **The items of the arguments.** -/
def ofArguments (arguments : List String) : List Item := ofArgumentsWith none arguments

/-! ## 3. Which items can stand together -/

/-- Whether the item is a value of this setting. -/
def isValueOf (s : Setting) : Item → Bool
  | value s' _ => s = s'
  | _ => false

/-- Whether the item is the input. -/
def isInput : Item → Bool
  | input _ => true
  | _ => false

/-- Whether an item can stand after others. -/
def canFollow (before : List Item) : Item → Bool
  | flag f => !before.contains (.flag f)
  | value s v => (s.isRepeatable || !before.any (isValueOf s)) && !(s.takesPath && v.isEmpty)
  | input _ => !before.any isInput
  | invalid => false

end Item

/-! ## 4. Requests -/

/-- What the program is asked to do. -/
structure Request where
  /-- A file, or source text. -/
  input : String
  config : Option Path
  overrides : Overrides
  accepted : List String
  ignored : List String
  acceptAll : Bool
  pretty : Bool
  logFile : Option Path
  deriving Repr, DecidableEq

namespace Request

/-- The values of a setting, in order. -/
def values (items : List Item) (s : Setting) : List String :=
  items.filterMap fun
    | .value s' v => if s = s' then some v else none
    | _ => none

/-- The request that items make; there is none without an input. -/
def ofItems? (items : List Item) : Option Request :=
  let input? := items.findSome? fun
    | .input t => some t
    | _ => none
  input?.map fun input =>
    { input
      config := (values items .config).head?.map Path.mk
      overrides :=
        { includePaths := values items .includePath
          includePatterns := values items .includePattern
          excludePatterns := values items .excludePattern
          std := (values items .std).head?
          clang := (values items .clang).head?
          noIncludes := items.contains (.flag .noIncludes)
          verbose := items.contains (.flag .verbose) }
      accepted := values items .accept
      ignored := values items .ignore
      acceptAll := items.contains (.flag .acceptAll)
      pretty := items.contains (.flag .pretty)
      logFile := (values items .logFile).head?.map Path.mk }

/-- The policy that a request sets. -/
def policy (r : Request) : Policy :=
  if r.acceptAll then .acceptAll
  else (r.ignored.foldl AllowList.ignore (r.accepted.foldl AllowList.accept .standard)).policy

end Request

/-! ## 5. Invocations -/

/-- What the arguments come to. -/
inductive Invocation where
  | request (r : Request)
  | help
  | version
  | usageError
  deriving Repr, DecidableEq

namespace Invocation

/-- Go through the items, given those that already stand. -/
def ofItems : (before : List Item) → List Item → Invocation
  | before, [] =>
    match Request.ofItems? before with
    | some r => .request r
    | none => .usageError
  | before, item :: rest =>
    if item.canFollow before then
      if item = .flag .help then .help
      else if item = .flag .version then .version
      else ofItems (before ++ [item]) rest
    else .usageError

/-- **What arguments ask for.** -/
def ofArguments (arguments : List String) : Invocation := ofItems [] (Item.ofArguments arguments)

example : ofArguments ["-V"] = .version := by decide
example : ofArguments ["a", "--std", "x", "--std", "y"] = .usageError := by decide
example : ofArguments ["a", "b"] = .usageError := by decide

end Invocation

end CppSurface
