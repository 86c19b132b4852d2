import Moban.ConfigJson

/-!
# The configuration

A configuration holds a tree, finds its nodes by their dotted paths and reads integers from
them. Loading replaces the tree. The functions that load run as actions on the object, which
keep what they have assigned before an exception, so that the order of the assignments matters
as it does in the source.
-/

namespace Moban

/-- The formats a configuration may have. With `auto` the extension of a file decides. -/
inductive ConfigFormat where
  | auto
  | json
deriving DecidableEq

structure Config where
  format : ConfigFormat
  root : ConfigValue
  loaded : Bool

namespace Config

open ConfigValue

/-- The constructor. -/
def new (format : ConfigFormat) : Config where
  format := format
  root := .null []
  loaded := false

/-! ## Finding a node -/

def isIndex (segment : Text) : Bool := !segment.isEmpty && segment.all Char.isDigit

/-- The node that a segment of a path names below the current one. A number that has more than
19 digits is no index. -/
def advance (current : Node) (segment : Text) : Option Node :=
  if segment.isEmpty then none
  else
    match current.value with
    | .array items _ =>
        if isIndex segment then
          if 19 < segment.length then none
          else
            let index := Nat.ofDigitChars 10 segment 0
            items[index]?.map fun item => ⟨current.address ++ [index], item⟩
        else none
    | .object fields _ =>
        (firstField fields segment).map fun (position, value) =>
          ⟨current.address ++ [position], value⟩
    | _ => none

/-- Find the node of a path, segment by segment. -/
def find (config : Config) (path : Text) : Except ConfigError (Option Node) :=
  if !config.loaded then .error ⟨"config not loaded".toList⟩
  else if path.isEmpty then .ok (some ⟨[], config.root⟩)
  else .ok ((path.splitOn '.').foldlM advance ⟨[], config.root⟩)

def node (config : Config) (path : Text) : Except ConfigError Node := do
  match ← config.find path with
  | some found => .ok found
  | none => .error ⟨"config key '".toList ++ path ++ "' not found".toList⟩

/-! ## Reading an integer -/

/-- The integer types that a value can be read as. -/
inductive IntegerType where
  | int32
  | uint32
  | int64
  | uint64
deriving DecidableEq

namespace IntegerType

def width : IntegerType → Nat
  | int32 | uint32 => 32
  | int64 | uint64 => 64

def isSigned : IntegerType → Bool
  | int32 | int64 => true
  | uint32 | uint64 => false

/-- The conversion to the type, modulo its number of values. -/
def staticCast (type : IntegerType) (value : Int) : Int :=
  if type.isSigned then value.bmod (2 ^ type.width) else value % 2 ^ type.width

end IntegerType

/-- Read the integer at a path. -/
def get (config : Config) (type : IntegerType) (path : Text) : Except ConfigError Int := do
  let found ← config.node path
  let raw ← found.value.asInt
  if type.isSigned then .ok (type.staticCast raw)
  else if raw < 0 then
    .error ⟨found.value.location ++ ": value is negative, cannot read as unsigned".toList⟩
  else .ok (type.staticCast raw)

/-! ## Loading -/

/-- What reading a file gives. -/
inductive FileRead where
  | missing
  | broken
  | content (text : Text)

/-- What stands after the last dot. -/
def extension (path : Text) : Text :=
  if '.' ∈ path then (path.reverse.takeWhile (· ≠ '.')).reverse else []

def configFormatFromExtension (path : Text) : Except ConfigError ConfigFormat :=
  if extension path = "json".toList then .ok .json
  else .error ⟨"cannot infer config format from file '".toList ++ path ++
    "', supported extensions: .json".toList⟩

/-- An action on a configuration that may throw. -/
abbrev Action := ExceptT ConfigError (StateM Config)

/-- Run an action: its result, and the configuration that it leaves. -/
def exec {α : Type} (action : Action α) (config : Config) : Except ConfigError α × Config :=
  StateT.run (ExceptT.run action) config

section Actions

variable {α β : Type} (config : Config)

@[simp] theorem exec_pure (value : α) : exec (pure value) config = (.ok value, config) := rfl

@[simp] theorem exec_get : exec MonadState.get config = (.ok config, config) := rfl

@[simp] theorem exec_modify (change : Config → Config) :
    exec (modify change) config = (.ok (), change config) := rfl

@[simp] theorem exec_throw (failure : ConfigError) :
    exec (throw failure : Action α) config = (.error failure, config) := rfl

@[simp] theorem exec_liftExcept (result : Except ConfigError α) :
    exec (liftExcept result) config = (result, config) := by
  cases result <;> rfl

/-- The second action runs where the first one succeeds. -/
@[simp] theorem exec_bind (first : Action α) (second : α → Action β) :
    exec (first >>= second) config =
      match exec first config with
      | (.ok value, next) => exec (second value) next
      | (.error failure, next) => (.error failure, next) := by
  simp only [exec, StateT.run, ExceptT.run, bind, ExceptT.bind, ExceptT.mk, StateT.bind,
    ExceptT.bindCont]
  cases first config with
  | mk result next => cases result <;> rfl

end Actions

section Loading

variable (parse : Text → Except ParseError Document)

def parseConfig (content : Text) : ConfigFormat → Except ConfigError ConfigValue
  | .json => ConfigJson.parseJson parse content
  | .auto => .error ⟨("cannot infer config format for in-memory content, " ++
      "specify the format explicitly").toList⟩

/-- The parsed tree is assigned before the format and the mark. -/
def loadString (content : Text) (format : ConfigFormat) : Action Bool := do
  let config ← MonadState.get
  let resolved := if format = .auto then config.format else format
  let tree ← liftExcept (parseConfig parse content resolved)
  modify fun config => { config with root := tree }
  modify fun config => { config with format := resolved }
  modify fun config => { config with loaded := true }
  return true

/-- The file is read before the format is decided. -/
def loadFile (path : Text) (file : FileRead) : Action Bool := do
  match file with
  | .missing => throw ⟨"cannot open config file '".toList ++ path ++ "'".toList⟩
  | .broken => throw ⟨"cannot read config file '".toList ++ path ++ "'".toList⟩
  | .content text =>
      let config ← MonadState.get
      let resolved ←
        if config.format = .auto then liftExcept (configFormatFromExtension path)
        else pure config.format
      loadString parse text resolved

end Loading

end Config

end Moban
