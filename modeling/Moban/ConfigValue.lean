import Moban.Fallible

/-!
# The tree of configuration values

Every node carries its dotted path, which the parser gives it. A node is identified by its
address, the positions of its ancestors and itself among their siblings, so that two nodes with
equal contents are told apart. Texts are sequences of characters; a failure is an error with
the text that the source gives it.
-/

namespace Moban

abbrev Text := List Char

structure ConfigError where
  what : Text
deriving DecidableEq

/-- The constructors are the functions `make_null` to `make_array` of the source. An object is
made by `makeObject`, which checks its fields. -/
inductive ConfigValue where
  | null (path : Text)
  | bool (value : Bool) (path : Text)
  /-- A signed integer of 64 bits. -/
  | int (value : Int) (path : Text)
  | double (value : BitVec 64) (path : Text)
  | string (value : Text) (path : Text)
  | array (items : List ConfigValue) (path : Text)
  | object (fields : List (Text × ConfigValue)) (path : Text)

abbrev ConfigArray := List ConfigValue

abbrev ConfigObject := List (Text × ConfigValue)

namespace ConfigValue

def path : ConfigValue → Text
  | null path | bool _ path | int _ path | double _ path | string _ path | array _ path
  | object _ path => path

def typeName : ConfigValue → Text
  | null _ => "null".toList
  | bool _ _ => "bool".toList
  | int _ _ => "int".toList
  | double _ _ => "double".toList
  | string _ _ => "string".toList
  | array _ _ => "array".toList
  | object _ _ => "object".toList

/-- The path of a child. -/
def childPath (parent key : Text) : Text :=
  if parent.isEmpty then key else parent ++ '.' :: key

/-- The second field of the first pair with equal keys. -/
def duplicate? : ConfigObject → Option (Text × ConfigValue)
  | [] => none
  | field :: rest =>
      match rest.find? fun other => field.1 == other.1 with
      | some other => some other
      | none => duplicate? rest

/-- An object with two equal keys is refused. -/
def makeObject (fields : ConfigObject) (path : Text) : Except ConfigError ConfigValue :=
  match duplicate? fields with
  | some (key, value) =>
      .error ⟨(if value.path.isEmpty then childPath path key else value.path) ++
        ": duplicate key".toList⟩
  | none => .ok (.object fields path)

/-- The path for messages, in which the root has a name. -/
def location (value : ConfigValue) : Text :=
  if value.path.isEmpty then "<root>".toList else value.path

def typeError {α : Type} (value : ConfigValue) (expected : Text) : Except ConfigError α :=
  .error ⟨(if value.path.isEmpty then [] else value.path ++ ": ".toList) ++
    "expected ".toList ++ expected ++ ", got ".toList ++ value.typeName⟩

def asInt : ConfigValue → Except ConfigError Int
  | .int value _ => .ok value
  | other => other.typeError "int".toList

def asArray : ConfigValue → Except ConfigError ConfigArray
  | .array items _ => .ok items
  | other => other.typeError "array".toList

def asObject : ConfigValue → Except ConfigError ConfigObject
  | .object fields _ => .ok fields
  | other => other.typeError "object".toList

/-- The first field with the key, and its position. -/
def firstField (fields : ConfigObject) (key : Text) : Option (Nat × ConfigValue) := do
  let position ← fields.findIdx? fun field => field.1 == key
  let field ← fields[position]?
  return (position, field.2)

def children : ConfigValue → List ConfigValue
  | .array items _ => items
  | .object fields _ => fields.map Prod.snd
  | _ => []

/-- The value at an address. -/
def nodeAt : ConfigValue → List Nat → Option ConfigValue
  | value, [] => some value
  | value, position :: rest => value.children[position]?.bind fun child => child.nodeAt rest

end ConfigValue

/-- A node of a tree: where it is and what it is. -/
structure Node where
  address : List Nat
  value : ConfigValue

namespace Node

/-- The operator `[]` with a key. -/
def subscriptKey (node : Node) (key : Text) : Except ConfigError Node := do
  let fields ← node.value.asObject
  match ConfigValue.firstField fields key with
  | some (position, value) => .ok ⟨node.address ++ [position], value⟩
  | none => .error ⟨node.value.location ++ ": key '".toList ++ key ++ "' not found".toList⟩

/-- The operator `[]` with an index. -/
def subscriptIndex (node : Node) (index : Nat) : Except ConfigError Node := do
  let items ← node.value.asArray
  match items[index]? with
  | some value => .ok ⟨node.address ++ [index], value⟩
  | none => .error ⟨node.value.location ++ ": index ".toList ++ Nat.toDigits 10 index ++
      " out of range, size is ".toList ++ Nat.toDigits 10 items.length⟩

end Node

namespace ConfigValue

theorem firstField_inv {fields : ConfigObject} {key : Text} {position : Nat} {value : ConfigValue}
    (found : firstField fields key = some (position, value)) :
    fields[position]? = some (key, value) := by
  obtain ⟨index, first, rest⟩ := Option.bind_eq_some_iff.mp found
  obtain ⟨⟨name, stored⟩, entry, same⟩ := Option.bind_eq_some_iff.mp rest
  cases same
  obtain ⟨inside, named, _⟩ := List.findIdx?_eq_some_iff_getElem.mp first
  obtain ⟨_, there⟩ := List.getElem?_eq_some_iff.mp entry
  have equal : name = key := by simpa [there] using named
  rw [entry, equal]

/-- An object is refused exactly when two of its keys are equal.

Proof: the search for a duplicate skips a field exactly when its key does not occur later. -/
theorem duplicate?_eq_none_iff (fields : ConfigObject) :
    duplicate? fields = none ↔ (fields.map Prod.fst).Nodup := by
  induction fields with
  | nil => simp [duplicate?]
  | cons field rest ih =>
    rw [List.map_cons, List.nodup_cons, ← ih]
    cases later : rest.find? fun other => field.1 == other.1 with
    | none =>
      have absent : field.1 ∉ rest.map Prod.fst := by
        intro member
        obtain ⟨other, inside, same⟩ := List.mem_map.mp member
        have different := List.find?_eq_none.mp later other inside
        exact different (by simp [same])
      simp [duplicate?, later, absent]
    | some other =>
      have present : field.1 ∈ rest.map Prod.fst := by
        have same := List.find?_some later
        rw [beq_iff_eq] at same
        exact List.mem_map.mpr ⟨other, List.mem_of_find?_eq_some later, same.symm⟩
      simp [duplicate?, later, present]

end ConfigValue

end Moban
