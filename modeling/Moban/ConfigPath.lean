import Moban.Config

/-!
# The path of a node finds the node

The backend writes the path of a node while it converts the document, and `find` takes a path
apart again. The meaning of a segment of digits depends on the node it is applied to: an index
below an array, a key below an object. Both sides go down the tree together, so a path leads
back to its node for every chain of indices and keys whose keys are not empty and contain no
dot, whatever the keys beside them are.
-/

namespace Moban.Config

open ConfigValue ConfigJson

/-- One use of the operator `[]`. -/
inductive PathStep where
  | index (index : Nat)
  | key (key : Text)
deriving DecidableEq

namespace PathStep

/-- The segment that stands for the step in a path. -/
def text : PathStep → Text
  | .index position => Nat.toDigits 10 position
  | .key name => name

/-- A key that can stand in a path: it is not empty and contains no dot. -/
def Plain : PathStep → Prop
  | .index _ => True
  | .key name => name ≠ [] ∧ '.' ∉ name

instance : DecidablePred Plain
  | .index _ => instDecidableTrue
  | .key _ => instDecidableAnd

theorem not_isDigit_dot : Char.isDigit '.' = false := by decide

/-- The segment of a plain step is a segment. -/
theorem Plain.text {step : PathStep} (plain : step.Plain) : step.text ≠ [] ∧ '.' ∉ step.text := by
  cases step with
  | key key => exact plain
  | index index =>
    refine ⟨Nat.toDigits_ne_nil, ?_⟩
    intro member
    have digit := Nat.isDigit_of_mem_toDigits (by decide) (by decide) member
    exact absurd (not_isDigit_dot.symm.trans digit) Bool.false_ne_true

end PathStep

def subscript (node : Node) : PathStep → Except ConfigError Node
  | .index index => node.subscriptIndex index
  | .key key => node.subscriptKey key

/-- Go down a chain of indices and keys. -/
def descend (chain : List PathStep) (node : Node) : Except ConfigError Node :=
  chain.foldlM subscript node

/-! ## One step -/

/-- The value of the node was converted, with the path, from a part of a parsed document. -/
def Placed (node : Node) (path : Text) : Prop :=
  ∃ part : Json, part.Everywhere Json.Sized ∧ convert part path = .ok node.value

section Steps

variable {node next : Node} {path : Text}

theorem subscriptIndex_inv {index : Nat} (done : node.subscriptIndex index = .ok next) :
    ∃ items place item, node.value = .array items place ∧ items[index]? = some item ∧
      next = ⟨node.address ++ [index], item⟩ := by
  obtain ⟨items, listed, found⟩ := bind_eq_ok_iff.mp done
  cases shape : node.value with
  | array stored place =>
    rw [shape] at listed
    cases listed
    cases there : items[index]? with
    | none => simp [there] at found
    | some item =>
      simp only [there] at found
      cases found
      exact ⟨items, place, item, rfl, there, rfl⟩
  | _ => simp [shape, asArray, typeError] at listed

theorem subscriptKey_inv {key : Text} (done : node.subscriptKey key = .ok next) :
    ∃ fields place position value, node.value = .object fields place ∧
      firstField fields key = some (position, value) ∧
      next = ⟨node.address ++ [position], value⟩ := by
  obtain ⟨fields, listed, found⟩ := bind_eq_ok_iff.mp done
  cases shape : node.value with
  | object stored place =>
    rw [shape] at listed
    cases listed
    cases there : firstField fields key with
    | none => simp [there] at found
    | some entry =>
      simp only [there] at found
      cases found
      exact ⟨fields, place, _, _, rfl, there, rfl⟩
  | _ => simp [shape, asObject, typeError] at listed

/-- The number of an element has few digits, is recognised as an index and is read back. -/
theorem advance_index {items : ConfigArray} {place : Text} {index : Nat} {item : ConfigValue}
    (shape : node.value = .array items place) (short : items.length < 2 ^ 32)
    (there : items[index]? = some item) :
    advance node (Nat.toDigits 10 index) = some ⟨node.address ++ [index], item⟩ := by
  obtain ⟨inside, _⟩ := List.getElem?_eq_some_iff.mp there
  have nonempty : (Nat.toDigits 10 index).isEmpty = false := by simp [Nat.toDigits_ne_nil]
  have digits : isIndex (Nat.toDigits 10 index) = true := by
    rw [isIndex, nonempty, Bool.not_false, Bool.true_and, List.all_eq_true]
    intro character member
    exact Nat.isDigit_of_mem_toDigits (by decide) (by decide) member
  have fits : ¬ 19 < (Nat.toDigits 10 index).length := by
    rw [not_lt, Nat.length_toDigits_le_iff (by decide) (by decide)]
    omega
  simp [advance, nonempty, shape, digits, fits, Nat.ofDigitChars_ten_toDigits, there]

/-- A step of the operator goes to a placed node, and the segment of the step leads there. -/
theorem subscript_placed {step : PathStep} (placed : Placed node path)
    (done : subscript node step = .ok next) (plain : step.Plain) :
    Placed next (childPath path step.text) ∧ advance node step.text = some next := by
  obtain ⟨part, sized, converted⟩ := placed
  cases step with
  | index index =>
    obtain ⟨items, place, item, shape, there, rfl⟩ := subscriptIndex_inv done
    rw [shape] at converted
    obtain ⟨elements, rfl, listed⟩ := convert_eq_array converted
    obtain ⟨short, inside⟩ := Json.everywhere_array.mp sized
    have related := convertItems_rel listed index
    rw [there, Nat.zero_add] at related
    generalize source : elements[index]? = element at related
    cases related with
    | some same =>
      refine ⟨⟨_, inside _ (List.mem_of_getElem? source), same⟩, ?_⟩
      exact advance_index shape (convertItems_length listed ▸ short) there
  | key key =>
    obtain ⟨fields, place, position, value, shape, found, rfl⟩ := subscriptKey_inv done
    rw [shape] at converted
    obtain ⟨members, rfl, listed⟩ := convert_eq_object converted
    obtain ⟨_, inside⟩ := Json.everywhere_object.mp sized
    have related := convertFields_rel listed position
    rw [firstField_inv found] at related
    generalize source : members[position]? = member at related
    cases related with
    | some same =>
      refine ⟨⟨_, inside _ (List.mem_of_getElem? source), same.2⟩, ?_⟩
      have nonempty : key.isEmpty = false := by simpa using plain.1
      simp [advance, PathStep.text, nonempty, shape, found]

end Steps

/-! ## Chains -/

/-- The path at the end of a chain. -/
def pathAlong (path : Text) (chain : List PathStep) : Text :=
  chain.foldl (fun path step => childPath path step.text) path

variable {chain : List PathStep}

/-- Going down a chain with the operator and with the segments of its steps gives the same node,
and its path is that of the chain.

Proof: induction over the chain, with the placed node as the invariant. -/
theorem descend_placed {node last : Node} {path : Text}
    (placed : Placed node path) (plain : ∀ step ∈ chain, step.Plain)
    (done : descend chain node = .ok last) :
    last.value.path = pathAlong path chain ∧
      (chain.map PathStep.text).foldlM advance node = some last := by
  induction chain generalizing node path with
  | nil =>
    cases done
    obtain ⟨_, _, converted⟩ := placed
    exact ⟨convert_path converted, rfl⟩
  | cons step rest ih =>
    rw [List.forall_mem_cons] at plain
    rw [descend, List.foldlM_cons] at done
    obtain ⟨next, stepped, remaining⟩ := bind_eq_ok_iff.mp done
    obtain ⟨moved, advanced⟩ := subscript_placed placed stepped plain.1
    obtain ⟨named, found⟩ := ih moved plain.2 remaining
    refine ⟨named, ?_⟩
    rw [List.map_cons, List.foldlM_cons, advanced]
    exact found

/-- Below a node with a path, every step adds a dot and its segment. -/
theorem pathAlong_of_ne_nil {path : Text} (nonempty : path ≠ []) (chain : List PathStep) :
    pathAlong path chain = path ++ chain.flatMap fun step => '.' :: step.text := by
  induction chain generalizing path with
  | nil => simp [pathAlong]
  | cons step rest ih =>
    have longer : childPath path step.text = path ++ '.' :: step.text := by
      simp [childPath, nonempty]
    calc pathAlong path (step :: rest)
        = pathAlong (path ++ '.' :: step.text) rest := by
          rw [pathAlong, List.foldl_cons, longer, pathAlong]
      _ = path ++ '.' :: step.text ++ rest.flatMap fun step => '.' :: step.text :=
          ih (by simp)
      _ = path ++ (step :: rest).flatMap fun step => '.' :: step.text := by simp

/-- Segments without dots are taken apart again. -/
theorem splitOn_segments {first : Text} (single : '.' ∉ first)
    (plain : ∀ step ∈ chain, step.Plain) :
    (first ++ chain.flatMap fun step => '.' :: step.text).splitOn '.' =
      first :: chain.map PathStep.text := by
  induction chain generalizing first with
  | nil => simpa using List.splitOn_eq_singleton single
  | cons step rest ih =>
    rw [List.forall_mem_cons] at plain
    rw [List.flatMap_cons, List.cons_append, List.splitOn_append_cons_self_of_not_mem single,
      ih plain.1.text.2 plain.2, List.map_cons]

/-- The path of a chain from the root is empty for the root alone, and has the segments of the
steps otherwise. -/
theorem pathAlong_root {step : PathStep} {rest : List PathStep}
    (plain : ∀ other ∈ step :: rest, other.Plain) :
    pathAlong [] (step :: rest) ≠ [] ∧
      (pathAlong [] (step :: rest)).splitOn '.' = (step :: rest).map PathStep.text := by
  rw [List.forall_mem_cons] at plain
  obtain ⟨nonempty, single⟩ := plain.1.text
  have first : pathAlong [] (step :: rest) = pathAlong step.text rest := rfl
  rw [first, pathAlong_of_ne_nil nonempty, splitOn_segments single plain.2]
  exact ⟨by simp [nonempty], rfl⟩

theorem parseJson_placed {parse : Text → Except ParseError Document} {content : Text}
    {root : ConfigValue} (parsed : parseJson parse content = .ok root) : Placed ⟨[], root⟩ [] := by
  unfold parseJson at parsed
  split at parsed
  · cases parsed
  case h_2 document _ =>
    split at parsed
    case h_1 members shape => exact ⟨.object members, shape ▸ document.sized, parsed⟩
    · cases parsed

/-- Following a plain chain from the root of a parsed tree, and looking up the path of the node at
its end, gives the same node. -/
theorem find_descend {parse : Text → Except ParseError Document} {content : Text} {config : Config}
    (parsed : parseJson parse content = .ok config.root) (loaded : config.loaded = true)
    {node : Node} (plain : ∀ step ∈ chain, step.Plain)
    (done : descend chain ⟨[], config.root⟩ = .ok node) :
    config.find node.value.path = .ok (some node) := by
  obtain ⟨named, found⟩ := descend_placed (parseJson_placed parsed) plain done
  rw [named]
  cases chain with
  | nil =>
    cases done
    simp [find, loaded, pathAlong]
  | cons step rest =>
    obtain ⟨nonempty, segments⟩ := pathAlong_root plain
    simp only [find, loaded, List.isEmpty_eq_false_iff.mpr nonempty, segments, found]
    rfl

/-- The path of a node finds that very node, for every node of a parsed tree that is reached
through indices and plain keys, and two such nodes have different paths.

Proof: the operator and the segments of the path go down the tree together, step by step; two
nodes with one path are both what that path finds. -/
theorem path_finds_node (parse : Text → Except ParseError Document) (content : Text)
    (config : Config) (loaded : config.loaded = true)
    (parsed : parseJson parse content = .ok config.root) :
    (∀ chain node, (∀ step ∈ chain, step.Plain) → descend chain ⟨[], config.root⟩ = .ok node →
      config.find node.value.path = .ok (some node)) ∧
    (∀ firstChain secondChain first second, (∀ step ∈ firstChain, step.Plain) →
      (∀ step ∈ secondChain, step.Plain) → descend firstChain ⟨[], config.root⟩ = .ok first →
      descend secondChain ⟨[], config.root⟩ = .ok second → first ≠ second →
      first.value.path ≠ second.value.path) := by
  refine ⟨fun chain node plain done => find_descend parsed loaded plain done, ?_⟩
  intro firstChain secondChain first second firstPlain secondPlain firstDone secondDone
    different same
  have firstFound := find_descend parsed loaded firstPlain firstDone
  have secondFound := find_descend parsed loaded secondPlain secondDone
  rw [same] at firstFound
  cases firstFound.symm.trans secondFound
  exact different rfl

/-- The document `{"a.b": 7, "a": {"b": 8, "0": [9]}}`. -/
def dotted : Document where
  root := .object [("a.b".toList, .integer ⟨7, by decide⟩),
    ("a".toList, .object [("b".toList, .integer ⟨8, by decide⟩),
      ("0".toList, .array [.integer ⟨9, by decide⟩])])]
  sized := by
    simp only [Json.everywhere_object, Json.everywhere_array, Json.everywhere_integer, Json.Sized,
      List.forall_mem_cons, List.length_singleton, List.not_mem_nil, false_implies, implies_true,
      and_true, true_and]
    decide

/-- The configuration that has loaded the document. -/
def dottedConfig : Config where
  format := .json
  root := .object [("a.b".toList, .int 7 "a.b".toList),
    ("a".toList, .object [("b".toList, .int 8 "a.b".toList),
      ("0".toList, .array [.int 9 "a.0.0".toList] "a.0".toList)] "a".toList)] []
  loaded := true

/-- A path goes through the objects and not to the dotted key. -/
theorem path_finds_node_dotted : dottedConfig.loaded = true ∧
      parseJson (fun _ => .ok dotted) [] = .ok dottedConfig.root ∧
      dottedConfig.find "a.b".toList = .ok (some ⟨[1, 0], .int 8 "a.b".toList⟩) ∧
      dottedConfig.find "a.0.0".toList = .ok (some ⟨[1, 1, 0], .int 9 "a.0.0".toList⟩) := by
  have parsed : parseJson (fun _ => .ok dotted) [] = .ok dottedConfig.root := by rfl
  obtain ⟨finds, _⟩ := path_finds_node (fun _ => .ok dotted) [] dottedConfig rfl parsed
  refine ⟨rfl, parsed, ?_, ?_⟩
  · exact finds [.key "a".toList, .key "b".toList] _ (by decide) rfl
  · exact finds [.key "a".toList, .key "0".toList, .index 0] _ (by decide) rfl

end Moban.Config
