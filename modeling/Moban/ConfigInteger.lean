import Moban.Config

/-!
# Reading an integer from a configuration

An integer of a document is stored as a signed integer of 64 bits and read as one of four
types. Neither conversion is checked, except that a negative integer is not read as unsigned.
A number is therefore read exactly or refused only if it fits the requested type, or if the
type is unsigned and the stored number is negative, which an integer of at least 2^63 is too.
-/

namespace Moban.Config

open ConfigValue ConfigJson

/-- The numbers of the type. -/
def IntegerType.Represents (type : IntegerType) (value : Int) : Prop :=
  if type.isSigned then -2 ^ (type.width - 1) ≤ value ∧ value < 2 ^ (type.width - 1)
  else 0 ≤ value ∧ value < 2 ^ type.width

/-! ## What is stored -/

theorem nodeAt_append_singleton (root : ConfigValue) (address : List Nat) (position : Nat) :
    root.nodeAt (address ++ [position]) =
      (root.nodeAt address).bind fun value => value.children[position]? := by
  induction address generalizing root with
  | nil => simp [nodeAt]
  | cons first rest ih =>
    rw [List.cons_append, nodeAt, nodeAt, Option.bind_assoc]
    congr 1
    funext child
    exact ih child

/-- A segment leads to a child of the node. -/
theorem advance_child {node next : Node} {segment : Text}
    (advanced : advance node segment = some next) :
    ∃ position, next.address = node.address ++ [position] ∧
      node.value.children[position]? = some next.value := by
  cases shape : node.value with
  | array items place =>
    simp only [advance, shape] at advanced
    split_ifs at advanced
    obtain ⟨item, there, rfl⟩ := Option.map_eq_some_iff.mp advanced
    exact ⟨_, rfl, there⟩
  | object fields place =>
    simp only [advance, shape] at advanced
    split_ifs at advanced
    obtain ⟨⟨position, value⟩, found, rfl⟩ := Option.map_eq_some_iff.mp advanced
    exact ⟨position, rfl, by simp [children, firstField_inv found]⟩
  | _ => simp [advance, shape] at advanced

/-- What `find` gives stands at its address in the tree. -/
theorem foldlM_advance_nodeAt {root : ConfigValue} {segments : List Text} {node last : Node}
    (stands : root.nodeAt node.address = some node.value)
    (found : segments.foldlM advance node = some last) :
    root.nodeAt last.address = some last.value := by
  induction segments generalizing node with
  | nil =>
    cases found
    exact stands
  | cons segment rest ih =>
    obtain ⟨next, advanced, remaining⟩ := Option.bind_eq_some_iff.mp found
    obtain ⟨position, place, child⟩ := advance_child advanced
    refine ih ?_ remaining
    rw [place, nodeAt_append_singleton, stands]
    exact child

theorem find_nodeAt {config : Config} {path : Text} {node : Node}
    (found : config.find path = .ok (some node)) :
    config.root.nodeAt node.address = some node.value := by
  unfold find at found
  split_ifs at found
  · cases found
    rfl
  · exact foldlM_advance_nodeAt rfl (Except.ok.inj found)

/-- The number that is stored for an integer of a document. -/
def stored (literal : IntegerLiteral) : Int :=
  if literal.1 < 2 ^ 63 then literal.1 else literal.1 - 2 ^ 64

theorem convert_integer (literal : IntegerLiteral) (path : Text) :
    convert (.integer literal) path = .ok (.int (stored literal) path) := by
  obtain ⟨value, low, high⟩ := literal
  have same : (if 0 ≤ value then toInt64 value else value) =
      if value < 2 ^ 63 then value else value - 2 ^ 64 := by
    unfold toInt64
    rw [Int.bmod_def]
    split_ifs <;> omega
  rw [convert, ← apply_ite (fun number => Except.ok (ConfigValue.int number path)), same]
  rfl

/-- The node that a path finds where the document has an integer holds the stored number. -/
theorem find_integer {parse : Text → Except ParseError Document} {content : Text}
    {document : Document} {config : Config} {path : Text} {node : Node} {literal : IntegerLiteral}
    (parsed : parse content = .ok document) (built : parseJson parse content = .ok config.root)
    (found : config.find path = .ok (some node))
    (there : document.root.nodeAt node.address = some (.integer literal)) :
    ∃ place, node.value = .int (stored literal) place := by
  have converted : convert document.root [] = .ok config.root := by
    rw [parseJson, parsed] at built
    dsimp only at built
    split at built
    case h_1 shape => rwa [shape]
    · cases built
  have related := convert_nodeAt converted node.address
  rw [there, find_nodeAt found, Option.rel_some_some] at related
  obtain ⟨place, same⟩ := related
  rw [convert_integer] at same
  exact ⟨place, (Except.ok.inj same).symm⟩

/-! ## What is read -/

/-- Reading a stored number refuses it, or gives what the cast makes of it. -/
theorem get_of_find {config : Config} (type : IntegerType) {path place : Text} {node : Node}
    {raw : Int} (found : config.find path = .ok (some node)) (value : node.value = .int raw place) :
    (type.isSigned = false ∧ raw < 0 ∧ ∃ failure, config.get type path = .error failure) ∨
      ((type.isSigned = true ∨ 0 ≤ raw) ∧ config.get type path = .ok (type.staticCast raw)) := by
  have located : config.node path = .ok node := by
    rw [Config.node, found]
    rfl
  have read : config.get type path =
      if type.isSigned then .ok (type.staticCast raw)
      else if raw < 0 then
        .error ⟨node.value.location ++ ": value is negative, cannot read as unsigned".toList⟩
      else .ok (type.staticCast raw) := by
    have integer : node.value.asInt = .ok raw := by
      rw [value]
      rfl
    simp only [Config.get, located, bind, Except.bind, integer]
  rw [read]
  split_ifs with signed negative
  · exact .inr ⟨.inl signed, rfl⟩
  · exact .inl ⟨by simpa using signed, negative, _, rfl⟩
  · exact .inr ⟨.inr (not_lt.mp negative), rfl⟩

/-- A stored number that is read is cast to the number of the document exactly if the type has
it.

Proof: the cast gives a number of the type, which is the stored number itself if that is one. A
number of at least 2^63 is stored as a negative one, so it is read only as a signed type, which
does not have it. -/
theorem staticCast_stored_iff (type : IntegerType) (literal : IntegerLiteral)
    (read : type.isSigned = true ∨ 0 ≤ stored literal) :
    type.staticCast (stored literal) = literal.1 ↔ type.Represents literal.1 := by
  obtain ⟨value, low, high⟩ := literal
  have range : -2 ^ 63 ≤ stored ⟨value, low, high⟩ ∧ stored ⟨value, low, high⟩ < 2 ^ 63 ∧
      (stored ⟨value, low, high⟩ = value ∧ value < 2 ^ 63 ∨
        stored ⟨value, low, high⟩ = value - 2 ^ 64 ∧ 2 ^ 63 ≤ value) := by
    simp only [stored]
    split_ifs <;> omega
  generalize stored ⟨value, low, high⟩ = raw at range read
  cases type with
  | int32 =>
    change raw.bmod (2 ^ 32) = value ↔ -2 ^ 31 ≤ value ∧ value < 2 ^ 31
    rw [Int.bmod_def]
    split_ifs <;> omega
  | uint32 =>
    change raw % 2 ^ 32 = value ↔ 0 ≤ value ∧ value < 2 ^ 32
    have nonnegative : 0 ≤ raw := read.resolve_left Bool.false_ne_true
    omega
  | int64 =>
    change raw.bmod (2 ^ 64) = value ↔ -2 ^ 63 ≤ value ∧ value < 2 ^ 63
    rw [Int.bmod_def]
    split_ifs <;> omega
  | uint64 =>
    change raw % 2 ^ 64 = value ↔ 0 ≤ value ∧ value < 2 ^ 64
    have nonnegative : 0 ≤ raw := read.resolve_left Bool.false_ne_true
    omega

/-- An integer of a document is read exactly or refused if and only if the requested type has
it, or the type is unsigned and the integer is negative or at least 2^63.

Proof: the value that the path finds holds the stored number, which is refused exactly if it is
negative and the type unsigned, and is cast otherwise. -/
theorem get_exact_iff (parse : Text → Except ParseError Document) (content : Text)
    (document : Document) (config : Config) (type : IntegerType) (path : Text) (node : Node)
    (literal : IntegerLiteral) (parsed : parse content = .ok document)
    (built : parseJson parse content = .ok config.root) (found : config.find path = .ok (some node))
    (there : document.root.nodeAt node.address = some (.integer literal)) :
    (∀ value, config.get type path = .ok value → value = literal.1) ↔
      type.Represents literal.1 ∨
        (type.isSigned = false ∧ (literal.1 < 0 ∨ 2 ^ 63 ≤ literal.1)) := by
  obtain ⟨place, holds⟩ := find_integer parsed built found there
  have negative : stored literal < 0 ↔ literal.1 < 0 ∨ 2 ^ 63 ≤ literal.1 := by
    obtain ⟨value, low, high⟩ := literal
    simp only [stored]
    split_ifs <;> omega
  rcases get_of_find type found holds with ⟨unsigned, below, failure, failed⟩ | ⟨read, done⟩
  · refine ⟨fun _ => .inr ⟨unsigned, negative.mp below⟩, ?_⟩
    intro _ value done
    cases failed.symm.trans done
  · rw [done, ← staticCast_stored_iff type literal read]
    have admitted : ¬ (type.isSigned = false ∧ (literal.1 < 0 ∨ 2 ^ 63 ≤ literal.1)) := by
      rintro ⟨unsigned, outside⟩
      rcases read with signed | nonnegative
      · cases unsigned.symm.trans signed
      · exact absurd (negative.mpr outside) (not_lt.mpr nonnegative)
    rw [or_iff_left admitted]
    constructor
    · intro exactly
      exact exactly _ rfl
    · intro same value returned
      exact (Except.ok.inj returned).symm.trans same

/-- The document `{"quota": 4294967297, "port": 8080, "mask": 9223372036854775808}`. -/
def quotas : Document where
  root := .object [("quota".toList, .integer ⟨4294967297, by decide⟩),
    ("port".toList, .integer ⟨8080, by decide⟩),
    ("mask".toList, .integer ⟨9223372036854775808, by decide⟩)]
  sized := by simp [Json.Sized]

/-- The configuration that has loaded the document. -/
def quotasConfig : Config where
  format := .json
  root := .object [("quota".toList, .int 4294967297 "quota".toList),
    ("port".toList, .int 8080 "port".toList),
    ("mask".toList, .int (-9223372036854775808) "mask".toList)] []
  loaded := true

/-- A port fits. -/
theorem get_exact_iff_port :
    quotasConfig.find "port".toList = .ok (some ⟨[1], .int 8080 "port".toList⟩) ∧
      ∀ value, quotasConfig.get .uint32 "port".toList = .ok value → value = 8080 := by
  have found : quotasConfig.find "port".toList = .ok (some ⟨[1], .int 8080 "port".toList⟩) := by rfl
  have fits : IntegerType.uint32.Represents 8080 := by
    change (0 : Int) ≤ 8080 ∧ (8080 : Int) < 2 ^ 32
    decide
  refine ⟨found, ?_⟩
  exact (get_exact_iff (fun _ => .ok quotas) [] quotas quotasConfig .uint32 "port".toList _
    ⟨8080, by decide⟩ rfl rfl found rfl).mpr (.inl fits)

/-- A number that does not fit 32 bits is read as another number, with either sign of the type,
and a number of 64 bits without a sign is read as a negative one. -/
theorem get_wraps : parseJson (fun _ => .ok quotas) [] = .ok quotasConfig.root ∧
      quotasConfig.get .uint32 "quota".toList = .ok 1 ∧
      quotasConfig.get .int32 "quota".toList = .ok 1 ∧
      quotasConfig.get .int64 "mask".toList = .ok (-9223372036854775808) :=
  ⟨rfl, rfl, rfl, rfl⟩

end Moban.Config
