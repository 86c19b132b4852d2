import Moban.ConfigValue

/-!
# The JSON backend

The parsed document is converted recursively into the tree of configuration values. Names and
strings pass through the interface of C strings, where a text ends at its first null character.
The conversion of an object is checked for equal keys after its members are converted, so the
check sees the converted names.

The conversion preserves a document in which no name and no string contains the null character.
In any other document without equal names in one object it changes a string, or a name, or
refuses the document.
-/

namespace Moban

/-- An integer that the parser represents exactly; other numbers are doubles. -/
abbrev IntegerLiteral := { value : Int // -2 ^ 63 ≤ value ∧ value < 2 ^ 64 }

/-- A parsed document, with decoded names and strings. -/
inductive Json where
  | null
  | bool (value : Bool)
  | integer (literal : IntegerLiteral)
  | double (value : BitVec 64)
  | string (text : Text)
  | array (elements : List Json)
  | object (members : List (Text × Json))

variable {document : Json} {members : List (Text × Json)} {elements : List Json}

namespace Json

def typeName : Json → Text
  | null => "null".toList
  | bool _ => "bool".toList
  | integer _ | double _ => "number".toList
  | string _ => "string".toList
  | array _ => "array".toList
  | object _ => "object".toList

def children : Json → List Json
  | array elements => elements
  | object members => members.map Prod.snd
  | _ => []

/-- The value at an address. -/
def nodeAt : Json → List Nat → Option Json
  | value, [] => some value
  | value, position :: rest => value.children[position]?.bind fun child => child.nodeAt rest

/-- Structural induction over documents. -/
theorem induct {motive : Json → Prop} (null : motive null) (bool : ∀ value, motive (bool value))
    (integer : ∀ literal, motive (integer literal)) (double : ∀ value, motive (double value))
    (string : ∀ text, motive (string text))
    (array : ∀ elements, (∀ element ∈ elements, motive element) → motive (array elements))
    (object : ∀ members, (∀ member ∈ members, motive member.2) → motive (object members))
    (document : Json) : motive document :=
  @Json.rec motive (fun elements => ∀ element ∈ elements, motive element)
    (fun members => ∀ member ∈ members, motive member.2) (fun member => motive member.2)
    null bool integer double string array object
    (by simp) (fun _ _ first rest => List.forall_mem_cons.mpr ⟨first, rest⟩)
    (by simp) (fun _ _ first rest => List.forall_mem_cons.mpr ⟨first, rest⟩)
    (fun _ _ value => value) document

/-- The value and everything it contains have the property. -/
def Everywhere (property : Json → Prop) (document : Json) : Prop :=
  ∀ address part, document.nodeAt address = some part → property part

section Everywhere

variable {property : Json → Prop}

/-- A property of everything in a value is one of the value and of everything in its children. -/
theorem everywhere_iff : Everywhere property document ↔
      property document ∧ ∀ child ∈ document.children, Everywhere property child := by
  constructor
  · intro everywhere
    refine ⟨everywhere [] document rfl, ?_⟩
    intro child member address part found
    obtain ⟨position, there⟩ := List.mem_iff_getElem?.mp member
    exact everywhere (position :: address) part (by simp [nodeAt, there, found])
  · rintro ⟨here, inside⟩ address part found
    cases address with
    | nil =>
      cases found
      exact here
    | cons position rest =>
      obtain ⟨child, there, below⟩ := Option.bind_eq_some_iff.mp found
      exact inside child (List.mem_of_getElem? there) rest part below

@[simp] theorem everywhere_array : Everywhere property (array elements) ↔
      property (array elements) ∧ ∀ element ∈ elements, Everywhere property element :=
  everywhere_iff

@[simp] theorem everywhere_object : Everywhere property (object members) ↔
      property (object members) ∧ ∀ member ∈ members, Everywhere property member.2 := by
  rw [everywhere_iff, children, List.forall_mem_map]

@[simp] theorem everywhere_string {text : Text} :
    Everywhere property (string text) ↔ property (string text) := by
  rw [everywhere_iff]
  simp [children]

@[simp] theorem everywhere_integer {literal : IntegerLiteral} :
    Everywhere property (integer literal) ↔ property (integer literal) := by
  rw [everywhere_iff]
  simp [children]

end Everywhere

/-- The names of an object. -/
def names : Json → List Text
  | object members => members.map Prod.fst
  | _ => []

/-- The parser counts the elements of an array with 32 bits. -/
def Sized : Json → Prop
  | array elements => elements.length < 2 ^ 32
  | _ => True

end Json

/-- A parsed document. -/
structure Document where
  root : Json
  sized : root.Everywhere Json.Sized

/-- Where parsing failed, and why. -/
structure ParseError where
  offset : Nat
  message : Text

/-- The text that a C string shows. -/
def getString (text : Text) : Text := text.takeWhile (· ≠ '\x00')

/-- The cast of an unsigned integer of 64 bits. -/
def toInt64 (value : Int) : Int := value.bmod (2 ^ 64)

namespace ConfigJson

open ConfigValue

mutual

/-- Convert a value. An integer that is not negative is read as unsigned, the others as signed. -/
def convert : Json → Text → Except ConfigError ConfigValue
  | .null, path => .ok (.null path)
  | .bool value, path => .ok (.bool value path)
  | .integer literal, path =>
      if 0 ≤ literal.1 then .ok (.int (toInt64 literal.1) path) else .ok (.int literal.1 path)
  | .double value, path => .ok (.double value path)
  | .string text, path => .ok (.string (getString text) path)
  | .array elements, path => do
      let items ← convertItems elements path 0
      .ok (.array items path)
  | .object members, path => do
      let fields ← convertFields members path
      makeObject fields path

/-- Convert the elements of an array, from the given index on. -/
def convertItems : List Json → Text → Nat → Except ConfigError ConfigArray
  | [], _, _ => .ok []
  | element :: rest, path, index => do
      let item ← convert element (childPath path (Nat.toDigits 10 index))
      let items ← convertItems rest path (index + 1)
      .ok (item :: items)

/-- Convert the members of an object. -/
def convertFields : List (Text × Json) → Text → Except ConfigError ConfigObject
  | [], _ => .ok []
  | (name, value) :: rest, path => do
      let field ← convert value (childPath path (getString name))
      let fields ← convertFields rest path
      .ok ((getString name, field) :: fields)

end

/-- Parse a text and convert the document, whose root must be an object. -/
def parseJson (parse : Text → Except ParseError Document) (content : Text) :
    Except ConfigError ConfigValue :=
  match parse content with
  | .error failure =>
      .error ⟨"json parse error at offset ".toList ++ Nat.toDigits 10 failure.offset ++
        ": ".toList ++ failure.message⟩
  | .ok document =>
      match document.root with
      | .object members => convert (.object members) []
      | other => .error ⟨"json root must be an object, got ".toList ++ other.typeName⟩

/-! ## What the conversion gives -/

/-- The elements of an array are converted one after the other, each with its index. -/
theorem convertItems_eq (elements : List Json) (path : Text) (index : Nat) :
    convertItems elements path index =
      (elements.zipIdx index).mapM fun entry =>
        convert entry.1 (childPath path (Nat.toDigits 10 entry.2)) := by
  induction elements generalizing index with
  | nil => rfl
  | cons first rest ih =>
    rw [convertItems, List.zipIdx_cons, List.mapM_cons, ih]
    rfl

/-- The conversion of a member: its name is cut, and its value gets the path with that name. -/
def convertMember (path : Text) (member : Text × Json) :
    Except ConfigError (Text × ConfigValue) := do
  let field ← convert member.2 (childPath path (getString member.1))
  .ok (getString member.1, field)

/-- The members of an object are converted one after the other. -/
theorem convertFields_eq (members : List (Text × Json)) (path : Text) :
    convertFields members path = members.mapM (convertMember path) := by
  induction members with
  | nil => rfl
  | cons first rest ih =>
    rw [convertFields, List.mapM_cons, ih, convertMember, bind_assoc]
    rfl

variable {path : Text} {fields : ConfigObject} {items : ConfigArray} {value tree : ConfigValue}
  {part : Json} {failure : ConfigError}

/-- The conversion of an array, element by element. -/
theorem convertItems_rel {index : Nat}
    (done : convertItems elements path index = .ok items) (position : Nat) :
    Option.Rel (fun element item =>
      convert element (childPath path (Nat.toDigits 10 (index + position))) = .ok item)
      elements[position]? items[position]? := by
  rw [convertItems_eq] at done
  have related := mapM_rel done position
  rw [List.getElem?_zipIdx] at related
  generalize items[position]? = item at related
  cases found : elements[position]? with
  | none =>
    rw [found] at related
    cases related
    exact .none
  | some element =>
    rw [found] at related
    cases related with
    | some converted => exact .some converted

theorem convertItems_length {index : Nat} (done : convertItems elements path index = .ok items) :
    items.length = elements.length := by
  have erased : elements.map (fun _ => ()) = items.map fun _ => () := by
    apply List.ext_getElem?
    intro position
    rw [List.getElem?_map, List.getElem?_map]
    exact rel_map_eq (convertItems_rel done position) fun _ _ _ => rfl
  simpa using (congrArg List.length erased).symm

/-- The conversion of an object, member by member. -/
theorem convertFields_rel (done : convertFields members path = .ok fields) (position : Nat) :
    Option.Rel (fun member field => field.1 = getString member.1 ∧
      convert member.2 (childPath path field.1) = .ok field.2)
      members[position]? fields[position]? := by
  rw [convertFields_eq] at done
  refine rel_mono (mapM_rel done position) fun member field converted => ?_
  obtain ⟨value, here, same⟩ := bind_eq_ok_iff.mp converted
  cases same
  exact ⟨rfl, here⟩

theorem convertFields_names (done : convertFields members path = .ok fields) :
    fields.map Prod.fst = (Json.object members).names.map getString := by
  apply List.ext_getElem?
  intro position
  rw [Json.names, List.map_map, List.getElem?_map, List.getElem?_map]
  exact (rel_map_eq (convertFields_rel done position) fun _ _ related => related.1.symm).symm

theorem makeObject_eq_ok_iff : makeObject fields path = .ok value ↔
      (fields.map Prod.fst).Nodup ∧ value = .object fields path := by
  rw [← duplicate?_eq_none_iff]
  cases found : duplicate? fields with
  | none => simp [makeObject, found, eq_comm]
  | some field => simp [makeObject, found]

/-- What a conversion that succeeds has made, constructor by constructor. -/
inductive Converted : Json → Text → ConfigValue → Prop where
  | null {path : Text} : Converted .null path (.null path)
  | bool {value : Bool} {path : Text} : Converted (.bool value) path (.bool value path)
  | integer {literal : IntegerLiteral} {path : Text} (number : Int) :
      Converted (.integer literal) path (.int number path)
  | double {value : BitVec 64} {path : Text} : Converted (.double value) path (.double value path)
  | string {text path : Text} : Converted (.string text) path (.string (getString text) path)
  | array {elements : List Json} {path : Text} {items : ConfigArray}
      (listed : convertItems elements path 0 = .ok items) :
      Converted (.array elements) path (.array items path)
  | object {members : List (Text × Json)} {path : Text} {fields : ConfigObject}
      (listed : convertFields members path = .ok fields)
      (distinct : (fields.map Prod.fst).Nodup) :
      Converted (.object members) path (.object fields path)

theorem convert_inv (done : convert document path = .ok tree) : Converted document path tree := by
  cases document with
  | null | bool | double | string =>
    rw [convert] at done
    cases done
    constructor
  | integer literal =>
    rw [convert] at done
    split_ifs at done <;> cases done <;> exact .integer _
  | array elements =>
    rw [convert] at done
    obtain ⟨items, listed, same⟩ := bind_eq_ok_iff.mp done
    cases same
    exact .array listed
  | object members =>
    rw [convert] at done
    obtain ⟨fields, listed, made⟩ := bind_eq_ok_iff.mp done
    obtain ⟨distinct, rfl⟩ := makeObject_eq_ok_iff.mp made
    exact .object listed distinct

/-- A converted value has the path it was converted with. -/
theorem convert_path (done : convert document path = .ok value) : value.path = path := by
  cases convert_inv done <;> rfl

/-- Only an array is converted to an array. -/
theorem convert_eq_array {path place : Text} (done : convert part path = .ok (.array items place)) :
    ∃ elements, part = .array elements ∧ convertItems elements path 0 = .ok items := by
  cases convert_inv done with
  | array listed => exact ⟨_, rfl, listed⟩

/-- Only an object is converted to an object. -/
theorem convert_eq_object {path place : Text}
    (done : convert part path = .ok (.object fields place)) :
    ∃ members, part = .object members ∧ convertFields members path = .ok fields := by
  cases convert_inv done with
  | object listed _ => exact ⟨_, rfl, listed⟩

/-- The children of a converted value are the converted children. -/
theorem convert_children (done : convert document path = .ok tree) (position : Nat) :
    Option.Rel (fun part value => ∃ path, convert part path = .ok value)
      document.children[position]? tree.children[position]? := by
  cases convert_inv done with
  | array listed =>
    exact rel_mono (convertItems_rel listed position) fun _ _ related => ⟨_, related⟩
  | object listed _ =>
    rw [Json.children, ConfigValue.children, List.getElem?_map, List.getElem?_map]
    exact rel_map (convertFields_rel listed position) fun _ _ related => ⟨_, related.2⟩
  | _ => exact .none

/-- At every address, the tree has the conversion of what the document has there.

Proof: induction over the address. -/
theorem convert_nodeAt (done : convert document path = .ok tree) (address : List Nat) :
    Option.Rel (fun part value => ∃ path, convert part path = .ok value)
      (document.nodeAt address) (tree.nodeAt address) := by
  induction address generalizing document path tree with
  | nil => exact .some ⟨path, done⟩
  | cons position rest ih =>
    refine rel_bind (convert_children done position) ?_
    rintro part value ⟨_, converted⟩
    exact ih converted

/-! ## When the conversion succeeds -/

/-- No object of the document has two members with the same converted name. -/
def Distinct (document : Json) : Prop :=
  document.Everywhere fun part => (part.names.map getString).Nodup

theorem convertItems_succeeds
    (each : ∀ element ∈ elements, ∀ path, ∃ value, convert element path = .ok value)
    (path : Text) (index : Nat) : ∃ items, convertItems elements path index = .ok items := by
  rw [convertItems_eq]
  refine mapM_succeeds fun entry member => ?_
  exact each entry.1 (List.fst_mem_of_mem_zipIdx member) _

theorem convertFields_succeeds
    (each : ∀ member ∈ members, ∀ path, ∃ value, convert member.2 path = .ok value)
    (path : Text) : ∃ fields, convertFields members path = .ok fields := by
  rw [convertFields_eq]
  refine mapM_succeeds fun member belongs => ?_
  obtain ⟨value, converted⟩ := each member belongs (childPath path (getString member.1))
  refine ⟨(getString member.1, value), ?_⟩
  rw [convertMember, converted]
  rfl

theorem convert_names_nodup
    (done : convert part path = .ok value) : (part.names.map getString).Nodup := by
  cases convert_inv done with
  | object listed distinct => rwa [convertFields_names listed] at distinct
  | _ => simp [Json.names]

/-- A document is converted exactly when its converted names are distinct in every object.

Proof: a converted document has a converted object at the address of every object, which has
passed the check. The converse is by induction over the document. -/
theorem convert_succeeds_iff (document : Json) (path : Text) :
    (∃ tree, convert document path = .ok tree) ↔ Distinct document := by
  constructor
  · rintro ⟨tree, done⟩ address part found
    have related := convert_nodeAt done address
    rw [found] at related
    generalize tree.nodeAt address = node at related
    cases related with
    | some converted =>
      obtain ⟨_, converted⟩ := converted
      exact convert_names_nodup converted
  · intro distinct
    induction document using Json.induct generalizing path with
    | null | bool | double | string => exact ⟨_, by rw [convert]⟩
    | integer literal =>
      rw [convert]
      split_ifs <;> exact ⟨_, rfl⟩
    | array elements ih =>
      obtain ⟨_, inside⟩ := Json.everywhere_array.mp distinct
      obtain ⟨items, converted⟩ := convertItems_succeeds (fun element member path =>
        ih element member path (inside element member)) path 0
      exact ⟨.array items path, by rw [convert, converted]; rfl⟩
    | object members ih =>
      obtain ⟨here, inside⟩ := Json.everywhere_object.mp distinct
      obtain ⟨fields, converted⟩ := convertFields_succeeds (fun member belongs path =>
        ih member belongs path (inside member belongs)) path
      have names : (fields.map Prod.fst).Nodup := convertFields_names converted ▸ here
      exact ⟨.object fields path, by
        rw [convert, converted]
        exact makeObject_eq_ok_iff.mpr ⟨names, rfl⟩⟩

/-- The error of two members with one name. -/
def DuplicateKey (failure : ConfigError) : Prop :=
  ∃ place, failure.what = place ++ ": duplicate key".toList

theorem makeObject_error
    (failed : makeObject fields path = .error failure) : DuplicateKey failure := by
  cases found : duplicate? fields with
  | none => simp [makeObject, found] at failed
  | some field =>
    simp only [makeObject, found] at failed
    cases failed
    exact ⟨_, rfl⟩

theorem convertItems_error
    (each : ∀ element ∈ elements, ∀ path failure, convert element path = .error failure →
      DuplicateKey failure) {index : Nat}
    (failed : convertItems elements path index = .error failure) : DuplicateKey failure := by
  rw [convertItems_eq] at failed
  obtain ⟨entry, member, there⟩ := mapM_error failed
  exact each entry.1 (List.fst_mem_of_mem_zipIdx member) _ _ there

theorem convertFields_error
    (each : ∀ member ∈ members, ∀ path failure, convert member.2 path = .error failure →
      DuplicateKey failure)
    (failed : convertFields members path = .error failure) : DuplicateKey failure := by
  rw [convertFields_eq] at failed
  obtain ⟨member, belongs, there⟩ := mapM_error failed
  rcases bind_eq_error_iff.mp there with inside | ⟨_, _, made⟩
  · exact each member belongs _ _ inside
  · cases made

/-- A conversion fails for no other reason. -/
theorem convert_error (document : Json) (path : Text) (failure : ConfigError)
    (failed : convert document path = .error failure) : DuplicateKey failure := by
  induction document using Json.induct generalizing path failure with
  | null | bool | double | string =>
    rw [convert] at failed
    cases failed
  | integer literal =>
    rw [convert] at failed
    split_ifs at failed
  | array elements ih =>
    rw [convert] at failed
    rcases bind_eq_error_iff.mp failed with inside | ⟨_, _, made⟩
    · exact convertItems_error ih inside
    · cases made
  | object members ih =>
    rw [convert] at failed
    rcases bind_eq_error_iff.mp failed with inside | ⟨_, _, made⟩
    · exact convertFields_error ih inside
    · exact makeObject_error made

/-! ## What the conversion is for -/

/-- The value itself, without what it contains, is the same in the document and in the tree.
What becomes of an integer is a separate question. -/
def SameNode : Json → ConfigValue → Prop
  | .null, .null _ => True
  | .bool value, .bool converted _ => converted = value
  | .integer _, .int _ _ => True
  | .double value, .double converted _ => converted = value
  | .string text, .string converted _ => converted = text
  | .array elements, .array items _ => items.length = elements.length
  | .object members, .object fields _ => fields.map Prod.fst = members.map Prod.fst
  | _, _ => False

/-- The tree has the shape, the order of members, the names and the strings of the document. -/
def Mirrors (document : Json) (tree : ConfigValue) : Prop :=
  ∀ address, Option.Rel SameNode (document.nodeAt address) (tree.nodeAt address)

/-- Some object has two members whose decoded names are equal. -/
def HasDuplicate (document : Json) : Prop :=
  ∃ address members, document.nodeAt address = some (.object members) ∧
    ¬ (members.map Prod.fst).Nodup

/-- A document is refused as having a duplicate key exactly when it has one, and any other
document is mirrored by its tree. -/
def Preserved (document : Json) (result : Except ConfigError ConfigValue) : Prop :=
  ((∃ failure, result = .error failure ∧ DuplicateKey failure) ↔ HasDuplicate document) ∧
    (¬ HasDuplicate document → ∃ tree, result = .ok tree ∧ Mirrors document tree)

/-- The decoded names and strings that stand in the value itself. -/
def texts : Json → List Text
  | .string text => [text]
  | part => part.names

/-- No decoded name and no decoded string contains the null character. -/
def NulFree (document : Json) : Prop :=
  document.Everywhere fun part => ∀ text ∈ texts part, '\x00' ∉ text

theorem getString_eq_self_iff {text : Text} : getString text = text ↔ '\x00' ∉ text := by
  rw [getString, List.takeWhile_eq_self_iff]
  constructor
  · intro each member
    simpa using each _ member
  · intro absent character member
    have other : character ≠ '\x00' := by
      rintro rfl
      exact absent member
    simpa using other

/-- A converted value is the same exactly when none of its texts has been cut. -/
theorem convert_sameNode_iff (done : convert part path = .ok value) :
    SameNode part value ↔ ∀ text ∈ texts part, '\x00' ∉ text := by
  cases convert_inv done with
  | null | bool | double | integer => simp [SameNode, texts, Json.names]
  | string => simp [SameNode, texts, getString_eq_self_iff]
  | array listed => simp [SameNode, texts, Json.names, convertItems_length listed]
  | @object members _ fields listed _ =>
    have kept : (Json.object members).names.map getString = (Json.object members).names ↔
        ∀ name ∈ (Json.object members).names, getString name = name := by
      simpa using List.map_inj_left (f := getString) (g := id) (l := (Json.object members).names)
    rw [SameNode, convertFields_names listed]
    exact kept.trans (forall₂_congr fun _ _ => getString_eq_self_iff)

theorem mirrors_iff_nulFree
    (done : convert document path = .ok tree) : Mirrors document tree ↔ NulFree document := by
  refine forall_congr' fun address => ?_
  have related := convert_nodeAt done address
  generalize document.nodeAt address = left at related
  generalize tree.nodeAt address = right at related
  cases related with
  | none => simp
  | some converted =>
    obtain ⟨_, converted⟩ := converted
    rw [Option.rel_some_some, convert_sameNode_iff converted]
    simp

theorem hasDuplicate_iff (document : Json) :
    HasDuplicate document ↔ ¬ document.Everywhere fun part => part.names.Nodup := by
  constructor
  · rintro ⟨address, members, found, repeated⟩ everywhere
    exact repeated (everywhere address _ found)
  · intro somewhere
    simp only [Json.Everywhere, not_forall] at somewhere
    obtain ⟨address, part, found, repeated⟩ := somewhere
    cases part with
    | object members => exact ⟨address, members, found, repeated⟩
    | _ => exact absurd List.nodup_nil repeated

/-- Equal names are equal after their conversion. -/
theorem HasDuplicate.not_distinct (duplicate : HasDuplicate document) : ¬ Distinct document := by
  intro distinct
  refine (hasDuplicate_iff document).mp duplicate ?_
  intro address part found
  exact (distinct address part found).of_map

/-- Where no text is cut, distinct names stay distinct. -/
theorem NulFree.distinct (free : NulFree document)
    (single : ¬ HasDuplicate document) : Distinct document := by
  rw [hasDuplicate_iff, not_not] at single
  intro address part found
  have kept : part.names.map getString = part.names := by
    refine (List.map_congr_left ?_).trans (List.map_id _)
    intro name member
    refine getString_eq_self_iff.mpr (free address part found name ?_)
    cases part with
    | object members => exact member
    | _ => cases member
  rw [kept]
  exact single address part found

/-- The backend preserves a document exactly when some object of it has two equal names, or no
name and no string contains the null character.

Proof: two equal names are still equal when they are converted, and the document is refused.
Otherwise the document has to be mirrored, which means that no text was cut; and if no text is
cut, no two names of one object become equal. -/
theorem parseJson_preserves_iff (parse : Text → Except ParseError Document) (content : Text)
    (document : Document) (members : List (Text × Json)) (parsed : parse content = .ok document)
    (root : document.root = .object members) :
    Preserved document.root (parseJson parse content) ↔
      HasDuplicate document.root ∨ NulFree document.root := by
  have converts : parseJson parse content = convert document.root [] := by
    simp only [parseJson, parsed, root]
  rw [converts]
  constructor
  · rintro ⟨_, mirrored⟩
    by_cases duplicate : HasDuplicate document.root
    · exact .inl duplicate
    · obtain ⟨tree, done, same⟩ := mirrored duplicate
      exact .inr ((mirrors_iff_nulFree done).mp same)
  · intro condition
    by_cases duplicate : HasDuplicate document.root
    · refine ⟨⟨fun _ => duplicate, fun _ => ?_⟩, fun single => absurd duplicate single⟩
      cases result : convert document.root [] with
      | error failure => exact ⟨failure, rfl, convert_error _ _ _ result⟩
      | ok tree =>
        exact absurd ((convert_succeeds_iff _ _).mp ⟨tree, result⟩) duplicate.not_distinct
    · have free := condition.resolve_left duplicate
      obtain ⟨tree, done⟩ := (convert_succeeds_iff _ []).mpr (free.distinct duplicate)
      refine ⟨⟨?_, fun contrary => absurd contrary duplicate⟩, fun _ => ?_⟩
      · rintro ⟨failure, failed, _⟩
        cases done.symm.trans failed
      · exact ⟨tree, done, (mirrors_iff_nulFree done).mpr free⟩

/-- A document with an array, a key of digits and a text with a dot. -/
def servers : Document where
  root := .object [("servers".toList, .array [.object [("host".toList, .string "a.b".toList)]]),
    ("0".toList, .integer ⟨1, by decide⟩)]
  sized := by simp [Json.Sized]

/-- This document is preserved. -/
theorem parseJson_preserves_iff_servers :
    Preserved servers.root (parseJson (fun _ => .ok servers) []) := by
  refine (parseJson_preserves_iff _ [] servers _ rfl rfl).mpr (.inr ?_)
  simp [NulFree, servers, texts, Json.names]

/-- The document `{"key": "a\u0000b"}`. -/
def cutString : Document where
  root := .object [("key".toList, .string ['a', '\x00', 'b'])]
  sized := by simp [Json.Sized]

/-- The document `{"a": 1, "a\u0000b": 2}`. -/
def cutName : Document where
  root := .object [(['a'], .integer ⟨1, by decide⟩), (['a', '\x00', 'b'], .integer ⟨2, by decide⟩)]
  sized := by simp [Json.Sized]

/-- A string with a null character is cut, and a document with distinct names is refused because
one of them is cut. -/
theorem parseJson_cuts_texts : parseJson (fun _ => .ok cutString) [] =
        .ok (.object [("key".toList, .string ['a'] "key".toList)] []) ∧
      ¬ Preserved cutString.root (parseJson (fun _ => .ok cutString) []) ∧
      parseJson (fun _ => .ok cutName) [] = .error ⟨"a: duplicate key".toList⟩ ∧
      ¬ Preserved cutName.root (parseJson (fun _ => .ok cutName) []) := by
  have changed : parseJson (fun _ => .ok cutString) [] =
      .ok (.object [("key".toList, .string ['a'] "key".toList)] []) := by rfl
  have refused : parseJson (fun _ => .ok cutName) [] = .error ⟨"a: duplicate key".toList⟩ := by rfl
  refine ⟨changed, ?_, refused, ?_⟩
  · rintro ⟨_, mirrored⟩
    obtain ⟨tree, done, same⟩ := mirrored (by simp [hasDuplicate_iff, cutString, Json.names])
    cases changed.symm.trans done
    have kept : Option.Rel SameNode (some (.string ['a', '\x00', 'b']))
        (some (.string ['a'] "key".toList)) := same [0]
    simp [SameNode] at kept
  · rintro ⟨_, mirrored⟩
    obtain ⟨tree, done, _⟩ := mirrored (by simp [hasDuplicate_iff, cutName, Json.names])
    cases refused.symm.trans done

end ConfigJson

end Moban
