import XiaozhiPlatform.CLib.CJson
import XiaozhiPlatform.GoLib.Unicode

/-!
# What `cJSON` reads

The documented behaviour of `cJSON_ParseWithLengthOpts` on the texts of objects. The members of the
tree are those of the object in their order, a text without zeros and without replaced bytes is the C
string of its encoding, and a natural number that a `double` holds is that number. The parser reads
every object of such texts and of numbers that fit its buffer, as long as there is memory.

- `ReadsObjects`: these properties of a parser.
- `readsObjects_reference`: a parser that has them.
-/

namespace CLib

open GoLib

/-- A text that a C string can hold, and that was written without replacement characters. -/
def Holdable (s : String) : Prop := Char.ofNat 0 ∉ s.toList ∧ runeError ∉ s.toList
deriving Decidable

/-- The literals that fit the buffer for a number. -/
def numberBuffer : ℕ := 63

/-- A value that the parser is sure to read. -/
def Readable : Json → Prop
  | .str s => Holdable s
  | .num literal => literal.length ≤ numberBuffer
  | .null | .bool _ => True
  | .arr _ | .obj _ => False

/-- A node shows a value. -/
def Shows : Json → CJson → Prop
  | .null, .null => True
  | .bool value, .bool shown => shown = value
  | .num literal, .number valuedouble =>
    ∀ n : ℕ, literal = formatNat n → n < 2 ^ 53 → valuedouble = some (n : ℚ)
  | .str s, .string valuestring => Holdable s → valuestring.bytes = utf8 s.toList
  | .arr _, .array _ => True
  | .obj _, .object _ => True
  | _, _ => False

/-- A member of the tree shows a member of the object. -/
def ShowsMember (member : String × Json) (node : CString × CJson) : Prop :=
  node.1.bytes = utf8 member.1.toList ∧ Shows member.2 node.2

/-- What is documented of the parser. -/
structure ReadsObjects (cJSON : CJsonParser) : Prop where
  /-- A tree that was built shows the object, and only white space follows what was read. -/
  shows_of_eq_some : ∀ {json : List UInt8} {members : List (String × Json)} {root : CJson} {size : ℕ},
    Json.parse (decodeRunes json) = some (.obj members) → (∀ member ∈ members, Holdable member.1) →
    cJSON json = some (root, size) →
    (json.drop size).all isSpace = true ∧
      ∃ nodes, root = .object nodes ∧ List.Forall₂ ShowsMember members nodes
  /-- A tree is built for an object of values that can be read. -/
  isSome : ∀ {json : List UInt8} {members : List (String × Json)},
    Json.parse (decodeRunes json) = some (.obj members) →
    (∀ member ∈ members, Holdable member.1 ∧ Readable member.2) → (cJSON json).isSome = true

/-! ## Members of a tree -/

theorem utf8_injective (h : utf8 left = utf8 right) : left = right := by
  rw [← decodeRunes_utf8 left, h, decodeRunes_utf8]

theorem bytesOf_injective (h : bytesOf left = bytesOf right) : left = right :=
  String.toList_inj.mp (utf8_injective h)

variable {members : List (String × Json)} {nodes : List (CString × CJson)}

theorem objectItem_of_mem
    (h : List.Forall₂ ShowsMember members nodes) (hnodup : (members.map Prod.fst).Nodup)
    (hmem : (name, json) ∈ members) :
    ∃ node, (CJson.object nodes).objectItem name = some node ∧ Shows json node := by
  induction h with
  | nil => cases hmem
  | @cons member node members nodes hshows _ ih =>
    rw [List.map_cons, List.nodup_cons] at hnodup
    rw [CJson.objectItem]
    rcases List.mem_cons.mp hmem with rfl | hmem
    · have hname : node.1.bytes = bytesOf name := hshows.1
      refine ⟨node.2, ?_, hshows.2⟩
      rw [List.find?_cons_of_pos (by simpa using hname)]
      rfl
    · have hne : node.1.bytes ≠ bytesOf name := by
        intro heq
        have hname : member.1 = name := bytesOf_injective (hshows.1.symm.trans heq)
        exact hnodup.1 (hname ▸ List.mem_map_of_mem (f := Prod.fst) hmem)
      rw [List.find?_cons_of_neg (by simpa using hne)]
      exact ih hnodup.2 hmem

theorem map_bytes_eq (h : List.Forall₂ ShowsMember members nodes) :
    nodes.map (fun node => node.1.bytes) = members.map (fun member => bytesOf member.1) := by
  induction h with
  | nil => rfl
  | cons hshows _ ih => rw [List.map_cons, List.map_cons, ih, hshows.1, bytesOf]

/-! ## A parser with these properties -/

theorem bytes_cStringOf {s : String} (h : Char.ofNat 0 ∉ s.toList) :
    (cStringOf (utf8 s.toList)).bytes = utf8 s.toList :=
  bytes_cStringOf_of_notMem (zero_notMem_utf8 h)

/-- The node of a value. The items of an array and the members of an object are left out. -/
def nodeOf : Json → CJson
  | .null => .null
  | .bool value => .bool value
  | .num literal => .number ((parseNat literal).map fun n : ℕ => (n : ℚ))
  | .str s => .string (cStringOf (utf8 s.toList))
  | .arr _ => .array []
  | .obj _ => .object []

/-- A parser that reads objects and takes the whole text. -/
def reference : CJsonParser := fun json =>
  match Json.parse (decodeRunes json) with
  | some (.obj members) =>
    some (.object (members.map fun member => (cStringOf (utf8 member.1.toList), nodeOf member.2)),
      json.length)
  | _ => none

theorem shows_nodeOf (json : Json) : Shows json (nodeOf json) := by
  cases json with
  | null | arr | obj => trivial
  | bool value => rfl
  | num literal =>
    rintro n rfl -
    rw [parseNat_formatNat, Option.map_some]
  | str s => exact fun h => bytes_cStringOf h.1

theorem readsObjects_reference : ReadsObjects reference where
  shows_of_eq_some := by
    intro json members root size hparse hnames h
    rw [reference, hparse] at h
    cases h
    refine ⟨by rw [List.drop_length]; rfl, _, rfl, ?_⟩
    rw [List.forall₂_map_right_iff, List.forall₂_same]
    exact fun member hmember => ⟨bytes_cStringOf (hnames member hmember).1, shows_nodeOf member.2⟩
  isSome := by
    intro json members hparse _
    rw [reference, hparse]
    rfl

end CLib
