/-
  The JSON form of a loop tree.

  WRITING is canonical: a node is an object with its kind, then its annotations in order if it has
  any, then its children if it has any; a kind is an object that begins with its type.

  READING accepts more than is written:

    * fields in any order; unknown fields are skipped, in a node without regard to what they hold;
    * a node as an array of its kind, annotations and children, of which the last two may be
      missing, and a kind as an array of its type and its fields;
    * an annotation without a payload as an object whose one value is null.

  A repeated field that is known, an element too many, or a number that is not a plain natural number
  in range is refused.  So is a text that opens more than `Json.maxNesting` brackets inside each other,
  skipped fields aside: `room` says how many more may be opened.
-/
import LoopLowering.Json.Strict
import LoopLowering.Json.Reader
import LoopLowering.Json.Printer
import LoopLowering.Tree.Node
import LoopLowering.Digest.Sha256

namespace LoopLowering

/-! ## Annotations -/

namespace Property

/-- The written name of an annotation. -/
def name : Property → String
  | sequential => "sequential"
  | parallel => "parallel"
  | parallelNested => "parallel-nested"
  | vectorized => "vectorized"
  | blocked _ => "blocked"
  | distributed => "distributed"
  | flushDenormals => "flush-denormals"

/-- The annotation without a payload that a name stands for. -/
def ofName? (name : String) : Option Property :=
  [sequential, parallel, parallelNested, vectorized, distributed, flushDenormals].find?
    fun p => p.name = name

/-- The JSON form of an annotation. -/
def json : Property → Json
  | blocked level => .record [("blocked", .nat level.toNat)]
  | p => .text p.name

/-- Reads an annotation. -/
def ofJson? (room : Nat) : Json → Option Property
  | .string (some name) => ofName? name
  | .object [(some name, v)] =>
    if room = 0 then none
    else if name = "blocked" then v.word32?.map blocked
    else
      match v with
      | .null => ofName? name
      | _ => none
  | _ => none

end Property

/-- Reads a set of annotations. -/
def propertiesOfJson? (room : Nat) : Json → Option PropertySet
  | .array items =>
    if room = 0 then none
    else (items.mapM (Property.ofJson? (room - 1))).map SortedSet.ofList
  | _ => none

/-! ## Kinds -/

namespace Kind

/-- The JSON form of a kind. -/
def json : Kind → Json
  | callable name => .record [("type", .text "callable"), ("name", .text name)]
  | region name => .record [("type", .text "section"), ("name", .text name)]
  | iteration dim none => .record [("type", .text "iteration"), ("dim", .text dim)]
  | iteration dim (some extent) =>
    .record [("type", .text "iteration"), ("dim", .text dim), ("extent", .nat extent.toNat)]
  | expression expr => .record [("type", .text "expression"), ("expr", .text expr)]
  | list => .record [("type", .text "list")]

/-- Reads a trip count, which may be null. -/
def extentOfJson? : Json → Option (Option UInt64)
  | .null => some none
  | v => v.word64?.map some

/-- Reads a kind of the given type from its other fields. -/
def ofFields? (type : String) (fields : List (Option String × Json)) : Option Kind :=
  match type with
  | "callable" => do return callable (← (← Json.required? fields "name").text?)
  | "section" => do return region (← (← Json.required? fields "name").text?)
  | "iteration" => do
    let dim ← (← Json.required? fields "dim").text?
    match ← Json.field? fields "extent" with
    | none => return iteration dim none
    | some v => return iteration dim (← extentOfJson? v)
  | "expression" => do return expression (← (← Json.required? fields "expr").text?)
  | "list" => some list
  | _ => none

/-- Reads a kind of the given type from its fields in order. -/
def ofItems? (type : String) (items : List Json) : Option Kind :=
  match type, items with
  | "callable", [name] => name.text?.map callable
  | "section", [name] => name.text?.map region
  | "iteration", [dim] => do return iteration (← dim.text?) none
  | "iteration", [dim, extent] => do return iteration (← dim.text?) (← extentOfJson? extent)
  | "expression", [expr] => expr.text?.map expression
  | "list", [] => some list
  | _, _ => none

/-- Reads a kind. -/
def ofJson? (room : Nat) (j : Json) : Option Kind :=
  if j.isStrict room then
    match j with
    | .object fields => do ofFields? (← (← Json.required? fields "type").text?) fields
    | .array (type :: items) => do ofItems? (← type.text?) items
    | _ => none
  else none

end Kind

/-! ## Nodes -/

namespace Node

mutual

/-- The JSON form of a tree. -/
def json : Node → Json
  | ⟨kind, properties, children⟩ =>
    .record (("kind", kind.json) ::
      (if properties.isEmpty then []
        else [("properties", .array (properties.toList.map Property.json))]) ++
      (if children.isEmpty then [] else [("children", .array (jsonAll children))]))

/-- The JSON forms of a list of trees. -/
def jsonAll : List Node → List Json
  | [] => []
  | n :: rest => json n :: jsonAll rest

end

/-- The fields of a node that a reader has met so far. -/
structure Draft where
  kind : Option Kind := none
  properties : Option PropertySet := none
  children : Option (List Node) := none

/-- The node of a draft: the kind must have been met. -/
def Draft.node? (d : Draft) : Option Node :=
  d.kind.map fun kind => ⟨kind, d.properties.getD ∅, d.children.getD []⟩

mutual

/-- Reads a tree where `room` more brackets may be opened. -/
def ofJson? (room : Nat) : Json → Option Node
  | .object fields =>
    match room with
    | 0 => none
    | room + 1 => (draftOfFields? room {} fields).bind Draft.node?
  | .array items =>
    match room with
    | 0 => none
    | room + 1 => ofItems? room items
  | _ => none

/-- Reads a tree from its kind, annotations and children in order. -/
def ofItems? (room : Nat) : List Json → Option Node
  | [kind] => do return ⟨← Kind.ofJson? room kind, ∅, []⟩
  | [kind, properties] => do
    return ⟨← Kind.ofJson? room kind, ← propertiesOfJson? room properties, []⟩
  | [kind, properties, children] => do
    return ⟨← Kind.ofJson? room kind, ← propertiesOfJson? room properties,
      ← childrenOfJson? room children⟩
  | _ => none

/-- Reads the fields of a tree into a draft, each known one at most once. -/
def draftOfFields? (room : Nat) (d : Draft) : List (Option String × Json) → Option Draft
  | [] => some d
  | (none, _) :: _ => none
  | (some key, v) :: rest =>
    if key = "kind" then
      match d.kind, Kind.ofJson? room v with
      | none, some kind => draftOfFields? room { d with kind := some kind } rest
      | _, _ => none
    else if key = "properties" then
      match d.properties, propertiesOfJson? room v with
      | none, some properties => draftOfFields? room { d with properties := some properties } rest
      | _, _ => none
    else if key = "children" then
      match d.children, childrenOfJson? room v with
      | none, some children => draftOfFields? room { d with children := some children } rest
      | _, _ => none
    else draftOfFields? room d rest

/-- Reads a list of trees from an array. -/
def childrenOfJson? (room : Nat) : Json → Option (List Node)
  | .array items =>
    match room with
    | 0 => none
    | room + 1 => allOfJson? room items
  | _ => none

/-- Reads a list of trees. -/
def allOfJson? (room : Nat) : List Json → Option (List Node)
  | [] => some []
  | v :: rest =>
    match ofJson? room v, allOfJson? room rest with
    | some n, some others => some (n :: others)
    | _, _ => none

end

/-- Reads a tree from a JSON text. -/
def read? (s : String) : Option Node := (Json.read? s).bind (ofJson? Json.maxNesting)

/-- The text of a tree, laid out for readers. -/
def prettyText (n : Node) : String := n.json.prettyText

/-- The text of a tree without blanks. -/
def compactText (n : Node) : String := n.json.compactText

/-- The fingerprint of a tree: the digest of its compact text. -/
def fingerprint (n : Node) : String := Digest.Sha256.hexDigest n.compactText

end Node

end LoopLowering
