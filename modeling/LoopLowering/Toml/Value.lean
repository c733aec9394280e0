/-
  TOML values.

  A definition file is a table.  A reader of this library looks at texts, whole numbers, booleans,
  arrays and tables; floats and dates are recognized, so that a file may hold them, but nobody asks
  for their value.

  A table remembers its ORIGIN, because the format forbids to add to a table in a way other than the
  one that made it:

    * `inline`  — written between braces; complete as it stands;
    * `header`  — named by a header of its own;
    * `implied` — not written, but above a table that is named by a header;
    * `dotted`  — made by a dotted key.
-/

namespace LoopLowering.Toml

/-- How a table came to be. -/
inductive Origin where
  | inline
  | header
  | implied
  | dotted
  deriving DecidableEq, Repr, Inhabited

/-- A TOML value. -/
inductive Value where
  | string (s : String)
  | integer (i : Int)
  | float
  | boolean (b : Bool)
  | datetime
  | array (items : List Value)
  /-- An array whose elements are tables named by double headers. -/
  | tables (elements : List Value)
  | table (origin : Origin) (fields : List (String × Value))
  deriving Inhabited

/-- The fields of a table, in the order in which they were made. -/
abbrev Fields := List (String × Value)

namespace Fields

/-- The value of a field. -/
def get? (fields : Fields) (key : String) : Option Value :=
  (fields.find? fun f => f.1 = key).map Prod.snd

/-- The fields with the value of `key` replaced. -/
def set (fields : Fields) (key : String) (v : Value) : Fields :=
  fields.map fun f => if f.1 = key then (key, v) else f

/-- The fields without `key`. -/
def erase (fields : Fields) (key : String) : Fields := fields.filter fun f => f.1 ≠ key

/-- The fields with a new one at the end, unless there is one of that name. -/
def add? (fields : Fields) (key : String) (v : Value) : Option Fields :=
  match fields.get? key with
  | none => some (fields ++ [(key, v)])
  | some _ => none

end Fields

/-! ## Changing a table deep inside another -/

/-- Follows a path of keys from a table of the given origin and changes the fields where it ends;
    `change` may also give something back.  A key that is missing on the way makes a new table, of
    origin `dotted` or `implied`.  An array of tables is followed into its last element.  A dotted
    path must not go through a table that has a header, and no path goes through another value. -/
def edit {α : Type} (dotted : Bool) (change : Origin → Fields → Option (Fields × α)) :
    List String → Origin → Fields → Option (Fields × α)
  | [], origin, fields => change origin fields
  | key :: path, _, fields =>
    match fields.get? key with
    | none => do
      let made := if dotted then Origin.dotted else .implied
      let (inner, a) ← edit dotted change path made []
      return (fields ++ [(key, .table made inner)], a)
    | some (.table origin inner) =>
      if origin = .inline ∨ (dotted ∧ origin = .header) then none
      else do
        let (inner, a) ← edit dotted change path origin inner
        return (fields.set key (.table origin inner), a)
    | some (.tables elements) =>
      match elements.getLast? with
      | some (.table origin inner) => do
        let (inner, a) ← edit dotted change path origin inner
        return (fields.set key (.tables (elements.dropLast ++ [.table origin inner])), a)
      | _ => none
    | some _ => none

/-- Adds a field under a dotted key to a table of the given origin.  Behind a path it must not end in
    a table that was made without dots, whatever was passed on the way. -/
def insert? (origin : Origin) (fields : Fields) (path : List String) (key : String) (v : Value) :
    Option Fields :=
  let add := fun (o : Origin) (fields : Fields) =>
    -- Without a path the table is the one being filled, and that one is not dotted.
    if (o == .dotted) == path.isEmpty then none
    else (Fields.add? fields key v).map fun fields => (fields, ())
  (edit true add path origin fields).map Prod.fst

/-- The table of a list of dotted keys with values, as braces hold it. -/
def inlineTable? (entries : List (List String × String × Value)) : Option Value := do
  let fields ← entries.foldlM (fun fields (path, key, v) => insert? .inline fields path key v) []
  return .table .inline fields

/-! ## A file under construction -/

/-- Where the fields that are being read will go. -/
inductive Target where
  /-- Into the table of the file. -/
  | root
  /-- Into the table of a header: the path to its parent, and its key. -/
  | table (path : List String) (key : String)
  /-- Into a new element of the array of a double header. -/
  | element (path : List String) (key : String)
  deriving DecidableEq, Repr

/-- A file under construction: what is complete, and the table that is being filled. -/
structure Draft where
  done : Fields := []
  current : Fields := []
  target : Target := .root

namespace Draft

/-- Adds a field to the table that is being filled. -/
def field? (d : Draft) (path : List String) (key : String) (v : Value) : Option Draft := do
  return { d with current := ← insert? .header d.current path key v }

/-- Puts the table that is being filled in its place. -/
def close? (d : Draft) : Option Fields :=
  match d.target with
  | .root => some d.current
  | .table path key =>
    let put := fun (_ : Origin) (fields : Fields) =>
      (Fields.add? fields key (.table .header d.current)).map fun fields => (fields, ())
    (edit false put path .header d.done).map Prod.fst
  | .element path key =>
    let put := fun (_ : Origin) (fields : Fields) =>
      match fields.get? key with
      | some (.tables elements) =>
        some (fields.set key (.tables (elements ++ [.table .header d.current])), ())
      | _ => none
    (edit false put path .header d.done).map Prod.fst

/-- Begins the table of a header.  If the name is taken, then only by an implied table, whose fields
    the new table keeps. -/
def openTable? (d : Draft) (path : List String) (key : String) : Option Draft := do
  let take := fun (_ : Origin) (fields : Fields) =>
    match fields.get? key with
    | none => some (fields, [])
    -- The table leaves its place until it is closed, with what it holds so far.
    | some (.table .implied inner) => some (fields.erase key, inner)
    | some _ => none
  let (done, current) ← edit false take path .header (← d.close?)
  return { done, current, target := .table path key }

/-- Begins an element of the array of a double header.  If the name is taken, then only by such an
    array. -/
def openElement? (d : Draft) (path : List String) (key : String) : Option Draft := do
  let make := fun (_ : Origin) (fields : Fields) =>
    match fields.get? key with
    | none => some (fields ++ [(key, .tables [])], ())
    | some (.tables _) => some (fields, ())
    | some _ => none
  let (done, _) ← edit false make path .header (← d.close?)
  return { done, current := [], target := .element path key }

end Draft

end LoopLowering.Toml
