import ReverseProxy.Node
import ReverseProxy.Text.Quoted

/-! # Reading typed values out of a document -/

namespace ReverseProxy

/-- The two formats. They differ in what stands for a choice and in how strict arrays are. -/
inductive Format where
  | json
  | toml
deriving DecidableEq, Repr

/-- What a document shows where something else was expected. -/
inductive Found where
  | null
  | bool (b : Bool)
  | integer (n : Int)
  | double (shown : String)
  | text (s : String)
  | sequence
  | mapping
deriving DecidableEq, Repr

def Found.describe : Found → String
  | null => "null"
  | bool b => "boolean `" ++ (if b then "true" else "false") ++ "`"
  | integer n => "integer `" ++ toString n ++ "`"
  | double shown => "floating point `" ++ shown ++ "`"
  | text s => "string " ++ Quoted.quote s
  | sequence => "sequence"
  | mapping => "map"

/-- Why a text is no value of the wanted type. -/
inductive DecodeError where
  /-- The text is no document of its format. -/
  | malformed
  | wrongType (found : Found) (expected : String)
  | wrongNumber (n : Int) (expected : String)
  | wrongLength (length : Nat) (expected : String)
  | missingField (name : String)
  | duplicateField (name : String)
  | unknownVariant (found : String) (expected : List String)
  /-- A choice is written in a way that its format does not allow. -/
  | wrongChoice (reason : String)
deriving DecidableEq, Repr

/-- Names as a list of alternatives. -/
def oneOf : List String → String
  | [] => "there are no variants"
  | [a] => "expected `" ++ a ++ "`"
  | [a, b] => "expected `" ++ a ++ "` or `" ++ b ++ "`"
  | names => "expected one of " ++ String.intercalate ", " (names.map fun name => "`" ++ name ++ "`")

def DecodeError.message : DecodeError → String
  | malformed => "malformed document"
  | wrongType found expected => "invalid type: " ++ found.describe ++ ", expected " ++ expected
  | wrongNumber n expected => "invalid value: integer `" ++ toString n ++ "`, expected " ++ expected
  | wrongLength length expected => "invalid length " ++ toString length ++ ", expected " ++ expected
  | missingField name => "missing field `" ++ name ++ "`"
  | duplicateField name => "duplicate field `" ++ name ++ "`"
  | unknownVariant found expected => "unknown variant `" ++ found ++ "`, " ++ oneOf expected
  | wrongChoice reason => reason

/-- What a reader yields. -/
abbrev Decoded (α : Type) := Except DecodeError α

namespace Node

/-- A node of another kind than the expected one. -/
def mismatch {α : Type} (expected : String) : Node → Decoded α
  | null => .error (.wrongType .null expected)
  | bool b => .error (.wrongType (.bool b) expected)
  | integer n => .error (.wrongType (.integer n) expected)
  | double shown => .error (.wrongType (.double shown) expected)
  | text s => .error (.wrongType (.text s) expected)
  | moment => .error (.wrongType .mapping expected)
  | sequence _ _ => .error (.wrongType .sequence expected)
  | mapping _ _ => .error (.wrongType .mapping expected)
  | oversized | garbled | broken => .error .malformed

def readText : Node → Decoded String
  | text s => .ok s
  | node => node.mismatch "a string"

/-- A number of 64 bits without a sign. -/
def readCount : Node → Decoded UInt64
  | integer n =>
    if n < 0 then .error (.wrongNumber n "u64")
    else if n < 0x10000000000000000 then .ok (UInt64.ofNat n.toNat)
    else .error .malformed
  | node => node.mismatch "u64"

/-- Goes on only if a container was read to its end. -/
def whenClosed {α : Type} (closed : Bool) (value : α) : Decoded α :=
  if closed then .ok value else .error .malformed

def readList {α : Type} (item : Node → Decoded α) : Node → Decoded (List α)
  | sequence items closed => do whenClosed closed (← items.mapM item)
  | node => node.mismatch "a sequence"

/-- Anything but `null` is a value. -/
def readOption {α : Type} (value : Node → Decoded α) : Node → Decoded (Option α)
  | null => .ok none
  | node => some <$> value node

/-- A member that no field reads. -/
def ignore (node : Node) : Decoded Unit :=
  if node.isWhole then .ok () else .error .malformed

end Node

/-! ## Records -/

/-- A field of a record: its name, how its value is read and put into the record, and whether it must be there. -/
structure Field (σ : Type) where
  name : String
  {Value : Type}
  reads : Node → Decoded Value
  set : Value → σ → σ
  required : Bool := false

def Field.read {σ : Type} (f : Field σ) (node : Node) (value : σ) : Decoded σ := return f.set (← f.reads node) value

/-- The order in which two fields are set makes no difference. -/
def Field.Commutes {σ : Type} (f g : Field σ) : Prop :=
  ∀ a b value, f.set a (g.set b value) = g.set b (f.set a value)

/-- A record: its name, its fields in order, and its value before any field is read. Each field has a name and a
place of its own. -/
structure Shape (σ : Type) where
  name : String
  fields : List (Field σ)
  blank : σ
  names : (fields.map (·.name)).Nodup := by simp
  commutes : fields.Pairwise Field.Commutes := by simp [Field.Commutes]

namespace Shape

variable {σ : Type}

def field? (shape : Shape σ) (name : String) : Option (Field σ) := shape.fields.find? (·.name = name)

/-- The record of the members, read in order. `seen` are the fields read so far. -/
def readMembers (shape : Shape σ) : List (Node × Node) → List String → σ → Decoded (σ × List String)
  | [], seen, value => .ok (value, seen)
  | (.text key, node) :: rest, seen, value =>
    match shape.field? key with
    | some field =>
      if key ∈ seen then .error (.duplicateField key)
      else do readMembers shape rest (key :: seen) (← field.read node value)
    | none => do
      node.ignore
      readMembers shape rest seen value
  | _ :: _, _, _ => .error .malformed

/-- The first field that must be there and is not. -/
def missing? (shape : Shape σ) (seen : List String) : Option String :=
  (shape.fields.find? fun field => field.required && !seen.contains field.name).map (·.name)

/-- The record, if every field that must be there was seen. -/
def complete (shape : Shape σ) (seen : List String) (value : σ) : Decoded σ :=
  match shape.missing? seen with
  | some name => .error (.missingField name)
  | none => .ok value

/-- The text after `expected` for a record of too few items. -/
def arity (shape : Shape σ) : String :=
  "struct " ++ shape.name ++ " with " ++ toString shape.fields.length ++ " elements"

/-- The record of the items, one for each field in order, and the items left over. Fields with a
default may be left out at the end. -/
def readItems (shape : Shape σ) (closed : Bool) :
    List (Field σ) → List Node → Nat → σ → Decoded (σ × List Node)
  | [], rest, _, value => .ok (value, rest)
  | field :: fields, [], count, value =>
    if !closed then .error .malformed
    else if field.required then .error (.wrongLength count shape.arity)
    else readItems shape closed fields [] (count + 1) value
  | field :: fields, node :: rest, count, value => do
    readItems shape closed fields rest (count + 1) (← field.read node value)

/-- A record is a mapping, or a sequence of its fields. -/
def read (shape : Shape σ) (format : Format) : Node → Decoded σ
  | .mapping members closed => do
    let (value, seen) ← shape.readMembers members [] shape.blank
    let value ← Node.whenClosed closed value
    shape.complete seen value
  | .sequence items closed => do
    let (value, rest) ← shape.readItems closed shape.fields items 0 shape.blank
    match format with
    | .json => Node.whenClosed (closed && rest.isEmpty) value
    | .toml => .ok value
  | .moment => shape.complete [] shape.blank
  | node => node.mismatch ("struct " ++ shape.name)

end Shape

/-! ## Choices -/

/-- The value that a name stands for. -/
def readVariant {α : Type} (variants : List (String × α)) (name : String) : Decoded α :=
  match variants.lookup name with
  | some value => .ok value
  | none => .error (.unknownVariant name (variants.map (·.1)))

/-- A choice in JSON: a name, or an object with the name for its only key and `null` behind it. -/
def readChoiceJson {α : Type} (variants : List (String × α)) : Node → Decoded α
  | .text name => readVariant variants name
  | .mapping ((.text name, payload) :: rest) closed => do
    let value ← readVariant variants name
    match payload with
    | .null => Node.whenClosed (closed && rest.isEmpty) value
    | node => node.mismatch "unit"
  | .mapping ((key, _) :: _) _ => key.mismatch "variant identifier"
  | _ => .error .malformed

/-- What a TOML value is called. -/
def Node.kindName : Node → String
  | .bool _ => "boolean"
  | .integer _ => "integer"
  | .double _ => "float"
  | .text _ => "string"
  | .moment => "datetime"
  | .sequence _ _ => "array"
  | .mapping _ _ => "table"
  | _ => "none"

/-- A choice in TOML: a name, or a table with the name for its only key and an empty table behind it. -/
def readChoiceToml {α : Type} (variants : List (String × α)) : Node → Decoded α
  | .text name => readVariant variants name
  | .mapping [] _ => .error (.wrongChoice "wanted exactly 1 element, found 0 elements")
  | .mapping [(.text name, payload)] _ => do
    let value ← readVariant variants name
    match payload with
    | .mapping [] _ | .sequence [] _ => .ok value
    | .mapping _ _ => .error (.wrongChoice "expected empty table")
    | .sequence _ _ => .error (.wrongChoice "expected empty array")
    | node => .error (.wrongChoice ("expected table, found " ++ node.kindName))
  | .mapping _ _ => .error (.wrongChoice "wanted exactly 1 element, more than 1 element")
  | _ => .error (.wrongChoice "wanted string or table")

def readChoice {α : Type} (format : Format) (variants : List (String × α)) (node : Node) : Decoded α :=
  match format with
  | .json => readChoiceJson variants node
  | .toml => readChoiceToml variants node

end ReverseProxy
