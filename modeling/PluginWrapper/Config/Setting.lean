import PluginWrapper.Value

/-!
Settings: trees of configured values, each of which knows where it was made, and their layering.
-/

namespace PluginWrapper

/-- Where a setting was made. -/
inductive Origin where
  | file (path : String)
  | environment
  deriving DecidableEq

/-- A setting without parts. -/
inductive Scalar where
  | nothing
  | bool (b : Bool)
  | signed (n : Int)
  | unsigned (n : Nat)
  | float (x : Float)
  | text (s : String)
  | char (c : Char)

/-- Tables are kept in the order of their keys. -/
inductive Setting where
  | scalar (origin : Origin) (v : Scalar)
  | list (origin : Origin) (items : List Setting)
  | table (origin : Origin) (entries : List (String × Setting))

namespace Setting

def origin : Setting → Origin
  | .scalar o _ => o
  | .list o _ => o
  | .table o _ => o

/-- Doubles are shown in positional notation, whole ones without a point; a tie goes up. -/
def numberStyle : Number.Style := ⟨.up, false, none⟩

/-- A setting as an error names it; lists and tables are named without their contents. -/
def described : Setting → String
  | .scalar _ .nothing => "unit"
  | .scalar _ (.bool b) => "bool " ++ (if b then "true" else "false")
  | .scalar _ (.signed n) => "signed int `" ++ toString n ++ "`"
  | .scalar _ (.unsigned n) => "unsigned int `" ++ toString n ++ "`"
  | .scalar _ (.float x) => "float `" ++ numberStyle.text x ++ "`"
  | .scalar _ (.text s) => "string " ++ Text.quoted s
  | .scalar _ (.char c) => "string " ++ Text.quoted c.toString
  | .list _ _ => "sequence"
  | .table _ _ => "map"

/-- Changes the entry of a key, or adds one in its place in the order. -/
def change (key : String) (f : Option Setting → Setting) :
    List (String × Setting) → List (String × Setting)
  | [] => [(key, f none)]
  | (k, v) :: rest =>
    if k = key then (k, f (some v)) :: rest
    else if key < k then (key, f none) :: (k, v) :: rest
    else (k, v) :: change key f rest

mutual

/-- Lays a setting over an earlier one. Tables are merged; anything else is replaced. -/
def overlay (earlier : Setting) : Setting → Setting
  | .table o entries =>
    match earlier with
    | .table _ below => .table o (overlayEntries below entries)
    | _ => .table o entries
  | later => later

def overlayEntries (below : List (String × Setting)) :
    List (String × Setting) → List (String × Setting)
  | [] => below
  | (key, v) :: rest =>
    overlayEntries (change key (fun earlier =>
      match earlier with
      | none => v
      | some e => overlay e v) below) rest

end

/-- A table with this key is the setting that stands under it. -/
def valueKey : String := "___figment_value_value"

/-- A key that only a table of environment variables or the top of a document may have. -/
def originKey : String := "___figment_value_id"

mutual

def hasOriginKey : Value → Bool
  | .map fields => fields.any (·.1 == originKey) || someHasOriginKey fields
  | .seq items => anyHasOriginKey items
  | _ => false

def anyHasOriginKey : List Value → Bool
  | [] => false
  | v :: rest => hasOriginKey v || anyHasOriginKey rest

def someHasOriginKey : List (String × Value) → Bool
  | [] => false
  | (_, v) :: rest => hasOriginKey v || someHasOriginKey rest

end

def isReadable (fields : List (String × Value)) : Bool :=
  !someHasOriginKey fields

mutual

def ofValue (o : Origin) : Value → Setting
  | .null => .scalar o .nothing
  | .bool b => .scalar o (.bool b)
  | .int n => .scalar o (.signed n)
  | .float x => .scalar o (.float x)
  | .str s => .scalar o (.text s)
  | .seq items => .list o (ofItems o items)
  | .map fields =>
    let entries := ofFields o fields
    (entries.lookup valueKey).getD (.table o entries)

def ofItems (o : Origin) : List Value → List Setting
  | [] => []
  | v :: rest => ofValue o v :: ofItems o rest

def ofFields (o : Origin) : List (String × Value) → List (String × Setting)
  | [] => []
  | (key, v) :: rest => change key (fun _ => ofValue o v) (ofFields o rest)

end

/-- The settings in a document. At its top no key is special. -/
def ofDocument (o : Origin) (fields : List (String × Value)) : Setting :=
  .table o (ofFields o fields)

def nest (o : Origin) (path : List String) (s : Setting) : Setting :=
  path.foldr (fun key s => .table o [(key, s)]) s

end Setting

end PluginWrapper
