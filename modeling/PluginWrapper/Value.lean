import PluginWrapper.Number.Style
import PluginWrapper.Text.Quoted

/-!
Document trees, and the ways in which a tree fails to be what a reader asks for.
-/

namespace PluginWrapper

/-- What a document holds at one place. Fields stand in document order. -/
inductive Value where
  | null
  | bool (b : Bool)
  | int (n : Int)
  | float (x : Float)
  | str (s : String)
  | seq (items : List Value)
  | map (fields : List (String × Value))
  deriving Inhabited

/-- What a reader asks for. -/
inductive Expected where
  | string
  | boolean
  | sequence
  | record (name : String)
  deriving DecidableEq

/-- Why a tree cannot be read. -/
inductive ReadError where
  | wrongKind (found : Value) (expected : Expected)
  | unknownField (name : String) (known : List String)
  | missingField (name : String)
  | duplicateField (name : String)
  | tooFew (length : Nat) (record : String) (fields : Nat)
  | tooMany (length : Nat)

namespace Value

/-- The tree of a date: one field, which no key of a document can spell by accident. -/
def date (text : String) : Value :=
  .map [("$__toml_private_datetime", .str text)]

/-- A value as an error names it; sequences and maps are named without their contents. -/
def described (floats : Number.Style) : Value → String
  | .null => "null"
  | .bool b => "boolean `" ++ (if b then "true" else "false") ++ "`"
  | .int n => "integer `" ++ toString n ++ "`"
  | .float x => "floating point `" ++ floats.text x ++ "`"
  | .str s => "string " ++ Text.quoted s
  | .seq _ => "sequence"
  | .map _ => "map"

def asString : Value → Except ReadError String
  | .str s => .ok s
  | v => .error (.wrongKind v .string)

def asBool : Value → Except ReadError Bool
  | .bool b => .ok b
  | v => .error (.wrongKind v .boolean)

def asSequence : Value → Except ReadError (List Value)
  | .seq items => .ok items
  | v => .error (.wrongKind v .sequence)

end Value

def once {α : Type} (field : String) (earlier : Option α) (read : Except ReadError α) :
    Except ReadError (Option α) :=
  if earlier.isSome then .error (.duplicateField field) else read.map some

def Expected.text : Expected → String
  | .string => "a string"
  | .boolean => "a boolean"
  | .sequence => "a sequence"
  | .record name => "struct " ++ name

def choice : List String → String
  | [] => "there are no fields"
  | [a] => "expected `" ++ a ++ "`"
  | [a, b] => "expected `" ++ a ++ "` or `" ++ b ++ "`"
  | names => "expected one of " ++ ", ".intercalate (names.map fun n => "`" ++ n ++ "`")

def ReadError.message (floats : Number.Style) : ReadError → String
  | .wrongKind found expected =>
    "invalid type: " ++ found.described floats ++ ", expected " ++ expected.text
  | .unknownField name known => "unknown field `" ++ name ++ "`, " ++ choice known
  | .missingField name => "missing field `" ++ name ++ "`"
  | .duplicateField name => "duplicate field `" ++ name ++ "`"
  | .tooFew length record fields =>
    "invalid length " ++ toString length ++ ", expected struct " ++ record ++ " with " ++
      toString fields ++ " elements"
  | .tooMany length =>
    "invalid length " ++ toString length ++ ", expected fewer elements in array"

end PluginWrapper
