import PluginWrapper.Log.Pattern
import PluginWrapper.Log.Record
import PluginWrapper.Number.Reading
import PluginWrapper.Text.Blank
import PluginWrapper.Text.Case
import PluginWrapper.Text.LetterTable
import PluginWrapper.Text.Measure
import PluginWrapper.Text.Split

/-!
Directives of a log filter: each admits the records it covers up to a level of detail. A directive
has the form `target[span{field=value}]=level`, of which any part but one may be left off.
-/

namespace PluginWrapper

/-- The most detailed level that passes, if any does. -/
abbrev Threshold := Option Level

namespace Threshold

def admits (t : Threshold) (level : Level) : Bool :=
  match t with
  | none => false
  | some most => level.detail ≤ most.detail

/-- A number from zero up, or the name of a level in any case. -/
def ofText? (s : List Char) : Option Threshold :=
  let digits := match s with
    | '+' :: rest => rest
    | _ => s
  match Number.natural? 10 digits with
  | some 0 => some none
  | some n => (Level.byDetail[n - 1]?).map some
  | none =>
    let name := String.ofList (Text.lowerAscii s)
    if name = "off" then some none else (Level.ofText? name).map some

end Threshold

/-- A field that has to be there, and perhaps a pattern for its value. -/
structure FieldCondition where
  name : String
  pattern : Option String
  deriving DecidableEq

/-- Covers the records whose target begins with the given text, as far as the conditions on the
span around them and on their fields hold. -/
structure Directive where
  target : Option String
  span : Option String
  field : Option FieldCondition
  threshold : Threshold
  deriving DecidableEq

/-- A decimal with an optional sign, or what stands for infinity or for no number. -/
def FieldCondition.isNumber (s : List Char) : Bool :=
  (Number.decimal? s).isSome ||
    ["inf", "infinity", "nan"].contains
      (String.ofList (Text.lowerAscii (Number.splitSign s).2))

/-- A name, perhaps with a number or a pattern behind a sign of equality. Another sign ends it. -/
def FieldCondition.ofText? (s : List Char) : Option FieldCondition :=
  match Text.split '=' s with
  | name :: pattern :: _ =>
    if isNumber pattern || Pattern.isWellFormed pattern then
      some ⟨String.ofList name, some (String.ofList pattern)⟩
    else none
  | _ => if s.isEmpty then none else some ⟨String.ofList s, none⟩

namespace Directive

def isOpening (c : Char) : Bool :=
  c == '-' || c == ':' || c == '_' || Text.isLetterOrNumber c

def find? (p : Char → Bool) (start : Nat) (s : List Char) : Option (Nat × Char) := do
  let i ← (s.drop start).findIdx? p
  pure (start + i, ← s[start + i]?)

/-- What stands in `s` behind as many bytes as `shape` has up to a place. -/
def behind (shape s : List Char) (place : Nat) : List Char :=
  Text.dropBytes (Text.byteSize (shape.take place)) s

def part (shape s : List Char) (start stop : Nat) : List Char :=
  behind shape (Text.firstBytes (Text.byteSize (shape.take stop)) s) start

def thresholdAt? (shape s : List Char) (place : Nat) : Option Threshold :=
  match shape[place]?, behind shape s (place + 1) with
  | none, _ => some (some .trace)
  | some '=', [] => some (some .trace)
  | some '=', level => Threshold.ofText? level
  | some _, _ => none

def conditionsAt? (shape s : List Char) (start : Nat) :
    Option (Option String × Option FieldCondition × Nat) := do
  let (stop, closing) ← find? (fun c => c == ']' || c == '\x7b') start shape
  let span := part shape s start stop
  if closing = ']' then pure (some (String.ofList span), none, stop + 1)
  else
    let (last, _) ← find? (· == '\x7d') (stop + 1) shape
    let field ← FieldCondition.ofText? (part shape s (stop + 1) last)
    if shape[last + 1]? = some ']' then
      pure (if span.isEmpty then none else some (String.ofList span), some field, last + 2)
    else none

/-- A directive without conditions admits everything if it has no level. The places of its parts are
found behind the blanks in front, but their bytes are counted from where the text begins. -/
def ofText? (s : List Char) : Option Directive := do
  let shape := Text.trim s
  let bracketed (target : Option String) (start : Nat) : Option Directive := do
    let (span, field, place) ← conditionsAt? shape s start
    pure ⟨target, span, field, ← thresholdAt? shape s place⟩
  let first ← shape.head?
  if first = '[' then bracketed none 1
  else if !isOpening first then none
  else
    match find? (fun c => c == '=' || c == '[') 0 shape with
    | none =>
      match Threshold.ofText? s with
      | some threshold => some ⟨none, none, none, threshold⟩
      | none => some ⟨some (String.ofList s), none, none, some .trace⟩
    | some (place, mark) =>
      let target := some (String.ofList (part shape s 0 place))
      if mark = '[' then bracketed target (place + 1)
      else (thresholdAt? shape s place).map (⟨target, none, none, ·⟩)

/-- Records stand in no span, and only spans have their fields matched against patterns. -/
def covers (d : Directive) (r : LogRecord) : Bool :=
  d.span.isNone &&
  (match d.target with
    | none => true
    | some lead => lead.toList.isPrefixOf r.target.toList) &&
  match d.field with
    | none => true
    | some ⟨name, none⟩ => name == "message" || r.fields.any (·.1 == name)
    | some ⟨_, some _⟩ => false

/-- The length of the target, where none is less than any. -/
def reach (d : Directive) : Nat :=
  match d.target with
  | none => 0
  | some lead => lead.utf8ByteSize + 1

/-- Longer targets are more specific; for the same target, a directive with a field is, and of two
such the one whose field comes later in the alphabet. -/
def isAsSpecific (d e : Directive) : Bool :=
  e.reach < d.reach || (e.reach == d.reach &&
    match e.field, d.field with
    | none, _ => true
    | some _, none => false
    | some f, some g => f.name ≤ g.name)

end Directive

end PluginWrapper
