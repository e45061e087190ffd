import PluginWrapper.Log.Directive

/-!
Log filters: which records are written. A filter is a list of directives; of those that cover a
record, the most specific decides.
-/

namespace PluginWrapper

abbrev LogFilter := List Directive

namespace LogFilter

def upTo (level : Level) : LogFilter :=
  [⟨none, none, none, some level⟩]

/-- A comma-separated list of directives; if one is malformed there is no filter. An empty list
admits errors alone. -/
def ofText? (s : String) : Option LogFilter := do
  let items := (Text.split ',' s.toList).filter (· != [])
  match ← items.mapM Directive.ofText? with
  | [] => pure (upTo .error)
  | directives => pure directives

/-- The most specific directive that covers a record; of equal ones, the last. -/
def decisive? (f : LogFilter) (r : LogRecord) : Option Directive :=
  (f.filter (·.covers r)).foldl (fun best d =>
    match best with
    | none => some d
    | some b => if d.isAsSpecific b then some d else best) none

def admits (f : LogFilter) (r : LogRecord) : Bool :=
  match f.decisive? r with
  | none => false
  | some d => d.threshold.admits r.level

end LogFilter

end PluginWrapper
