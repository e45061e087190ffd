import PluginWrapper.Value

/-!
Tables under construction. While a document is read, a table remembers whether it was only implied
by a longer name, and whether by a dotted key; that decides what may still be added to it.
-/

namespace PluginWrapper.Toml

/-- What a key stands for. The last of an array of tables is open to additions. -/
inductive Item where
  | value (v : Value)
  | table (implied dotted : Bool) (entries : List (String × Item))
  | tables (elements : List (List (String × Item)))
  deriving Inhabited

structure Table where
  /-- No header or value of its own has defined the table. -/
  implied : Bool
  /-- The table was made by a dotted key. -/
  dotted : Bool
  entries : List (String × Item)

namespace Table

def empty : Table := ⟨false, false, []⟩

def find? (t : Table) (key : String) : Option Item :=
  t.entries.lookup key

def append (t : Table) (key : String) (item : Item) : Table :=
  { t with entries := t.entries ++ [(key, item)] }

def replace (t : Table) (key : String) (item : Item) : Table :=
  { t with entries := t.entries.map fun e => if e.1 = key then (key, item) else e }

def erase (t : Table) (key : String) : Table :=
  { t with entries := t.entries.filter (·.1 ≠ key) }

/-- Changes the table that a path leads to. Missing tables are implied on the way. A dotted key does
not pass through a table that was defined by itself. -/
def alter (t : Table) (byDots : Bool) (change : Table → Option Table) :
    List String → Option Table
  | [] => change t
  | key :: path =>
    match t.find? key with
    | none => do
      let child ← alter ⟨true, byDots, []⟩ byDots change path
      pure (t.append key (.table child.implied child.dotted child.entries))
    | some (.table implied dotted entries) => do
      if byDots && !implied then none
      let child ← alter ⟨implied, dotted, entries⟩ byDots change path
      pure (t.replace key (.table child.implied child.dotted child.entries))
    | some (.tables elements) => do
      let last ← elements.getLast?
      let child ← alter ⟨false, false, last⟩ byDots change path
      pure (t.replace key (.tables (elements.dropLast ++ [child.entries])))
    | some (.value _) => none

def addValue? (dotted : Bool) (key : String) (v : Value) (t : Table) : Option Table :=
  if t.dotted != dotted || (t.find? key).isSome then none else some (t.append key (.value v))

/-- Adds a value under a dotted key. The key has to be new, and its table not one that a longer
header implied. -/
def insert (path : List String) (v : Value) (t : Table) : Option Table := do
  let key ← path.getLast?
  t.alter true (addValue? (!path.dropLast.isEmpty) key v) path.dropLast

/-- Defines the table of a key. One that longer headers implied moves to the end. -/
def define? (key : String) (t : Table) : Option Table :=
  match t.find? key with
  | none => some (t.append key (.table false false []))
  | some (.table true false entries) =>
    some ((t.erase key).append key (.table false false entries))
  | some _ => none

def define (path : List String) (t : Table) : Option Table := do
  let key ← path.getLast?
  t.alter false (define? key) path.dropLast

def extend? (key : String) (t : Table) : Option Table :=
  match t.find? key with
  | none => some (t.append key (.tables [[]]))
  | some (.tables elements) => some (t.replace key (.tables (elements ++ [[]])))
  | some _ => none

def extend (path : List String) (t : Table) : Option Table := do
  let key ← path.getLast?
  t.alter false (extend? key) path.dropLast

end Table

mutual

def Item.toValue : Item → Value
  | .value v => v
  | .table _ _ entries => .map (fields entries)
  | .tables elements => .seq (maps elements)

def fields : List (String × Item) → List (String × Value)
  | [] => []
  | (key, item) :: rest => (key, item.toValue) :: fields rest

def maps : List (List (String × Item)) → List Value
  | [] => []
  | entries :: rest => .map (fields entries) :: maps rest

end

def inlineTable? (entries : List (List String × Value)) : Option Value :=
  (entries.foldlM (fun (t : Table) e => t.insert e.1 e.2) Table.empty).map fun t =>
    .map (fields t.entries)

end PluginWrapper.Toml
