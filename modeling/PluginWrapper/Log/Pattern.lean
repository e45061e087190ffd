import PluginWrapper.Log.Pattern.Bracket
import PluginWrapper.Text.LetterTable

/-!
Patterns for the values of fields: regular expressions, of which only the form is checked. As a
pattern of a filter has no closing brace in it, nothing is repeated a counted number of times.
-/

namespace PluginWrapper.Pattern

/-- A group that is read: the mode in it, how deep its finished branches nest, the parts of the
branch that is read, the last first, and whether the last can be repeated. -/
structure Group where
  mode : Mode
  branches : List Nat
  parts : List Nat
  repeatable : Bool

namespace Group

def start (m : Mode) : Group := ⟨m, [], [], false⟩

def depth (g : Group) : Nat :=
  listDepth (listDepth g.parts :: g.branches)

def add (d : Nat) (g : Group) : Group :=
  { g with parts := d :: g.parts, repeatable := true }

/-- Flags hold up to the end of the group. -/
def set (m : Mode) (g : Group) : Group :=
  { g with mode := m, parts := 0 :: g.parts, repeatable := false }

def branch (g : Group) : Group :=
  { g with branches := listDepth g.parts :: g.branches, parts := [], repeatable := false }

def repeat? (g : Group) : Option Group :=
  match g.parts with
  | d :: parts => if g.repeatable then some { g with parts := (d + 1) :: parts } else none
  | [] => none

end Group

/-- What a parenthesis opens: a group, perhaps with a name, or flags for the group around it. -/
inductive Opening where
  | group (m : Mode) (name : Option (List Char))
  | flags (m : Mode)

namespace Opening

def isNameStart (c : Char) : Bool :=
  c == '_' || Text.isLetter c

def isNameChar (c : Char) : Bool :=
  c == '_' || c == '.' || c == '[' || c == ']' || Text.isLetterOrNumber c

def named? (m : Mode) (s : List Char) : Option (Opening × List Char) :=
  match Text.cut? '>' s with
  | some (c :: name, rest) =>
    if isNameStart c && name.all isNameChar then some (.group m (some (c :: name)), rest) else none
  | _ => none

/-- Flags, for a group behind a colon or for the rest of the group around them. -/
def flagged? (m : Mode) (s : List Char) : Option (Opening × List Char) :=
  let isEnd (c : Char) : Bool := c == ':' || c == ')'
  let flags := s.takeWhile (!isEnd ·)
  if !Mode.isFlags flags then none
  else match s.drop flags.length with
    | ':' :: rest => some (.group (m.change flags) none, rest)
    | ')' :: rest => if flags.isEmpty then none else some (.flags (m.change flags), rest)
    | _ => none

def ofText? (m : Mode) (s : List Char) : Option (Opening × List Char) :=
  match m.skip s with
  | '?' :: 'P' :: '<' :: rest | '?' :: '<' :: rest => named? m rest
  | '?' :: rest => flagged? m rest
  | rest => some (.group m none, rest)

end Opening

/-- How deep the whole pattern nests, by its open groups and the names given so far. The fuel bounds
the characters. -/
def read? : Nat → Group → List Group → List (List Char) → List Char → Option Nat
  | 0, _, _, _, _ => none
  | fuel + 1, inner, outer, names, s =>
    let m := inner.mode
    match m.skip s with
    | [] => if outer.isEmpty then some inner.depth else none
    | '(' :: rest => do
      match ← Opening.ofText? m rest with
      | (.flags m, rest) => read? fuel (inner.set m) outer names rest
      | (.group m name, rest) =>
        if name.any names.contains then none
        else read? fuel (.start m) (inner :: outer) (name.toList ++ names) rest
    | ')' :: rest =>
      match outer with
      | [] => none
      | next :: outer => read? fuel (next.add (inner.depth + 1)) outer names rest
    | '|' :: rest => read? fuel inner.branch outer names rest
    | '[' :: rest => do
      let (d, rest) ← Bracket.ofText? m rest
      read? fuel (inner.add d) outer names rest
    | '\x7b' :: _ => none
    | '*' :: rest | '+' :: rest | '?' :: rest => do
      let rest := match rest with
        | '?' :: rest => rest
        | _ => rest
      read? fuel (← inner.repeat?) outer names rest
    | s => do
      let (atom, rest) ← Atom.read? m s
      if atom.isMatchable m then read? fuel (inner.add 0) outer names rest else none

def depthLimit : Nat := 250

def isWellFormed (s : List Char) : Bool :=
  (read? (s.length + 1) (.start .initial) [] [] s).any (· ≤ depthLimit)

end PluginWrapper.Pattern
