import PluginWrapper.Log.Pattern.Atom
import PluginWrapper.Text.Split

/-!
Bracketed classes of characters. A class has single members, ranges, named classes and nested
classes, and operators between lists of these.
-/

namespace PluginWrapper.Pattern

/-- How deep a list of parts nests, by the depths of the parts. A single part makes no list. -/
def listDepth : List Nat → Nat
  | [] => 0
  | [d] => d
  | d :: ds => ds.foldl max d + 1

/-- A class that is read: how deep the part before its last operator nests, and the members behind
that, the last first. -/
structure Bracket where
  operand : Option Nat
  members : List Nat

namespace Bracket

def depth (b : Bracket) : Nat :=
  match b.operand with
  | none => listDepth b.members
  | some d => max d (listDepth b.members) + 1

def add (d : Nat) (b : Bracket) : Bracket :=
  { b with members := d :: b.members }

def names : List String :=
  ["alnum", "alpha", "ascii", "blank", "cntrl", "digit", "graph", "lower", "print", "punct",
    "space", "upper", "word", "xdigit"]

/-- A named class such as `[:alpha:]` or `[:^alpha:]`, by what follows its bracket: whether it is
negated, and what follows it. -/
def named? : List Char → Option (Bool × List Char)
  | ':' :: rest =>
    let (negated, rest) := match rest with
      | '^' :: rest => (true, rest)
      | _ => (false, rest)
    match Text.cut? ':' rest with
    | some (name, ']' :: rest) =>
      if names.contains (String.ofList name) then some (negated, rest) else none
    | _ => none
  | _ => none

/-- A negated class of bytes would have some above ASCII. -/
def isNamedMember (m : Mode) (negated : Bool) : Bool :=
  if m.unicode then !m.caseless else !negated

/-- Minus signs at the start, and what follows. The fuel bounds their number. -/
def leadingSigns (m : Mode) : Nat → List Char → List Char × List Char
  | fuel + 1, '-' :: rest =>
    let (signs, rest) := leadingSigns m fuel (m.skip rest)
    ('-' :: signs, rest)
  | _, s => ([], s)

/-- The class that a bracket opens, by what follows the bracket. At its start minus signs stand for
themselves, and if there are none, so does a closing bracket. No class of bytes is negated. -/
def opening? (m : Mode) (s : List Char) : Option (Bracket × List Char) :=
  let (negated, s) := match m.skip s with
    | '^' :: rest => (true, m.skip rest)
    | s => (false, s)
  let (members, s) := match leadingSigns m s.length s with
    | ([], ']' :: rest) => ([']'], rest)
    | r => r
  if (negated && !m.unicode) || !members.all fun c => (Atom.character c false).isMember m then none
  else some (⟨none, members.map fun _ => 0⟩, s)

/-- What follows a single member or a range. A minus sign before another or before the closing
bracket makes no range. -/
def afterMember? (m : Mode) (s : List Char) : Option (List Char) := do
  let (first, rest) ← Atom.plain? m s
  let single := if first.isMember m then some (m.skip rest) else none
  match m.skip rest with
  | '-' :: behind =>
    if m.peek? behind = some ']' || m.peek? behind = some '-' then single
    else
      match first, ← Atom.plain? m (m.skip behind) with
      | .character low _, (.character high _, rest) =>
        if low ≤ high && first.isMember m && (Atom.character high false).isMember m then some rest
        else none
      | _, _ => none
  | _ => single

/-- How deep the innermost of the open classes nests once all are closed, and what follows. The fuel
bounds the characters. -/
def read? (m : Mode) : Nat → Bracket → List Bracket → List Char → Option (Nat × List Char)
  | 0, _, _, _ => none
  | fuel + 1, inner, outer, s =>
    match m.skip s with
    | [] => none
    | '[' :: rest =>
      match named? rest with
      | some (negated, rest) =>
        if isNamedMember m negated then read? m fuel (inner.add 0) outer rest else none
      | none => do
        let (nested, rest) ← opening? m rest
        read? m fuel nested (inner :: outer) rest
    | ']' :: rest =>
      match outer with
      | [] => some (inner.depth + 1, rest)
      | next :: outer => read? m fuel (next.add (inner.depth + 1)) outer rest
    | '&' :: '&' :: rest | '-' :: '-' :: rest | '~' :: '~' :: rest =>
      read? m fuel ⟨some inner.depth, []⟩ outer rest
    | s => do read? m fuel (inner.add 0) outer (← afterMember? m s)

def ofText? (m : Mode) (s : List Char) : Option (Nat × List Char) := do
  let (b, rest) ← opening? m s
  read? m (rest.length + 1) b [] rest

end Bracket

end PluginWrapper.Pattern
