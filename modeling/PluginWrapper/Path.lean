import PluginWrapper.Text.Split

/-!
File paths as texts. A path is a lead, which is the root, the leading dot of a relative path or
nothing, and segments parted by slashes. Empty segments and dots name nothing.
-/

namespace PluginWrapper.Path

def splitLead : List Char → List Char × List Char
  | '/' :: rest => (['/'], rest)
  | ['.'] => (['.'], [])
  | '.' :: '/' :: rest => (['.'], '/' :: rest)
  | path => ([], path)

def isAbsolute (path : List Char) : Bool :=
  path.head? == some '/'

def isIdle (segment : List Char) : Bool :=
  segment == [] || segment == ['.']

/-- Appends a path: an absolute one replaces the base, any other follows it after a slash, which is
not doubled and not put before a path with an empty base. -/
def push (base path : List Char) : List Char :=
  if isAbsolute path then path
  else if base = [] ∨ base.getLast? = some '/' then base ++ path
  else base ++ '/' :: path

def pushAll (base : List Char) (paths : List (List Char)) : List Char :=
  paths.foldl push base

/-- The segments of a path from the last that names something, last first. -/
def namedSegments (path : List Char) : List (List Char) :=
  (Text.split '/' (splitLead path).2).reverse.dropWhile isIdle

def ofSegments (lead : List Char) (segments : List (List Char)) : List Char :=
  lead ++ Text.join '/' segments.reverse

/-- A name up to its last dot. A dot at the front, or none, leaves the name whole. -/
def stem (name : List Char) : List Char :=
  match (name.reverse.dropWhile (· != '.')).drop 1 with
  | [] => name
  | before => before.reverse

/-- Gives the last component another extension and drops what follows it. A path that does not end
in a name is kept. -/
def withExtension (path extension : List Char) : List Char :=
  match namedSegments path with
  | [] => path
  | name :: above =>
    if name = ['.', '.'] then path
    else ofSegments (splitLead path).1 ((stem name ++ '.' :: extension) :: above)

def ancestorsAux (lead : List Char) : List (List Char) → List (List Char)
  | [] => if lead = ['.'] then [lead] else []
  | segment :: above =>
    if isIdle segment then ancestorsAux lead above
    else ofSegments lead (segment :: above) :: ancestorsAux lead above

/-- The path without what follows its last component, then the path of the directory that holds it,
and so on upwards, short of the root and of the working directory when it is not written out. -/
def ancestors (path : List Char) : List (List Char) :=
  ancestorsAux (splitLead path).1 (namedSegments path)

def way : List (List Char) → List (List Char) → List (List Char)
  | name :: here, next :: names =>
    if name = next then way here names
    else List.replicate (here.length + 1) ['.', '.'] ++ next :: names
  | here, names => List.replicate here.length ['.', '.'] ++ names

/-- The components as they are looked up: every segment but the empty ones. -/
def names (path : List Char) : List (List Char) :=
  (Text.split '/' path).filter (· != [])

end PluginWrapper.Path
