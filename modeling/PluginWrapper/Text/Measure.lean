/-!
Texts measured by the bytes of their encoding.
-/

namespace PluginWrapper.Text

def byteSize : List Char → Nat
  | [] => 0
  | c :: rest => c.utf8Size + byteSize rest

def firstBytes (bytes : Nat) : List Char → List Char
  | [] => []
  | c :: rest => if c.utf8Size ≤ bytes then c :: firstBytes (bytes - c.utf8Size) rest else []

def dropBytes (bytes : Nat) (s : List Char) : List Char :=
  s.drop (firstBytes bytes s).length

end PluginWrapper.Text
