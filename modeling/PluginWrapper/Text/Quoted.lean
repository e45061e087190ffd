import PluginWrapper.Text.GlyphTable

/-!
Texts quoted for a diagnostic. Between double quotes, a character that could not be told apart by
eye is written as an escape.
-/

namespace PluginWrapper.Text

def hexDigits (n : Nat) : List Char :=
  Nat.toDigits 16 n

/-- A character is shown by its number if it has no glyph or would join the one before it. -/
def isShownByNumber (c : Char) : Bool :=
  if c.toNat < 0x80 then c.toNat < 0x20 || c.toNat == 0x7F
  else glyphlessRanges.contains c || extendingRanges.contains c

def escapeChar (c : Char) : List Char :=
  if c = '\x00' then ['\\', '0']
  else if c = '\t' then ['\\', 't']
  else if c = '\n' then ['\\', 'n']
  else if c = '\r' then ['\\', 'r']
  else if c = '"' || c = '\\' then ['\\', c]
  else if isShownByNumber c then ['\\', 'u', '{'] ++ hexDigits c.toNat ++ ['}']
  else [c]

def quoted (s : String) : String :=
  String.ofList ('"' :: s.toList.flatMap escapeChar ++ ['"'])

example : quoted "a\"\\\u00adé\n" = "\"a\\\"\\\\\\u\x7bad\x7dé\\n\"" := by decide +kernel

end PluginWrapper.Text
