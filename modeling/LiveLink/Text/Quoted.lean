import LiveLink.Text.Unprintable

/-!
# Quoted text

Messages show text in double quotes. A quote, a backslash and the common
control characters are written with a backslash, any other character without a
picture of its own by its code point.
-/

namespace LiveLink.Text

/-- Lower-case hexadecimal digits of a natural number. -/
def hex (n : Nat) : String := String.ofList (Nat.toDigits 16 n)

/-- One character as it stands inside quotes. -/
def quotedChar (c : Char) : String :=
  if c = '"' then "\\\""
  else if c = '\\' then "\\\\"
  else if c = '\t' then "\\t"
  else if c = '\n' then "\\n"
  else if c = '\r' then "\\r"
  else if c = '\x00' then "\\0"
  else if isUnprintable c then "\\u\x7b" ++ hex c.toNat ++ "\x7d"
  else c.toString

/-- A text in double quotes. -/
def quoted (s : String) : String :=
  "\"" ++ s.toList.foldl (fun acc c => acc ++ quotedChar c) "" ++ "\""

end LiveLink.Text
