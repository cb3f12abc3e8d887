import ClusterGate.Text.Blank
import ClusterGate.Text.PrintableTable

/-!
# Quoted texts in messages

A text in double quotes as messages show it: quotes, backslashes and line
ends are escaped by a letter, and characters that have no glyph of their
own by their number.
-/

namespace ClusterGate.Text

/-- Lower-case hexadecimal digits of a number. -/
def hexText (n : Nat) : List Char := Nat.toDigits 16 n

/-- Whether a character is shown by its number. -/
def isShownByNumber (c : Char) : Bool :=
  c.toNat < 0x20 || c.toNat == 0x7F ||
    (0x7F < c.toNat &&
      (covered extendingTable c.toNat || covered unprintableTable c.toNat))

/-- One character of a quoted text. -/
def quoteChar (c : Char) : List Char :=
  match c with
  | '\x00' => ['\\', '0']
  | '\t' => ['\\', 't']
  | '\r' => ['\\', 'r']
  | '\n' => ['\\', 'n']
  | '"' => ['\\', '"']
  | '\\' => ['\\', '\\']
  | _ =>
    if isShownByNumber c then
      "\\u\x7b".toList ++ hexText c.toNat ++ "\x7d".toList
    else [c]

/-- A text in quotes. -/
def quote (text : String) : String :=
  "\"" ++ String.ofList (text.toList.flatMap quoteChar) ++ "\""

end ClusterGate.Text
