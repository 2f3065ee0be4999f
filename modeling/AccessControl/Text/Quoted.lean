import AccessControl.Text.DefaultIgnorable
import AccessControl.Text.GraphemeExtend
import AccessControl.Text.Unprintable
/-!
# Quoted text in messages

Messages show a text between double quotes.  A quote, a backslash and the common control characters
are written with a backslash; any other character without a visible shape of its own is written by
its number, as in `\u{200b}`.
-/

namespace AccessControl.Quoted

/-- The halfwidth voiced and semi-voiced sound marks of katakana.  Among the characters that extend
the one before them they alone are letters, and each fills a place of its own. -/
def isHalfwidthSoundMark (c : Char) : Bool := c == '\uff9e' || c == '\uff9f'

/-- Whether a character is written by its number: it is unprintable, invisible by default, or joins
the character before it without a place of its own. -/
def byNumber (c : Char) : Bool :=
  isUnprintable c || isDefaultIgnorable c || isGraphemeExtend c && !isHalfwidthSoundMark c

/-- How one character is written between quotes. -/
def escape (c : Char) : List Char :=
  match c with
  | '\x00' => ['\\', '0']
  | '\t' => ['\\', 't']
  | '\n' => ['\\', 'n']
  | '\r' => ['\\', 'r']
  | '"' => ['\\', '"']
  | '\\' => ['\\', '\\']
  | c =>
    if byNumber c then
      ['\\', 'u', '\x7b'] ++ Nat.toDigits 16 c.toNat ++ ['\x7d']
    else [c]

/-- A text between quotes. -/
def encode (s : String) : String :=
  String.ofList ('"' :: s.toList.flatMap escape ++ ['"'])

end AccessControl.Quoted
