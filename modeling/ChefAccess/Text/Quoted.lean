import ChefAccess.Text.PrintableTable
import ChefAccess.Text.CaseTable
import ChefAccess.Text.Hex

/-!
# Quoted text

Descriptions of values for people show a text between double quotes, in a form
that stays on one line: quotes, backslashes and line controls are escaped, and a
character without a visible form of its own is written by its number.

Main definitions:

- {lit}`quoteChar`: the written form of one character.
- {lit}`quoted`: the written form of a text with its quotes.
-/

namespace ChefAccess
namespace Text

/-- Whether a character is written by its number. -/
def isHidden (c : Char) : Bool :=
  inRanges extenderRanges c.toNat || inRanges hiddenRanges c.toNat

/-- The written form of one character between quotes. -/
def quoteChar (c : Char) : List Char :=
  if c = '\x00' then ['\\', '0']
  else if c = '\t' then ['\\', 't']
  else if c = '\r' then ['\\', 'r']
  else if c = '\n' then ['\\', 'n']
  else if c = '"' then ['\\', '"']
  else if c = '\\' then ['\\', '\\']
  else if isHidden c then
    ['\\', 'u', '\x7b'] ++ (Hex.ofNat c.toNat).toList ++ ['\x7d']
  else [c]

/-- The written form of a text with its quotes. -/
def quoted (s : String) : String :=
  String.ofList (['"'] ++ s.toList.flatMap quoteChar ++ ['"'])

end Text
end ChefAccess
