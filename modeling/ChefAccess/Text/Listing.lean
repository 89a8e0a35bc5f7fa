import ChefAccess.Dict
import ChefAccess.Text.Quoted

/-!
# Lists in descriptions

Descriptions of values for people show lists of texts between square brackets, and
dictionaries of texts between braces.

Main definitions:

- {lit}`quotedList`: the written form of a list of texts.
- {lit}`quotedDict`: the written form of a dictionary of texts.
-/

namespace ChefAccess
namespace Text

/-- The written form of a list of texts. -/
def quotedList (texts : List String) : String :=
  "[" ++ ", ".intercalate (texts.map quoted) ++ "]"

/-- The written form of a dictionary of texts. -/
def quotedDict (dict : Dict String String) : String :=
  "\x7b" ++ ", ".intercalate
    (dict.entries.map fun entry => quoted entry.1 ++ ": " ++ quoted entry.2) ++ "\x7d"

end Text
end ChefAccess
