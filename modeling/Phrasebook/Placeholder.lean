/-!
# Phrasebook.Placeholder

Placeholders in a sentence: the names in braces.

Braces do not nest.  A second opening brace before the closing one starts the name afresh, and a
closing brace without an open one is passed over.  Repeated names are kept, and so is an empty one.
-/

namespace Phrasebook

/-- The placeholders of a text, where `name` is the name read so far if a brace is open. -/
def placeholdersFrom (name : Option (List Char)) : List Char → List (List Char)
  | [] => []
  | c :: rest =>
    if c = '{' then placeholdersFrom (some []) rest
    else if c = '}' then name.toList ++ placeholdersFrom none rest
    else placeholdersFrom (name.map (· ++ [c])) rest

/-- The names of the placeholders in a text, in the order of their closing braces. -/
def placeholders (text : String) : List String :=
  (placeholdersFrom none text.toList).map String.ofList

end Phrasebook
