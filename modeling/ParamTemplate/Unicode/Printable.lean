/-
**Characters that can be shown.**

A character cannot be shown by itself if it is a control, a format character, a surrogate, not
assigned or for private use, if it is a separator other than the blank, or if it only extends the
character before it.

Main definition:

* `Unicode.isPrintable` — whether a character can be shown by itself.
-/

import ParamTemplate.Unicode.Property

set_option autoImplicit false

namespace ParamTemplate.Unicode

/-- The set with a name in a table; it is empty if there is none. -/
def tableSet (table : List NamedSet) (name : String) : CharSet :=
  ((findSet table name).bind NamedSet.set?).getD .empty

/-- The characters that cannot be shown by themselves. -/
def unprintable : CharSet :=
  CharSet.unions [tableSet categories "other", (tableSet categories "separator").diff (.single ' '),
    tableSet binaryProperties "graphemeextend"]

/-- Whether a character can be shown by itself. -/
def isPrintable (c : Char) : Bool := !unprintable.contains c

end ParamTemplate.Unicode
