/-
**Named sets of characters.**

A table of the character database is a list of sets that are found by name.  Names are compared in
a loose form: case, blanks, hyphens, underscores and a leading `is` do not count.

Main definitions:

* `Unicode.NamedSet` — a set with its names, in loose form;
* `Unicode.looseName` — the loose form of a name;
* `Unicode.findSet` — the set of a table that has a name.
-/

import ParamTemplate.Text.CharSet

set_option autoImplicit false

namespace ParamTemplate.Unicode

/-- A set of characters with the names by which it is found, in loose form.  Where there are no
gaps the name is known but no set belongs to it. -/
structure NamedSet where
  names : List String
  gaps : Option String

/-- A name without a leading `is`. -/
def dropIs : List Char → List Char
  | 'i' :: 's' :: rest | 'i' :: 'S' :: rest | 'I' :: 's' :: rest | 'I' :: 'S' :: rest => rest
  | name => name

/-- The loose form of a name: a leading `is`, blanks, hyphens, underscores and all characters beyond
ASCII are left out, and letters are made small.  The name `isc` stays as it is, since what would be
left of it is the name of something else. -/
def looseName (name : List Char) : String :=
  let kept := (dropIs name).filter fun c => c.toNat < 0x80 && c != ' ' && c != '_' && c != '-'
  let loose := kept.map Char.toLower
  if loose = ['c'] && (dropIs name).length < name.length then "isc" else String.ofList loose

/-- The entry of a table that has a name, given in loose form. -/
def findSet (table : List NamedSet) (name : String) : Option NamedSet :=
  table.find? fun entry => entry.names.contains name

end ParamTemplate.Unicode
