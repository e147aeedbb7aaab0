/-
**The names of groups.**

A group that is written with a number may have a name.  Which groups an expression has, and how they
are called, can be read off the written expression, whether or not they are kept in what it means.

Main definitions:

* `Regex.Pattern.groupNames` — the groups that are written with a number, with their names;
* `Regex.Pattern.names` — the names alone.

Main result:

* `Regex.Pattern.groupNames_relabel` — at another place groups have other numbers and the same
  names.
-/

import ParamTemplate.Proofs.Regex.Relabelling

set_option autoImplicit false

namespace ParamTemplate.Regex

/-- The number of a group of a kind, with its name if it has one. -/
def GroupKind.groupNames : GroupKind → List (Nat × Option (List Char))
  | plain _ => []
  | numbered index => [(index, none)]
  | named index name => [(index, some name)]

/-- The name of a group of a kind. -/
def GroupKind.names (kind : GroupKind) : List (List Char) := kind.groupNames.filterMap Prod.snd

mutual

/-- **The groups that are written with a number, with their names,** in the order in which they are
opened. -/
def Pattern.groupNames : Pattern → List (Nat × Option (List Char))
  | .repetition _ _ _ _ body => body.groupNames
  | .group _ kind body => kind.groupNames ++ body.groupNames
  | .choice _ branches => Pattern.allGroupNames branches
  | .sequence _ items => Pattern.allGroupNames items
  | _ => []

/-- The groups of a list of written expressions, with their names. -/
def Pattern.allGroupNames : List Pattern → List (Nat × Option (List Char))
  | [] => []
  | item :: rest => item.groupNames ++ Pattern.allGroupNames rest

end

/-- **The names that are defined in an expression.** -/
def Pattern.names (p : Pattern) : List (List Char) := p.groupNames.filterMap Prod.snd

theorem Pattern.allGroupNames_eq_flatMap (items : List Pattern) :
    Pattern.allGroupNames items = items.flatMap Pattern.groupNames := by
  induction items with
  | nil => rfl
  | cons item rest ih => rw [Pattern.allGroupNames, ih, List.flatMap_cons]

mutual

/-- **At another place groups have other numbers and the same names.** -/
theorem Pattern.groupNames_relabel (r : Relabelling) : (p : Pattern) →
    (p.relabel r).groupNames = p.groupNames.map fun entry => (r.number entry.1, entry.2)
  | .empty _ | .flags .. | .literal _ | .dot _ | .assertion .. | .short .. | .property ..
  | .bracket .. => rfl
  | .repetition _ _ _ _ body => Pattern.groupNames_relabel r body
  | .group span kind body => by
      have kinds : (kind.relabel r).groupNames =
          kind.groupNames.map fun entry => (r.number entry.1, entry.2) := by
        cases kind <;> rfl
      simp only [Pattern.relabel, Pattern.groupNames, kinds, Pattern.groupNames_relabel r body,
        List.map_append]
  | .choice _ branches => Pattern.allGroupNames_relabel r branches
  | .sequence _ items => Pattern.allGroupNames_relabel r items

theorem Pattern.allGroupNames_relabel (r : Relabelling) : (items : List Pattern) →
    Pattern.allGroupNames (Pattern.relabelAll r items) =
      (Pattern.allGroupNames items).map fun entry => (r.number entry.1, entry.2)
  | [] => rfl
  | item :: rest => by
      simp only [Pattern.relabelAll, Pattern.allGroupNames, Pattern.groupNames_relabel r item,
        Pattern.allGroupNames_relabel r rest, List.map_append]

end

end ParamTemplate.Regex
