/-
**Tables with texts as keys.**

A table holds one value for each of its keys, in increasing order of the keys.  Texts are compared
character by character, by code.

Main definitions:

* `Text.insert` — set the value of a key;
* `Text.tableOf` — the table of a list of pairs, of which later ones overwrite earlier ones.

Main statements:

* `Text.lookup_insert` — what is found after a key was set;
* `Text.lookup_tableOf` — the last pair with a key is what is found;
* `Text.sorted_tableOf` — the keys of a table increase.
-/

set_option autoImplicit false

namespace ParamTemplate.Text

/-- Pairs of a key and a value. -/
abbrev Pairs := List (List Char × List Char)

/-- Set the value of a key. -/
def insert (key value : List Char) : Pairs → Pairs
  | [] => [(key, value)]
  | (k, v) :: rest =>
      if key = k then (key, value) :: rest
      else if key < k then (key, value) :: (k, v) :: rest
      else (k, v) :: insert key value rest

/-- **The table of a list of pairs,** of which later ones overwrite earlier ones. -/
def tableOf (pairs : Pairs) : Pairs :=
  pairs.foldl (fun table pair => insert pair.1 pair.2 table) []

theorem lookup_pair (x key value : List Char) (rest : Pairs) :
    List.lookup x ((key, value) :: rest) = if x = key then some value else rest.lookup x := by
  rw [List.lookup_cons]
  by_cases h : x = key
  · rw [if_pos h, beq_iff_eq.2 h]
  · rw [if_neg h, beq_eq_false_iff_ne.2 h]

/-- **What is found after a key was set.** -/
theorem lookup_insert (key value x : List Char) (table : Pairs) :
    (insert key value table).lookup x = if x = key then some value else table.lookup x := by
  induction table with
  | nil => exact lookup_pair x key value []
  | cons pair rest ih =>
      obtain ⟨k, v⟩ := pair
      rw [insert]
      split
      · next he =>
          subst he
          by_cases h : x = key
          · rw [lookup_pair, if_pos h, if_pos h]
          · rw [lookup_pair, lookup_pair, if_neg h, if_neg h, if_neg h]
      · split
        · exact lookup_pair x key value ((k, v) :: rest)
        · next hne _ =>
            rw [lookup_pair, lookup_pair, ih]
            by_cases hk : x = k
            · rw [if_pos hk, if_pos hk, if_neg fun h => hne (h.symm.trans hk)]
            · rw [if_neg hk, if_neg hk]

theorem lookup_foldl_insert (x : List Char) (pairs table : Pairs) :
    (pairs.foldl (fun table pair => insert pair.1 pair.2 table) table).lookup x =
      (pairs.reverse.lookup x).or (table.lookup x) := by
  induction pairs generalizing table with
  | nil => rfl
  | cons pair rest ih =>
      obtain ⟨k, v⟩ := pair
      rw [List.foldl_cons, ih, lookup_insert, List.reverse_cons, List.lookup_append, lookup_pair]
      by_cases h : x = k
      · rw [if_pos h, if_pos h, Option.or_assoc, Option.some_or]
      · rw [if_neg h, if_neg h, List.lookup_nil, Option.or_none]

/-- **The last pair with a key is what is found.** -/
theorem lookup_tableOf (x : List Char) (pairs : Pairs) :
    (tableOf pairs).lookup x = pairs.reverse.lookup x := by
  rw [tableOf, lookup_foldl_insert, List.lookup_nil, Option.or_none]

theorem forall_lt_insert {key value low : List Char} {table : Pairs} (hkey : low < key)
    (h : ∀ pair ∈ table, low < pair.1) : ∀ pair ∈ insert key value table, low < pair.1 := by
  induction table with
  | nil => simpa [insert] using hkey
  | cons pair rest ih =>
      obtain ⟨hpair, hrest⟩ := List.forall_mem_cons.1 h
      rw [insert]
      split
      · exact List.forall_mem_cons.2 ⟨hkey, hrest⟩
      split
      · exact List.forall_mem_cons.2 ⟨hkey, h⟩
      · exact List.forall_mem_cons.2 ⟨hpair, ih hrest⟩

/-- A key is set where it keeps the order. -/
theorem sorted_insert (key value : List Char) {table : Pairs}
    (h : table.Pairwise fun pair next => pair.1 < next.1) :
    (insert key value table).Pairwise fun pair next => pair.1 < next.1 := by
  induction table with
  | nil => exact List.pairwise_singleton ..
  | cons pair rest ih =>
      obtain ⟨k, v⟩ := pair
      obtain ⟨hfirst, hrest⟩ := List.pairwise_cons.1 h
      rw [insert]
      split
      next he => exact List.pairwise_cons.2 ⟨he ▸ hfirst, hrest⟩
      next hne =>
        split
        next hlt =>
          refine List.pairwise_cons.2 ⟨List.forall_mem_cons.2 ⟨hlt, ?_⟩, h⟩
          exact fun pair hpair => List.lt_trans hlt (hfirst pair hpair)
        next hlt =>
          have hgt : k < key := Decidable.byContradiction fun hge =>
            hne (Std.Trichotomous.trichotomous (r := (· < ·)) key k hlt hge)
          exact List.pairwise_cons.2 ⟨forall_lt_insert hgt hfirst, ih hrest⟩

/-- **The keys of a table increase.** -/
theorem sorted_tableOf (pairs : Pairs) :
    (tableOf pairs).Pairwise fun pair next => pair.1 < next.1 := by
  rw [tableOf]
  exact List.foldlRecOn (motive := fun table : Pairs =>
    table.Pairwise fun pair next => pair.1 < next.1) pairs _ .nil
      fun table sorted pair _ => sorted_insert pair.1 pair.2 sorted

end ParamTemplate.Text
