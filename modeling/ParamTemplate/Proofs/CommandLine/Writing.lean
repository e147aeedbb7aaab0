/-
**Command lines are read back.**

Whatever is chosen, with any template and any texts, can be written as a command line, in many ways:
the options in any order, switches by their long or their short names, and then, behind two dashes,
the template and the texts as they are.  Without the two dashes the options may stand anywhere
between them, as long as none of them begins with a dash.  Whichever way is taken, the command line
is read as what was written; only that the question for one value excludes the other one, and is
complained about.

Reading is lazy: an argument takes effect when the next one has been seen.  So what is known after
some arguments (`CommandLine.Reading.Knows`) is said of what has been read, whether it has taken
effect or not; settling does not change it, and each argument adds to it what it says.

Main definitions:

* `CommandLine.Choices.Spells`, `CommandLine.Choices.Writes` — how one option, and all of them, may
  be written;
* `CommandLine.Interleaving` — two lists are merged, in any way that keeps their orders;
* `CommandLine.IsWritten` — the command lines for what is chosen, with a template and texts;
* `CommandLine.Reading.Knows` — what is known after some arguments.

Main results:

* `CommandLine.Reading.Knows.feed_token`, `CommandLine.Reading.Knows.feed_positional` — what an
  argument adds;
* `CommandLine.Reading.Knows.feedAll_interleaving` — what all of them add, in any order;
* `CommandLine.read_written` — **what is written is read back**.
-/

import Mathlib.Data.List.Forall2
import Mathlib.Data.List.Nodup
import Mathlib.Data.List.Permutation
import ParamTemplate.CommandLine.Options

set_option autoImplicit false

namespace ParamTemplate.CommandLine

/-! ### What is chosen -/

namespace Choices

/-- Whether a switch is on. -/
def has (choices : Choices) : Switch → Bool
  | .check => choices.check
  | .explain => choices.explain
  | .json => choices.json
  | .sequential => choices.sequential
  | .noColor => choices.noColor
  | .help | .version => false

/-- The value of a setting. -/
def value? (choices : Choices) : Setting → Option (List Char)
  | .input => choices.input?
  | .param => choices.param?

/-- Whether something is chosen. -/
def isChosen (choices : Choices) : Named → Bool
  | .switch switch => choices.has switch
  | .setting setting => (choices.value? setting).isSome

/-- **What is chosen.** -/
def chosen (choices : Choices) : List Named := Named.all.filter choices.isChosen

/-- The choices without what is not among some names. -/
def only (choices : Choices) (names : List Named) : Choices where
  input? := if .setting .input ∈ names then choices.input? else none
  param? := if .setting .param ∈ names then choices.param? else none
  check := choices.check && decide (.switch .check ∈ names)
  explain := choices.explain && decide (.switch .explain ∈ names)
  json := choices.json && decide (.switch .json ∈ names)
  sequential := choices.sequential && decide (.switch .sequential ∈ names)
  noColor := choices.noColor && decide (.switch .noColor ∈ names)

variable {choices : Choices} {names : List Named}

@[simp] theorem only_nil (choices : Choices) : choices.only [] = {} := by simp [only]

/-- A switch that is turned on is one more name. -/
theorem turnOn_only {switch : Switch} (h : choices.has switch = true) :
    (choices.only names).turnOn switch = choices.only (names ++ [.switch switch]) := by
  cases switch <;> simp_all [has, only, turnOn]

/-- A setting that is given its value is one more name. -/
theorem set_only {setting : Setting} {value : List Char} (h : choices.value? setting = some value) :
    (choices.only names).set value setting = choices.only (names ++ [.setting setting]) := by
  cases setting <;> simp_all [value?, only, set]

theorem mem_chosen {named : Named} : named ∈ choices.chosen ↔ choices.isChosen named = true := by
  have all : named ∈ Named.all := by
    cases named with
    | switch switch => cases switch <;> decide
    | setting setting => cases setting <;> decide
  rw [chosen, List.mem_filter, and_iff_right all]

theorem nodup_chosen (choices : Choices) : choices.chosen.Nodup :=
  List.Nodup.filter _ (by decide)

/-- **With all that is chosen the choices are complete.** -/
theorem only_of_perm (h : names.Perm choices.chosen) : choices.only names = choices := by
  have mem (named : Named) : named ∈ names ↔ choices.isChosen named = true :=
    h.mem_iff.trans mem_chosen
  obtain ⟨input?, param?, check, explain, json, sequential, noColor⟩ := choices
  simp only [only, mem, isChosen, has, value?]
  cases input? <;> cases param? <;> simp

/-! ### How it is written -/

/-- **How something that is chosen may be written:** a switch by its long or its short name, and a
setting by its long name, with the value behind an equals sign. -/
inductive Spells (choices : Choices) : Named → List Char → Prop
  | long {switch : Switch} (on : choices.has switch = true) :
      Spells choices (.switch switch) ('-' :: '-' :: switch.long)
  | short {switch : Switch} {name : Char} (on : choices.has switch = true)
      (named : switch.short? = some name) : Spells choices (.switch switch) ['-', name]
  | value {setting : Setting} {value : List Char} (given : choices.value? setting = some value) :
      Spells choices (.setting setting) ('-' :: '-' :: setting.long ++ '=' :: value)

/-- **How all that is chosen may be written:** in any order. -/
def Writes (choices : Choices) (tokens : List (List Char)) : Prop :=
  ∃ names : List Named, names.Perm choices.chosen ∧ List.Forall₂ choices.Spells names tokens

/-- What is chosen can be written. -/
theorem exists_spells {named : Named} (h : choices.isChosen named = true) :
    ∃ token, choices.Spells named token := by
  cases named with
  | switch switch => exact ⟨_, .long h⟩
  | setting setting =>
      obtain ⟨value, hvalue⟩ := Option.isSome_iff_exists.1 h
      exact ⟨_, .value hvalue⟩

/-- All that is chosen can be written, in any order. -/
theorem exists_tokens (h : ∀ named ∈ names, choices.isChosen named = true) :
    ∃ tokens, List.Forall₂ choices.Spells names tokens := by
  induction names with
  | nil => exact ⟨[], .nil⟩
  | cons named names ih =>
      obtain ⟨hnamed, hnames⟩ := List.forall_mem_cons.1 h
      obtain ⟨token, htoken⟩ := exists_spells hnamed
      obtain ⟨tokens, htokens⟩ := ih hnames
      exact ⟨token :: tokens, .cons htoken htokens⟩

end Choices

/-- **Two lists are merged,** in any way that keeps their orders. -/
inductive Interleaving {α : Type} : List α → List α → List α → Prop
  | nil : Interleaving [] [] []
  | left {x : α} {xs ys zs : List α} (rest : Interleaving xs ys zs) :
      Interleaving (x :: xs) ys (x :: zs)
  | right {y : α} {xs ys zs : List α} (rest : Interleaving xs ys zs) :
      Interleaving xs (y :: ys) (y :: zs)

theorem Interleaving.alone {α : Type} (xs : List α) : Interleaving xs [] xs := by
  induction xs with
  | nil => exact .nil
  | cons x xs ih => exact .left ih

/-- **The command lines for what is chosen,** with a template and texts. -/
inductive IsWritten (choices : Choices) (positionals : List (List Char)) : List (List Char) → Prop
  /-- Behind two dashes the template and the texts stand as they are. -/
  | dashed {tokens : List (List Char)} (options : choices.Writes tokens) :
      IsWritten choices positionals (tokens ++ ['-', '-'] :: positionals)
  /-- Without them the options stand anywhere, if neither the template nor a text begins with a
  dash. -/
  | mixed {tokens arguments : List (List Char)} (options : choices.Writes tokens)
      (merged : Interleaving tokens positionals arguments)
      (plain : ∀ argument ∈ positionals, argument.head? ≠ some '-') :
      IsWritten choices positionals arguments

/-! ### What is known -/

namespace Reading

/-- The template and the texts that have been read, whether they have taken effect or not. -/
def positionals (s : Reading) : List (List Char) :=
  s.template?.toList ++ s.texts ++
    match s.held with
    | .template text => [text]
    | .texts texts => texts
    | .nothing | .setting _ _ => []

/-- **What is known after some arguments:** these names, and this template with these texts. -/
structure Knows (s : Reading) (choices : Choices) (names : List Named)
    (texts : List (List Char)) : Prop where
  choices_eq : s.choices = choices.only names
  used_eq : s.used.filter Argument.isNamed = names.map .named
  positionals_eq : s.positionals = texts
  /-- Texts come behind the template. -/
  texts_eq_nil : s.template? = none → s.texts = [] ∧ ∀ held, s.held ≠ .texts held
  template_eq_none : ∀ text, s.held = .template text → s.template? = none
  /-- No setting waits for a value. -/
  not_waiting : ∀ setting value?, s.held ≠ .setting setting value?

variable {s : Reading} {choices : Choices} {names more : List Named} {named : Named}
  {texts arguments tokens rest : List (List Char)} {argument token : List Char}

theorem knows_start (choices : Choices) : Knows {} choices [] [] where
  choices_eq := (Choices.only_nil choices).symm
  used_eq := rfl
  positionals_eq := rfl
  texts_eq_nil _ := ⟨rfl, nofun⟩
  template_eq_none := nofun
  not_waiting := nofun

/-- What counts as a template or a text is given by no name. -/
theorem filter_isNamed_append {used : List Argument} {argument : Argument}
    (h : argument.isNamed = false) :
    (used ++ [argument]).filter Argument.isNamed = used.filter Argument.isNamed := by
  simp [h]

/-- **What has been read can take effect,** which changes nothing of what is known. -/
theorem Knows.settle (h : s.Knows choices names texts) : ∃ t, s.settle = .ok t ∧
    t.Knows choices names texts ∧ t.held = .nothing ∧ t.verbatim = s.verbatim := by
  obtain ⟨template?, texts', chosen, used, held, verbatim⟩ := s
  obtain ⟨hchoices, hused, hpositionals, htexts, htemplate, hwaiting⟩ := h
  cases held with
  | nothing =>
      exact ⟨_, rfl, ⟨hchoices, hused, hpositionals, htexts, htemplate, hwaiting⟩, rfl, rfl⟩
  | template text =>
      obtain rfl : template? = none := htemplate text rfl
      obtain ⟨rfl, -⟩ := htexts rfl
      refine ⟨_, rfl, ⟨hchoices, ?_, ?_, nofun, nofun, nofun⟩, rfl, rfl⟩
      · exact (filter_isNamed_append rfl).trans hused
      · rw [← hpositionals]
        rfl
  | texts held =>
      cases template? with
      | none => exact absurd rfl ((htexts rfl).2 held)
      | some template =>
          refine ⟨_, rfl, ⟨hchoices, ?_, ?_, nofun, nofun, nofun⟩, rfl, rfl⟩
          · rw [← hused]
            dsimp only
            split
            · rfl
            · exact filter_isNamed_append rfl
          · rw [← hpositionals]
            simp [positionals]
  | setting setting value? => exact absurd rfl (hwaiting setting value?)

/-- What is not among the names has not been used. -/
theorem Knows.not_contains (h : s.Knows choices names texts) (fresh : named ∉ names) :
    s.used.contains (.named named) = false := by
  have absent : Argument.named named ∉ s.used := by
    intro hmem
    have hfilter : Argument.named named ∈ s.used.filter Argument.isNamed :=
      List.mem_filter.2 ⟨hmem, rfl⟩
    rw [h.used_eq] at hfilter
    obtain ⟨other, hother, heq⟩ := List.mem_map.1 hfilter
    exact fresh (Argument.named.inj heq ▸ hother)
  simpa using absent

/-- What takes effect is one more name. -/
theorem Knows.chosen (h : s.Knows choices names texts) {chosen : Choices}
    (hchosen : chosen = choices.only (names ++ [named])) :
    ({ s with choices := chosen, used := s.used ++ [.named named] } : Reading).Knows choices
      (names ++ [named]) texts where
  choices_eq := hchosen
  used_eq := by
    rw [List.filter_append, h.used_eq, List.map_append]
    rfl
  positionals_eq := h.positionals_eq
  texts_eq_nil := h.texts_eq_nil
  template_eq_none := h.template_eq_none
  not_waiting := h.not_waiting

theorem Knows.readSwitch (h : s.Knows choices names texts) {switch : Switch}
    (on : choices.has switch = true) (fresh : .switch switch ∉ names) :
    ∃ t, s.readSwitch switch = .ok t ∧ t.Knows choices (names ++ [.switch switch]) texts ∧
      t.verbatim = s.verbatim := by
  obtain ⟨u, hsettle, hu, -, verbatim⟩ := h.settle
  refine ⟨_, ?_, hu.chosen (hu.choices_eq ▸ Choices.turnOn_only on), verbatim⟩
  rw [Reading.readSwitch, hsettle]
  have unused := hu.not_contains fresh
  cases switch with
  | help => cases on
  | version => cases on
  | check | explain | json | sequential | noColor =>
      change (if _ then _ else _) = _
      rw [if_neg (by simpa using unused)]

theorem Knows.readSetting (h : s.Knows choices names texts) {setting : Setting} {value : List Char}
    (given : choices.value? setting = some value) (path : setting = .input → value ≠ [])
    (fresh : .setting setting ∉ names) :
    ∃ t, s.readSetting setting (some value) = .ok t ∧
      t.Knows choices (names ++ [.setting setting]) texts ∧ t.verbatim = s.verbatim := by
  obtain ⟨u, hsettle, hu, -, verbatim⟩ := h.settle
  refine ⟨_, ?_, hu.chosen (hu.choices_eq ▸ Choices.set_only given), verbatim⟩
  rw [Reading.readSetting, hsettle]
  have unused := hu.not_contains fresh
  change u.store setting value = _
  rw [store, if_neg (by simpa using unused), if_neg (by simpa using path)]

/-- One more text joins those that wait. -/
theorem readPositional_of_texts {held : List (List Char)} (h : s.held = .texts held) :
    s.readPositional argument = .ok { s with held := .texts (held ++ [argument]) } := by
  unfold Reading.readPositional
  rw [h]
  rfl

/-- Behind anything else the template or a text is the first that waits. -/
theorem readPositional_of_settle (h : ∀ held, s.held ≠ .texts held) {t : Reading}
    (hsettle : s.settle = .ok t) : s.readPositional argument = .ok { t with
      held := if t.template?.isSome then .texts [argument] else .template argument } := by
  unfold Reading.readPositional
  split
  next held hheld => exact absurd hheld (h held)
  next =>
    obtain ⟨template?, texts, choices, used, held, verbatim⟩ := t
    rw [hsettle]
    cases template? <;> rfl

/-- **The template or a text is added** to what is known. -/
theorem Knows.readPositional (h : s.Knows choices names texts) (argument : List Char) :
    ∃ t, s.readPositional argument = .ok t ∧ t.Knows choices names (texts ++ [argument]) ∧
      t.verbatim = s.verbatim := by
  by_cases waiting : ∃ held, s.held = .texts held
  · obtain ⟨held, hheld⟩ := waiting
    refine ⟨_, readPositional_of_texts hheld,
      ⟨h.choices_eq, h.used_eq, ?_, fun none => ?_, nofun, nofun⟩, rfl⟩
    · rw [← h.positionals_eq]
      simp [positionals, hheld]
    · exact absurd hheld ((h.texts_eq_nil none).2 held)
  · obtain ⟨t, hsettle, ht, hheld, verbatim⟩ := h.settle
    refine ⟨_, readPositional_of_settle (not_exists.1 waiting) hsettle, ?_, verbatim⟩
    obtain ⟨template?, texts', chosen, used, held, verbatim'⟩ := t
    obtain rfl : held = .nothing := hheld
    cases template? with
    | none =>
        obtain ⟨none, -⟩ := ht.texts_eq_nil rfl
        obtain rfl : texts' = [] := none
        refine ⟨ht.choices_eq, ht.used_eq, ?_, fun _ => ⟨rfl, nofun⟩, fun _ _ => rfl, nofun⟩
        rw [← ht.positionals_eq]
        rfl
    | some template =>
        refine ⟨ht.choices_eq, ht.used_eq, ?_, nofun, nofun, nofun⟩
        rw [← ht.positionals_eq]
        simp [positionals]

/-! ### What an argument adds -/

theorem feed_dashes (before : s.verbatim = false) :
    s.feed ['-', '-'] = .ok { s with verbatim := true } := by
  rw [feed, if_neg (by simp [before])]

theorem feed_long (before : s.verbatim = false) (switch : Switch) :
    s.feed ('-' :: '-' :: switch.long) = s.readSwitch switch := by
  unfold feed
  rw [if_neg (by simp [before])]
  cases switch <;> rfl

theorem feed_short (before : s.verbatim = false) {switch : Switch} {name : Char}
    (named : switch.short? = some name) :
    s.feed ['-', name] = s.readSwitch switch >>= fun t => t.readRow [] := by
  unfold feed
  rw [if_neg (by simp [before])]
  cases switch <;> cases named <;> rfl

theorem feed_value (before : s.verbatim = false) (setting : Setting) (value : List Char) :
    s.feed ('-' :: '-' :: setting.long ++ '=' :: value) = s.readSetting setting (some value) := by
  unfold feed
  rw [if_neg (by simp [before])]
  cases setting <;> rfl

/-- What does not begin with a dash, or stands behind two dashes, is no option. -/
theorem feed_plain (waiting : ∀ setting value?, s.held ≠ .setting setting value?)
    (plain : s.verbatim = true ∨ argument.head? ≠ some '-') :
    s.feed argument = s.readPositional argument := by
  unfold feed
  split
  · rfl
  next before =>
    have hplain := plain.resolve_left before
    have readPlain : s.readPlain argument = s.readPositional argument := by
      unfold Reading.readPlain
      split
      next setting hheld => exact absurd hheld (waiting setting none)
      next => rfl
    split
    · exact absurd rfl hplain
    · exact absurd rfl hplain
    · exact absurd rfl hplain
    · exact absurd rfl hplain
    · exact readPlain

/-- **An option is added** to what is known. -/
theorem Knows.feed_token (h : s.Knows choices names texts) (spelled : choices.Spells named token)
    (path : choices.input? ≠ some []) (fresh : named ∉ names) (before : s.verbatim = false) :
    ∃ t, s.feed token = .ok t ∧ t.Knows choices (names ++ [named]) texts ∧ t.verbatim = false := by
  cases spelled with
  | @long switch on =>
      obtain ⟨t, hread, ht, verbatim⟩ := h.readSwitch on fresh
      exact ⟨t, (feed_long before switch).trans hread, ht, verbatim.trans before⟩
  | @short switch name on named =>
      obtain ⟨t, hread, ht, verbatim⟩ := h.readSwitch on fresh
      refine ⟨t, ?_, ht, verbatim.trans before⟩
      rw [feed_short before named, hread]
      rfl
  | @value setting value given =>
      have nonempty : setting = .input → value ≠ [] := by
        rintro rfl rfl
        exact path given
      obtain ⟨t, hread, ht, verbatim⟩ := h.readSetting given nonempty fresh
      exact ⟨t, (feed_value before setting value).trans hread, ht, verbatim.trans before⟩

/-- **The template or a text is added** to what is known. -/
theorem Knows.feed_positional (h : s.Knows choices names texts)
    (plain : s.verbatim = true ∨ argument.head? ≠ some '-') :
    ∃ t, s.feed argument = .ok t ∧ t.Knows choices names (texts ++ [argument]) ∧
      t.verbatim = s.verbatim := by
  rw [feed_plain h.not_waiting plain]
  exact h.readPositional argument

/-! ### What all arguments add -/

/-- **All arguments are added,** in whatever order options stand between the others. -/
theorem Knows.feedAll_interleaving (h : s.Knows choices names texts)
    (merged : Interleaving tokens rest arguments)
    (spelled : List.Forall₂ choices.Spells more tokens) (path : choices.input? ≠ some [])
    (fresh : (names ++ more).Nodup) (plain : ∀ argument ∈ rest, argument.head? ≠ some '-')
    (before : s.verbatim = false) :
    ∃ t, s.feedAll arguments = .ok t ∧ t.Knows choices (names ++ more) (texts ++ rest) ∧
      t.verbatim = false := by
  induction merged generalizing s names more texts with
  | nil =>
      cases spelled
      rw [List.append_nil, List.append_nil]
      exact ⟨s, rfl, h, before⟩
  | @left token tokens rest arguments merged ih =>
      obtain ⟨named, more, htoken, htokens, rfl⟩ := List.forall₂_cons_right_iff.1 spelled
      have absent : named ∉ names := fun hmem =>
        List.disjoint_of_nodup_append fresh hmem (List.mem_cons_self ..)
      rw [List.append_cons] at fresh ⊢
      obtain ⟨t, hfeed, ht, hbefore⟩ := h.feed_token htoken path absent before
      obtain ⟨u, hfeedAll, hu⟩ := ih ht htokens fresh plain hbefore
      exact ⟨u, by rw [feedAll_cons, hfeed]; exact hfeedAll, hu⟩
  | @right argument tokens rest arguments merged ih =>
      obtain ⟨hargument, hrest⟩ := List.forall_mem_cons.1 plain
      obtain ⟨t, hfeed, ht, hbefore⟩ := h.feed_positional (.inr hargument)
      obtain ⟨u, hfeedAll, hu⟩ := ih ht spelled fresh hrest (hbefore.trans before)
      rw [List.append_cons]
      exact ⟨u, by rw [feedAll_cons, hfeed]; exact hfeedAll, hu⟩

/-- **Behind two dashes all arguments are added** as they are. -/
theorem Knows.feedAll_verbatim (h : s.Knows choices names texts) (behind : s.verbatim = true)
    (rest : List (List Char)) :
    ∃ t, s.feedAll rest = .ok t ∧ t.Knows choices names (texts ++ rest) := by
  induction rest generalizing s texts with
  | nil => exact ⟨s, rfl, (List.append_nil texts).symm ▸ h⟩
  | cons argument rest ih =>
      obtain ⟨t, hfeed, ht, hbehind⟩ := h.feed_positional (.inl behind)
      obtain ⟨u, hfeedAll, hu⟩ := ih ht (hbehind.trans behind)
      rw [List.append_cons]
      exact ⟨u, by rw [feedAll_cons, hfeed]; exact hfeedAll, hu⟩

/-- **After a written command line all is known.** -/
theorem exists_knows_of_isWritten (path : choices.input? ≠ some [])
    (written : IsWritten choices texts arguments) : ∃ s names, feedAll {} arguments = .ok s ∧
      s.Knows choices names texts ∧ names.Perm choices.chosen := by
  have start := knows_start choices
  cases written with
  | @dashed tokens options =>
      obtain ⟨names, hnames, spelled⟩ := options
      have fresh : ([] ++ names).Nodup := hnames.nodup_iff.2 choices.nodup_chosen
      obtain ⟨t, htokens, ht, before⟩ :=
        start.feedAll_interleaving (.alone tokens) spelled path fresh (List.forall_mem_nil _) rfl
      have hdashed : ({ t with verbatim := true } : Reading).Knows choices names [] :=
        ⟨ht.choices_eq, ht.used_eq, ht.positionals_eq, ht.texts_eq_nil, ht.template_eq_none,
          ht.not_waiting⟩
      obtain ⟨u, hrest, hu⟩ := hdashed.feedAll_verbatim rfl texts
      refine ⟨u, names, ?_, hu, hnames⟩
      rw [feedAll_append, htokens]
      change t.feedAll (['-', '-'] :: texts) = _
      rw [feedAll_cons, feed_dashes before]
      exact hrest
  | @mixed tokens _ options merged plain =>
      obtain ⟨names, hnames, spelled⟩ := options
      have fresh : ([] ++ names).Nodup := hnames.nodup_iff.2 choices.nodup_chosen
      obtain ⟨t, ht, hknows, -⟩ :=
        start.feedAll_interleaving merged spelled path fresh plain rfl
      exact ⟨t, names, ht, hknows, hnames⟩

/-! ### What the command line says -/

/-- Whether something excludes another argument. -/
def isRival (named : Named) : Bool := named = .switch .check || named = .setting .param

/-- The arguments that exclude each other are found among the names. -/
theorem Knows.filter_rivals (h : s.Knows choices names texts) :
    (s.used.filter fun argument =>
      argument = .named (.switch .check) || argument = .named (.setting .param)) =
      (names.filter isRival).map .named := by
  have given : (fun argument : Argument =>
      decide (argument = .named (.switch .check)) || decide (argument = .named (.setting .param))) =
        fun argument => (argument = .named (.switch .check) ||
          argument = .named (.setting .param)) && argument.isNamed := by
    funext argument
    cases argument <;> simp [Argument.isNamed]
  have rival : (fun argument : Argument =>
      decide (argument = .named (.switch .check)) || decide (argument = .named (.setting .param))) ∘
        Argument.named = isRival := by
    funext named
    simp [isRival]
  rw [given, ← List.filter_filter, h.used_eq, List.filter_map, rival]

/-- Two arguments at most exclude each other. -/
theorem filter_rivals_chosen (choices : Choices) :
    choices.chosen.filter isRival =
      [.setting .param, .switch .check].filter choices.isChosen := by
  rw [Choices.chosen, List.filter_comm]
  rfl

/-- **There is no conflict** unless one value is asked for and the question is excluded. -/
theorem Knows.conflict?_eq_none (h : s.Knows choices names texts)
    (hnames : names.Perm choices.chosen)
    (apart : ¬(choices.check = true ∧ choices.param?.isSome = true)) : s.conflict? = none := by
  have rivals := (hnames.filter isRival).trans (.of_eq (filter_rivals_chosen choices))
  have few : (names.filter isRival).length ≤ 1 := by
    rw [rivals.length_eq]
    cases hcheck : choices.check <;> cases hparam : choices.param? <;>
      simp_all [Choices.isChosen, Choices.has, Choices.value?]
  rw [← List.length_map Argument.named, ← h.filter_rivals] at few
  unfold conflict?
  dsimp only
  split
  next heq => exact absurd (heq ▸ few) (by simp)
  next heq => exact absurd (heq ▸ few) (by simp)
  next => rfl

/-- **There is a conflict** if one value is asked for and the question is excluded. -/
theorem Knows.exists_conflict (h : s.Knows choices names texts) (hnames : names.Perm choices.chosen)
    (check : choices.check = true) (param : choices.param?.isSome = true) :
    ∃ named other used, s.conflict? = some (.conflict named other used) ∧
      [named, other].Perm [.switch .check, .setting .param] := by
  have rivals := (hnames.filter isRival).trans (.of_eq (filter_rivals_chosen choices))
  have both : [Named.setting .param, .switch .check].filter choices.isChosen =
      [.setting .param, .switch .check] := by
    simp [Choices.isChosen, Choices.has, Choices.value?, check, param]
  rw [both] at rivals
  -- The one that has been used first is named first.
  rcases List.pair_perm.1 rivals.symm with hpair | hpair
  · refine ⟨.setting .param, .switch .check, s.used.filter (· ≠ .named (.switch .check)), ?_,
      .swap ..⟩
    unfold conflict?
    dsimp only
    rw [h.filter_rivals, hpair]
    rfl
  · refine ⟨.switch .check, .setting .param, s.used.filter (· ≠ .named (.setting .param)), ?_,
      .refl _⟩
    unfold conflict?
    dsimp only
    rw [h.filter_rivals, hpair]
    rfl

variable {template : List Char}

/-- When all has taken effect, the template and the texts stand apart. -/
theorem Knows.template?_eq (h : s.Knows choices names (template :: texts))
    (settled : s.held = .nothing) : s.template? = some template ∧ s.texts = texts := by
  have positionals := h.positionals_eq
  cases htemplate : s.template? with
  | none =>
      have none := (h.texts_eq_nil htemplate).1
      simp [Reading.positionals, htemplate, settled, none] at positionals
  | some first => simpa [Reading.positionals, htemplate, settled] using positionals

theorem finish_of_settle {t : Reading} (h : s.settle = .ok t) : s.finish =
    match t.conflict?, t.template? with
    | some error, _ => .error (.error error)
    | none, none => .error (.error (.templateMissing (t.used ++ [.template])))
    | none, some template => .ok { t.choices with template, texts := t.texts } := by
  rw [Reading.finish, h]
  rfl

/-- **What is known is what the command line says.** -/
theorem Knows.finish (h : s.Knows choices names (template :: texts))
    (hnames : names.Perm choices.chosen)
    (apart : ¬(choices.check = true ∧ choices.param?.isSome = true)) :
    s.finish = .ok { choices with template, texts } := by
  obtain ⟨t, hsettle, ht, settled, -⟩ := h.settle
  obtain ⟨htemplate, htexts⟩ := ht.template?_eq settled
  rw [finish_of_settle hsettle, ht.conflict?_eq_none hnames apart, htemplate, htexts,
    ht.choices_eq, Choices.only_of_perm hnames]

/-- **What excludes each other is complained about.** -/
theorem Knows.finish_of_conflict (h : s.Knows choices names texts)
    (hnames : names.Perm choices.chosen) (check : choices.check = true)
    (param : choices.param?.isSome = true) : ∃ named other used,
      s.finish = .error (.error (.conflict named other used)) ∧
        [named, other].Perm [.switch .check, .setting .param] := by
  obtain ⟨t, hsettle, ht, -⟩ := h.settle
  obtain ⟨named, other, used, hconflict, hpair⟩ := ht.exists_conflict hnames check param
  refine ⟨named, other, used, ?_, hpair⟩
  rw [finish_of_settle hsettle, hconflict]

end Reading

/-- **What is written is read back.**  Whatever is chosen, with a template and texts, can be written
as a command line, unless an empty path is chosen; and whichever way it is written, it is read as
what is chosen with this template and these texts.  If one value is asked for and the question is
excluded, these two are complained about, whichever comes first. -/
theorem read_written {choices : Choices} (path : choices.input? ≠ some []) (template : List Char)
    (texts : List (List Char)) :
    (∀ names : List Named, names.Perm choices.chosen →
      ∃ tokens, List.Forall₂ choices.Spells names tokens) ∧
    ∀ arguments, IsWritten choices (template :: texts) arguments →
      (¬(choices.check = true ∧ choices.param?.isSome = true) →
        read arguments = .ok { choices with template, texts }) ∧
      (choices.check = true → choices.param?.isSome = true → ∃ named other used,
        read arguments = .error (.error (.conflict named other used)) ∧
          [named, other].Perm [.switch .check, .setting .param]) := by
  refine ⟨fun names hnames => ?_, fun arguments written => ?_⟩
  · exact Choices.exists_tokens fun named hmem => Choices.mem_chosen.1 (hnames.mem_iff.1 hmem)
  · obtain ⟨s, names, hs, hknows, hnames⟩ := Reading.exists_knows_of_isWritten path written
    have whole : read arguments = s.finish := by
      rw [read, hs]
      rfl
    rw [whole]
    exact ⟨hknows.finish hnames, hknows.finish_of_conflict hnames⟩

/-- Behind two dashes the template may be two dashes, and a text may look like an option or be
empty. -/
theorem read_written_of_dashes :
    read ["-s".toList, "--param=a=b".toList, "--json".toList, "--".toList, "--".toList,
        "-c".toList, []] =
      .ok { param? := some "a=b".toList, json := true, sequential := true, template := "--".toList,
            texts := ["-c".toList, []] } := by
  have writes : ({ param? := some "a=b".toList, json := true, sequential := true } : Choices).Writes
      ["-s".toList, "--param=a=b".toList, "--json".toList] :=
    ⟨[.switch .sequential, .setting .param, .switch .json], by decide,
      .cons (.short rfl rfl) (.cons (.value rfl) (.cons (.long rfl) .nil))⟩
  have read := (read_written (by decide) "--".toList ["-c".toList, []]).2 _ (.dashed writes)
  exact read.1 (by decide)

end ParamTemplate.CommandLine
