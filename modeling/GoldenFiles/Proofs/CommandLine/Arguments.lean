import GoldenFiles.CommandLine.Arguments

/-!
# Arguments in any order

The arguments of a request come in clauses: the name of a test, a flag, an option with its value.
However the clauses are interleaved, a request is read as the same configuration, since no value is
taken for a name and no name for a value. What carries the induction over the clauses is the draft
as it is once the last value has been checked: every clause adds its part to that, whether its value
is attached, or has come and is still to be checked.

## Main definitions

* `Word`, `Demand`, `Clause` — arguments that belong together
* `Request`, `Request.Arranged` — what is asked for, and the ways to ask for it
* `Draft.after` — a draft with clauses added to it

## Main results

* `readArguments_clause` — one clause
* `readArguments_clauses` — clauses in a row
* `parseArguments_arranged` — the configuration that is asked for, whatever the order
-/

namespace GoldenFiles.CommandLine

/-! ### Requests -/

/-- A text that is no option where it stands as an argument of its own. -/
structure Word where
  text : Text
  ne_nil : text ≠ []
  head?_ne : text.head? ≠ some '-'
  deriving DecidableEq

/-- The word that stands for a colour mode. -/
def Word.ofColour : ColourMode → Word
  | .auto => ⟨"auto".toList, by decide, by decide⟩
  | .always => ⟨"always".toList, by decide, by decide⟩
  | .never => ⟨"never".toList, by decide, by decide⟩

/-- What can be asked for besides tests. -/
inductive Demand
  | create
  | root (directory : Word)
  | extension (name : Word)
  | colour (mode : ColourMode)
  deriving DecidableEq

namespace Demand

/-- The option or flag of a demand. -/
def switch : Demand → Switch
  | .create => .flag .create
  | .root _ => .setting .root
  | .extension _ => .setting .extension
  | .colour _ => .setting .colour

/-- Its name. -/
def name : Demand → Text
  | .create => "create".toList
  | .root _ => "root".toList
  | .extension _ => "extension".toList
  | .colour _ => "color".toList

/-- The value it needs. -/
def value? : Demand → Option Word
  | .create => none
  | .root directory => some directory
  | .extension name => some name
  | .colour mode => some (.ofColour mode)

/-- The directory that is asked for. -/
def root? : Demand → Option Text
  | .root directory => some directory.text
  | _ => none

/-- The extension that is asked for. -/
def extension? : Demand → Option Text
  | .extension name => some name.text
  | _ => none

/-- The colour mode that is asked for. -/
def colour? : Demand → Option ColourMode
  | .colour mode => some mode
  | _ => none

end Demand

/-- Whether a value is attached with an equals sign, or stands behind its option. -/
inductive Form | attached | separate
  deriving DecidableEq, Repr

/-- Arguments that belong together. The form of a demand without a value does not matter. -/
inductive Clause
  | test (name : Word)
  | demand (form : Form) (asked : Demand)
  deriving DecidableEq

namespace Clause

/-- The arguments themselves. -/
def arguments : Clause → List Text
  | .test name => [name.text]
  | .demand form asked =>
    match asked.value?, form with
    | none, _ => ["--".toList ++ asked.name]
    | some value, .attached => ["--".toList ++ (asked.name ++ '=' :: value.text)]
    | some value, .separate => ["--".toList ++ asked.name, value.text]

/-- The test that is named. -/
def name? : Clause → Option Text
  | .test name => some name.text
  | .demand _ _ => none

/-- What is asked for besides tests. -/
def demand? : Clause → Option Demand
  | .test _ => none
  | .demand _ asked => some asked

end Clause

/-- A request: names of tests in their order, and at most one demand of each kind. -/
structure Request where
  names : List Word := []
  create : Bool := false
  root : Option Word := none
  extension : Option Word := none
  colour : Option ColourMode := none

namespace Request

/-- The demands of a request. -/
def demands (request : Request) : List Demand :=
  (if request.create then [.create] else []) ++ (request.root.map .root).toList ++
    (request.extension.map .extension).toList ++ (request.colour.map .colour).toList

/-- The configuration that is asked for. -/
def config (request : Request) : Config where
  root := .ofText ((request.root.map Word.text).getD "tests/parser".toList)
  extension := (request.extension.map Word.text).getD "sexp".toList
  mode := if request.create then .create else .verify
  selection := request.names.map Word.text
  colour := request.colour.getD .auto

/-- Clauses make a request if they name its tests in their order, and make its demands in any order
and anywhere between the names. -/
structure Arranged (request : Request) (clauses : List Clause) : Prop where
  names : clauses.filterMap Clause.name? = request.names.map Word.text
  demands : (clauses.filterMap Clause.demand?).Perm request.demands

end Request

/-! ### Single arguments -/

variable {draft settled next : Draft} {setting : Setting} {demand : Demand} {form : Form}
  {clause : Clause}
  {clauses : List Clause} {value : Word}

theorem longArgument_name (draft : Draft) (demand : Demand) : longArgument draft demand.name =
    match demand.switch with
    | .setting setting => draft.setting setting none
    | .flag flag => draft.flag flag true := by
  cases demand <;> rfl

theorem longArgument_attached (draft : Draft) (h : demand.switch = .setting setting)
    (value : Text) :
    longArgument draft (demand.name ++ '=' :: value) = draft.setting setting (some value) := by
  cases demand <;> cases h <;> rfl

theorem argument_word (draft : Draft) (word : Word) :
    argument draft word.text = draft.word word.text := by
  unfold argument
  split
  · next heq => exact absurd (congrArg List.head? heq) word.head?_ne
  · next heq => exact absurd (congrArg List.head? heq) word.head?_ne
  · rfl

/-! ### Drafts -/

theorem colourMode?_ofColour (mode : ColourMode) :
    colourMode? (Word.ofColour mode).text = some mode := by
  cases mode <;> rfl

namespace Draft

theorem settle_of_pending_eq_none (h : draft.pending = none) : draft.settle = .ok draft := by
  rw [settle, h]

theorem pending_of_assign {value : Text} (h : draft.assign setting value = .ok settled) :
    settled.pending = draft.pending := by
  unfold assign at h
  split at h
  · cases h
  · cases setting with
    | root =>
      dsimp only at h
      split at h
      · cases h
      · cases h
        rfl
    | extension =>
      cases h
      rfl
    | colour =>
      dsimp only at h
      split at h
      · cases h
      · split at h
        · cases h
          rfl
        · cases h

/-- No value is left to be checked in a draft of which the last one has been checked. -/
theorem pending_of_settle (h : draft.settle = .ok settled) : settled.pending = none := by
  unfold settle at h
  split at h
  · next hnone =>
    cases h
    exact hnone
  · cases h
  · exact pending_of_assign h

/-- A word names a test unless a value is waited for. -/
theorem word_of_settle (h : draft.settle = .ok settled) (text : Text) :
    draft.word text = .ok { settled with tests := settled.tests ++ [text] } := by
  unfold word
  split
  · next setting hpending =>
    rw [settle, hpending] at h
    cases h
  · rw [h]
    rfl

theorem setting_of_settle (h : draft.settle = .ok settled) (setting : Setting) (value : Text) :
    draft.setting setting (some value) = settled.assign setting value := by
  rw [Draft.setting, h]
  rfl

/-- An option whose value is not attached is checked when the value has come. -/
theorem exists_settled_of_separate (h : draft.settle = .ok settled) (setting : Setting)
    (value : Text) :
    ∃ waiting checked, draft.setting setting none = .ok waiting ∧ waiting.word value = .ok checked ∧
      checked.settle = settled.assign setting value := by
  refine ⟨{ settled with pending := some (setting, none) },
    { settled with pending := some (setting, some value) }, ?_, rfl, ?_⟩
  · rw [Draft.setting, h]
    rfl
  · have hpending := pending_of_settle h
    have hsettled : { settled with pending := none } = settled := by
      rw [← hpending]
    rw [settle, hsettled]

/-- Whether a demand can still be made. -/
def Free (draft : Draft) : Demand → Prop
  | .create => draft.create = false
  | .root _ => draft.root = none
  | .extension _ => draft.extension = none
  | .colour _ => draft.colour = none

/-- A draft with clauses added to it. What has been given first of a kind stays. -/
def after (draft : Draft) (clauses : List Clause) : Draft :=
  let demands := clauses.filterMap Clause.demand?
  { draft with
    tests := draft.tests ++ clauses.filterMap Clause.name?
    create := draft.create || decide (.create ∈ demands)
    root := draft.root.or (demands.findSome? Demand.root?)
    extension := draft.extension.or (demands.findSome? Demand.extension?)
    colour := draft.colour.or (demands.findSome? Demand.colour?) }

@[simp] theorem after_nil (draft : Draft) : draft.after [] = draft := by
  simp [after]

theorem after_append (draft : Draft) (clauses others : List Clause) :
    draft.after (clauses ++ others) = (draft.after clauses).after others := by
  simp [after, List.findSome?_append, Option.or_assoc, Bool.or_assoc]

@[simp] theorem after_test (draft : Draft) (name : Word) :
    draft.after [.test name] = { draft with tests := draft.tests ++ [name.text] } := by
  simp [after, List.filterMap_cons, Clause.demand?, Clause.name?]

@[simp] theorem after_create (draft : Draft) (form : Form) :
    draft.after [.demand form .create] = { draft with create := true } := by
  simp [after, Clause.demand?, Clause.name?, Demand.root?, Demand.extension?, Demand.colour?]

@[simp] theorem after_root (draft : Draft) (form : Form) (directory : Word) :
    draft.after [.demand form (.root directory)] =
      { draft with root := draft.root.or (some directory.text) } := by
  simp [after, Clause.demand?, Clause.name?, Demand.root?, Demand.extension?, Demand.colour?]

@[simp] theorem after_extension (draft : Draft) (form : Form) (name : Word) :
    draft.after [.demand form (.extension name)] =
      { draft with extension := draft.extension.or (some name.text) } := by
  simp [after, Clause.demand?, Clause.name?, Demand.root?, Demand.extension?, Demand.colour?]

@[simp] theorem after_colour (draft : Draft) (form : Form) (mode : ColourMode) :
    draft.after [.demand form (.colour mode)] =
      { draft with colour := draft.colour.or (some mode) } := by
  simp [after, Clause.demand?, Clause.name?, Demand.root?, Demand.extension?, Demand.colour?]

/-- Other demands stay free. -/
theorem Free.after {other : Demand} (h : draft.Free other)
    (hne : ∀ asked ∈ clause.demand?, asked.switch ≠ other.switch) :
    (draft.after [clause]).Free other := by
  cases clause with
  | test name => cases other <;> simpa [Free] using h
  | demand form asked =>
    have hswitch := hne asked rfl
    cases asked <;> cases other <;> simp_all [Free, Demand.switch]

/-- The value of a demand is accepted if the demand is free. -/
theorem assign_of_free (form : Form) (hfree : settled.Free demand)
    (hsetting : demand.switch = .setting setting) (hvalue : demand.value? = some value) :
    settled.assign setting value.text = .ok (settled.after [.demand form demand]) := by
  cases demand with
  | create => cases hsetting
  | root directory =>
    cases hsetting
    cases hvalue
    have hnone : settled.root = none := hfree
    simp [assign, has, hnone, value.ne_nil]
  | extension name =>
    cases hsetting
    cases hvalue
    have hnone : settled.extension = none := hfree
    simp [assign, has, hnone]
  | colour mode =>
    cases hsetting
    cases hvalue
    have hnone : settled.colour = none := hfree
    simp [assign, has, hnone, Word.ne_nil, colourMode?_ofColour]

end Draft

/-! ### Clauses -/

theorem readArguments_long {name : Text} (hname : name ≠ [])
    (h : longArgument draft name = .ok next)
    (rest : List Text) :
    readArguments draft (("--".toList ++ name) :: rest) = readArguments next rest := by
  have hne : "--".toList ++ name ≠ "--".toList := fun heq =>
    hname (List.append_right_eq_self.mp heq)
  have hargument : argument draft ("--".toList ++ name) = longArgument draft name := rfl
  rw [readArguments, if_neg hne, hargument, h]

theorem readArguments_word {word : Word} (h : draft.word word.text = .ok next) (rest : List Text) :
    readArguments draft (word.text :: rest) = readArguments next rest := by
  have hne : word.text ≠ "--".toList := fun heq => absurd (congrArg List.head? heq) word.head?_ne
  rw [readArguments, if_neg hne, argument_word, h]

theorem Demand.eq_create_of_value?_eq_none (h : demand.value? = none) : demand = .create := by
  cases demand with
  | create => rfl
  | root directory => cases h
  | extension name => cases h
  | colour mode => cases h

theorem Demand.exists_setting (h : demand.value? = some value) :
    ∃ setting, demand.switch = .setting setting := by
  cases demand with
  | create => cases h
  | root directory => exact ⟨.root, rfl⟩
  | extension name => exact ⟨.extension, rfl⟩
  | colour mode => exact ⟨.colour, rfl⟩

theorem Demand.name_ne_nil (demand : Demand) : demand.name ≠ [] := by
  cases demand <;> exact List.cons_ne_nil _ _

theorem Clause.arguments_of_value? (form : Form) (h : demand.value? = some value) :
    (Clause.demand form demand).arguments =
      match form with
      | .attached => ["--".toList ++ (demand.name ++ '=' :: value.text)]
      | .separate => ["--".toList ++ demand.name, value.text] := by
  cases form <;> simp only [arguments, h]

/-- One clause is read whatever is behind it, and adds its part to what has been read. Its value may
still have to be checked, and is found to be right when it is. -/
theorem readArguments_clause (h : draft.settle = .ok settled)
    (hfree : ∀ demand ∈ clause.demand?, settled.Free demand) (rest : List Text) :
    ∃ next, readArguments draft (clause.arguments ++ rest) = readArguments next rest ∧
      next.settle = .ok (settled.after [clause]) := by
  have hpending := Draft.pending_of_settle h
  cases clause with
  | test name =>
    refine ⟨_, readArguments_word (Draft.word_of_settle h name.text) rest, ?_⟩
    rw [Draft.after_test]
    exact Draft.settle_of_pending_eq_none hpending
  | demand form demand =>
    specialize hfree demand rfl
    cases hvalue : demand.value? with
    | none =>
      obtain rfl := Demand.eq_create_of_value?_eq_none hvalue
      have hcreate : settled.create = false := hfree
      have hlong : longArgument draft Demand.create.name = .ok { settled with create := true } := by
        rw [longArgument_name, Demand.switch]
        dsimp only
        unfold Draft.flag
        rw [h]
        exact if_neg (by rw [hcreate]; decide)
      refine ⟨_, readArguments_long (Demand.name_ne_nil .create) hlong rest, ?_⟩
      rw [Draft.after_create]
      exact Draft.settle_of_pending_eq_none hpending
    | some value =>
      obtain ⟨setting, hsetting⟩ := Demand.exists_setting hvalue
      have hassign := Draft.assign_of_free form hfree hsetting hvalue
      rw [Clause.arguments_of_value? form hvalue]
      cases form with
      | attached =>
        have hlong := longArgument_attached draft hsetting value.text
        rw [Draft.setting_of_settle h, hassign] at hlong
        refine ⟨_, readArguments_long (by simp) hlong rest, ?_⟩
        exact Draft.settle_of_pending_eq_none hpending
      | separate =>
        obtain ⟨waiting, checked, hwaiting, hword, hchecked⟩ :=
          Draft.exists_settled_of_separate h setting value.text
        have hlong := longArgument_name draft demand
        rw [hsetting] at hlong
        have hfirst := readArguments_long (Demand.name_ne_nil demand) (hlong.trans hwaiting)
          (value.text :: rest)
        exact ⟨checked, hfirst.trans (readArguments_word hword rest), hchecked.trans hassign⟩

/-- Clauses in a row are read one after the other, if they make demands of different kinds that are
all free. -/
theorem readArguments_clauses (h : draft.settle = .ok settled)
    (hfree : ∀ demand ∈ clauses.filterMap Clause.demand?, settled.Free demand)
    (hnodup : ((clauses.filterMap Clause.demand?).map Demand.switch).Nodup) (rest : List Text) :
    ∃ next, readArguments draft (clauses.flatMap Clause.arguments ++ rest) =
      readArguments next rest ∧
      next.settle = .ok (settled.after clauses) := by
  -- The draft may hold a value not checked yet, so the induction is on what it settles to.
  induction clauses generalizing draft settled with
  | nil => exact ⟨draft, rfl, by rw [Draft.after_nil, h]⟩
  | cons clause clauses ih =>
    have hhead : ∀ demand ∈ clause.demand?, settled.Free demand := by
      intro demand hdemand
      exact hfree demand (List.mem_filterMap.mpr ⟨clause, List.mem_cons_self, hdemand⟩)
    obtain ⟨next, hread, hnext⟩ :=
      readArguments_clause h hhead (clauses.flatMap Clause.arguments ++ rest)
    have hsplit : (clause :: clauses).filterMap Clause.demand? =
        clause.demand?.toList ++ clauses.filterMap Clause.demand? := by
      rw [List.filterMap_cons]
      cases clause.demand? <;> rfl
    rw [hsplit, List.map_append, List.nodup_append] at hnodup
    rw [hsplit, List.forall_mem_append] at hfree
    have hrest :
        ∀ demand ∈ clauses.filterMap Clause.demand?, (settled.after [clause]).Free demand := by
      intro demand hdemand
      refine (hfree.2 demand hdemand).after fun asked hasked => ?_
      exact hnodup.2.2 _ (List.mem_map_of_mem (Option.mem_toList.mpr hasked)) _
        (List.mem_map_of_mem hdemand)
    obtain ⟨last, hlast, hsettled⟩ := ih hnext hrest hnodup.2.1
    refine ⟨last, ?_, ?_⟩
    · rw [List.flatMap_cons, List.append_assoc, hread, hlast]
    · rw [hsettled, ← Draft.after_append]
      rfl

/-! ### Arrangements -/

namespace Request

variable {request : Request}

/-- No two demands of a request are of one kind. -/
theorem nodup_demands (request : Request) : (request.demands.map Demand.switch).Nodup := by
  obtain ⟨names, create, root, extension, colour⟩ := request
  cases create <;> cases root <;> cases extension <;> cases colour <;> simp [demands, Demand.switch]

theorem create_mem_demands : Demand.create ∈ request.demands ↔ request.create = true := by
  simp [demands]

theorem filterMap_root?_demands :
    request.demands.filterMap Demand.root? = (request.root.map Word.text).toList := by
  obtain ⟨names, create, root, extension, colour⟩ := request
  cases create <;> cases root <;> cases extension <;> cases colour <;> rfl

theorem filterMap_extension?_demands :
    request.demands.filterMap Demand.extension? = (request.extension.map Word.text).toList := by
  obtain ⟨names, create, root, extension, colour⟩ := request
  cases create <;> cases root <;> cases extension <;> cases colour <;> rfl

theorem filterMap_colour?_demands :
    request.demands.filterMap Demand.colour? = request.colour.toList := by
  obtain ⟨names, create, root, extension, colour⟩ := request
  cases create <;> cases root <;> cases extension <;> cases colour <;> rfl

/-- In whatever order demands are made, the only one of a kind is found. -/
theorem findSome?_of_perm {α : Type} {demands : List Demand} {part : Demand → Option α}
    {value : Option α} (h : demands.Perm request.demands)
    (hvalue : request.demands.filterMap part = value.toList) : demands.findSome? part = value := by
  have hperm := h.filterMap part
  rw [hvalue] at hperm
  have heq : demands.filterMap part = value.toList := by
    cases value with
    | none => exact List.perm_nil.mp hperm
    | some only => exact List.perm_singleton.mp hperm
  rw [← List.head?_filterMap, heq]
  cases value <;> rfl

/-- What has been read of an arrangement is what the request asks for. -/
theorem Arranged.config_after (h : request.Arranged clauses) :
    (({} : Draft).after clauses).config = request.config := by
  have hcreate : decide (Demand.create ∈ clauses.filterMap Clause.demand?) = request.create := by
    rw [decide_eq_decide.mpr (h.demands.mem_iff.trans create_mem_demands), Bool.decide_coe]
  have hroot := findSome?_of_perm h.demands filterMap_root?_demands
  have hextension := findSome?_of_perm h.demands filterMap_extension?_demands
  have hcolour := findSome?_of_perm h.demands filterMap_colour?_demands
  simp only [Draft.after, Draft.config, h.names, hcreate, hroot, hextension, hcolour,
    Option.none_or, Bool.false_or, List.nil_append]
  unfold config
  cases request.root <;> rfl

end Request

/-- Order does not matter. However the names of tests and the demands of a request are interleaved,
and whatever form the demands have, the arguments are read as the configuration that is asked for.
Any texts behind a double dash are further names, even if they look like options. -/
theorem parseArguments_arranged {request : Request} (h : request.Arranged clauses) :
    parseArguments (clauses.flatMap Clause.arguments) = .ok request.config ∧
      ∀ names : List Text,
        parseArguments (clauses.flatMap Clause.arguments ++ "--".toList :: names) =
          .ok { request.config with selection := request.config.selection ++ names } := by
  have hfree : ∀ demand ∈ clauses.filterMap Clause.demand?, ({} : Draft).Free demand := by
    intro demand _
    cases demand <;> rfl
  have hnodup : ((clauses.filterMap Clause.demand?).map Demand.switch).Nodup :=
    (h.demands.map Demand.switch).nodup_iff.mpr request.nodup_demands
  have hstart : ({} : Draft).settle = .ok {} := rfl
  have hread := readArguments_clauses hstart hfree hnodup
  constructor
  · obtain ⟨next, hnext, hsettled⟩ := hread []
    rw [List.append_nil] at hnext
    rw [parseArguments, hnext, readArguments, hsettled, ← h.config_after]
    rfl
  · intro names
    obtain ⟨next, hnext, hsettled⟩ := hread ("--".toList :: names)
    rw [parseArguments, hnext, readArguments, if_pos rfl, Draft.rest, hsettled, ← h.config_after]
    rfl

/-- Both forms, a flag and names between them, and behind them names that look like options. -/
theorem parseArguments_arranged_interleaved :
    parseArguments ["--root".toList, "t".toList, "lists/nested".toList, "--create".toList,
        "--color=always".toList, "atoms".toList, "--extension".toList, "a=b".toList, "--".toList,
        "--create".toList, "-x".toList] =
      .ok { root := .ofText "t".toList, extension := "a=b".toList, mode := .create,
            selection := ["lists/nested".toList, "atoms".toList, "--create".toList, "-x".toList],
            colour := .always } := by
  let directory : Word := ⟨"t".toList, by decide, by decide⟩
  let nested : Word := ⟨"lists/nested".toList, by decide, by decide⟩
  let atoms : Word := ⟨"atoms".toList, by decide, by decide⟩
  let suffix : Word := ⟨"a=b".toList, by decide, by decide⟩
  let request : Request :=
    { names := [nested, atoms], create := true, root := some directory, extension := some suffix,
      colour := some .always }
  have harranged : request.Arranged [.demand .separate (.root directory), .test nested,
      .demand .separate .create, .demand .attached (.colour .always), .test atoms,
      .demand .separate (.extension suffix)] :=
    ⟨rfl, by decide⟩
  exact (parseArguments_arranged harranged).2 ["--create".toList, "-x".toList]

end GoldenFiles.CommandLine
