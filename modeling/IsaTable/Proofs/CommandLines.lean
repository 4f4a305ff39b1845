/-
  Command lines that name a command.

  * `Subcommand.scanArgument_attached`, `Subcommand.scanArgument_word`: one argument.
  * `specOptions`: the options that say which specification is read, and how.
  * `Asks`: the arguments by which a query says what it asks for.
  * `Command.ofArguments_query`: the command of a query.
  * `Program.run_of_command`: what a process shows of the run of its command.
-/
import IsaTable.Command.Program
import IsaTable.Proofs.Trimming

namespace IsaTable

/-! ## Single arguments -/

section
variable {word : List Char} (h : '=' ∉ word)
include h

theorem ne_equals_of_mem : ∀ c ∈ word, decide (c ≠ '=') = true := by
  intro c hc
  exact decide_eq_true fun heq => h (heq ▸ hc)

theorem splitEquals_append (value : List Char) :
    splitEquals (word ++ '=' :: value) = (String.ofList word, some (String.ofList value)) := by
  rw [splitEquals, List.takeWhile_append_of_pos (ne_equals_of_mem h),
    List.dropWhile_append_of_pos (ne_equals_of_mem h)]
  simp

theorem splitEquals_of_notMem : splitEquals word = (String.ofList word, none) := by
  rw [← List.append_nil word, splitEquals, List.takeWhile_append_of_pos (ne_equals_of_mem h),
    List.dropWhile_append_of_pos (ne_equals_of_mem h)]
  rfl

end

/-- Makes the choices of options with their values, one after the other. -/
def Choices.chooseAll (c : Choices) (options : List (Setting × String)) :
    Except ArgumentError Choices :=
  options.foldlM (fun (c : Choices) (setting, value) => c.choose setting value) c

/-- An option with its value in one argument. -/
def Setting.attached (setting : Setting) (value : String) : String :=
  "--" ++ setting.long ++ "=" ++ value

/-- An option whose value is the next argument. -/
def Setting.separate (setting : Setting) : String :=
  "--" ++ setting.long

theorem Setting.equals_notMem_long (setting : Setting) : '=' ∉ setting.long.toList := by
  cases setting <;> decide

namespace Subcommand

variable {sub : Subcommand} {s : Scan} {setting : Setting}

theorem long?_long (h : setting ∈ sub.settings) :
    sub.long? setting.long = some (.set setting) := by
  revert h
  cases sub <;> cases setting <;> decide

theorem scanArgument_long {argument : String} {body : List Char} (hs : s.ended = false)
    (harg : argument.toList = '-' :: '-' :: body) (hne : body ≠ []) :
    sub.scanArgument s argument = sub.scanLong s body := by
  obtain ⟨c, cs, rfl⟩ := List.exists_cons_of_ne_nil hne
  simp [scanArgument, hs, harg]

theorem scanArgument_attached (hs : s.ended = false) (hset : setting ∈ sub.settings) (value : String) :
    sub.scanArgument s (setting.attached value) = s.attach setting value := by
  have hlist : (setting.attached value).toList =
      '-' :: '-' :: (setting.long.toList ++ '=' :: value.toList) := by
    simp [Setting.attached]
  rw [scanArgument_long hs hlist (by simp), scanLong,
    splitEquals_append setting.equals_notMem_long]
  simp [long?_long hset]

/-- **Options with their values** are looked at one by one. -/
theorem foldlM_scanArgument_attached {options : List (Setting × String)}
    (hset : ∀ o ∈ options, o.1 ∈ sub.settings) (c : Choices) :
    (options.map fun o => o.1.attached o.2).foldlM sub.scanArgument { choices := c } =
      (c.chooseAll options).map fun c => { choices := c } := by
  induction options generalizing c with
  | nil => rfl
  | cons o options ih =>
    obtain ⟨ho, hset⟩ := List.forall_mem_cons.1 hset
    rw [List.map_cons, List.foldlM_cons, Choices.chooseAll, List.foldlM_cons,
      scanArgument_attached rfl ho]
    simp only [Scan.attach, Scan.settle, Except.bind]
    cases c.choose o.1 o.2 with
    | error e => rfl
    | ok c' => exact ih hset c'

theorem scanArgument_separate (hs : s.ended = false) (hset : setting ∈ sub.settings) :
    sub.scanArgument s setting.separate = s.await setting := by
  have hlist : setting.separate.toList = '-' :: '-' :: setting.long.toList := by
    simp [Setting.separate]
  have hne : setting.long.toList ≠ [] := by
    cases setting <;> decide
  rw [scanArgument_long hs hlist hne, scanLong, splitEquals_of_notMem setting.equals_notMem_long]
  simp [long?_long hset]

/-- An argument without a dash is the value that is waited for, or a word. -/
theorem scanArgument_word {argument : String} (hs : s.ended = false)
    (hdash : argument.toList.head? ≠ some '-') :
    sub.scanArgument s argument =
      match s.pending with
      | .awaiting setting => .ok { s with pending := .given setting argument }
      | _ => sub.scanWord s argument := by
  rw [scanArgument, if_neg (by simp [hs])]
  cases hlist : argument.toList with
  | nil => rfl
  | cons c cs =>
    have hc : c ≠ '-' := by
      rintro rfl
      exact hdash (by rw [hlist]; rfl)
    split
    · next h => exact absurd (List.cons.inj h).1 hc
    · next h => exact absurd (List.cons.inj h).1 hc
    · next h => exact absurd (List.cons.inj h).1 hc
    · rfl

end Subcommand

/-! ## The options of a specification -/

/-- The name of a layout on a command line. -/
def Layout.word : Layout → String
  | any => "any"
  | compact => "compact"
  | annotated => "annotated"

theorem readLayout_word (l : Layout) : readLayout l.word = .ok l := by
  cases l <;> rfl

theorem readChar_singleton (c : Char) : readChar (String.singleton c) = .ok c := by
  simp [readChar]

theorem readPath_of_ne {path : String} (h : path ≠ "") : readPath path = .ok path :=
  if_neg h

/-- The options that say which specification is read, and in which dialect. -/
def specOptions (d : Dialect) (path : String) : List (Setting × String) :=
  [(.spec, path), (.layout, d.layout.word), (.comment, String.singleton d.comment),
    (.delimiter, String.singleton d.delimiter)]

/-- What these options choose. -/
def specChoices (d : Dialect) (path : String) : Choices :=
  { spec := some path, layout := some d.layout, comment := some d.comment,
    delimiter := some d.delimiter }

variable {d : Dialect} {path : String}

/-- Every subcommand takes the options of the specification. -/
theorem mem_settings_of_mem_specOptions (sub : Subcommand) :
    ∀ o ∈ specOptions d path, o.1 ∈ sub.settings := by
  simp only [specOptions, List.forall_mem_cons]
  cases sub <;> simp [Subcommand.settings]

theorem chooseAll_specOptions (hpath : path ≠ "") :
    Choices.chooseAll {} (specOptions d path) = .ok (specChoices d path) := by
  simp only [Choices.chooseAll, specOptions, List.foldlM_cons, List.foldlM_nil, Choices.choose,
    readPath_of_ne hpath, readLayout_word, readChar_singleton]
  rfl

/-! ## Queries -/

/-- The arguments by which a query says what it asks for: a name that does not look like an option, any
    name once options are over, or a literal of a value. -/
inductive Asks : Target → List String → Prop
  | word {name : String} : name.toList.head? ≠ some '-' → Asks (.name name) [name]
  | ended {name : String} : Asks (.name name) ["--", name]
  | literal {l : String} {v : Opcode} : Opcode.ofLiteral? l = some v → Asks (.opcode v) ["--opcode", l]

/-- The choices of a query that asks for a target. -/
def Choices.ask (c : Choices) : Target → Choices
  | .name name => { c with name := some name }
  | .opcode value => { c with opcode := some value }

/-- A name does not look like an option. -/
theorem head?_ne_dash_of_isName {name : String} (h : isName name = true) :
    name.toList.head? ≠ some '-' := by
  intro hdash
  have hrest := Text.isNameRest_of_mem h '-' (List.mem_of_head? hdash)
  exact absurd hrest (by decide)

/-- Nor does a literal. -/
theorem head?_ne_dash_of_ofLiteral? {l : String} {v : Opcode} (h : Opcode.ofLiteral? l = some v) :
    l.toList.head? ≠ some '-' := by
  obtain ⟨base, digits, hradix⟩ : ∃ base digits, Opcode.radix l.toList = (base, digits) := ⟨_, _, rfl⟩
  simp only [Opcode.ofLiteral?, hradix] at h
  split at h
  · cases h
  obtain ⟨n, hn, -⟩ := Option.bind_eq_some_iff.1 h
  intro hdash
  rcases Opcode.eq_of_radix hradix with hlist | ⟨mark, -, hlist⟩
  · rw [hlist] at hdash
    obtain ⟨value, hvalue⟩ := Text.exists_digitValue?_of_foldlM hn '-' (List.mem_of_head? hdash)
    cases hvalue
  · rw [hlist] at hdash
    cases hdash

/-- **A query asks for what its arguments say.** -/
theorem foldlM_of_asks {c : Choices} {target : Target} {args : List String} (h : Asks target args)
    (hopcode : c.opcode = none) :
    ∃ s s', args.foldlM Subcommand.query.scanArgument { choices := c } = .ok s ∧
      s.settle = .ok s' ∧ s'.choices = c.ask target := by
  cases h with
  | @word name hdash =>
    have hname : Subcommand.query.scanArgument { choices := c } name =
        .ok { choices := c, pending := .name name, named := true } :=
      Subcommand.scanArgument_word rfl hdash
    rw [List.foldlM_cons, hname]
    exact ⟨_, _, rfl, rfl, rfl⟩
  | @ended name => exact ⟨_, _, rfl, rfl, rfl⟩
  | @literal l v hl =>
    have hoption : Subcommand.query.scanArgument { choices := c } "--opcode" =
        .ok { choices := c, pending := .awaiting .opcode } :=
      Subcommand.scanArgument_separate rfl (by decide : Setting.opcode ∈ Subcommand.query.settings)
    have hvalue : Subcommand.query.scanArgument { choices := c, pending := .awaiting .opcode } l =
        .ok { choices := c, pending := .given .opcode l } :=
      Subcommand.scanArgument_word rfl (head?_ne_dash_of_ofLiteral? hl)
    refine ⟨{ choices := c, pending := .given .opcode l }, { choices := c.ask (.opcode v) }, ?_, ?_, rfl⟩
    · rw [List.foldlM_cons, hoption]
      exact congrArg (· >>= pure) hvalue
    · simp [Scan.settle, Choices.choose, once, hopcode, readOpcode, hl, Except.map, Choices.ask]

/-- The arguments of a query of a specification. -/
def queryArguments (d : Dialect) (path : String) (args : List String) : List String :=
  "query" :: ((specOptions d path).map fun (setting, value) => setting.attached value) ++ args

/-- **The command of a query.** -/
theorem Command.ofArguments_query {target : Target} {args : List String} (h : Asks target args)
    (hpath : path ≠ "") (defaultSpec : Option String) :
    ofArguments defaultSpec (queryArguments d path args) =
      .ok { verbosity := 0, path, dialect := d, action := .query target } := by
  obtain ⟨s, s', hscan, hsettle, hchoices⟩ :=
    foldlM_of_asks h (show (specChoices d path).opcode = none from rfl)
  have hall : Subcommand.query.scan ((specOptions d path).map (fun o => o.1.attached o.2) ++ args) =
      .ok ((specChoices d path).ask target) := by
    rw [Subcommand.scan, List.foldlM_append,
      Subcommand.foldlM_scanArgument_attached (mem_settings_of_mem_specOptions _),
      chooseAll_specOptions hpath]
    simp only [Except.map, bind, Except.bind, hscan, hsettle, hchoices]
    rfl
  have hcommand : ofArguments defaultSpec (queryArguments d path args) =
      Subcommand.query.command defaultSpec 0
        ((specOptions d path).map (fun o => o.1.attached o.2) ++ args) := rfl
  rw [hcommand, Subcommand.command, hall]
  cases target <;> rfl

/-! ## Processes -/

/-- **A process shows what the run of its command prints.** Its exit code tells whether the run failed. -/
theorem Program.run_of_command {environment : Environment} {args : List String} {c : Command}
    (h : Command.ofArguments environment.spec args = .ok c) (disk : Disk) :
    (run environment args disk).stdout = (c.run disk).stdout ∧
      (run environment args disk).code =
        match (c.run disk).result with
        | .ok () => 0
        | .error _ => 1 := by
  simp only [run, h]
  cases (c.run disk).result <;> exact ⟨rfl, rfl⟩

end IsaTable
