import Mathlib.Data.List.Nodup
import Mathlib.Data.List.Perm.Basic
import ComputeTopology.CommandLine.Basic

namespace ComputeTopology.CommandLine

/-- What can be chosen at most once. -/
inductive Subject where
  | value (setting : Setting)
  | keepGoing
  | verbose
deriving DecidableEq

/-- One option, as a caller may spell it. -/
inductive Choice where
  /-- An option with its value in the next argument. -/
  | apart (setting : Setting) (value : String)
  /-- An option with its value after an equals sign. -/
  | joined (setting : Setting) (value : String)
  | keepGoing
  | verbose
  /-- The letter for a verbose run. -/
  | letter
deriving DecidableEq

def Setting.optionName : Setting → String
  | .topologyRoot => "--topology-root"
  | .capture => "--fixture"

namespace Choice

/-- The arguments that make a choice. -/
def words : Choice → List String
  | .apart setting value => [setting.optionName, value]
  | .joined setting value => [setting.optionName ++ "=" ++ value]
  | .keepGoing => ["--keep-going"]
  | .verbose => ["--verbose"]
  | .letter => ["-v"]

/-- No value is empty, and one that looks like an option is joined to its own. -/
def Proper : Choice → Prop
  | .apart _ value => value ≠ "" ∧ (value = "-" ∨ value.toList.head? ≠ some '-')
  | .joined _ value => value ≠ ""
  | _ => True

instance (choice : Choice) : Decidable choice.Proper := by
  cases choice <;> unfold Proper <;> infer_instance

def subject : Choice → Subject
  | .apart setting _ => .value setting
  | .joined setting _ => .value setting
  | .keepGoing => .keepGoing
  | .verbose => .verbose
  | .letter => .verbose

/-- The value that a choice gives to an option. -/
def value? (setting : Setting) : Choice → Option String
  | .apart other value => if other = setting then some value else none
  | .joined other value => if other = setting then some value else none
  | _ => none

/-- What an invocation makes of a choice. -/
def takenBy (invocation : Invocation) : Choice → Except Request Invocation
  | .apart setting value => invocation.give setting value
  | .joined setting value => invocation.give setting value
  | .keepGoing => invocation.turnOn .keepGoing
  | .verbose => invocation.turnOn .verbose
  | .letter => invocation.turnOn .verbose

end Choice

/-- The value that the choices give to an option. -/
def given? (choices : List Choice) (setting : Setting) : Option String :=
  choices.findSome? (·.value? setting)

/-- The value of an option: the chosen one, or else that of its variable. -/
def chosen? (environment : Environment) (choices : List Choice) (setting : Setting) :
    Option String :=
  (given? choices setting).or (environment.lookup setting.variableName)

namespace Invocation

/-- The invocation that these choices make up by themselves. -/
def ofChoices (choices : List Choice) : Invocation where
  topologyRoot := given? choices .topologyRoot
  capture := given? choices .capture
  keepGoing := decide (.keepGoing ∈ choices.map Choice.subject)
  verbose := decide (.verbose ∈ choices.map Choice.subject)

/-- The invocation that choices and environment make up. -/
def settled (environment : Environment) (choices : List Choice) : Invocation :=
  { ofChoices choices with
    topologyRoot := chosen? environment choices .topologyRoot
    capture := chosen? environment choices .capture }

end Invocation

section Words

variable {rest : List String} {value : String}

theorem ofString_optionName (setting : Setting) :
    Argument.ofString setting.optionName = .setting setting none := by
  cases setting <;> decide

theorem ofString_joined (setting : Setting) (value : String) :
    Argument.ofString (setting.optionName ++ "=" ++ value) = .setting setting (some value) := by
  cases setting <;>
    simp [Argument.ofString, Setting.optionName, Argument.ofChars, Argument.ofLong, Text.cut?,
      Setting.ofName?]

theorem isValue_of_proper {setting : Setting} (proper : (Choice.apart setting value).Proper) :
    Argument.isValue value = true := by
  obtain ⟨nonempty, plain⟩ := proper
  rcases plain with rfl | plain
  · decide
  · simp [Argument.isValue, nonempty, plain]

/-- The arguments of a choice are taken together, and then the rest. -/
theorem takeArguments_words {choice : Choice} (proper : choice.Proper) (invocation : Invocation)
    (rest : List String) :
    invocation.takeArguments (choice.words ++ rest) =
      (choice.takenBy invocation).bind (·.takeArguments rest) := by
  cases choice with
  | apart setting value =>
      simp only [Choice.words, List.cons_append, List.nil_append, Invocation.takeArguments,
        ofString_optionName, isValue_of_proper proper, if_true, Choice.takenBy]
      cases invocation.give setting value <;> rfl
  | joined setting value =>
      simp only [Choice.words, List.cons_append, List.nil_append, Invocation.takeArguments,
        ofString_joined, Choice.takenBy]
      cases invocation.give setting value <;> rfl
  | keepGoing =>
      have argument : Argument.ofString "--keep-going" = .switch .keepGoing := by decide
      simp only [Choice.words, List.cons_append, List.nil_append, Invocation.takeArguments,
        argument, Choice.takenBy]
      cases invocation.turnOn .keepGoing <;> rfl
  | verbose =>
      have argument : Argument.ofString "--verbose" = .switch .verbose := by decide
      simp only [Choice.words, List.cons_append, List.nil_append, Invocation.takeArguments,
        argument, Choice.takenBy]
      cases invocation.turnOn .verbose <;> rfl
  | letter =>
      have argument : Argument.ofString "-v" = .letters ['v'] := by decide
      simp only [Choice.words, List.cons_append, List.nil_append, Invocation.takeArguments,
        argument, Invocation.turnOnLetters, Switch.ofLetter?, Choice.takenBy]
      cases invocation.turnOn .verbose <;> rfl

end Words

section Given

variable {choices before : List Choice} {choice : Choice} {setting : Setting}

theorem value?_isSome_iff : (choice.value? setting).isSome = true ↔ choice.subject = .value setting := by
  cases choice <;> simp [Choice.value?, Choice.subject]

theorem given?_isSome_iff :
    (given? choices setting).isSome = true ↔ .value setting ∈ choices.map Choice.subject := by
  simp only [given?, List.findSome?_isSome_iff, value?_isSome_iff, List.mem_map]

theorem given?_concat :
    given? (before ++ [choice]) setting = (given? before setting).or (choice.value? setting) := by
  simp [given?, List.findSome?_append]

theorem value?_ofChoices (choices : List Choice) (setting : Setting) :
    (Invocation.ofChoices choices).value? setting = given? choices setting := by
  cases setting <;> rfl

theorem keepGoing_ofChoices : (Invocation.ofChoices choices).keepGoing = true ↔
    .keepGoing ∈ choices.map Choice.subject :=
  decide_eq_true_iff

theorem verbose_ofChoices : (Invocation.ofChoices choices).verbose = true ↔
    .verbose ∈ choices.map Choice.subject :=
  decide_eq_true_iff

/-- The second choice for a subject is refused. -/
theorem takenBy_of_mem (again : choice.subject ∈ before.map Choice.subject) :
    choice.takenBy (.ofChoices before) = .error .misuse := by
  have given {setting : Setting} {value : String}
      (set : .value setting ∈ before.map Choice.subject) :
      (Invocation.ofChoices before).give setting value = .error .misuse := by
    rw [← given?_isSome_iff, ← value?_ofChoices] at set
    rw [Invocation.give, if_pos (.inl set)]
  have verbose (on : .verbose ∈ before.map Choice.subject) :
      (Invocation.ofChoices before).turnOn .verbose = .error .misuse := by
    rw [Invocation.turnOn, if_pos (verbose_ofChoices.mpr on)]
  cases choice with
  | apart setting value => exact given again
  | joined setting value => exact given again
  | keepGoing => rw [Choice.takenBy, Invocation.turnOn, if_pos (keepGoing_ofChoices.mpr again)]
  | verbose => exact verbose again
  | letter => exact verbose again

/-- The first choice for a subject joins the others. -/
theorem takenBy_of_not_mem (proper : choice.Proper)
    (new : choice.subject ∉ before.map Choice.subject) :
    choice.takenBy (.ofChoices before) = .ok (.ofChoices (before ++ [choice])) := by
  have given {setting : Setting} {value : String} (nonempty : value ≠ "")
      (gives : ∀ other, choice.value? other = if setting = other then some value else none)
      (chosen : choice.subject = .value setting) :
      (Invocation.ofChoices before).give setting value = .ok (.ofChoices (before ++ [choice])) := by
    have unset : given? before setting = none := by
      rw [← Option.not_isSome_iff_eq_none, given?_isSome_iff, ← chosen]
      exact new
    have filled : value.isEmpty = false := by simpa using nonempty
    rw [Invocation.give, if_neg (by simp [value?_ofChoices, unset, filled])]
    cases setting <;>
      simp [Invocation.withValue, Invocation.ofChoices, given?_concat, unset, gives, chosen]
  have switched (gives : ∀ setting, choice.value? setting = none) (setting : Setting) :
      given? (before ++ [choice]) setting = given? before setting := by
    rw [given?_concat, gives, Option.or_none]
  have verbose (gives : ∀ setting, choice.value? setting = none)
      (chosen : choice.subject = .verbose) :
      (Invocation.ofChoices before).turnOn .verbose = .ok (.ofChoices (before ++ [choice])) := by
    rw [chosen, ← verbose_ofChoices] at new
    rw [Invocation.turnOn, if_neg new]
    simp [Invocation.ofChoices, switched gives, chosen]
  cases choice with
  | apart setting value => exact given proper.1 (fun _ => rfl) rfl
  | joined setting value => exact given proper (fun _ => rfl) rfl
  | keepGoing =>
      have chosen : Choice.keepGoing.subject = .keepGoing := rfl
      rw [chosen, ← keepGoing_ofChoices] at new
      rw [Choice.takenBy, Invocation.turnOn, if_neg new]
      simp [Invocation.ofChoices, switched fun _ => rfl, chosen]
  | verbose => exact verbose (fun _ => rfl) rfl
  | letter => exact verbose (fun _ => rfl) rfl

/-- The invocation before depends on the choices before, and so does the one after them all. -/
theorem takeArguments_choices (proper : ∀ choice ∈ choices, choice.Proper)
    (once : (before.map Choice.subject).Nodup) :
    (Invocation.ofChoices before).takeArguments (choices.flatMap Choice.words) =
      if ((before ++ choices).map Choice.subject).Nodup then .ok (.ofChoices (before ++ choices))
      else .error .misuse := by
  induction choices generalizing before with
  | nil => simp [Invocation.takeArguments, once]
  | cons choice rest ih =>
      obtain ⟨first, others⟩ := List.forall_mem_cons.mp proper
      rw [List.flatMap_cons, takeArguments_words first]
      by_cases again : choice.subject ∈ before.map Choice.subject
      · have twice : ¬((before ++ choice :: rest).map Choice.subject).Nodup := by
          rw [List.map_append, List.nodup_append]
          rintro ⟨_, _, apart⟩
          exact apart _ again _ List.mem_cons_self rfl
        rw [takenBy_of_mem again, if_neg twice]
        rfl
      · have still : ((before ++ [choice]).map Choice.subject).Nodup := by
          rw [List.map_append, List.map_singleton, ← List.concat_eq_append]
          exact once.concat again
        have regrouped : before ++ choice :: rest = before ++ [choice] ++ rest := by simp
        rw [takenBy_of_not_mem first again, regrouped]
        exact ih others still

theorem value?_eq_some {value : String} (gives : choice.value? setting = some value) :
    choice.subject = .value setting :=
  value?_isSome_iff.mp (Option.isSome_of_eq_some gives)

theorem given?_eq_some_iff (once : (choices.map Choice.subject).Nodup) {value : String} :
    given? choices setting = some value ↔
      ∃ choice ∈ choices, choice.value? setting = some value := by
  constructor
  · exact List.exists_of_findSome?_eq_some
  · rintro ⟨choice, member, gives⟩
    cases found : given? choices setting with
    | none => rw [List.findSome?_eq_none_iff.mp found choice member] at gives; contradiction
    | some other =>
        obtain ⟨first, firstMember, firstGives⟩ := List.exists_of_findSome?_eq_some found
        have same : first = choice := List.inj_on_of_nodup_map once firstMember member
          ((value?_eq_some firstGives).trans (value?_eq_some gives).symm)
        rw [← firstGives, same, gives]

theorem given?_perm {reordered : List Choice} (once : (choices.map Choice.subject).Nodup)
    (order : choices.Perm reordered) (setting : Setting) :
    given? reordered setting = given? choices setting := by
  have still : (reordered.map Choice.subject).Nodup := (order.map _).nodup_iff.mp once
  ext value
  rw [given?_eq_some_iff still, given?_eq_some_iff once]
  simp only [order.mem_iff]

end Given

section Environment

variable {environment : Environment} {choices : List Choice}

/-- An invocation with the variable of an option in place of a missing value. -/
def Invocation.filledIn (environment : Environment) (invocation : Invocation) : Setting → Invocation
  | .topologyRoot =>
      { invocation with
        topologyRoot :=
          invocation.topologyRoot.or (environment.lookup Setting.topologyRoot.variableName) }
  | .capture =>
      { invocation with
        capture := invocation.capture.or (environment.lookup Setting.capture.variableName) }

theorem filledIn_of_value {invocation : Invocation} {setting : Setting} {value : String}
    (has : invocation.value? setting = some value) :
    invocation.filledIn environment setting = invocation := by
  obtain ⟨root, capture, keepGoing, verbose⟩ := invocation
  cases setting <;> cases has <;> rfl

theorem filledIn_of_no_value {invocation : Invocation} {setting : Setting}
    (lacks : invocation.value? setting = none) :
    invocation.filledIn environment setting =
      match environment.lookup setting.variableName with
      | none => invocation
      | some value => invocation.withValue value setting := by
  obtain ⟨root, capture, keepGoing, verbose⟩ := invocation
  generalize found : environment.lookup setting.variableName = value?
  cases setting <;> cases lacks <;> cases value? <;>
    simp only [Invocation.filledIn, Option.none_or, found, Invocation.withValue]

theorem fillIn_of_filled (filled : ∀ assignment ∈ environment, assignment.2 ≠ "")
    (invocation : Invocation) (setting : Setting) :
    invocation.fillIn environment setting = .ok (invocation.filledIn environment setting) := by
  unfold Invocation.fillIn
  cases has : invocation.value? setting with
  | some value => rw [filledIn_of_value has]
  | none =>
      rw [filledIn_of_no_value has]
      cases found : environment.lookup setting.variableName with
      | none => rfl
      | some value =>
          obtain ⟨before, after, listed, _⟩ := List.lookup_eq_some_iff.mp found
          have nonempty := filled (setting.variableName, value) (by simp [listed])
          simp [Invocation.give, has, nonempty]

/-- What a command line of choices asks for. -/
theorem parse_choices (program : String) (proper : ∀ choice ∈ choices, choice.Proper)
    (filled : ∀ assignment ∈ environment, assignment.2 ≠ "") :
    parse environment (program :: choices.flatMap Choice.words) =
      if (choices.map Choice.subject).Nodup ∧
          ¬((chosen? environment choices .topologyRoot).isSome ∧
            (chosen? environment choices .capture).isSome) then
        .run (.settled environment choices)
      else .misuse := by
  have taken : Invocation.initial.takeArguments (choices.flatMap Choice.words) =
      if (choices.map Choice.subject).Nodup then .ok (.ofChoices choices) else .error .misuse :=
    @takeArguments_choices choices [] proper List.nodup_nil
  rw [parse, List.tail_cons, invocation?, taken]
  by_cases once : (choices.map Choice.subject).Nodup
  · rw [if_pos once]
    simp only [bind, Except.bind, fillIn_of_filled filled, once, true_and]
    have settled : ((Invocation.ofChoices choices).filledIn environment .topologyRoot).filledIn
        environment .capture = .settled environment choices := rfl
    simp only [settled, ite_not]
    change _ = if (Invocation.settled environment choices).topologyRoot.isSome ∧
      (Invocation.settled environment choices).capture.isSome then _ else _
    split_ifs <;> rfl
  · rw [if_neg once, if_neg (fun met => once met.1)]
    rfl

theorem parse_perm {reordered : List Choice} (program : String)
    (proper : ∀ choice ∈ choices, choice.Proper)
    (filled : ∀ assignment ∈ environment, assignment.2 ≠ "") (order : choices.Perm reordered) :
    parse environment (program :: reordered.flatMap Choice.words) =
      parse environment (program :: choices.flatMap Choice.words) := by
  have subjects := order.map Choice.subject
  rw [parse_choices program proper filled,
    parse_choices program (fun choice member => proper choice (order.mem_iff.mpr member)) filled]
  by_cases once : (choices.map Choice.subject).Nodup
  · have given (setting : Setting) : given? reordered setting = given? choices setting :=
      given?_perm once order setting
    have chosen (setting : Setting) :
        chosen? environment reordered setting = chosen? environment choices setting := by
      rw [chosen?, given, chosen?]
    have settled : Invocation.settled environment reordered = .settled environment choices := by
      simp only [Invocation.settled, Invocation.ofChoices, chosen, subjects.mem_iff]
    simp only [chosen, settled, subjects.nodup_iff]
  · rw [if_neg (fun met => once (subjects.nodup_iff.mpr met.1)), if_neg (fun met => once met.1)]

/-- A command line of choices is refused exactly if one is made twice or if a capture and
    a topology root both have a value, and otherwise the invocation holds what was chosen,
    whatever the order. -/
theorem choices_taken_in_any_order (program : String)
    (proper : ∀ choice ∈ choices, choice.Proper)
    (filled : ∀ assignment ∈ environment, assignment.2 ≠ "") :
    let request := parse environment (program :: choices.flatMap Choice.words)
    let value := chosen? environment choices
    ((∃ invocation, request = .run invocation) ↔
        (choices.map Choice.subject).Nodup ∧
          ¬((value .topologyRoot).isSome ∧ (value .capture).isSome)) ∧
      (∀ invocation, request = .run invocation →
        invocation.topologyRoot = value .topologyRoot ∧
          invocation.capture = value .capture ∧
          (invocation.keepGoing = true ↔ .keepGoing ∈ choices.map Choice.subject) ∧
          (invocation.verbose = true ↔ .verbose ∈ choices.map Choice.subject) ∧
          (invocation.locations environment).topologyRoot =
            (value .topologyRoot).getD "/sys/devices/virtual/kfd/kfd/topology") ∧
      ((¬∃ invocation, request = .run invocation) →
        request = .misuse ∧ request.exitCode? = some 2) ∧
      ∀ reordered, choices.Perm reordered →
        parse environment (program :: reordered.flatMap Choice.words) = request := by
  intro request value
  have parsed : request = if (choices.map Choice.subject).Nodup ∧
      ¬((value .topologyRoot).isSome ∧ (value .capture).isSome) then
        .run (.settled environment choices)
      else .misuse :=
    parse_choices program proper filled
  refine ⟨?_, ?_, ?_, fun reordered order => parse_perm program proper filled order⟩
  · rw [parsed]
    split
    · rename_i accepted
      exact iff_of_true ⟨_, rfl⟩ accepted
    · rename_i refused
      exact iff_of_false (by rintro ⟨invocation, run⟩; contradiction) refused
  · intro invocation run
    rw [parsed] at run
    split at run
    · obtain rfl := Request.run.inj run
      refine ⟨rfl, rfl, decide_eq_true_iff, decide_eq_true_iff, ?_⟩
      have root : (Invocation.settled environment choices).topologyRoot = value .topologyRoot := rfl
      unfold Invocation.locations
      rw [root]
      cases value .topologyRoot <;> rfl
    · contradiction
  · intro refused
    rw [parsed] at refused ⊢
    split at refused
    · exact absurd ⟨_, rfl⟩ refused
    · rename_i broken
      rw [if_neg broken]
      exact ⟨rfl, rfl⟩

/-- A value that looks like an option, beside a variable that it overrides. -/
theorem dashed_root_taken :
    let environment := [("HSATOPO_TOPOLOGY_ROOT", "/kfd"), ("RUST_LOG", "info")]
    let choices : List Choice := [.letter, .joined .topologyRoot "--fixture=a", .keepGoing]
    (∀ choice ∈ choices, choice.Proper) ∧ (∀ assignment ∈ environment, assignment.2 ≠ "") ∧
      (∃ invocation,
        parse environment ["hsatopo", "-v", "--topology-root=--fixture=a", "--keep-going"] =
            .run invocation ∧ invocation.topologyRoot = some "--fixture=a") ∧
      parse environment ["hsatopo", "--keep-going", "-v", "--topology-root=--fixture=a"] =
        parse environment ["hsatopo", "-v", "--topology-root=--fixture=a", "--keep-going"] := by
  intro environment choices
  have proper : ∀ choice ∈ choices, choice.Proper := by decide
  have filled : ∀ assignment ∈ environment, assignment.2 ≠ "" := by decide
  obtain ⟨accepted, holds, _, reorders⟩ := choices_taken_in_any_order "hsatopo" proper filled
  obtain ⟨invocation, run⟩ := accepted.mpr (by decide)
  refine ⟨proper, filled, ⟨invocation, run, (holds invocation run).1⟩, ?_⟩
  exact reorders [.keepGoing, .letter, .joined .topologyRoot "--fixture=a"] (by decide)

end Environment

end ComputeTopology.CommandLine
