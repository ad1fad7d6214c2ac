import ComputeTopology.Diagnostics.Basic
import ComputeTopology.Proofs.Survey.Outcome

namespace ComputeTopology

namespace Sink

variable {sink : Sink} {text message : String}

/-- What is said of a write of this text, if it does not fit. -/
def refusal (sink : Sink) (text : String) : Option String :=
  match sink.room with
  | none => none
  | some room => if (encode text).length ≤ room then none else some sink.fullMessage

theorem write_of_fits (fits : sink.refusal text = none) :
    ∃ left, sink.write text =
      (.ok (), { sink with received := sink.received ++ encode text, room := left }) := by
  unfold refusal at fits
  split at fits
  · rename_i unlimited
    refine ⟨none, ?_⟩
    simp only [write, unlimited]
  · rename_i room limited
    split at fits
    · rename_i enough
      refine ⟨some (room - (encode text).length), ?_⟩
      simp only [write, limited, if_pos enough, List.take_of_length_le enough]
    · contradiction

theorem write_of_refusal (refused : sink.refusal text = some message) :
    ∃ room left, sink.room = some room ∧ room < (encode text).length ∧
      sink.write text =
        (.error message,
          { sink with received := sink.received ++ (encode text).take room, room := left }) := by
  unfold refusal at refused
  split at refused
  · contradiction
  · rename_i room limited
    split at refused
    · contradiction
    · rename_i short
      cases refused
      refine ⟨room, some (room - (encode text).length), limited, by omega, ?_⟩
      simp only [write, limited, if_neg short]

end Sink

namespace Survey

variable {platform : Queries}

theorem versionPart_error {selector : SystemAttribute} {failure : Failure}
    (failed : versionPart platform selector = .error failure) :
    ∃ cause, failure = .initialization "system version query" cause := by
  unfold versionPart at failed
  cases asked : platform.systemAs UInt16 selector with
  | ok part => simp [asked] at failed
  | error cause =>
      simp only [asked, mapError_error, Except.error.injEq] at failed
      exact ⟨_, failed.symm⟩

theorem systemFacts_of_major_error {failure : Failure}
    (failed : versionPart platform .versionMajor = .error failure) :
    systemFacts platform = .error failure := by
  simp only [systemFacts, failed]
  rfl

theorem systemFacts_of_minor_error {major : UInt16} {failure : Failure}
    (known : versionPart platform .versionMajor = .ok major)
    (failed : versionPart platform .versionMinor = .error failure) :
    systemFacts platform = .error failure := by
  simp only [systemFacts, known, failed]
  rfl

theorem systemFacts_of_version {major minor : UInt16}
    (majorKnown : versionPart platform .versionMajor = .ok major)
    (minorKnown : versionPart platform .versionMinor = .ok minor) :
    ∃ facts, systemFacts platform = .ok facts := by
  simp only [systemFacts, majorKnown, minorKnown]
  exact ⟨_, rfl⟩

end Survey

namespace Diagnostics

inductive Stage where
  | start
  | versionMajor
  | versionMinor
  | enumerate
  | write
  | flush
  | shutDown
deriving DecidableEq

variable {σ : Type} [Platform σ]

/-- The report on a platform, if all that it shows can be had. -/
def report? (platform : Queries) (policy : Survey.Policy) : Option String :=
  match Survey.systemFacts platform, Survey.inventory platform policy with
  | .ok facts, .ok inventory => some (ReportText.ofInventory facts inventory)
  | _, _ => none

def RunError.ofAnswer {α : Type} : Except Failure α → Option RunError
  | .ok _ => none
  | .error failure => some (.topology failure)

namespace Stage

def beforeWrite : List Stage :=
  [.start, .versionMajor, .versionMinor, .enumerate]

def all : List Stage :=
  beforeWrite ++ [.write, .flush, .shutDown]

/-- What goes wrong at a stage, whatever becomes of the others. -/
def fault (start : Except PlatformError σ) (policy : Survey.Policy) (sink : Sink) (stage : Stage) :
    Option RunError :=
  match start, stage with
  | .error cause, .start =>
      some (.topology (.initialization "runtime initialization" cause))
  | .error _, _ => none
  | .ok _, .start => none
  | .ok platform, .versionMajor =>
      RunError.ofAnswer (Survey.versionPart (Platform.queries platform) .versionMajor)
  | .ok platform, .versionMinor =>
      RunError.ofAnswer (Survey.versionPart (Platform.queries platform) .versionMinor)
  | .ok platform, .enumerate =>
      RunError.ofAnswer (Survey.inventory (Platform.queries platform) policy)
  | .ok platform, .write =>
      (report? (Platform.queries platform) policy).bind (fun text => (sink.refusal text).map .io)
  | .ok _, .flush => sink.flushMessage.map .io
  | .ok platform, .shutDown =>
      RunError.ofAnswer ((Platform.shutDown platform).1.mapError (.shutdown "runtime shutdown"))

/-- The errors of a stage, and the exit codes they lead to. -/
inductive Exit : Stage → RunError → UInt8 → Prop where
  | start (cause : PlatformError) :
      Exit .start (.topology (.initialization "runtime initialization" cause)) 69
  | versionMajor (cause : PlatformError) :
      Exit .versionMajor (.topology (.initialization "system version query" cause)) 69
  | versionMinor (cause : PlatformError) :
      Exit .versionMinor (.topology (.initialization "system version query" cause)) 69
  | classification (object : String) (cause : Attribute.Unavailable) :
      Exit .enumerate (.topology (.classification object cause)) 65
  | traversal (call : String) (cause : PlatformError) :
      Exit .enumerate (.topology (.traversal call cause)) 74
  | write (message : String) : Exit .write (.io message) 74
  | flush (message : String) : Exit .flush (.io message) 74
  | shutDown (cause : PlatformError) :
      Exit .shutDown (.topology (.shutdown "runtime shutdown" cause)) 70

end Stage

/-- The whole report has reached the sink. -/
def Delivered (start : Except PlatformError σ) (policy : Survey.Policy) (sink after : Sink) : Prop :=
  ∃ platform text, start = .ok platform ∧
    report? (Platform.queries platform) policy = some text ∧
    after.received = sink.received ++ Sink.encode text

/-- As much of the report as the sink has room for has reached it, and not all. -/
def CutShort (start : Except PlatformError σ) (policy : Survey.Policy) (sink after : Sink) : Prop :=
  ∃ platform text room, start = .ok platform ∧
    report? (Platform.queries platform) policy = some text ∧
    sink.room = some room ∧ room < (Sink.encode text).length ∧
    after.received = sink.received ++ (Sink.encode text).take room

/-- What has become of the sink when a run ends at a stage. -/
def Stage.Leaves (start : Except PlatformError σ) (policy : Survey.Policy) (sink after : Sink) :
    Stage → Prop
  | .start | .versionMajor | .versionMinor | .enumerate => after = sink
  | .write => CutShort start policy sink after
  | .flush | .shutDown => Delivered start policy sink after

def firstFault (start : Except PlatformError σ) (policy : Survey.Policy) (sink : Sink) :
    Option (Stage × RunError) :=
  Stage.all.findSome? (fun stage => (stage.fault start policy sink).map (stage, ·))

variable {start : Except PlatformError σ} {platform : σ} {policy : Survey.Policy} {sink : Sink}

section Run

variable {text message : String} {failure : Failure}

theorem run_of_facts_error (policy : Survey.Policy) (sink : Sink)
    (failed : Survey.systemFacts (Platform.queries platform) = .error failure) :
    (run (.ok platform) policy sink).result = .error (.topology failure) ∧
      (run (.ok platform) policy sink).sink = sink := by
  simp only [run, conduct, Session.Owner.acquire, Session.Owner.ask, failed]
  exact ⟨rfl, rfl⟩

theorem run_of_inventory_error {facts : SystemFacts} (sink : Sink)
    (known : Survey.systemFacts (Platform.queries platform) = .ok facts)
    (failed : Survey.inventory (Platform.queries platform) policy = .error failure) :
    (run (.ok platform) policy sink).result = .error (.topology failure) ∧
      (run (.ok platform) policy sink).sink = sink := by
  simp only [run, conduct, Session.Owner.acquire, Session.Owner.ask, known, failed]
  exact ⟨rfl, rfl⟩

theorem run_of_report (sink : Sink)
    (composed : report? (Platform.queries platform) policy = some text) :
    ∃ session log, session.platform = platform ∧
      run (.ok platform) policy sink = (publish session log sink text).toOutcome := by
  unfold report? at composed
  split at composed
  · rename_i facts inventory known surveyed
    cases composed
    simp only [run, conduct, Session.Owner.acquire, Session.Owner.ask, known, surveyed]
    exact ⟨_, _, rfl, rfl⟩
  · contradiction

theorem publish_of_refusal (session : Session.Owner σ) (log : Session.Log σ)
    (refused : sink.refusal text = some message) :
    (publish session log sink text).result = .error (.io message) ∧
      ∃ room, sink.room = some room ∧ room < (Sink.encode text).length ∧
        (publish session log sink text).sink.received =
          sink.received ++ (Sink.encode text).take room := by
  obtain ⟨room, left, limited, short, written⟩ := Sink.write_of_refusal refused
  simp only [publish, written]
  exact ⟨rfl, room, limited, short, rfl⟩

/-- What is left of a run once its report is written: the flush and the shutdown. -/
def afterWrite (platform : σ) (sink : Sink) : Except RunError Unit :=
  match sink.flushMessage with
  | some message => .error (.io message)
  | none =>
      ((Platform.shutDown platform).1.mapError (.shutdown "runtime shutdown")).mapError .topology

theorem publish_of_fits (session : Session.Owner σ) (log : Session.Log σ)
    (fits : sink.refusal text = none) :
    (publish session log sink text).result = afterWrite session.platform sink ∧
      (publish session log sink text).sink.received = sink.received ++ Sink.encode text := by
  obtain ⟨left, written⟩ := Sink.write_of_fits fits
  simp only [publish, written, Sink.flush, afterWrite]
  cases sink.flushMessage with
  | some message => exact ⟨rfl, rfl⟩
  | none => exact ⟨rfl, rfl⟩

end Run

theorem firstFault_eq_some {stage : Stage} {failure : RunError} (before : List Stage)
    {after : List Stage} (order : Stage.all = before ++ stage :: after)
    (clear : ∀ earlier ∈ before, earlier.fault start policy sink = none)
    (met : stage.fault start policy sink = some failure) :
    firstFault start policy sink = some (stage, failure) := by
  rw [firstFault, order, List.findSome?_append, List.findSome?_eq_none_iff.mpr, List.findSome?_cons, met]
  · rfl
  · intro earlier member
    rw [clear earlier member, Option.map_none]

theorem firstFault_eq_none (clear : ∀ stage ∈ Stage.all, stage.fault start policy sink = none) :
    firstFault start policy sink = none := by
  rw [firstFault, List.findSome?_eq_none_iff]
  intro stage member
  rw [clear stage member, Option.map_none]

/-- A run whose first stage to go wrong is this one ends there. -/
structure EndsAt (start : Except PlatformError σ) (policy : Survey.Policy) (sink : Sink)
    (stage : Stage) (failure : RunError) : Prop where
  first : firstFault start policy sink = some (stage, failure)
  failed : (run start policy sink).result = .error failure
  exits : stage.Exit failure failure.exitCode
  leaves : stage.Leaves start policy sink (run start policy sink).sink

section Endings

variable {failure : Failure} {majorPart minorPart : UInt16} {text message : String}

theorem endsAt_start (cause : PlatformError) :
    EndsAt (.error cause : Except PlatformError σ) policy sink .start
      (.topology (.initialization "runtime initialization" cause)) where
  first := rfl
  failed := rfl
  exits := .start cause
  leaves := rfl

theorem endsAt_versionMajor
    (failed : Survey.versionPart (Platform.queries platform) .versionMajor = .error failure) :
    EndsAt (.ok platform) policy sink .versionMajor (.topology failure) := by
  obtain ⟨cause, rfl⟩ := Survey.versionPart_error failed
  obtain ⟨result, untouched⟩ := run_of_facts_error policy sink (Survey.systemFacts_of_major_error failed)
  refine ⟨firstFault_eq_some [.start] rfl ?_ ?_, result, .versionMajor cause, untouched⟩
  · simp [Stage.fault]
  · simp only [Stage.fault, failed, RunError.ofAnswer]

theorem endsAt_versionMinor
    (major : Survey.versionPart (Platform.queries platform) .versionMajor = .ok majorPart)
    (failed : Survey.versionPart (Platform.queries platform) .versionMinor = .error failure) :
    EndsAt (.ok platform) policy sink .versionMinor (.topology failure) := by
  obtain ⟨cause, rfl⟩ := Survey.versionPart_error failed
  obtain ⟨result, untouched⟩ :=
    run_of_facts_error policy sink (Survey.systemFacts_of_minor_error major failed)
  refine ⟨firstFault_eq_some [.start, .versionMajor] rfl ?_ ?_, result, .versionMinor cause,
    untouched⟩
  · simp [Stage.fault, major, RunError.ofAnswer]
  · simp only [Stage.fault, failed, RunError.ofAnswer]

theorem endsAt_enumerate
    (major : Survey.versionPart (Platform.queries platform) .versionMajor = .ok majorPart)
    (minor : Survey.versionPart (Platform.queries platform) .versionMinor = .ok minorPart)
    (failed : Survey.inventory (Platform.queries platform) policy = .error failure) :
    EndsAt (.ok platform) policy sink .enumerate (.topology failure) := by
  obtain ⟨facts, known⟩ := Survey.systemFacts_of_version major minor
  obtain ⟨result, untouched⟩ := run_of_inventory_error sink known failed
  refine ⟨firstFault_eq_some [.start, .versionMajor, .versionMinor] rfl ?_ ?_, result, ?_,
    untouched⟩
  · simp [Stage.fault, major, minor, RunError.ofAnswer]
  · simp only [Stage.fault, failed, RunError.ofAnswer]
  · cases Survey.isFault_of_inventory failed with
    | classification object cause => exact .classification object cause
    | traversal call cause => exact .traversal call cause

/-- The stages before the write go well, and this report can be composed. -/
structure Surveyed (platform : σ) (policy : Survey.Policy) (sink : Sink) (text : String) : Prop where
  clear : ∀ stage ∈ Stage.beforeWrite, stage.fault (.ok platform) policy sink = none
  composed : report? (Platform.queries platform) policy = some text

theorem endsAt_write (surveyed : Surveyed platform policy sink text)
    (refused : sink.refusal text = some message) :
    EndsAt (.ok platform) policy sink .write (.io message) := by
  obtain ⟨session, log, _, published⟩ := run_of_report sink surveyed.composed
  obtain ⟨result, room, limited, short, left⟩ :=
    publish_of_refusal session log refused
  rw [← published] at result left
  refine ⟨firstFault_eq_some Stage.beforeWrite rfl surveyed.clear ?_, result, .write message, ?_⟩
  · simp only [Stage.fault, surveyed.composed, Option.bind_some, refused, Option.map_some]
  · exact ⟨platform, text, room, rfl, surveyed.composed, limited, short, left⟩

theorem run_of_fits (surveyed : Surveyed platform policy sink text)
    (fits : sink.refusal text = none) :
    (run (.ok platform) policy sink).result = afterWrite platform sink ∧
      Delivered (.ok platform) policy sink (run (.ok platform) policy sink).sink := by
  obtain ⟨session, log, rfl, published⟩ := run_of_report sink surveyed.composed
  obtain ⟨result, received⟩ := publish_of_fits session log fits
  rw [← published] at result received
  exact ⟨result, session.platform, text, rfl, surveyed.composed, received⟩

theorem write_clear (surveyed : Surveyed platform policy sink text)
    (fits : sink.refusal text = none) :
    Stage.write.fault (.ok platform) policy sink = none := by
  simp only [Stage.fault, surveyed.composed, Option.bind_some, fits, Option.map_none]

theorem flush_clear (flushed : sink.flushMessage = none) :
    Stage.flush.fault (.ok platform) policy sink = none := by
  simp only [Stage.fault, flushed, Option.map_none]

theorem endsAt_flush (surveyed : Surveyed platform policy sink text)
    (fits : sink.refusal text = none) (refused : sink.flushMessage = some message) :
    EndsAt (.ok platform) policy sink .flush (.io message) := by
  obtain ⟨result, delivered⟩ := run_of_fits surveyed fits
  rw [afterWrite, refused] at result
  refine ⟨firstFault_eq_some (Stage.beforeWrite ++ [.write]) rfl ?_ ?_, result, .flush message,
    delivered⟩
  · exact List.forall_mem_append.mpr
      ⟨surveyed.clear, List.forall_mem_singleton.mpr (write_clear surveyed fits)⟩
  · simp only [Stage.fault, refused, Option.map_some]

theorem endsAt_shutDown {cause : PlatformError} (surveyed : Surveyed platform policy sink text)
    (fits : sink.refusal text = none) (flushed : sink.flushMessage = none)
    (failed : (Platform.shutDown platform).1 = .error cause) :
    EndsAt (.ok platform) policy sink .shutDown
      (.topology (.shutdown "runtime shutdown" cause)) := by
  obtain ⟨result, delivered⟩ := run_of_fits surveyed fits
  rw [afterWrite, flushed, failed] at result
  refine ⟨firstFault_eq_some (Stage.beforeWrite ++ [.write, .flush]) rfl ?_ ?_, result,
    .shutDown cause, delivered⟩
  · refine List.forall_mem_append.mpr ⟨surveyed.clear, ?_⟩
    exact List.forall_mem_cons.mpr
      ⟨write_clear surveyed fits, List.forall_mem_singleton.mpr (flush_clear flushed)⟩
  · simp only [Stage.fault, failed, mapError_error, RunError.ofAnswer]

theorem succeeds (surveyed : Surveyed platform policy sink text)
    (fits : sink.refusal text = none) (flushed : sink.flushMessage = none)
    (ended : (Platform.shutDown platform).1 = .ok ()) :
    firstFault (.ok platform) policy sink = none ∧
      (run (.ok platform) policy sink).result = .ok () ∧
      Delivered (.ok platform) policy sink (run (.ok platform) policy sink).sink := by
  obtain ⟨result, delivered⟩ := run_of_fits surveyed fits
  rw [afterWrite, flushed, ended] at result
  have shutDown : Stage.shutDown.fault (.ok platform) policy sink = none := by
    simp only [Stage.fault, ended, mapError_ok, RunError.ofAnswer]
  refine ⟨firstFault_eq_none ?_, result, delivered⟩
  refine List.forall_mem_append.mpr ⟨surveyed.clear, ?_⟩
  simpa only [List.forall_mem_cons, write_clear surveyed fits, flush_clear flushed, shutDown,
    true_and] using List.forall_mem_nil _

theorem endsAt_or_succeeds (start : Except PlatformError σ) (policy : Survey.Policy) (sink : Sink) :
    (∃ stage failure, EndsAt start policy sink stage failure) ∨
      firstFault start policy sink = none ∧ (run start policy sink).result = .ok () ∧
        Delivered start policy sink (run start policy sink).sink := by
  cases start with
  | error cause => exact .inl ⟨_, _, endsAt_start cause⟩
  | ok platform =>
    cases major : Survey.versionPart (Platform.queries platform) .versionMajor with
    | error failure => exact .inl ⟨_, _, endsAt_versionMajor major⟩
    | ok majorPart =>
      cases minor : Survey.versionPart (Platform.queries platform) .versionMinor with
      | error failure => exact .inl ⟨_, _, endsAt_versionMinor major minor⟩
      | ok minorPart =>
        cases listed : Survey.inventory (Platform.queries platform) policy with
        | error failure => exact .inl ⟨_, _, endsAt_enumerate major minor listed⟩
        | ok inventory =>
          obtain ⟨facts, known⟩ := Survey.systemFacts_of_version major minor
          have surveyed : Surveyed platform policy sink (ReportText.ofInventory facts inventory) := by
            constructor
            · simp [Stage.beforeWrite, Stage.fault, major, minor, listed, RunError.ofAnswer]
            · simp only [report?, known, listed]
          cases fits : sink.refusal (ReportText.ofInventory facts inventory) with
          | some message => exact .inl ⟨_, _, endsAt_write surveyed fits⟩
          | none =>
            cases flushed : sink.flushMessage with
            | some message => exact .inl ⟨_, _, endsAt_flush surveyed fits flushed⟩
            | none =>
              cases ended : (Platform.shutDown platform).1 with
              | error cause => exact .inl ⟨_, _, endsAt_shutDown surveyed fits flushed ended⟩
              | ok _ => exact .inr (succeeds surveyed fits flushed ended)

end Endings

end Diagnostics

end ComputeTopology
