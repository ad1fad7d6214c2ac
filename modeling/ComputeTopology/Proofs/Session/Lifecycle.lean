import Mathlib.Data.List.Basic
import ComputeTopology.Session

namespace ComputeTopology.Session

variable {σ : Type}

/-- Whether an event can come after another: a platform that was stopped is
    neither started nor queried any more. -/
def Event.MayPrecede (earlier later : Event) : Prop :=
  ∀ serial, earlier = .stopped serial → later ≠ .started serial ∧ later ≠ .queried serial

/-- The journal of a log accounts for its platforms, with these running. -/
structure Log.Accounts (log : Log σ) (running : List Nat) : Prop where
  distinct : running.Nodup
  issued : ∀ serial ∈ running, serial < log.count
  started : ∀ serial,
    log.journal.count (.started serial) = if serial < log.count then 1 else 0
  stopped : ∀ serial,
    log.journal.count (.stopped serial) = if serial < log.count ∧ serial ∉ running then 1 else 0
  ordered : log.journal.Pairwise Event.MayPrecede

namespace Log

variable {log : Log σ} {running : List Nat} {serial : Nat} {event : Event}

theorem ordered_append {journal : List Event} (ordered : journal.Pairwise Event.MayPrecede)
    (late : ∀ serial, .stopped serial ∈ journal → event ≠ .started serial ∧ event ≠ .queried serial) :
    (journal ++ [event]).Pairwise Event.MayPrecede := by
  rw [List.pairwise_append]
  refine ⟨ordered, List.pairwise_singleton _ _, ?_⟩
  intro earlier member later last serial same
  cases List.mem_singleton.mp last
  cases same
  exact late serial member

theorem count_append_of_ne {journal : List Event} {counted : Event} (other : event ≠ counted) :
    (journal ++ [event]).count counted = journal.count counted := by
  rw [List.count_append, List.count_singleton, if_neg (by simpa using other), Nat.add_zero]

theorem count_append_self {journal : List Event} :
    (journal ++ [event]).count event = journal.count event + 1 := by
  rw [List.count_append, List.count_singleton_self]

theorem lt_startNext : serial < log.startNext.count ↔ serial < log.count ∨ serial = log.count :=
  Nat.lt_succ_iff_lt_or_eq

theorem accounts_empty : (empty : Log σ).Accounts [] where
  distinct := .nil
  issued := by simp
  started := by simp [empty]
  stopped := by simp [empty]
  ordered := .nil

namespace Accounts

theorem of_stopped (kept : log.Accounts running) (met : .stopped serial ∈ log.journal) :
    serial < log.count ∧ serial ∉ running := by
  have positive := List.count_pos_iff.mpr met
  rw [kept.stopped serial] at positive
  by_contra absent
  rw [if_neg absent] at positive
  omega

theorem start (kept : log.Accounts running) : log.startNext.Accounts (running ++ [log.count]) where
  distinct := by
    rw [List.nodup_append]
    refine ⟨kept.distinct, List.pairwise_singleton _ _, ?_⟩
    intro old member new last
    have below := kept.issued old member
    rw [List.mem_singleton.mp last]
    omega
  issued := by
    intro serial member
    rcases List.mem_append.mp member with member | member
    · exact lt_startNext.mpr (.inl (kept.issued serial member))
    · exact lt_startNext.mpr (.inr (List.mem_singleton.mp member))
  started := by
    intro serial
    by_cases fresh : log.count = serial
    · subst fresh
      have below : log.count < log.startNext.count := lt_startNext.mpr (.inr rfl)
      rw [if_pos below, startNext, count_append_self, kept.started, if_neg (Nat.lt_irrefl _)]
    · refine (count_append_of_ne (by simpa using fresh)).trans ?_
      rw [kept.started]
      refine if_congr ?_ rfl rfl
      rw [lt_startNext]
      omega
  stopped := by
    intro serial
    refine (count_append_of_ne (by simp)).trans ?_
    rw [kept.stopped]
    refine if_congr ?_ rfl rfl
    rw [lt_startNext, List.mem_append, List.mem_singleton, not_or]
    constructor
    · rintro ⟨below, absent⟩
      exact ⟨.inl below, absent, by omega⟩
    · rintro ⟨below, absent, old⟩
      exact ⟨below.resolve_right old, absent⟩
  ordered := by
    refine ordered_append kept.ordered fun serial met => ⟨?_, nofun⟩
    have below := (kept.of_stopped met).1
    rintro ⟨⟩
    omega

theorem query (kept : log.Accounts running) (alive : serial ∈ running) :
    (log.record (.queried serial)).Accounts running where
  distinct := kept.distinct
  issued := kept.issued
  started other := (count_append_of_ne (by simp)).trans (kept.started other)
  stopped other := (count_append_of_ne (by simp)).trans (kept.stopped other)
  ordered := by
    refine ordered_append kept.ordered fun other met => ⟨nofun, ?_⟩
    rintro ⟨⟩
    exact (kept.of_stopped met).2 alive

theorem stop (kept : log.Accounts (serial :: running)) (platform : σ) :
    (log.stop serial platform).Accounts running where
  distinct := kept.distinct.of_cons
  issued other member := kept.issued other (List.mem_cons_of_mem _ member)
  started other := (count_append_of_ne (by simp)).trans (kept.started other)
  stopped := by
    intro other
    simp only [Log.stop]
    by_cases same : serial = other
    · subst same
      have below := kept.issued serial List.mem_cons_self
      have gone := (List.nodup_cons.mp kept.distinct).1
      rw [count_append_self, kept.stopped, if_neg (fun met => met.2 List.mem_cons_self)]
      exact (if_pos ⟨below, gone⟩).symm
    · rw [count_append_of_ne (by simpa using same), kept.stopped]
      refine if_congr ?_ rfl rfl
      rw [List.mem_cons, not_or]
      exact ⟨fun met => ⟨met.1, met.2.2⟩, fun met => ⟨met.1, Ne.symm same, met.2⟩⟩
  ordered := ordered_append kept.ordered fun _ _ => ⟨nofun, nofun⟩

end Accounts

end Log

/-- What one shutdown leaves of each of these platforms, with their serial numbers. -/
def remainsOf [Platform σ] (platforms : List σ) : List (Nat × σ) :=
  platforms.zipIdx.map fun (platform, serial) => (serial, (Platform.shutDown platform).2)

theorem remainsOf_concat [Platform σ] (platforms : List σ) (platform : σ) :
    remainsOf (platforms ++ [platform]) =
      remainsOf platforms ++ [(platforms.length, (Platform.shutDown platform).2)] := by
  simp only [remainsOf, List.zipIdx_append, List.zipIdx_singleton, List.map_append, List.map_cons,
    List.map_nil, Nat.zero_add]

namespace Step

/-- The platform that a step starts. -/
def platform? : Step σ → Option σ
  | .openWith (.ok platform) => some platform
  | _ => none

/-- The platforms that a step stops while this one is open. -/
def stops (current : Option σ) : Step σ → List σ
  | .openWith (.ok _) | .close | .release => current.toList
  | _ => []

/-- The platform that is open after a step. -/
def next (current : Option σ) : Step σ → Option σ
  | .openWith (.ok platform) => some platform
  | .close | .release => none
  | _ => current

/-- The reply to a step while this platform is open. What is asked is asked of the platform as
    it was started. -/
def reply [Platform σ] (current : Option σ) : Step σ → Reply
  | .openWith (.ok _) => .done (.ok ())
  | .openWith (.error cause) => .done (.error (.initialization "runtime initialization" cause))
  | .facts => .ofAnswer .facts (current.map Platform.queries |>.map Survey.systemFacts)
  | .inventory policy =>
      .ofAnswer .inventory (current.map Platform.queries |>.map (Survey.inventory · policy))
  | .agents => .ofAnswer .agents (current.map Platform.queries |>.map Queries.agents)
  | .close =>
      .ofAnswer .done (current.map fun platform =>
        (Platform.shutDown platform).1.mapError (.shutdown "runtime shutdown"))
  | .release => .ofAnswer (fun _ => .done (.ok ())) current

theorem stops_append_next (current : Option σ) (taken : Step σ) :
    taken.stops current ++ (taken.next current).toList =
      current.toList ++ taken.platform?.toList := by
  cases taken with
  | openWith start => cases start <;> simp [stops, next, platform?]
  | _ => simp [stops, next, platform?]

end Step

/-- The platforms that a program starts, in order. -/
def started (program : List (Step σ)) : List σ :=
  program.filterMap Step.platform?

/-- The replies to a program, one step after another. -/
def replies [Platform σ] (current : Option σ) : List (Step σ) → List Reply
  | [] => []
  | taken :: rest => taken.reply current :: replies (taken.next current) rest

variable [Platform σ] {stopped : List σ} {current : Option σ} {platform : σ}

namespace Owner

variable {owner : Owner σ}

theorem drop_of_unclosed (log : Log σ) (unclosed : owner.closed = false) :
    owner.drop log = log.stop owner.serial (Platform.shutDown owner.platform).2 := by
  simp only [drop, unclosed, Bool.false_eq_true, if_false, shutDown]

/-- An owner that closes is marked before its platform is shut down, so that going
    out of scope does not stop the platform again. -/
theorem close_eq (log : Log σ) :
    owner.close log =
      ((Platform.shutDown owner.platform).1.mapError (.shutdown "runtime shutdown"),
        log.stop owner.serial (Platform.shutDown owner.platform).2) := by
  simp only [close, shutDown, drop, if_true]

end Owner

variable {session : State σ}

namespace State

/-- Of the platforms that were started all but the one in the open session were stopped. They
    were shut down once, and the log accounts for them. -/
structure InOrder (session : State σ) (stopped : List σ) (current : Option σ) : Prop where
  live : session.live = current.map fun platform =>
    { serial := stopped.length, platform, closed := false }
  count : session.count = (stopped ++ current.toList).length
  remains : session.remains = remainsOf stopped
  accounts : session.toLog.Accounts (current.toList.map fun _ => stopped.length)

theorem initial_inOrder : (initial : State σ).InOrder [] none :=
  ⟨rfl, rfl, rfl, Log.accounts_empty⟩

theorem stopped_inOrder (kept : session.InOrder stopped (some platform)) :
    ({ toLog := session.toLog.stop stopped.length (Platform.shutDown platform).2
       live := none } : State σ).InOrder (stopped ++ [platform]) none where
  live := rfl
  count := kept.count.trans (by simp)
  remains := by rw [remainsOf_concat, ← kept.remains]; rfl
  accounts := kept.accounts.stop _

theorem release_inOrder (kept : session.InOrder stopped current) :
    session.release.InOrder (stopped ++ current.toList) none := by
  unfold release
  rw [kept.live]
  cases current with
  | none => simpa using kept
  | some platform =>
      simp only [Option.map_some, Owner.drop_of_unclosed]
      exact stopped_inOrder kept

theorem close_inOrder (kept : session.InOrder stopped current) :
    session.close.1 = current.map (fun platform =>
        (Platform.shutDown platform).1.mapError (.shutdown "runtime shutdown")) ∧
      session.close.2.InOrder (stopped ++ current.toList) none := by
  unfold close
  rw [kept.live]
  cases current with
  | none => exact ⟨rfl, by simpa using kept⟩
  | some platform =>
      simp only [Option.map_some, Owner.close_eq, true_and]
      exact stopped_inOrder kept

theorem ask_inOrder {α : Type} (question : Queries → α) (kept : session.InOrder stopped current) :
    (session.ask question).1 = (current.map Platform.queries).map question ∧
      (session.ask question).2.InOrder stopped current := by
  have live := kept.live
  unfold ask
  rw [live]
  cases current with
  | none => exact ⟨rfl, kept⟩
  | some platform =>
      exact ⟨rfl, rfl, kept.count, kept.remains, kept.accounts.query List.mem_cons_self⟩

/-- The platform of a session that is replaced is stopped once the new one has started. -/
theorem openWith_inOrder (platform : σ) (kept : session.InOrder stopped current) :
    (session.openWith (.ok platform)).2.InOrder (stopped ++ current.toList) (some platform) := by
  have accounts := kept.accounts.start
  have serial := kept.count
  unfold openWith Owner.acquire release
  rw [kept.live]
  cases current with
  | none =>
      simp only [Option.map_none, Option.toList_none, List.append_nil, List.map_nil, List.nil_append,
        serial] at accounts ⊢
      exact ⟨rfl, congrArg (· + 1) serial |>.trans (by simp), kept.remains, accounts⟩
  | some earlier =>
      -- Until the session that is replaced goes out of scope both platforms run.
      simp only [Option.map_some, Owner.drop_of_unclosed, Option.toList_some, List.map_cons,
        List.map_nil, List.cons_append, List.nil_append, serial] at accounts ⊢
      exact ⟨rfl, congrArg (· + 1) serial |>.trans (by simp), (stopped_inOrder kept).remains,
        accounts.stop _⟩

end State

/-- A step replies for the platform that is open, and stops what it says. -/
theorem step_inOrder (kept : session.InOrder stopped current) (taken : Step σ) :
    (step session taken).1 = taken.reply current ∧
      (step session taken).2.InOrder (stopped ++ taken.stops current) (taken.next current) := by
  have asked {α : Type} (wrap : α → Reply) (question : Queries → α) :
      Reply.ofAnswer wrap (session.ask question).1 =
          .ofAnswer wrap ((current.map Platform.queries).map question) ∧
        (session.ask question).2.InOrder (stopped ++ []) current := by
    obtain ⟨answer, kept⟩ := State.ask_inOrder question kept
    exact ⟨congrArg _ answer, (List.append_nil stopped).symm ▸ kept⟩
  cases taken with
  | openWith start =>
      cases start with
      | error cause => exact ⟨rfl, (List.append_nil stopped).symm ▸ kept⟩
      | ok platform => exact ⟨rfl, State.openWith_inOrder platform kept⟩
  | facts => exact asked .facts Survey.systemFacts
  | inventory policy => exact asked .inventory (Survey.inventory · policy)
  | agents => exact asked .agents Queries.agents
  | close =>
      obtain ⟨outcome, closed⟩ := State.close_inOrder kept
      exact ⟨congrArg (Reply.ofAnswer .done) outcome, closed⟩
  | release =>
      refine ⟨?_, State.release_inOrder kept⟩
      simp only [step, Step.reply, kept.live]
      cases current <;> rfl

theorem steps_inOrder (kept : session.InOrder stopped current) (program : List (Step σ)) :
    (steps session program).1 = replies current program ∧
      ∃ done last, (steps session program).2.InOrder done last ∧
        done ++ last.toList = stopped ++ current.toList ++ started program := by
  induction program generalizing session stopped current with
  | nil => exact ⟨rfl, _, _, kept, (List.append_nil _).symm⟩
  | cons taken rest ih =>
      obtain ⟨reply, next⟩ := step_inOrder kept taken
      obtain ⟨others, done, last, ended, all⟩ := ih next
      refine ⟨congrArg₂ List.cons reply others, done, last, ended, ?_⟩
      rw [all, List.append_assoc stopped, Step.stops_append_next, started, started,
        List.filterMap_cons]
      cases taken.platform? <;> simp

/-- When a program is over and what it left open is released, every platform that it started
    was shut down once. -/
theorem run_inOrder (program : List (Step σ)) :
    (run program).1 = replies none program ∧ (run program).2.InOrder (started program) none := by
  obtain ⟨answered, done, last, ended, all⟩ := steps_inOrder State.initial_inOrder program
  refine ⟨answered, ?_⟩
  have released := State.release_inOrder ended
  rwa [all] at released

end ComputeTopology.Session
