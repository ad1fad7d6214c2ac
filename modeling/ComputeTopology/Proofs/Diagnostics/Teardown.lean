import Mathlib.Algebra.GroupWithZero.Nat
import ComputeTopology.Capture.Replay
import ComputeTopology.Proofs.Diagnostics.Delivery

namespace ComputeTopology

theorem Sink.length_received_write (sink : Sink) (text : String) :
    sink.received.length ≤ (sink.write text).2.received.length := by
  unfold write
  cases sink.room <;> simp

namespace Diagnostics

open Session

section Ends

variable {σ : Type} [Platform σ] {session : Owner σ} {log : Log σ} {sink after : Sink}
  {events : List Event} {event : Event} {ending : Ending σ}

/-- What happens while the session of a run is open. -/
def Amid (serial : Nat) (event : Event) : Prop :=
  event = .queried serial ∨ (∃ bytes, event = .written bytes) ∨ event = .flushed

/-- How much an event adds to what the sink received. -/
def bytesOf : Event → Nat
  | .written bytes => bytes
  | _ => 0

/-- From here a run does this, and then shuts its platform down once. -/
structure Ends (session : Owner σ) (log : Log σ) (sink : Sink) (events : List Event)
    (ending : Ending σ) : Prop where
  amid : ∀ event ∈ events, Amid session.serial event
  journal : ending.journal = log.journal ++ events ++ [.stopped session.serial]
  remains : ending.remains =
    log.remains ++ [(session.serial, (Platform.shutDown session.platform).2)]
  received : ending.sink.received.length = sink.received.length + (events.map bytesOf).sum

theorem Ends.after_event (ends : Ends session (log.record event) after events ending)
    (during : Amid session.serial event)
    (received : after.received.length = sink.received.length + bytesOf event) :
    Ends session log sink (event :: events) ending where
  amid := List.forall_mem_cons.mpr ⟨during, ends.amid⟩
  journal := by
    rw [ends.journal]
    simp only [Log.record, List.append_assoc, List.cons_append, List.nil_append]
  remains := ends.remains
  received := by
    rw [ends.received, received, List.map_cons, List.sum_cons, Nat.add_assoc]

theorem abandon_ends (failure : RunError) (unclosed : session.closed = false) :
    Ends session log sink [] (abandon session log sink failure) := by
  rw [abandon, Owner.drop_of_unclosed log unclosed]
  exact ⟨List.forall_mem_nil _, by simp [Log.stop], rfl, rfl⟩

theorem finish_ends : Ends session log sink [] (finish session log sink) := by
  rw [finish, Owner.close_eq]
  exact ⟨List.forall_mem_nil _, by simp [Log.stop], rfl, rfl⟩

theorem publish_ends (session : Owner σ) (log : Log σ) (sink : Sink) (text : String)
    (unclosed : session.closed = false) :
    ∃ events, Ends session log sink events (publish session log sink text) := by
  have grows := sink.length_received_write text
  rw [publish]
  generalize sink.write text = wrote at grows ⊢
  cases wrote with
  | mk delivered after =>
      have received : after.received.length =
          sink.received.length + (after.received.length - sink.received.length) :=
        (Nat.add_sub_cancel' grows).symm
      cases delivered with
      | error message =>
          exact ⟨_, (abandon_ends _ unclosed).after_event (.inr (.inl ⟨_, rfl⟩)) received⟩
      | ok _ =>
          simp only
          cases after.flush with
          | error message =>
              exact ⟨_, ((abandon_ends _ unclosed).after_event (.inr (.inr rfl)) rfl).after_event
                (.inr (.inl ⟨_, rfl⟩)) received⟩
          | ok _ =>
              exact ⟨_, (finish_ends.after_event (.inr (.inr rfl)) rfl).after_event
                (.inr (.inl ⟨_, rfl⟩)) received⟩

/-- Whichever way a run ends, its platform is shut down once, after all else. -/
theorem conduct_ends (platform : σ) (policy : Survey.Policy) (sink : Sink) :
    ∃ events, Ends ⟨0, platform, false⟩ Log.empty.startNext sink events
      (conduct (.ok platform) policy sink) := by
  have asked : Amid 0 (.queried 0) := .inl rfl
  simp only [conduct, Owner.acquire, Owner.ask]
  cases Survey.systemFacts (Platform.queries platform) with
  | error failure => exact ⟨_, (abandon_ends _ rfl).after_event asked rfl⟩
  | ok facts =>
      simp only
      cases Survey.inventory (Platform.queries platform) policy with
      | error failure =>
          exact ⟨_, ((abandon_ends _ rfl).after_event asked rfl).after_event asked rfl⟩
      | ok inventory =>
          obtain ⟨events, ends⟩ := publish_ends ⟨0, platform, false⟩
            ((Log.empty.startNext.record (.queried 0)).record (.queried 0)) sink
            (ReportText.ofInventory facts inventory) rfl
          exact ⟨_, (ends.after_event asked rfl).after_event asked rfl⟩

end Ends

/-- Every platform that a program of session steps starts is shut down exactly once by the end:
    what remains of the platforms is what one shutdown leaves of each. Every reply is that of a
    platform that was not shut down yet, and nothing is asked of a platform afterwards. One that
    does not start changes nothing. Every run shuts its platform down once if it started, after
    all that it asks and writes, and otherwise none. -/
theorem platforms_stopped_once {σ : Type} [Platform σ] (program : List (Step σ))
    (session : State σ) (cause : PlatformError) (start : Except PlatformError σ)
    (policy : Survey.Policy) (sink : Sink) :
    (Session.run program).1 = replies none program ∧
      (Session.run program).2.remains = remainsOf (started program) ∧
      (∀ serial, (Session.run program).2.journal.count (.started serial) =
        if serial < (started program).length then 1 else 0) ∧
      (∀ serial, (Session.run program).2.journal.count (.stopped serial) =
        if serial < (started program).length then 1 else 0) ∧
      (Session.run program).2.journal.Pairwise Event.MayPrecede ∧
      (step session (.openWith (.error cause))).2 = session ∧
      match start with
      | .error _ =>
          (conduct start policy sink).remains = [] ∧ (run start policy sink).journal = []
      | .ok platform =>
          (conduct start policy sink).remains = remainsOf [platform] ∧
            (run start policy sink).sink =
              (deliver sink (report (Platform.queries platform) policy)).2 ∧
            ∃ events, (∀ event ∈ events, Amid 0 event) ∧
              (run start policy sink).journal = .started 0 :: events ++ [.stopped 0] ∧
              (run start policy sink).sink.received.length =
                sink.received.length + (events.map bytesOf).sum := by
  obtain ⟨answered, inOrder⟩ := run_inOrder program
  have count : (Session.run program).2.count = (started program).length := by
    simpa using inOrder.count
  refine ⟨answered, inOrder.remains, ?_, ?_, inOrder.accounts.ordered, rfl, ?_⟩
  · rw [← count]
    exact inOrder.accounts.started
  · rw [← count]
    intro serial
    rw [inOrder.accounts.stopped]
    exact if_congr (and_iff_left List.not_mem_nil) rfl rfl
  · cases start with
    | error cause => exact ⟨rfl, rfl⟩
    | ok platform =>
        obtain ⟨events, ends⟩ := conduct_ends platform policy sink
        exact ⟨ends.remains, run_sink policy sink, events, ends.amid, ends.journal, ends.received⟩

/-- A platform that counts its shutdowns. -/
structure Tallied (σ : Type) where
  platform : σ
  shutdowns : Nat

instance {σ : Type} [Platform σ] : Platform (Tallied σ) where
  queries tallied := Platform.queries tallied.platform
  shutDown tallied :=
    let (outcome, platform) := Platform.shutDown tallied.platform
    (outcome, { platform, shutdowns := tallied.shutdowns + 1 })

def tallies {σ : Type} (remains : List (Nat × Tallied σ)) : List (Nat × Nat) :=
  remains.map fun (serial, tallied) => (serial, tallied.shutdowns)

theorem tallies_remainsOf {σ : Type} [Platform σ] (platforms : List (Tallied σ)) :
    tallies (remainsOf platforms) =
      platforms.zipIdx.map fun (tallied, serial) => (serial, tallied.shutdowns + 1) := by
  simp only [tallies, remainsOf, List.map_map]
  rfl

/-- A replay of nothing but a version, before any shutdown. -/
def freshReplay : Tallied Capture.Replay :=
  ⟨.start ⟨some 1, some 1, none, none, none, none, []⟩, 0⟩

/-- Sessions that are replaced, closed and left open, and one that does not open. -/
def fourSessions : List (Step (Tallied Capture.Replay)) :=
  [.openWith (.ok freshReplay), .facts, .openWith (.error .notInitialized),
    .openWith (.ok freshReplay), .agents, .close, .agents, .openWith (.ok freshReplay),
    .inventory .failFast]

theorem tallies_of_fourSessions :
    tallies (Session.run fourSessions).2.remains = [(0, 1), (1, 1), (2, 1)] ∧
      (Session.run fourSessions).1[5]? = some (.done (.ok ())) ∧
      (Session.run fourSessions).1[6]? = some .noSession ∧
      ∀ sink, tallies (conduct (.ok freshReplay) .failFast sink).remains = [(0, 1)] := by
  obtain ⟨answered, remains, _⟩ := platforms_stopped_once fourSessions .initial .notInitialized
    (.ok freshReplay) .failFast .unlimited
  rw [answered, remains, tallies_remainsOf]
  refine ⟨rfl, rfl, rfl, fun sink => ?_⟩
  obtain ⟨_, _, _, _, _, _, remains, _⟩ := platforms_stopped_once fourSessions .initial
    .notInitialized (.ok freshReplay) .failFast sink
  rw [remains, tallies_remainsOf]
  rfl

end Diagnostics

end ComputeTopology
