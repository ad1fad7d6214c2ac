import ComputeTopology.Capture.Replay
import ComputeTopology.Kfd.Driver
import ComputeTopology.Platform.Call

namespace ComputeTopology

/-- The reply of a platform that is not initialized. -/
def Call.refusal : Call → Call.Reply
  | .system selector => .answer (.error ⟨selector.label, .notInitialized⟩)
  | .agents => .agents (.error .notInitialized)
  | .regions _ => .regions (.error .notInitialized)
  | .caches _ => .caches (.error .notInitialized)
  | .agent _ selector => .answer (.error ⟨selector.label, .notInitialized⟩)
  | .region _ selector => .answer (.error ⟨selector.label, .notInitialized⟩)
  | .cache _ selector => .answer (.error ⟨selector.label, .notInitialized⟩)
  | .shutDown => .shutDown (.error .notInitialized)

namespace Platform

section Runs

variable {σ : Type} [Platform σ]

/-- Every call is refused, and leaves the platform as it is. -/
def Refuses (stopped : σ) : Prop :=
  ∀ made, call stopped made = (made.refusal, stopped)

/-- A platform that can be shut down, and refuses everything from then on. -/
def StopsOnce (fresh : σ) : Prop :=
  ∃ stopped, call fresh .shutDown = (.shutDown (.ok ()), stopped) ∧ Refuses stopped

/-- What a platform replies to some calls if it serves until the first shutdown:
    to those up to there, the first shutdown included, as if each were made alone,
    and to those after it with refusals. -/
structure ServesUntilShutDown (fresh : σ) (made : List Call) : Prop where
  shutDown : (call fresh .shutDown).1 = .shutDown (.ok ())
  replies : (calls fresh made).1 = made.mapIdx fun place asked =>
    if .shutDown ∈ made.take place then asked.refusal else (call fresh asked).1

theorem call_query (platform : σ) {made : Call} (query : made ≠ .shutDown) :
    (call platform made).2 = platform := by
  cases made with
  | shutDown => contradiction
  | _ => rfl

theorem calls_of_refuses {stopped : σ} (refuses : Refuses stopped) (made : List Call) :
    calls stopped made = (made.map Call.refusal, stopped) := by
  induction made with
  | nil => rfl
  | cons first rest ih => simp only [calls, refuses first, ih, List.map_cons]

theorem calls_of_stopsOnce {fresh : σ} (stops : StopsOnce fresh) (made : List Call) :
    (calls fresh made).1 = made.mapIdx fun place asked =>
      if .shutDown ∈ made.take place then asked.refusal else (call fresh asked).1 := by
  obtain ⟨stopped, shutDown, refuses⟩ := stops
  induction made with
  | nil => rfl
  | cons first rest ih =>
      simp only [calls, List.mapIdx_cons, List.take_zero, List.not_mem_nil, if_false,
        List.take_succ_cons, List.mem_cons]
      by_cases last : first = .shutDown
      · subst last
        simp only [shutDown, calls_of_refuses refuses, true_or, if_true]
        exact congrArg _ (List.mapIdx_eq_iff.mpr (fun _ => List.getElem?_map)).symm
      · have other : Call.shutDown ≠ first := fun same => last same.symm
        simp only [call_query fresh last, ih, other, false_or]

theorem servesUntilShutDown_of_stopsOnce {fresh : σ} (stops : StopsOnce fresh) (made : List Call) :
    ServesUntilShutDown fresh made where
  shutDown := by
    obtain ⟨stopped, shutDown, _⟩ := stops
    rw [shutDown]
  replies := calls_of_stopsOnce stops made

end Runs

end Platform

theorem Capture.Replay.refuses (topology : Topology) :
    Platform.Refuses ({ topology, initialized := false } : Replay) := by
  intro made
  cases made <;> rfl

theorem Capture.Replay.stopsOnce (topology : Topology) : Platform.StopsOnce (start topology) :=
  ⟨_, rfl, refuses topology⟩

theorem Kfd.Driver.refuses (snapshot : Snapshot) :
    Platform.Refuses ({ snapshot, initialized := false } : Driver) := by
  intro made
  cases made <;> rfl

theorem Kfd.Driver.stopsOnce (snapshot : Snapshot) :
    Platform.StopsOnce ({ snapshot, initialized := true } : Driver) :=
  ⟨_, rfl, refuses snapshot⟩

/-- Whatever is called, and in whatever order, the platform that replays a capture and
    the one over a snapshot serve until the first shutdown, and refuse what follows. -/
theorem serve_until_shutDown (topology : Capture.Topology) (snapshot : Kfd.Snapshot)
    (made : List Call) :
    Platform.ServesUntilShutDown (Capture.Replay.start topology) made ∧
      Platform.ServesUntilShutDown ({ snapshot, initialized := true } : Kfd.Driver) made :=
  ⟨Platform.servesUntilShutDown_of_stopsOnce (Capture.Replay.stopsOnce topology) made,
    Platform.servesUntilShutDown_of_stopsOnce (Kfd.Driver.stopsOnce snapshot) made⟩

end ComputeTopology
