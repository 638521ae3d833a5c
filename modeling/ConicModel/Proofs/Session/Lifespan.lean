import ConicModel.Proofs.Session.Conduct
import ConicModel.Proofs.Session.Run
import ConicModel.Solver.Scripted

/-!
Contract: the lives of the instances of a session, from its start to its end.

Owns:
- `played`, the session that a run leaves, also where the start was refused;
- `Lawful`, the invariant of every such session;
- the lives of instances: closed once, one at a time, and configured while they last.

Does not own: what an instance holds.
-/

namespace ConicModel.Session

open Transcript

variable {World Factory Instance : Type}

def unplayed (configuration : Configuration Factory) (world : World) :
    Recorded World Factory Instance :=
  idle configuration { world := world }

/-- The session that a run leaves.  A start that is refused is all there is of the run. -/
def played (solver : Solver World Factory Instance) (configuration : Configuration Factory)
    (world : World) (opening : Opening) (operations : List (Operation Factory)) :
    Recorded World Factory Instance :=
  match opening.action solver.recorded (unplayed configuration world) with
  | .ok () session => finish solver.recorded session operations
  | .error _ session => session

structure Lawful (configuration : Configuration Factory)
    (session : Recorded World Factory Instance) : Prop where
  sound : session.Sound
  mode : session.link.mode = configuration.mode
  settings : session.link.settings = configuration.settings

section Lawful

variable {solver : Solver World Factory Instance} {configuration : Configuration Factory}
  {session : Recorded World Factory Instance}

/-- The link keeps the mode and the settings, and where its invariant holds the session
is lawful. -/
theorem Lawful.of_steady (lawful : Lawful configuration session)
    {after : Recorded World Factory Instance} (steady : Steady session after)
    (sound : after.Sound) : Lawful configuration after :=
  ⟨sound, steady.mode.trans lawful.mode, steady.settings.trans lawful.settings⟩

theorem lawful_step (lawful : Lawful configuration session) (operation : Operation Factory) :
    Lawful configuration (step solver.recorded session operation).after :=
  lawful.of_steady ((steady_perform operation).stateAfter session)
    (sound_step lawful.sound operation)

theorem lawful_finish (lawful : Lawful configuration session)
    (operations : List (Operation Factory)) :
    Lawful configuration (finish solver.recorded session operations) := by
  induction operations generalizing session with
  | nil => exact lawful
  | cons operation others ih => exact ih (lawful_step lawful operation)

theorem lawful_start (lawful : Lawful configuration session) (vacant : Link.Vacant session.link) :
    Ends (start solver.recorded) session (fun _ after => Lawful configuration after)
      fun _ after => Lawful configuration after := by
  apply ends_onLink
  have started : Ends (Link.start solver.recorded) session.link
      (fun _ link => Link.Sound session.model link) fun _ link => Link.Vacant link :=
    Link.sound_start vacant
  refine (started.and (Link.manages_start session.link)).mono ?_ ?_
  · rintro _ link ⟨sound, manages⟩
    exact lawful.of_steady manages.steady sound
  · rintro _ link ⟨vacant, manages⟩
    exact lawful.of_steady manages.steady vacant.sound

theorem lawful_opening (opening : Opening) (world : World) :
    Ends (opening.action solver.recorded) (unplayed configuration world)
      (fun _ after => Lawful configuration after) fun _ after => Lawful configuration after := by
  have vacant : ∀ events : List Event, Link.Vacant
      { (unplayed configuration world : Recorded World Factory Instance).link with
        events := events } :=
    fun _ => ⟨rfl, rfl, .start⟩
  apply ends_opening
  · exact fun events => ⟨(vacant events).sound, rfl, rfl⟩
  · exact fun model events => lawful_start ⟨(vacant events).sound, rfl, rfl⟩ (vacant events)

theorem lawful_played (solver : Solver World Factory Instance)
    (configuration : Configuration Factory) (world : World) (opening : Opening)
    (operations : List (Operation Factory)) :
    Lawful configuration (played solver configuration world opening operations) := by
  have opens : Ends (opening.action solver.recorded) (unplayed configuration world)
      (fun _ after => Lawful configuration after) fun _ after => Lawful configuration after :=
    lawful_opening opening world
  unfold played
  cases opened : opening.action solver.recorded (unplayed configuration world) with
  | ok value session => exact lawful_finish (opens.of_ok opened) operations
  | error cause session => exact opens.of_error opened

theorem state_eq_empty_iff {session : Session World Factory Instance} :
    session.state = .empty ↔ session.link.live = none := by
  unfold state Link.state
  constructor
  · intro empty
    split at empty
    · assumption
    · split at empty
      · cases empty
      · split at empty <;> cases empty
  · intro absent
    rw [absent]

/-- The open instance of a lawful session is the live one. -/
theorem Lawful.unclosed_iff (lawful : Lawful configuration session) {number : Nat} :
    Unclosed session.entries number ↔
      ∃ target, session.link.live = some target ∧ target.number = number := by
  apply (Told.unclosed_iff lawful.sound.tells).trans
  constructor
  · rintro ⟨factory, active⟩
    obtain ⟨target, live, same⟩ := Option.map_eq_some_iff.mp active
    cases same
    exact ⟨target, live, rfl⟩
  · rintro ⟨target, live, rfl⟩
    rw [live]
    exact ⟨target.factory, rfl⟩

theorem Lawful.vacant_dispose (lawful : Lawful configuration session) :
    Link.Vacant (stateAfter (dispose solver.recorded) session).link := by
  have disposed : Ends (dispose solver.recorded) session
      (fun _ after => Link.Vacant after.link) fun _ after => Link.Vacant after.link := by
    apply ends_onLink
    exact (Link.vacant_dispose lawful.sound).mono (fun _ _ vacant => vacant)
      fun _ _ impossible => impossible.elim
  exact ends_stateAfter.mp disposed

end Lawful

/-- Whatever the solver does and whichever operations follow each other: when a session has
ended, every instance that was created was closed once, by its last call; while it lasts,
at most one instance is open, and one is exactly where the state is not empty; an instance
is created only after the earlier ones were closed; and an open instance got all settings,
in their order, and accepted each or did not know it. -/
theorem lifespan_of_played (solver : Solver World Factory Instance)
    (configuration : Configuration Factory) (world : World) (opening : Opening)
    (operations : List (Operation Factory)) :
    let session := played solver configuration world opening operations
    let ended := stateAfter (dispose solver.recorded) session
    (∀ number, Created ended.entries number → ∃ uses : List Call,
      callsOf ended.entries number = .create (.ok ()) :: uses ++ [.close] ∧
        ∀ call ∈ uses, call.isUse = true) ∧
    (∀ first second, Unclosed session.entries first → Unclosed session.entries second →
      first = second) ∧
    ((∃ number, Unclosed session.entries number) ↔ session.state ≠ .empty) ∧
    Throughout (fun before entry => ∀ reply, entry.call = .create reply →
      ∀ number, Created before number → Closed before number) ended.entries ∧
    ∀ number, Unclosed session.entries number →
      Configured configuration.settings (callsOf session.entries number) := by
  intro session ended
  have lawful : Lawful configuration session :=
    lawful_played solver configuration world opening operations
  have vacant : Link.Vacant ended.link := lawful.vacant_dispose
  refine ⟨?_, ?_, ?_, ?_, ?_⟩
  · intro number created
    exact Told.closed_once vacant.tells created
  · intro first second firstOpen secondOpen
    obtain ⟨target, live, rfl⟩ := lawful.unclosed_iff.mp firstOpen
    obtain ⟨other, otherLive, rfl⟩ := lawful.unclosed_iff.mp secondOpen
    rw [live] at otherLive
    cases otherLive
    rfl
  · rw [Ne, state_eq_empty_iff, ← Ne, Option.ne_none_iff_exists']
    constructor
    · rintro ⟨number, isOpen⟩
      obtain ⟨target, live, _⟩ := lawful.unclosed_iff.mp isOpen
      exact ⟨target, live⟩
    · rintro ⟨target, live⟩
      exact ⟨target.number, lawful.unclosed_iff.mpr ⟨target, live, rfl⟩⟩
  · refine (Told.creations vacant.tells).imp ?_
    intro before entry alone reply creates number created
    obtain ⟨earlier, told⟩ := alone reply creates
    by_contra unclosed
    obtain ⟨factory, impossible⟩ := told.unclosed_iff.mp ⟨created, unclosed⟩
    cases impossible
  · intro number isOpen
    obtain ⟨target, live, rfl⟩ := lawful.unclosed_iff.mp isOpen
    rw [← lawful.settings]
    exact lawful.sound.configured target live

-- A copy that fails closes the first instance; the second one is closed at the end.
example : (stateAfter (dispose Scripted.solver.recorded)
    (finish Scripted.solver.recorded
      (stateAfter (start Scripted.solver.recorded) (unplayed { factory := some "demo" }
        { scripts := [("demo", { copyError := some (.unsupportedOperation "copy") })] }))
      [.sync, .reattach])).entries.map (fun entry => (entry.number, entry.call.isUse)) =
    [(0, false), (0, true), (0, true), (0, false), (1, false), (1, false)] := by
  decide +kernel

end ConicModel.Session
