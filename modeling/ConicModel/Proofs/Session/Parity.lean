import ConicModel.Proofs.Session.Direct
import ConicModel.Proofs.Session.Independence
import ConicModel.Proofs.Session.Synchrony

/-!
Contract: without a model, a solver is handed what a session with a model would keep.

Owns:
- what a solver has received entity by entity, and whether it accepted all of it;
- `Mirrors`, which says that a solver has received the contents of a model;
- the agreement of sessions with and without a model on every run that only builds.

Does not own: what a solver does with what it received.
-/

namespace ConicModel

open Model (Change Outcome)

/-! ## What a solver has received -/

/-- The entities that a solver took in one by one, with the numbers it gave them, and the last
objective. -/
structure Received where
  vars : List (VariableId × Variable Float) := []
  constraints : List (ConstraintId × Constraint Float) := []
  objective : Option (Objective Float) := none

namespace Received

def take (received : Received) : Call → Received
  | .addVariable added (.ok index) =>
    { received with vars := received.vars ++ [(⟨index.number⟩, added)] }
  | .addConstraint added (.ok index) =>
    { received with constraints := received.constraints ++ [(⟨index.number⟩, added)] }
  | .setObjective objective (.ok ()) => { received with objective := objective }
  | _ => received

/-- Whether the call is accepted; an entity gets the number of those of its kind before it. -/
def accepts (received : Received) : Call → Bool
  | .addVariable _ (.ok index) => index.number == received.vars.length
  | .addConstraint _ (.ok index) => index.number == received.constraints.length
  | .addVariable _ (.error _) | .addConstraint _ (.error _) | .setObjective _ (.error _) => false
  | _ => true

variable {Factory : Type}

def takeAll (received : Received) (entries : List (JournalEntry Factory)) : Received :=
  entries.foldl (fun received entry => received.take entry.call) received

def acceptsAll : Received → List (JournalEntry Factory) → Bool
  | _, [] => true
  | received, entry :: later =>
    received.accepts entry.call && (received.take entry.call).acceptsAll later

theorem takeAll_concat (received : Received) (entries : List (JournalEntry Factory))
    (entry : JournalEntry Factory) :
    received.takeAll (entries ++ [entry]) = (received.takeAll entries).take entry.call :=
  List.foldl_append

theorem acceptsAll_append : ∀ (received : Received) (entries others : List (JournalEntry Factory)),
    received.acceptsAll (entries ++ others) =
      (received.acceptsAll entries && (received.takeAll entries).acceptsAll others)
  | _, [], _ => rfl
  | received, entry :: later, others => by
    have rest := acceptsAll_append (received.take entry.call) later others
    rw [List.cons_append, acceptsAll, acceptsAll, rest, Bool.and_assoc]
    rfl

theorem acceptsAll_concat {received : Received} {entries : List (JournalEntry Factory)}
    {entry : JournalEntry Factory} (accepted : received.acceptsAll (entries ++ [entry]) = true) :
    (received.takeAll entries).accepts entry.call = true := by
  rw [acceptsAll_append, Bool.and_eq_true] at accepted
  exact (Bool.and_eq_true_iff.mp accepted.2).1

theorem take_of_not_incremental {call : Call} (whole : call.isIncremental = false)
    (received : Received) : received.take call = received := by
  cases call <;> first | rfl | cases whole

theorem takeAll_of_whole (received : Received) : ∀ {entries : List (JournalEntry Factory)},
    (∀ entry ∈ entries, entry.call.isIncremental = false) → received.takeAll entries = received
  | [], _ => rfl
  | entry :: later, whole => by
    obtain ⟨here, others⟩ := List.forall_mem_cons.mp whole
    show (received.take entry.call).takeAll later = received
    rw [take_of_not_incremental here]
    exact takeAll_of_whole received others

theorem takeAll_of_quiet {entries : List (JournalEntry Factory)} (quiet : Quiet [] entries)
    (received : Received) : received.takeAll entries = received := by
  obtain ⟨added, rfl, silent⟩ := quiet
  exact takeAll_of_whole received fun entry member => (silent entry member).2

end Received

def Registry.listed {kind : EntityKind} {Content : Type} (registry : Registry kind Content) :
    List (EntityId kind × Content) :=
  registry.entries.map fun entry => (entry.id, entry.content)

/-- What a model holds, without names and metadata. -/
def Model.contents (model : Model Float) : Received where
  vars := model.vars.listed
  constraints := model.constraints.listed
  objective := model.objective

/-- An entity that gets the number of those before it is the next one, where none was
removed. -/
theorem Registry.listed_of_next {kind : EntityKind} {Content : Type}
    {registry : Registry kind Content} (counted : registry.next = registry.entries.length)
    {number : Nat} (place : number = registry.listed.length) (content : Content) :
    number = registry.next ∧
      registry.listed ++ [(⟨number⟩, content)] = (registry.add content).listed := by
  have next : number = registry.next := by
    rw [place, counted]
    exact List.length_map _
  have listed : (registry.add content).listed = registry.listed ++ [(registry.nextId, content)] :=
    List.map_append
  rw [next, listed]
  exact ⟨rfl, rfl⟩

/-- Without removals the next number is the number of entries. -/
theorem Registry.next_add {kind : EntityKind} {Content : Type} {registry : Registry kind Content}
    (counted : registry.next = registry.entries.length) (content : Content) :
    (registry.add content).next = (registry.add content).entries.length := by
  show registry.next + 1 = (registry.entries ++ [_]).length
  rw [List.length_append, counted]
  rfl

/-- Whether the change adds an entity, or sets or clears the objective. -/
def Model.Edit.isBuilding {K : Type} : Model.Edit K → Bool
  | .addVariable _ _ | .addConstraint _ | .setObjective _ _ | .clearObjective => true
  | _ => false

namespace Session

variable {World Factory Instance α : Type} {solver : Solver World Factory Instance}
  {session : Recorded World Factory Instance}

/-! ## Transcripts that grow -/

def Grows (before after : Recorded World Factory Instance) : Prop :=
  ∃ added, after.entries = before.entries ++ added

instance : IsPreorder (Recorded World Factory Instance) Grows where
  refl _ := ⟨[], (List.append_nil _).symm⟩
  trans := by
    rintro first second third ⟨added, here⟩ ⟨others, there⟩
    exact ⟨added ++ others, by rw [there, here, List.append_assoc]⟩

theorem grows_callLive {action : Instance → Reply World α} {call : Except SolverError α → Call} :
    Moves Grows (callLive fun target => Journal.recordOf target action call :
      Action (Journal World Factory) Factory (Tracked Factory Instance) α) := by
  intro session
  cases live : session.link.live with
  | some target =>
    apply ends_callLive live
    · exact fun value world => ⟨_, rfl⟩
    · exact fun cause world => ⟨_, rfl⟩
  | none =>
    apply ends_onLink
    apply ends_bind
    apply ends_bind
    apply ends_get
    rw [live]
    exact ends_throw (refl_of Grows session)

theorem grows_forward (edit : Model.Edit Float) :
    Moves Grows (forward solver.recorded edit) := by
  have called : ∀ {β : Type} {action : Instance → Reply World β}
      {call : Except SolverError β → Call} {answer : β → Option EntityRef}, Moves Grows (do
        let value ← callLive fun target => Journal.recordOf target action call
        return answer value :
          Action (Journal World Factory) Factory (Tracked Factory Instance) (Option EntityRef)) :=
    moves_bind grows_callLive fun _ => moves_pure _
  unfold forward Solver.recorded
  dsimp only
  split
  · exact called
  · split
    · exact moves_throw _
    · exact called
  · split
    · exact moves_throw _
    · exact called
  · exact called
  · exact called
  · exact called
  · exact called
  · exact called
  · exact moves_throw _

/-! ## Handing over -/

/-- A session without a model, whose solver has received the contents of a model. -/
structure Mirrors (session : Recorded World Factory Instance) (model : Model Float) : Prop where
  direct : session.isCached = false
  attached : ∃ target, session.link.live = some target
  received : Received.takeAll {} session.entries = model.contents
  vars : model.vars.next = model.vars.entries.length
  constraints : model.constraints.next = model.constraints.entries.length

theorem edit_of_direct (direct : session.isCached = false) (edit : Model.Edit Float) :
    Session.edit solver.recorded edit session = forward solver.recorded edit session := by
  show (if session.isCached then editModel edit else forward solver.recorded edit) session = _
  rw [direct]
  rfl

section Mirrors

variable {model : Model Float} (mirrors : Mirrors session model)
include mirrors

/-- A call that is accepted hands over what the change does to the contents. -/
theorem Mirrors.hand {action : Instance → Reply World α} {call : Except SolverError α → Call}
    {answer : α → Option EntityRef} {made : Option EntityRef} {later : Model Float}
    (refuses : ∀ cause, model.contents.accepts (call (.error cause)) = false)
    (hands : ∀ value, model.contents.accepts (call (.ok value)) = true →
      answer value = made ∧ model.contents.take (call (.ok value)) = later.contents)
    (vars : later.vars.next = later.vars.entries.length)
    (constraints : later.constraints.next = later.constraints.entries.length) :
    Ends (do
        let value ← callLive fun target => Journal.recordOf target action call
        return answer value) session
      (fun created after => Received.acceptsAll {} after.entries = true →
        created = made ∧ Mirrors after later)
      fun _ after => ¬ Received.acceptsAll {} after.entries = true := by
  obtain ⟨target, live⟩ := mirrors.attached
  have received : Received.takeAll {} session.link.world.entries = model.contents :=
    mirrors.received
  apply ends_bind
  apply ends_callLive live
  · intro value world
    refine ends_pure fun accepted => ?_
    have accepts := Received.acceptsAll_concat accepted
    rw [received] at accepts
    obtain ⟨created, taken⟩ := hands value accepts
    refine ⟨created, mirrors.direct, ⟨target, live⟩, ?_, vars, constraints⟩
    refine (Received.takeAll_concat _ _ _).trans ?_
    rw [received]
    exact taken
  · intro cause world accepted
    have accepts := Received.acceptsAll_concat accepted
    rw [received, refuses] at accepts
    cases accepts

/-- Step lemma: a change of the model that only builds is handed over as it would be kept. -/
theorem Mirrors.forward {edit : Model.Edit Float} {outcome : Outcome Float}
    (building : edit.isBuilding = true) (change : Change model edit outcome) :
    Ends (forward solver.recorded edit) session
      (fun created after => Received.acceptsAll {} after.entries = true →
        created = outcome.created ∧ Mirrors after outcome.model)
      fun _ after => ¬ Received.acceptsAll {} after.entries = true := by
  unfold Session.forward Solver.recorded
  cases change with
  | addVariable bounds category sound =>
    dsimp only
    refine mirrors.hand ?_ ?_ ?_ ?_
    · exact fun _ => rfl
    · intro index accepted
      obtain ⟨next, listed⟩ :=
        Registry.listed_of_next mirrors.vars (beq_iff_eq.mp accepted) _
      exact ⟨congrArg (fun number => some (EntityRef.var ⟨number⟩)) next,
        congrArg (fun vars => { model.contents with vars }) listed⟩
    · exact Registry.next_add mirrors.vars _
    · exact mirrors.constraints
  | addConstraint constraint valid live =>
    dsimp only
    rw [valid]
    refine mirrors.hand ?_ ?_ ?_ ?_
    · exact fun _ => rfl
    · intro index accepted
      obtain ⟨next, listed⟩ :=
        Registry.listed_of_next mirrors.constraints (beq_iff_eq.mp accepted) _
      exact ⟨congrArg (fun number => some (EntityRef.con ⟨number⟩)) next,
        congrArg (fun constraints => { model.contents with constraints }) listed⟩
    · exact mirrors.vars
    · exact Registry.next_add mirrors.constraints _
  | setObjective sense expr finite live =>
    dsimp only
    rw [finite]
    refine mirrors.hand ?_ ?_ ?_ ?_
    · exact fun _ => rfl
    · exact fun _ _ => ⟨rfl, rfl⟩
    · exact mirrors.vars
    · exact mirrors.constraints
  | clearObjective objective present =>
    dsimp only
    refine mirrors.hand ?_ ?_ ?_ ?_
    · exact fun _ => rfl
    · exact fun _ _ => ⟨rfl, rfl⟩
    · exact mirrors.vars
    · exact mirrors.constraints
  | clearNoObjective absent =>
    dsimp only
    refine mirrors.hand ?_ ?_ ?_ ?_
    · exact fun _ => rfl
    · refine fun _ _ => ⟨rfl, ?_⟩
      unfold Model.contents Received.take
      dsimp only
      rw [absent]
    · exact mirrors.vars
    · exact mirrors.constraints
  | updateBounds _ id update asked => cases edit <;> first | cases asked; done | cases building
  | _ => cases building

theorem Mirrors.step {edit : Model.Edit Float} {outcome : Outcome Float}
    (building : edit.isBuilding = true) (change : Change model edit outcome)
    (accepted : Received.acceptsAll {}
      (step solver.recorded session (.edit edit)).after.entries = true) :
    (step solver.recorded session (.edit edit)).outcome = .ok (.ofCreated outcome.created) ∧
      Mirrors (step solver.recorded session (.edit edit)).after outcome.model := by
  revert accepted
  refine Step.of_ends (fun result after => Received.acceptsAll {} after.entries = true →
    result = .ok (.ofCreated outcome.created) ∧ Mirrors after outcome.model) ?_
  apply ends_bind
  unfold Ends
  rw [edit_of_direct mirrors.direct]
  refine (mirrors.forward building change).mono ?_ ?_
  · intro created after handed
    cases created <;>
      (intro accepted
       obtain ⟨same, further⟩ := handed accepted
       rw [← same]
       exact ⟨rfl, further⟩)
  · exact fun cause after refused accepted => absurd accepted refused

end Mirrors

/-! ## Runs that build -/

theorem grows_of_edited {before after : Recorded World Factory Instance}
    (edited : Edited before after) : Grows before after := by
  obtain ⟨events, same⟩ := edited.link
  refine ⟨[], ?_⟩
  unfold entries
  rw [same, List.append_nil]

theorem grows_edit (edit : Model.Edit Float) :
    Grows session (step solver.recorded session (.edit edit)).after := by
  have grows : Moves Grows (perform solver.recorded (.edit edit)) := by
    refine moves_bind (moves_bind moves_get fun now => ?_) fun created => ?_
    · split
      · exact (edited_editModel edit).mono fun _ _ edited => grows_of_edited edited
      · exact grows_forward edit
    · cases created <;> exact moves_pure _
  exact grows.stateAfter session

theorem grows_finish : ∀ (edits : List (Model.Edit Float))
    {session : Recorded World Factory Instance},
    Grows session (finish solver.recorded session (edits.map .edit))
  | [], session => refl_of Grows session
  | edit :: edits, _ => trans_of Grows (grows_edit edit) (grows_finish edits)

theorem acceptsAll_of_grows {before after : Recorded World Factory Instance}
    (grows : Grows before after) (accepted : Received.acceptsAll {} after.entries = true) :
    Received.acceptsAll {} before.entries = true := by
  obtain ⟨added, joined⟩ := grows
  rw [joined, Received.acceptsAll_append, Bool.and_eq_true] at accepted
  exact accepted.1

/-- Run lemma: a solver that accepts everything receives what the model would keep, and the
changes are answered as the model would answer them. -/
theorem Mirrors.run : ∀ {edits : List (Model.Edit Float)}
    {session : Recorded World Factory Instance} {model : Model Float}, Mirrors session model →
    (∀ edit ∈ edits, edit.isBuilding = true) →
    (∀ result ∈ model.trail edits, result.2.isOk = true) →
    Received.acceptsAll {} (finish solver.recorded session (edits.map .edit)).entries = true →
    changes (history solver.recorded session (edits.map .edit)) =
        (model.trail edits).map (fun result => (result.1, told result.2)) ∧
      Mirrors (finish solver.recorded session (edits.map .edit)) (edits.foldl Model.attempt model)
  | [], _, _, mirrors, _, _, _ => ⟨rfl, mirrors⟩
  | edit :: edits, session, model, mirrors, building, succeeded, accepted => by
    obtain ⟨builds, othersBuild⟩ := List.forall_mem_cons.mp building
    obtain ⟨succeeds, othersSucceed⟩ := List.forall_mem_cons.mp succeeded
    cases applied : model.apply edit with
    | error cause =>
      rw [applied] at succeeds
      cases succeeds
    | ok outcome =>
      have grows : Grows (Session.step solver.recorded session (.edit edit)).after
          (finish solver.recorded session ((edit :: edits).map .edit)) := grows_finish edits
      obtain ⟨answered, further⟩ := mirrors.step builds (Model.change_of_apply applied)
        (acceptsAll_of_grows grows accepted)
      rw [Model.attempt_of_ok applied] at othersSucceed
      obtain ⟨answers, final⟩ := further.run othersBuild othersSucceed accepted
      constructor
      · show (edit, (Session.step solver.recorded session (.edit edit)).outcome) ::
            changes (history ..) =
          (edit, told ((model.apply edit).map Outcome.created)) ::
            List.map _ (Model.trail (model.attempt edit) edits)
        rw [answered, answers, Model.attempt_of_ok applied, applied]
        rfl
      · rw [List.foldl_cons, Model.attempt_of_ok applied]
        exact final

/-! ## The two kinds of sessions -/

/-- A session without a model that has just started has handed nothing over. -/
theorem mirrors_start {configuration : Configuration Factory}
    (direct : configuration.mode = .direct) (world : World) :
    Ends (start solver.recorded) (unplayed configuration world)
      (fun _ after => Mirrors after .empty) fun _ _ => True := by
  have live : Ends (start solver.recorded) (unplayed configuration world)
      (fun _ after => after.isCached = false → ∃ target, after.link.live = some target)
      fun _ _ => True := live_of_start _
  have managed : Ends (start solver.recorded) (unplayed configuration world)
      (fun _ after => Manages solver.recorded (unplayed configuration world) after)
      fun _ after => Manages solver.recorded (unplayed configuration world) after :=
    manages_onLink (fun _ => Link.manages_start) _
  have quiet : Ends (start solver.recorded) (unplayed configuration world)
      (fun _ after => Quiet [] after.entries) fun _ after => Quiet [] after.entries :=
    quiet_opening .fresh configuration world
  refine ((live.and managed).and quiet).mono ?_ fun _ _ _ => trivial
  rintro _ after ⟨⟨live, managed⟩, quiet⟩
  have stillDirect : after.isCached = false :=
    managed.kept.isCached.trans (congrArg Mode.isCached direct)
  exact ⟨stillDirect, live stillDirect, Received.takeAll_of_quiet quiet {}, rfl, rfl⟩

/-- A session with a model that has just started has the empty one. -/
theorem empty_start {solver : Solver World Factory Instance} {configuration : Configuration Factory}
    (cached : configuration.mode ≠ .direct) (world : World) :
    Ends (start solver) (idle configuration world)
      (fun _ after => after.isCached = true ∧ after.model = .empty) fun _ _ => True := by
  have keepsModel : configuration.mode.isCached = true := by
    cases mode : configuration.mode <;> first | rfl | exact absurd mode cached
  refine (manages_onLink (fun _ => Link.manages_start) _).mono ?_ fun _ _ _ => trivial
  intro _ after managed
  exact ⟨managed.kept.isCached.trans keepsModel, managed.kept.model⟩

theorem changesOf_edits (edits : List (Model.Edit Float)) :
    changesOf (edits.map (Operation.edit : Model.Edit Float → Operation Factory)) = edits := by
  unfold changesOf
  rw [List.filterMap_map]
  exact List.filterMap_some

theorem isOk_of_told {result : Except (ModelError Float) (Option EntityRef)}
    (succeeded : (told result).isOk = true) : result.isOk = true := by
  cases result with
  | ok created => rfl
  | error cause => cases succeeded

/-- Take a run that only builds and of which every step succeeds, in a fresh session with a
model.  In a fresh session without one, whose solver accepts every call and numbers
entities in the order of the calls, the same run succeeds with the same answers, and the
solver receives what the other session keeps: the same variables and normalized
constraints in the same order, and the same objective. -/
theorem direct_matches_cached {World' Factory' Instance' : Type}
    {keeper : Solver World' Factory' Instance'} {keeping : Configuration Factory'} {world' : World'}
    {cached : Session World' Factory' Instance'} (keepsModel : keeping.mode ≠ .direct)
    (cachedOpened : Opening.fresh.action keeper (idle keeping world') = .ok () cached)
    {configuration : Configuration Factory} {world : World}
    {direct : Recorded World Factory Instance} (keepsNone : configuration.mode = .direct)
    (directOpened :
      Opening.fresh.action solver.recorded (unplayed configuration world) = .ok () direct)
    {edits : List (Model.Edit Float)} (building : ∀ edit ∈ edits, edit.isBuilding = true)
    (succeeded : ∀ result ∈ changes (history keeper cached (edits.map .edit)),
      result.2.isOk = true)
    (accepted : Received.acceptsAll {}
      (finish solver.recorded direct (edits.map .edit)).entries = true) :
    changes (history solver.recorded direct (edits.map .edit)) =
        changes (history keeper cached (edits.map .edit)) ∧
      Received.takeAll {} (finish solver.recorded direct (edits.map .edit)).entries =
        (finish keeper cached (edits.map .edit)).model.contents := by
  obtain ⟨isCached, empty⟩ := (empty_start keepsModel world').of_ok cachedOpened
  obtain ⟨kept, final⟩ := changes_history keeper isCached (edits.map .edit)
  rw [changesOf_edits, empty] at kept final
  have mirrors : Mirrors direct .empty := (mirrors_start keepsNone world).of_ok directOpened
  have modelSucceeds : ∀ result ∈ Model.trail .empty edits, result.2.isOk = true := by
    intro result member
    rw [kept, List.forall_mem_map] at succeeded
    exact isOk_of_told (succeeded result member)
  obtain ⟨handed, mirrorsFinal⟩ := mirrors.run building modelSucceeds accepted
  rw [handed, kept, final]
  exact ⟨rfl, mirrorsFinal.received⟩

/-! ## A run that builds -/

def keepingSession : Session Scripted.World String Scripted.Instance :=
  stateAfter (start Scripted.solver) (idle {} {})

def forwardingSession : Recorded Scripted.World String Scripted.Instance :=
  stateAfter (start Scripted.solver.recorded) (unplayed { mode := .direct, factory := some "demo" }
    { scripts := [("demo", { direct := true })] })

/-- Terms are repeated, in the wrong order and zero, and the objective is cleared once. -/
def buildingEdits : List (Model.Edit Float) :=
  [.addVariable .free .continuous,
    .addVariable ⟨some (-0), some 9, none⟩ .integer,
    .addConstraint ⟨.scalar ⟨-0, [(⟨1⟩, 2), (⟨0⟩, 0), (⟨1⟩, 3)], [((⟨1⟩, ⟨0⟩), 1)]⟩, .lessThan 4⟩,
    .setObjective .minimize ⟨0, [(⟨0⟩, 1)], []⟩,
    .clearObjective,
    .addConstraint ⟨.vector [.const 1, ⟨0, [(⟨1⟩, 1)], []⟩], .cone .secondOrder 2⟩,
    .addVariable (.fixedAt 2) .continuous,
    .setObjective .maximize ⟨1, [(⟨2⟩, 1), (⟨0⟩, -0)], []⟩]

theorem direct_matches_cached_buildingEdits :
    (({} : Configuration String).mode ≠ .direct ∧
        Opening.fresh.action Scripted.solver (idle {} {}) = .ok () keepingSession ∧
        Opening.fresh.action Scripted.solver.recorded
            (unplayed { mode := .direct, factory := some "demo" }
              { scripts := [("demo", { direct := true })] }) = .ok () forwardingSession ∧
        (∀ edit ∈ buildingEdits, edit.isBuilding = true) ∧
        (∀ result ∈ changes
            (history Scripted.solver keepingSession (buildingEdits.map .edit)),
          result.2.isOk = true) ∧
        Received.acceptsAll {}
          (finish Scripted.solver.recorded forwardingSession (buildingEdits.map .edit)).entries =
            true) ∧
      changes (history Scripted.solver.recorded forwardingSession (buildingEdits.map .edit)) =
          changes (history Scripted.solver keepingSession (buildingEdits.map .edit)) ∧
        Received.takeAll {}
            (finish Scripted.solver.recorded forwardingSession
              (buildingEdits.map .edit)).entries =
          (finish Scripted.solver keepingSession (buildingEdits.map .edit)).model.contents := by
  have keepsModel : ({} : Configuration String).mode ≠ .direct := by decide
  have cachedOpened : Opening.fresh.action Scripted.solver (idle {} {}) =
      .ok () keepingSession := rfl
  have directOpened : Opening.fresh.action Scripted.solver.recorded
      (unplayed { mode := .direct, factory := some "demo" }
        { scripts := [("demo", { direct := true })] }) = .ok () forwardingSession := rfl
  have building : ∀ edit ∈ buildingEdits, edit.isBuilding = true :=
    List.all_eq_true.mp rfl
  have all : ((changes (history Scripted.solver keepingSession (buildingEdits.map .edit))).all
      fun result => result.2.isOk) = true := by decide +kernel
  have succeeded := List.all_eq_true.mp all
  have accepted : Received.acceptsAll {}
      (finish Scripted.solver.recorded forwardingSession (buildingEdits.map .edit)).entries =
        true := by decide +kernel
  exact ⟨⟨keepsModel, cachedOpened, directOpened, building, succeeded, accepted⟩,
    direct_matches_cached keepsModel cachedOpened rfl directOpened building succeeded accepted⟩

end Session

end ConicModel
