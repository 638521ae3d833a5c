import ConicModel.Proofs.Model.Evolution
import ConicModel.Proofs.Session.Management
import ConicModel.Proofs.Solver.Transcript
import Mathlib.Data.List.Forall2

/-!
Contract: a link closes every instance that it creates, and knows what the live one holds.

Owns:
- `Link.Sound`, the invariant that ties a link to the transcript of its calls;
- what every operation of a link does to it, whichever way it ends.

Does not own: sessions.

Between two steps of an operation the instance may be out of the link.  The states in
between are `Vacant`, where no instance is open, and `InHand`, where one is.
-/

namespace ConicModel

variable {World Factory Instance α : Type}

/-! ## Calls that are written down -/

namespace Journal

def noted (journal : Journal World Factory) (world : World) (target : Tracked Factory Instance)
    (call : Call) : Journal World Factory :=
  { journal with
    world := world
    entries := journal.entries ++ [⟨target.number, target.factory, call⟩] }

theorem ends_recordOf {ε : Type} {target : Tracked Factory Instance}
    {action : Instance → EStateM ε World α} {call : Except ε α → Call}
    {journal : Journal World Factory} {returned : α → Journal World Factory → Prop}
    {refused : ε → Journal World Factory → Prop}
    (ok : ∀ value world, returned value (journal.noted world target (call (.ok value))))
    (error : ∀ cause world, refused cause (journal.noted world target (call (.error cause)))) :
    Ends (recordOf target action call) journal returned refused := by
  unfold Ends recordOf record
  cases action target.inner journal.world with
  | ok value world => exact ok value world
  | error cause world => exact error cause world

theorem stateAfter_recordOf {ε : Type} (target : Tracked Factory Instance)
    (action : Instance → EStateM ε World α) (call : Except ε α → Call)
    (journal : Journal World Factory) :
    ∃ world reply, stateAfter (recordOf target action call) journal =
      journal.noted world target (call reply) := by
  unfold stateAfter recordOf record
  cases action target.inner journal.world with
  | ok value world => exact ⟨world, .ok value, rfl⟩
  | error cause world => exact ⟨world, .error cause, rfl⟩

def started (journal : Journal World Factory) (world : World) (factory : Factory)
    (reply : Except SolverError Unit) : Journal World Factory where
  world := world
  creations := journal.creations + 1
  entries := journal.entries ++ [⟨journal.creations, factory, .create reply⟩]

theorem ends_recordCreation {factory : Factory} {action : Reply World Instance}
    {journal : Journal World Factory}
    {returned : Tracked Factory Instance → Journal World Factory → Prop}
    {refused : SolverError → Journal World Factory → Prop}
    (ok : ∀ inner world,
      returned ⟨journal.creations, factory, inner⟩ (journal.started world factory (.ok ())))
    (error : ∀ cause world, refused cause (journal.started world factory (.error cause))) :
    Ends (recordCreation factory action) journal returned refused := by
  unfold recordCreation
  apply ends_bind
  unfold Ends record
  cases action journal.world with
  | ok inner world => exact ok inner world
  | error cause world => exact error cause world

theorem stateAfter_recordCreation (factory : Factory) (action : Reply World Instance)
    (journal : Journal World Factory) :
    ∃ world reply, stateAfter (recordCreation factory action) journal =
      journal.started world factory reply := by
  have creates : Ends (recordCreation factory action) journal
      (fun _ after => ∃ world reply, after = journal.started world factory reply)
      fun _ after => ∃ world reply, after = journal.started world factory reply :=
    ends_recordCreation (fun _ world => ⟨world, .ok (), rfl⟩)
      fun cause world => ⟨world, .error cause, rfl⟩
  exact ends_stateAfter.mp creates

end Journal

/-! ## Configured instances -/

/-- Whether a call writes a setting and is answered, or is told that there is none such. -/
def WritesSetting (setting : Attribute × AttributeValue) (call : Call) : Prop :=
  ∃ reply, call = .set setting.1 setting.2 reply ∧
    (reply = .ok () ∨ ∃ cause : SolverError, reply = .error cause ∧ cause.isUnsupported = true)

/-- Whether the calls of an instance begin with its creation and with the writes of all
settings, in their order. -/
def Configured (settings : Settings) (calls : List Call) : Prop :=
  ∃ writes uses : List Call, calls = .create (.ok ()) :: writes ++ uses ∧
    List.Forall₂ WritesSetting settings.attributeValues writes

theorem Configured.append {settings : Settings} {calls : List Call}
    (configured : Configured settings calls) (others : List Call) :
    Configured settings (calls ++ others) := by
  obtain ⟨writes, uses, rfl, written⟩ := configured
  exact ⟨writes, uses ++ others, by simp, written⟩

namespace Link

open Transcript

/-! ## The invariant -/

abbrev Recorded (World Factory Instance : Type) :=
  Link (Journal World Factory) Factory (Tracked Factory Instance)

/-- Whether the transcript of a link is that of instances that live one after another, with
`active` as the open one. -/
def Tells (link : Recorded World Factory Instance)
    (active : Option (Tracked Factory Instance)) : Prop :=
  Told link.mode link.world.entries link.world.creations
    (active.map fun target => (target.number, target.factory))

structure Vacant (link : Recorded World Factory Instance) :
    Prop where
  live : link.live = none
  map : link.map = none
  tells : Tells link none

/-- An instance is open that was taken out of the link. -/
structure Apart (target : Tracked Factory Instance)
    (link : Recorded World Factory Instance) : Prop where
  live : link.live = none
  map : link.map = none
  tells : Tells link (some target)

/-- A configured instance is open that was taken out of the link. -/
structure InHand (target : Tracked Factory Instance)
    (link : Recorded World Factory Instance) : Prop
    extends Apart target link where
  configured : Configured link.settings (callsOf link.world.entries target.number)

/-- The open instance is the live one, it was configured, and the correspondence is that of
the model it was last asked to copy, which is an earlier state of the model. -/
structure Sound (model : Model Float)
    (link : Recorded World Factory Instance) : Prop where
  tells : Tells link link.live
  configured : ∀ target, link.live = some target →
    Configured link.settings (callsOf link.world.entries target.number)
  copied : ∀ map, link.map = some map → ∃ target copied receipt, link.live = some target ∧
    lastCopy? link.world.entries target.number = some (copied, .ok receipt) ∧
    IndexMap.build copied receipt = .ok map ∧ Model.Evolves copied model

section Invariant

variable {link : Recorded World Factory Instance}
  {target : Tracked Factory Instance} {model : Model Float}

theorem Vacant.sound (vacant : Vacant link) : Sound model link where
  tells := by
    rw [vacant.live]
    exact vacant.tells
  configured := by simp [vacant.live]
  copied := by simp [vacant.map]

theorem Sound.evolve (sound : Sound model link) {later : Model Float}
    (evolves : Model.Evolves model later) : Sound later link where
  tells := sound.tells
  configured := sound.configured
  copied := by
    intro map present
    obtain ⟨target, copied, receipt, live, last, built, earlier⟩ := sound.copied map present
    exact ⟨target, copied, receipt, live, last, built, earlier.trans evolves⟩

theorem Sound.vacant (sound : Sound model link) (absent : link.live = none) : Vacant link where
  live := absent
  map := by
    cases present : link.map with
    | none => rfl
    | some map =>
      obtain ⟨target, copied, receipt, live, _⟩ := sound.copied map present
      rw [absent] at live
      cases live
  tells := by
    have tells := sound.tells
    rw [absent] at tells
    exact tells

def noted (link : Recorded World Factory Instance) (world : World)
    (target : Tracked Factory Instance) (call : Call) :
    Recorded World Factory Instance :=
  { link with world := link.world.noted world target call }

theorem Tells.noted (tells : Tells link (some target)) {call : Call}
    (permits : Permits link.mode link.world.entries target.number target.factory call)
    (world : World) : Tells (link.noted world target call) (some target) :=
  Told.used tells call permits

theorem Apart.noted (apart : Apart target link) {call : Call}
    (permits : Permits link.mode link.world.entries target.number target.factory call)
    (world : World) : Apart target (link.noted world target call) :=
  ⟨apart.live, apart.map, apart.tells.noted permits world⟩

theorem InHand.noted (inHand : InHand target link) {call : Call}
    (permits : Permits link.mode link.world.entries target.number target.factory call)
    (world : World) : InHand target (link.noted world target call) where
  toApart := inHand.toApart.noted permits world
  configured := by
    show Configured link.settings (callsOf (_ ++ [_]) _)
    rw [callsOf_same]
    exact inHand.configured.append [call]

/-- A call of the live instance that copies nothing keeps the invariant. -/
theorem Sound.noted (sound : Sound model link) (live : link.live = some target) {call : Call}
    (permits : Permits link.mode link.world.entries target.number target.factory call)
    (copiesNothing : call.copied? = none) (world : World) :
    Sound model (link.noted world target call) where
  tells := by
    have tells := sound.tells
    rw [live] at tells
    show Tells (link.noted world target call) link.live
    rw [live]
    exact tells.noted permits world
  configured := by
    intro other otherLive
    cases live.symm.trans otherLive
    show Configured link.settings (callsOf (_ ++ [_]) _)
    rw [callsOf_same]
    exact (sound.configured target live).append [call]
  copied := by
    intro map present
    obtain ⟨other, copied, receipt, otherLive, last, built, evolves⟩ := sound.copied map present
    refine ⟨other, copied, receipt, otherLive, ?_, built, evolves⟩
    show lastCopy? (_ ++ [_]) _ = _
    rw [lastCopy?_append (by simpa using copiesNothing)]
    exact last

theorem Sound.taken (sound : Sound model link) (live : link.live = some target) :
    InHand target { link with live := none, map := none } where
  live := rfl
  map := rfl
  tells := by
    have tells := sound.tells
    rw [live] at tells
    exact tells
  configured := sound.configured target live

theorem InHand.put (inHand : InHand target link) :
    Sound model { link with live := some target, map := none } where
  tells := inHand.tells
  configured := by
    intro other same
    cases same
    exact inHand.configured
  copied := nofun

end Invariant

/-! ## Single steps -/

section Steps

variable {solver : Solver World Factory Instance}
  {link : Recorded World Factory Instance}
  {target : Tracked Factory Instance}

theorem ends_callOf {action : Instance → Reply World α} {call : Except SolverError α → Call}
    {returned : α → Recorded World Factory Instance → Prop}
    {refused : Session.Error → Recorded World Factory Instance → Prop}
    (ok : ∀ value world, returned value (link.noted world target (call (.ok value))))
    (error : ∀ cause world,
      refused (.solver cause) (link.noted world target (call (.error cause)))) :
    Ends (Link.call (Journal.recordOf target action call)) link returned refused :=
  ends_call (Journal.ends_recordOf ok error)

theorem ends_takeLive
    {returned : Option (Tracked Factory Instance) →
      Recorded World Factory Instance → Prop}
    {refused : Session.Error → Recorded World Factory Instance → Prop}
    (holds : returned link.live { link with live := none, map := none }) :
    Ends takeLive link returned refused :=
  holds

theorem vacant_close (apart : Apart target link) :
    Ends (close solver.recorded target) link (fun _ after => Vacant after) fun _ _ => False := by
  apply ends_bind
  apply ends_modify
  apply ends_modify
  exact ⟨apart.live, apart.map, .closed apart.tells⟩

/-- An instance that is being configured: the settings that were written so far. -/
structure Writing (target : Tracked Factory Instance) (settings : Settings)
    (written : List (Attribute × AttributeValue))
    (link : Recorded World Factory Instance) : Prop
    extends Apart target link where
  settings : link.settings = settings
  calls : ∃ writes : List Call,
    callsOf link.world.entries target.number = .create (.ok ()) :: writes ∧
    List.Forall₂ WritesSetting written writes

theorem Writing.noted {settings : Settings} {written : List (Attribute × AttributeValue)}
    (writing : Writing target settings written link) {setting : Attribute × AttributeValue}
    {reply : Except SolverError Unit}
    (accepted : reply = .ok () ∨ ∃ cause, reply = .error cause ∧ cause.isUnsupported = true)
    (world : World) :
    Writing target settings (written ++ [setting])
      (link.noted world target (.set setting.1 setting.2 reply)) where
  toApart := writing.toApart.noted (permits_plain _ rfl rfl rfl) world
  settings := writing.settings
  calls := by
    obtain ⟨writes, calls, matched⟩ := writing.calls
    refine ⟨writes ++ [.set setting.1 setting.2 reply], ?_, ?_⟩
    · show callsOf (_ ++ [_]) _ = _
      rw [callsOf_same, calls]
      rfl
    · exact List.rel_append matched (.cons ⟨reply, rfl, accepted⟩ .nil)

theorem writing_writeSetting {settings : Settings} {written : List (Attribute × AttributeValue)}
    (writing : Writing target settings written link) (setting : Attribute × AttributeValue) :
    Ends (writeSetting solver.recorded target setting) link
      (fun _ after => Writing target settings (written ++ [setting]) after)
      fun _ after => Apart target after := by
  apply ends_writeSetting
  show Ends (Journal.recordOf target (fun inner => solver.set inner setting.1 setting.2)
    (.set setting.1 setting.2)) _ _ _
  apply Journal.ends_recordOf
  · exact fun _ world => writing.noted (.inl rfl) world
  · intro cause world
    constructor
    · intro unsupported
      have noted : Writing target settings (written ++ [setting])
          (link.noted world target (.set setting.1 setting.2 (.error cause))) :=
        writing.noted (.inr ⟨cause, rfl, unsupported⟩) world
      exact ⟨⟨noted.live, noted.map, noted.tells⟩, noted.settings, noted.calls⟩
    · exact fun _ => writing.toApart.noted (permits_plain _ rfl rfl rfl) world

/-- All settings are written, or the first write that fails ends it. -/
theorem writing_forM {settings : Settings} (todo : List (Attribute × AttributeValue)) :
    ∀ {written : List (Attribute × AttributeValue)}
      {link : Recorded World Factory Instance},
      Writing target settings written link →
      Ends (todo.forM (writeSetting solver.recorded target)) link
        (fun _ after => Writing target settings (written ++ todo) after)
        fun _ after => Apart target after := by
  induction todo with
  | nil =>
    intro written link writing
    rw [List.append_nil]
    exact ends_pure writing
  | cons setting others ih =>
    intro written link writing
    apply ends_bind
    refine (writing_writeSetting writing setting).mono ?_ fun _ _ apart => apart
    intro _ after further
    have rest := ih further
    rw [List.append_assoc] at rest
    exact rest

theorem sound_instantiate {model : Model Float} (vacant : Vacant link) :
    Ends (instantiate solver.recorded) link
      (fun _ after => Sound model after ∧ after.live.isSome = true)
      fun _ after => Vacant after := by
  apply ends_bind
  apply ends_get
  split
  · exact ends_throw vacant
  · rename_i factory _
    apply ends_bind
    refine ends_call (Journal.ends_recordCreation ?_ ?_)
    · intro inner world
      apply ends_bind
      apply ends_modify
      apply ends_bind
      apply ends_tryCatch
      have begun : Writing ⟨link.world.creations, factory, inner⟩ link.settings []
          { link with
            world := link.world.started world factory (.ok ())
            events := link.events ++ [.backendInstantiated (solver.name inner)] } :=
        { live := vacant.live
          map := vacant.map
          tells := .created vacant.tells factory
          settings := rfl
          calls := by
            refine ⟨[], ?_, .nil⟩
            show callsOf (_ ++ [_]) _ = _
            rw [callsOf_same, Told.callsOf_count vacant.tells]
            rfl }
      refine (writing_forM link.settings.attributeValues begun).mono ?_ ?_
      · intro _ after writing
        apply ends_modify
        obtain ⟨writes, calls, matched⟩ := writing.calls
        have configured : Configured after.settings
            (callsOf after.world.entries link.world.creations) := by
          refine ⟨writes, [], ?_, ?_⟩
          · rw [calls, List.append_nil]
          · rw [writing.settings]
            exact matched
        exact ⟨InHand.put ⟨writing.toApart, configured⟩, rfl⟩
      · intro cause after apart
        apply ends_bind
        exact (vacant_close apart).mono (fun _ _ vacant => ends_throw vacant)
          fun _ _ impossible => impossible.elim
    · intro cause world
      exact ⟨vacant.live, vacant.map, .refused vacant.tells factory cause⟩

theorem vacant_release {model : Model Float} (sound : Sound model link) :
    Ends (release solver.recorded) link (fun _ after => Vacant after) fun _ _ => False := by
  apply ends_bind
  apply ends_takeLive
  split
  · rename_i absent
    exact ends_pure ⟨rfl, rfl, (sound.vacant absent).tells⟩
  · rename_i target live
    apply ends_bind
    apply ends_modify
    have apart := (sound.taken live).toApart
    exact vacant_close ⟨apart.live, apart.map, apart.tells⟩

/-- What a copy into an instance has achieved: the model was the last one copied, and the
receipt was paired with it. -/
def Copied (target : Tracked Factory Instance) (model : Model Float) (map : IndexMap)
    (link : Recorded World Factory Instance) : Prop :=
  ∃ receipt, lastCopy? link.world.entries target.number = some (model, .ok receipt) ∧
    IndexMap.build model receipt = .ok map

theorem inHand_copyInto (inHand : InHand target link) (model : Model Float) :
    Ends (copyInto solver.recorded target model) link
      (fun map after => InHand target after ∧ Copied target model map after)
      fun _ after => InHand target after := by
  apply ends_bind
  show Ends (call (Journal.recordOf target solver.empty .empty)) _ _ _
  apply ends_callOf
  · intro _ emptied
    have ready := inHand.noted (permits_plain (.empty (.ok ())) rfl rfl rfl) emptied
    apply ends_bind
    apply ends_copyModel
    show Ends (Journal.recordOf target (fun inner => solver.copyModel inner model)
      (.copyModel model)) _ _ _
    have permits : ∀ reply, Permits link.mode
        (link.noted emptied target (.empty (.ok ()))).world.entries target.number target.factory
        (.copyModel model reply) :=
      fun reply => ⟨rfl, fun impossible => (nomatch impossible), fun _ => ⟨_, rfl⟩⟩
    apply Journal.ends_recordOf
    · intro receipt world
      have inHand := ready.noted (permits (.ok receipt)) world
      split
      · rename_i map built
        refine ends_pure ⟨inHand, receipt, ?_, built⟩
        exact lastCopy?_copyModel _ _ _ _
      · exact ends_throw inHand
    · exact fun cause world => ready.noted (permits (.error cause)) world
  · exact fun cause world => inHand.noted (permits_plain _ rfl rfl rfl) world

theorem generation_of_build {model : Model Float} {receipt : CopyReceipt} {map : IndexMap}
    (built : IndexMap.build model receipt = .ok map) : map.generation = model.generation := by
  unfold IndexMap.build at built
  obtain ⟨vars, _, built⟩ := Model.bind_eq_ok.mp built
  obtain ⟨constraints, _, built⟩ := Model.bind_eq_ok.mp built
  cases built
  rfl

end Steps

/-! ## Links whose copy is current -/

section Copied

variable {link : Link World Factory Instance} {model : Model Float}

theorem state_of_current {target : Instance} {map : IndexMap}
    (live : link.live = some target) (present : link.map = some map)
    (current : map.isCurrent model = true) : link.state model = .synced := by
  unfold state
  rw [live, present]
  by_cases direct : link.mode = .direct
  · exact if_pos direct
  · dsimp only
    rw [if_neg direct]
    exact if_pos current

/-- What a link with a model holds while it is synced. -/
theorem current_of_synced (cached : link.mode ≠ .direct) (synced : link.state model = .synced) :
    ∃ map, link.map = some map ∧ map.generation = model.generation := by
  unfold state at synced
  split at synced
  · cases synced
  · rename_i found _
    rw [if_neg cached] at synced
    split at synced
    · rename_i current
      obtain ⟨map, present, same⟩ := (Option.any_eq_true _ _).mp current
      exact ⟨map, present, beq_iff_eq.mp same⟩
    · cases synced

end Copied

/-! ## Operations -/

section Operations

variable {solver : Solver World Factory Instance} {model : Model Float}
  {link : Recorded World Factory Instance}

theorem ends_requireCached {operation : String}
    {next : Action (Journal World Factory) Factory (Tracked Factory Instance) α}
    {returned : α → Recorded World Factory Instance → Prop}
    {refused : Session.Error → Recorded World Factory Instance → Prop}
    (direct : ∀ fault, refused (.configuration fault) link)
    (rest : Ends next link returned refused) :
    Ends (do requireCached operation; next) link returned refused := by
  apply ends_bind
  apply ends_bind
  apply ends_get
  split
  · exact ends_throw (direct _)
  · exact ends_pure rest

theorem sound_start (vacant : Vacant link) :
    Ends (start solver.recorded) link (fun _ after => Sound model after)
      fun _ after => Vacant after := by
  apply ends_bind
  apply ends_get
  split
  · exact ends_throw vacant
  · split
    · exact (sound_instantiate vacant).mono (fun _ _ ended => ended.1) fun _ _ vacant => vacant
    · exact ends_pure vacant.sound

theorem sound_attach (sound : Sound model link) (factory : Factory) :
    Ends (attach solver.recorded factory) link (fun _ after => Sound model after)
      fun _ after => Sound model after := by
  apply ends_requireCached fun _ => sound
  apply ends_bind
  refine (vacant_release sound).mono ?_ fun _ _ impossible => impossible.elim
  intro _ released vacant
  apply ends_bind
  apply ends_modify
  have equipped : Vacant { released with factory := some factory } :=
    ⟨vacant.live, vacant.map, vacant.tells⟩
  exact (sound_instantiate equipped).mono (fun _ _ ended => ended.1) fun _ _ vacant => vacant.sound

theorem sound_reattach (sound : Sound model link) :
    Ends (reattach solver.recorded) link (fun _ after => Sound model after)
      fun _ after => Sound model after := by
  apply ends_requireCached fun _ => sound
  apply ends_bind
  refine (vacant_release sound).mono ?_ fun _ _ impossible => impossible.elim
  intro _ released vacant
  exact (sound_instantiate vacant).mono (fun _ _ ended => ended.1) fun _ _ vacant => vacant.sound

theorem sound_detach (sound : Sound model link) :
    Ends (detach solver.recorded) link (fun _ after => Sound model after)
      fun _ after => Sound model after := by
  apply ends_requireCached fun _ => sound
  exact (vacant_release sound).mono (fun _ _ vacant => vacant.sound) fun _ _ impossible =>
    impossible.elim

theorem sound_setFactory (sound : Sound model link) (factory : Factory) :
    Ends (setFactory solver.recorded factory) link (fun _ after => Sound model after)
      fun _ after => Sound model after := by
  apply ends_requireCached fun _ => sound
  apply ends_bind
  refine (vacant_release sound).mono ?_ fun _ _ impossible => impossible.elim
  intro _ released vacant
  apply ends_modify
  exact Vacant.sound ⟨vacant.live, vacant.map, vacant.tells⟩

theorem synced_sync (sound : Sound model link) :
    Ends (sync solver.recorded model) link
      (fun _ after => Sound model after ∧ after.state model = .synced)
      fun _ after => Sound model after := by
  apply ends_requireCached fun _ => sound
  apply ends_bind
  apply ends_takeLive
  split
  · rename_i absent
    have vacant := sound.vacant absent
    exact ends_throw (Vacant.sound ⟨rfl, rfl, vacant.tells⟩)
  · rename_i target live
    apply ends_bind
    apply ends_tryCatch
    refine (inHand_copyInto (sound.taken live) model).mono ?_ ?_
    · rintro map copied ⟨inHand, receipt, last, built⟩
      apply ends_bind
      apply ends_modify
      apply ends_modify
      refine ⟨⟨inHand.tells, ?_, ?_⟩, ?_⟩
      · intro other same
        cases same
        exact inHand.configured
      · intro other same
        cases same
        exact ⟨target, model, receipt, rfl, last, built, .refl model⟩
      · exact state_of_current rfl rfl (beq_iff_eq.mpr (generation_of_build built))
    · intro cause refused inHand
      apply ends_bind
      apply ends_modify
      apply ends_bind
      have apart : Apart target { refused with
          events := refused.events ++ [.copyFailed (solver.recorded.name target) cause.code] } :=
        ⟨inHand.live, inHand.map, inHand.tells⟩
      refine (vacant_close apart).mono ?_ fun _ _ impossible => impossible.elim
      exact fun _ _ vacant => ends_throw vacant.sound

theorem synced_prepare (sound : Sound model link) (cached : link.mode ≠ .direct) :
    Ends (prepare solver.recorded model) link
      (fun _ after => Sound model after ∧ after.state model = .synced)
      fun _ after => Sound model after := by
  have copied : ∀ link : Recorded World Factory Instance,
      Sound model link → Ends (do
        if (← get).state model ≠ .synced then sync solver.recorded model :
          Action (Journal World Factory) Factory (Tracked Factory Instance) Unit) link
        (fun _ after => Sound model after ∧ after.state model = .synced)
        fun _ after => Sound model after := by
    intro link sound
    apply ends_bind
    apply ends_get
    split
    · exact synced_sync sound
    · rename_i synced
      exact ends_pure ⟨sound, not_not.mp synced⟩
  apply ends_bind
  apply ends_get
  split
  · contradiction
  · dsimp only
    split
    · rename_i absent
      apply ends_bind
      have vacant := sound.vacant (Option.isNone_iff_eq_none.mp absent)
      have instantiated : Ends (instantiate solver.recorded) link
          (fun _ after => Sound model after ∧ after.live.isSome = true)
          fun _ after => Vacant after := sound_instantiate vacant
      exact instantiated.mono (fun _ after ended => copied after ended.1)
        fun _ _ vacant => vacant.sound
    · exact copied link sound
  · split
    · exact ends_throw sound
    · exact ends_throw sound
    · rename_i synced
      exact ends_pure ⟨sound, synced⟩

theorem vacant_dispose (sound : Sound model link) :
    Ends (dispose solver.recorded) link (fun _ after => Vacant after) fun _ _ => False := by
  apply ends_bind
  apply ends_takeLive
  split
  · rename_i absent
    exact ends_pure ⟨rfl, rfl, (sound.vacant absent).tells⟩
  · rename_i target live
    exact vacant_close (sound.taken live).toApart

end Operations

end Link

end ConicModel
