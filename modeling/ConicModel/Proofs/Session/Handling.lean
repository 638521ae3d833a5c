import ConicModel.Proofs.Session.Custody

/-!
Contract: what an operation of a link leaves in it, and how many copies it costs.

Owns:
- `Transcript.Spends`, a bound on the copies among added calls;
- `Link.Handles`, where calls and reports are made and the link holds what it held;
- what every operation of a link leaves live, in which state, and for how many copies.

Does not own: which calls are made otherwise.

The state of a link is derived from its instance, its correspondence and two generations, so
these are what is followed through an operation, also where it is refused half way.
-/

namespace ConicModel

variable {World Factory Instance α : Type}

/-! ## Copies -/

namespace Transcript

def copies (entries : List (JournalEntry Factory)) : Nat :=
  entries.countP fun entry => entry.call.copied?.isSome

/-- Calls were added, of which at most `budget` copy a model. -/
def Spends (budget : Nat) (before after : List (JournalEntry Factory)) : Prop :=
  ∃ added, after = before ++ added ∧ copies added ≤ budget

variable {first second third : List (JournalEntry Factory)} {budget : Nat}

theorem Spends.refl (entries : List (JournalEntry Factory)) : Spends 0 entries entries :=
  ⟨[], (List.append_nil _).symm, Nat.le_refl 0⟩

theorem Spends.trans {more : Nat} (left : Spends budget first second)
    (right : Spends more second third) : Spends (budget + more) first third := by
  obtain ⟨added, rfl, few⟩ := left
  obtain ⟨others, rfl, fewOthers⟩ := right
  refine ⟨added ++ others, List.append_assoc _ _ _, ?_⟩
  unfold copies at *
  rw [List.countP_append]
  omega

theorem Spends.mono {more : Nat} (spends : Spends budget first second) (within : budget ≤ more) :
    Spends more first second := by
  obtain ⟨added, joined, few⟩ := spends
  exact ⟨added, joined, Nat.le_trans few within⟩

/-- A call that copies nothing is free, any other one is one copy. -/
theorem spends_concat (entries : List (JournalEntry Factory)) (entry : JournalEntry Factory) :
    Spends (if entry.call.copied?.isSome then 1 else 0) entries (entries ++ [entry]) := by
  refine ⟨[entry], rfl, ?_⟩
  unfold copies
  exact Nat.le_of_eq List.countP_singleton

theorem spends_recordOf {ε : Type} (target : Tracked Factory Instance)
    (action : Instance → EStateM ε World α) (call : Except ε α → Call)
    (journal : Journal World Factory) (copiesNothing : ∀ reply, (call reply).copied? = none) :
    Spends 0 journal.entries (stateAfter (Journal.recordOf target action call) journal).entries := by
  obtain ⟨world, reply, same⟩ := Journal.stateAfter_recordOf target action call journal
  rw [same]
  have spends := spends_concat journal.entries ⟨target.number, target.factory, call reply⟩
  rw [copiesNothing reply] at spends
  exact spends

theorem spends_recordCreation (factory : Factory) (action : Reply World Instance)
    (journal : Journal World Factory) :
    Spends 0 journal.entries
      (stateAfter (Journal.recordCreation factory action) journal).entries := by
  obtain ⟨world, reply, same⟩ := Journal.stateAfter_recordCreation factory action journal
  rw [same]
  exact spends_concat _ ⟨journal.creations, factory, .create reply⟩

end Transcript

namespace Link

open Transcript

/-! ## Handling -/

/-- Calls, of which at most `budget` copy a model, and reports; the link holds what it held. -/
structure Handles (budget : Nat) (before after : Recorded World Factory Instance) : Prop where
  live : after.live = before.live
  map : after.map = before.map
  mode : after.mode = before.mode
  spends : Spends budget before.world.entries after.world.entries

theorem Handles.trans {first second third : Recorded World Factory Instance} {budget more : Nat}
    (left : Handles budget first second) (right : Handles more second third) :
    Handles (budget + more) first third where
  live := right.live.trans left.live
  map := right.map.trans left.map
  mode := right.mode.trans left.mode
  spends := left.spends.trans right.spends

instance : IsPreorder (Recorded World Factory Instance) (Handles 0) where
  refl _ := ⟨rfl, rfl, rfl, .refl _⟩
  trans _ _ _ left right := left.trans right

section Handles

variable {solver : Solver World Factory Instance} {budget : Nat}
  {before after : Recorded World Factory Instance}

theorem Handles.state (handles : Handles budget before after) (model : Model Float) :
    after.state model = before.state model := by
  unfold Link.state
  rw [handles.live, handles.map, handles.mode]

theorem handles_call {reply : Reply (Journal World Factory) α}
    (adds : ∀ journal, Spends 0 journal.entries (stateAfter reply journal).entries) :
    Moves (Handles 0) (call reply :
      Action (Journal World Factory) Factory (Tracked Factory Instance) α) :=
  moves_call fun link => ⟨rfl, rfl, rfl, adds link.world⟩

theorem handles_report (event : Event) :
    Moves (Handles 0) (report event :
      Action (Journal World Factory) Factory (Tracked Factory Instance) Unit) :=
  moves_modify fun _ => ⟨rfl, rfl, rfl, .refl _⟩

theorem ends_close (target : Tracked Factory Instance) (link : Recorded World Factory Instance) :
    Ends (close solver.recorded target) link (fun _ after => Handles 0 link after)
      fun _ _ => False := by
  apply ends_bind
  apply ends_modify
  apply ends_modify
  exact ⟨rfl, rfl, rfl, spends_concat _ ⟨target.number, target.factory, .close⟩⟩

theorem handles_close (target : Tracked Factory Instance) :
    Moves (Handles 0) (close solver.recorded target) :=
  fun link => (ends_close target link).mono (fun _ _ handles => handles) fun _ _ impossible =>
    impossible.elim

theorem handles_writeSetting (target : Tracked Factory Instance)
    (setting : Attribute × AttributeValue) :
    Moves (Handles 0) (writeSetting solver.recorded target setting) := by
  intro link
  apply ends_writeSetting
  have written : Ends (solver.recorded.set target setting.1 setting.2) link.world
      (fun _ world => Handles 0 link { link with world := world })
      fun _ world => Handles 0 link { link with world := world } :=
    ends_stateAfter.mpr ⟨rfl, rfl, rfl, spends_recordOf target
      (fun inner => solver.set inner setting.1 setting.2) (.set setting.1 setting.2) link.world
      fun _ => rfl⟩
  refine written.mono (fun _ _ handles => handles) ?_
  intro cause world handles
  exact ⟨fun _ => ⟨handles.live, handles.map, handles.mode, handles.spends⟩, fun _ => handles⟩

theorem Consults.handles {target : Tracked Factory Instance}
    (consults : Consults solver.recorded target before after) : Handles 0 before after := by
  induction consults with
  | refl => exact refl_of (Handles 0) before
  | @tail middle _ _ glance inductionHypothesis =>
    refine trans_of (Handles 0) inductionHypothesis ?_
    cases glance with
    | get wanted =>
      exact ⟨rfl, rfl, rfl, spends_recordOf target (fun inner => solver.get inner wanted)
        (.get wanted) middle.world fun _ => rfl⟩
    | report event => exact ⟨rfl, rfl, rfl, .refl _⟩

end Handles

/-! ## Operations -/

/-- A new instance was put into the link, without a correspondence and for no copy. -/
structure Renewed (before after : Recorded World Factory Instance) : Prop where
  mode : after.mode = before.mode
  live : ∃ target, after.live = some target
  map : after.map = none
  spends : Spends 0 before.world.entries after.world.entries

section Operations

variable {solver : Solver World Factory Instance} {model : Model Float}
  {link : Recorded World Factory Instance}

/-- When no instance can be had, the link holds what it held. -/
theorem ends_instantiate :
    Ends (instantiate solver.recorded) link (fun _ after => Renewed link after)
      fun _ after => Handles 0 link after := by
  apply ends_bind
  apply ends_get
  split
  · exact ends_throw (refl_of (Handles 0) link)
  · rename_i factory _
    apply ends_bind
    have created : Moves (Handles 0) (call (solver.recorded.create factory) :
        Action (Journal World Factory) Factory (Tracked Factory Instance) _) :=
      handles_call fun journal => spends_recordCreation factory (solver.create factory) journal
    refine (created link).mono ?_ fun _ _ handles => handles
    intro target made handles
    apply ends_bind
    refine (handles_report _ made).mono ?_ fun _ _ impossible => trans_of _ handles impossible
    intro _ reported further
    have begun := trans_of (Handles 0) handles further
    apply ends_bind
    have configured : Moves (Handles 0) (tryCatch
        (link.settings.attributeValues.forM (writeSetting solver.recorded target)) fun cause => do
          close solver.recorded target
          throw cause) :=
      moves_tryCatch (moves_forM (handles_writeSetting target) _)
        fun _ => moves_bind (handles_close target) fun _ => moves_throw _
    refine (configured reported).mono ?_ fun _ _ further => trans_of _ begun further
    intro _ ready further
    have done := trans_of (Handles 0) begun further
    exact ends_modify ⟨done.mode, ⟨target, rfl⟩, rfl, done.spends⟩

theorem ends_release :
    Ends (release solver.recorded) link
      (fun _ after => Handles 0 { link with live := none, map := none } after)
      fun _ _ => False := by
  apply ends_bind
  apply ends_takeLive
  split
  · exact ends_pure (refl_of (Handles 0) _)
  · rename_i target _
    apply ends_bind
    apply ends_modify
    refine (ends_close target _).mono ?_ fun _ _ impossible => impossible
    exact fun _ _ handles => ⟨handles.live, handles.map, handles.mode, handles.spends⟩

/-- A copy costs one copy at most, and pairs the model in its generation. -/
theorem ends_copyInto (target : Tracked Factory Instance) :
    Ends (copyInto solver.recorded target model) link
      (fun map after => map.generation = model.generation ∧ Handles 1 link after)
      fun _ after => Handles 1 link after := by
  have emptied : Moves (Handles 0) (call (solver.recorded.empty target) :
      Action (Journal World Factory) Factory (Tracked Factory Instance) Unit) :=
    handles_call fun journal => spends_recordOf target solver.empty .empty journal fun _ => rfl
  apply ends_bind
  refine (emptied link).mono ?_ fun _ _ handles => ⟨handles.live, handles.map, handles.mode,
    handles.spends.mono (Nat.zero_le 1)⟩
  intro _ ready handles
  apply ends_bind
  apply ends_copyModel
  have copied : ∀ world reply,
      Handles 1 link (ready.noted world target (.copyModel model reply)) := fun world reply =>
    ⟨handles.live, handles.map, handles.mode, (Nat.zero_add 1) ▸ handles.spends.trans
      (spends_concat _ ⟨target.number, target.factory, .copyModel model reply⟩)⟩
  show Ends (Journal.recordOf target (fun inner => solver.copyModel inner model)
    (.copyModel model)) _ _ _
  apply Journal.ends_recordOf
  · intro receipt world
    split
    · rename_i map built
      exact ends_pure ⟨generation_of_build built, copied world _⟩
    · exact ends_throw (copied world _)
  · exact fun cause world => copied world _

theorem state_of_absent (absent : link.live = none) : link.state model = .empty := by
  unfold state
  rw [absent]

theorem Renewed.state {after : Recorded World Factory Instance} (renewed : Renewed link after)
    (cached : link.mode ≠ .direct) : after.state model = .outOfSync := by
  obtain ⟨target, live⟩ := renewed.live
  unfold Link.state
  rw [live, renewed.map, renewed.mode]
  exact if_neg cached

/-- Where there is a model, an operation that needs one goes on. -/
theorem ends_cached {link : Link World Factory Instance} (cached : link.mode ≠ .direct)
    {operation : String} {next : Action World Factory Instance α}
    {returned : α → Link World Factory Instance → Prop}
    {refused : Session.Error → Link World Factory Instance → Prop}
    (rest : Ends next link returned refused) :
    Ends (do requireCached operation; next) link returned refused := by
  apply ends_bind
  apply ends_bind
  apply ends_get
  rw [if_neg cached]
  exact ends_pure rest

/-- A copy leaves the link synced, or without an instance when it is refused. -/
theorem ends_sync (cached : link.mode ≠ .direct) :
    Ends (sync solver.recorded model) link
      (fun _ after => after.state model = .synced ∧
        Spends 1 link.world.entries after.world.entries)
      fun _ after => after.state model = .empty ∧
        Spends 1 link.world.entries after.world.entries := by
  apply ends_cached cached
  apply ends_bind
  apply ends_takeLive
  split
  · exact ends_throw ⟨rfl, (Spends.refl _).mono (Nat.zero_le 1)⟩
  · rename_i target _
    apply ends_bind
    apply ends_tryCatch
    refine (ends_copyInto target).mono ?_ ?_
    · rintro map copied ⟨generation, handles⟩
      apply ends_bind
      apply ends_modify
      apply ends_modify
      exact ⟨state_of_current rfl rfl (beq_iff_eq.mpr generation), handles.spends⟩
    · intro cause failed handles
      apply ends_bind
      apply ends_modify
      apply ends_bind
      refine (ends_close target _).mono ?_ fun _ _ impossible => impossible.elim
      intro _ closed further
      refine ends_throw ⟨state_of_absent (further.live.trans handles.live), ?_⟩
      exact handles.spends.trans further.spends

/-- An instance that takes the place of the released one is out of sync, and without one the
link is empty. -/
theorem ends_renew {released : Recorded World Factory Instance} (cached : link.mode ≠ .direct)
    (mode : released.mode = link.mode) (absent : released.live = none)
    (free : Spends 0 link.world.entries released.world.entries) :
    Ends (instantiate solver.recorded) released
      (fun _ after => after.state model = .outOfSync ∧
        Spends 0 link.world.entries after.world.entries)
      fun _ after => after.state model = .empty ∧
        Spends 0 link.world.entries after.world.entries := by
  have releasedCached : released.mode ≠ .direct := mode ▸ cached
  refine ends_instantiate.mono ?_ ?_
  · exact fun _ _ renewed => ⟨renewed.state releasedCached, free.trans renewed.spends⟩
  · exact fun _ _ handles =>
      ⟨state_of_absent (handles.live.trans absent), free.trans handles.spends⟩

theorem ends_attach (cached : link.mode ≠ .direct) (factory : Factory) :
    Ends (attach solver.recorded factory) link
      (fun _ after => after.state model = .outOfSync ∧
        Spends 0 link.world.entries after.world.entries)
      fun _ after => after.state model = .empty ∧
        Spends 0 link.world.entries after.world.entries := by
  apply ends_cached cached
  apply ends_bind
  refine ends_release.mono ?_ fun _ _ impossible => impossible.elim
  intro _ released handles
  apply ends_bind
  apply ends_modify
  exact ends_renew cached handles.mode handles.live handles.spends

theorem ends_reattach (cached : link.mode ≠ .direct) :
    Ends (reattach solver.recorded) link
      (fun _ after => after.state model = .outOfSync ∧
        Spends 0 link.world.entries after.world.entries)
      fun _ after => after.state model = .empty ∧
        Spends 0 link.world.entries after.world.entries := by
  apply ends_cached cached
  apply ends_bind
  refine ends_release.mono ?_ fun _ _ impossible => impossible.elim
  intro _ released handles
  exact ends_renew cached handles.mode handles.live handles.spends

theorem ends_detach (cached : link.mode ≠ .direct) :
    Ends (detach solver.recorded) link
      (fun _ after => after.state model = .empty ∧
        Spends 0 link.world.entries after.world.entries)
      fun _ _ => False := by
  apply ends_cached cached
  refine ends_release.mono ?_ fun _ _ impossible => impossible
  exact fun _ _ handles => ⟨state_of_absent handles.live, handles.spends⟩

theorem ends_setFactory (cached : link.mode ≠ .direct) (factory : Factory) :
    Ends (setFactory solver.recorded factory) link
      (fun _ after => after.state model = .empty ∧
        Spends 0 link.world.entries after.world.entries)
      fun _ _ => False := by
  apply ends_cached cached
  apply ends_bind
  refine ends_release.mono ?_ fun _ _ impossible => impossible
  intro _ released handles
  apply ends_modify
  exact ⟨state_of_absent handles.live, handles.spends⟩

/-- A later model leaves the state, unless it is of a later generation than the one that the
instance holds. -/
theorem Sound.state_of_evolves (sound : Sound model link) {later : Model Float}
    (evolves : Model.Evolves model later) (cached : link.mode ≠ .direct) :
    link.state later =
      if model.generation < later.generation ∧ link.state model = .synced then .outOfSync
      else link.state model := by
  cases held : link.live with
  | none => simp [state_of_absent held]
  | some target =>
    cases present : link.map with
    | none => simp [state, held, present, cached]
    | some map =>
      obtain ⟨_, copied, _, _, _, built, earlier⟩ := sound.copied map present
      have generation := generation_of_build built
      have grown := earlier.grows
      have growing := evolves.grows
      have stateOf : ∀ model : Model Float, link.state model =
          if map.generation = model.generation then .synced else .outOfSync := by
        intro model
        simp [state, held, present, cached, IndexMap.isCurrent]
      rw [stateOf, stateOf]
      by_cases current : map.generation = model.generation
      · by_cases still : model.generation = later.generation
        · simp [current, still]
        · have grows : model.generation < later.generation := by omega
          simp [current, still, grows]
      · have outdated : map.generation ≠ later.generation := by omega
        simp [current, outdated]

/-! ## Preparing -/

/-- Why a model cannot be had in an instance: none can be instantiated where there is none, or
it cannot be copied into the one there is. -/
inductive Unprepared (solver : Solver World Factory Instance) (model : Model Float)
    (link : Recorded World Factory Instance) (cause : Session.Error) : Prop where
  | instantiation (absent : link.live = none) {after : Recorded World Factory Instance}
      (failed : instantiate solver.recorded link = .error cause after)
  | firstCopy (absent : link.live = none) {ready after : Recorded World Factory Instance}
      (instantiated : instantiate solver.recorded link = .ok () ready)
      (failed : sync solver.recorded model ready = .error cause after)
  | copy {target : Tracked Factory Instance} (live : link.live = some target)
      (stale : link.state model ≠ .synced) {after : Recorded World Factory Instance}
      (failed : sync solver.recorded model link = .error cause after)

def copyNeed (link : Recorded World Factory Instance) (model : Model Float) : Nat :=
  if link.state model = .synced then 0 else 1

/-- In automatic mode, preparing leaves the link synced, or without an instance for the very
reason that the model cannot be had in one. -/
theorem ends_prepare (automatic : link.mode = .automatic) :
    Ends (prepare solver.recorded model) link
      (fun _ after => (after.state model = .synced ∧
          ∀ cause, ¬ Unprepared solver model link cause) ∧
        Spends (copyNeed link model) link.world.entries after.world.entries)
      fun cause after => (after.state model = .empty ∧ Unprepared solver model link cause) ∧
        Spends (copyNeed link model) link.world.entries after.world.entries := by
  have cached : link.mode ≠ .direct := by
    rw [automatic]
    decide
  apply ends_bind
  apply ends_get
  rw [automatic]
  dsimp only
  unfold copyNeed
  cases held : link.live with
  | some target =>
    rw [if_neg (show ¬ (some target).isNone = true from nofun)]
    apply ends_bind
    apply ends_get
    by_cases synced : link.state model = .synced
    · rw [if_neg (not_not.mpr synced), if_pos synced]
      refine ends_pure ⟨⟨synced, ?_⟩, .refl _⟩
      rintro cause (⟨absent, _⟩ | ⟨absent, _, _⟩ | ⟨_, stale, _⟩)
      · cases held.symm.trans absent
      · cases held.symm.trans absent
      · exact stale synced
    · rw [if_pos synced, if_neg synced]
      refine ((ends_sync cached).and ends_eq).mono ?_ ?_
      · rintro _ after ⟨⟨now, spends⟩, copied⟩
        refine ⟨⟨now, ?_⟩, spends⟩
        rintro cause (⟨absent, _⟩ | ⟨absent, _, _⟩ | ⟨_, _, failed⟩)
        · cases held.symm.trans absent
        · cases held.symm.trans absent
        · cases copied.symm.trans failed
      · rintro cause after ⟨⟨now, spends⟩, failed⟩
        exact ⟨⟨now, .copy held synced failed⟩, spends⟩
  | none =>
    have unsynced : link.state model ≠ .synced := by
      rw [state_of_absent held]
      decide
    rw [if_pos (by rfl), if_neg unsynced]
    apply ends_bind
    refine (ends_instantiate.and ends_eq).mono ?_ ?_
    · rintro _ ready ⟨renewed, instantiated⟩
      have readyCached : ready.mode ≠ .direct := renewed.mode ▸ cached
      have uncopied : ready.state model ≠ .synced := by
        rw [renewed.state cached]
        decide
      have free := renewed.spends
      apply ends_bind
      apply ends_get
      rw [if_pos uncopied]
      refine ((ends_sync readyCached).and ends_eq).mono ?_ ?_
      · rintro _ after ⟨⟨now, spends⟩, copied⟩
        refine ⟨⟨now, ?_⟩, free.trans spends⟩
        rintro cause (⟨_, failed⟩ | ⟨_, again, failed⟩ | ⟨live, _, _⟩)
        · cases instantiated.symm.trans failed
        · cases instantiated.symm.trans again
          cases copied.symm.trans failed
        · cases held.symm.trans live
      · rintro cause after ⟨⟨now, spends⟩, failed⟩
        exact ⟨⟨now, .firstCopy held instantiated failed⟩, free.trans spends⟩
    · rintro cause after ⟨handles, failed⟩
      exact ⟨⟨state_of_absent (handles.live.trans held), .instantiation held failed⟩,
        handles.spends.mono (Nat.zero_le 1)⟩

end Operations

end Link

end ConicModel
