import ConicModel.Proofs.Session.Consultation

/-!
Contract: what managing the solver leaves alone.

Owns:
- `Link.Touch`, the single step of managing, and `Link.Manages`, any number of them;
- the same for sessions, where the model and the record stay;
- the fact that every operation manages, other than a change of the model and a solve.

Does not own: in which order the steps come.
-/

namespace ConicModel

open Relation (ReflTransGen)

variable {World Factory Instance α : Type}

namespace Link

/-- One step of managing: a call other than solving, a report, or another live instance,
correspondence or factory. -/
inductive Touch (solver : Solver World Factory Instance)
    (before : Link World Factory Instance) : Link World Factory Instance → Prop where
  | create (factory : Factory) :
      Touch solver before
        { before with world := stateAfter (solver.create factory) before.world }
  | empty (target : Instance) :
      Touch solver before { before with world := stateAfter (solver.empty target) before.world }
  | copyModel (target : Instance) (model : Model Float) :
      Touch solver before
        { before with world := stateAfter (solver.copyModel target model) before.world }
  | get (target : Instance) (wanted : Attribute) :
      Touch solver before
        { before with world := stateAfter (solver.get target wanted) before.world }
  | set (target : Instance) (wanted : Attribute) (value : AttributeValue) :
      Touch solver before
        { before with world := stateAfter (solver.set target wanted value) before.world }
  | close (target : Instance) :
      Touch solver before { before with world := solver.close target before.world }
  | report (events : List Event) :
      Touch solver before { before with events := before.events ++ events }
  | hold (live : Option Instance) (map : Option IndexMap) :
      Touch solver before { before with live := live, map := map }
  | equip (factory : Option Factory) : Touch solver before { before with factory := factory }

def Manages (solver : Solver World Factory Instance) :
    Link World Factory Instance → Link World Factory Instance → Prop :=
  ReflTransGen (Touch solver)

instance (solver : Solver World Factory Instance) :
    IsPreorder (Link World Factory Instance) (Manages solver) :=
  inferInstanceAs (IsPreorder _ (ReflTransGen _))

section Manages

variable {solver : Solver World Factory Instance}

theorem ends_writeSetting {target : Instance} {setting : Attribute × AttributeValue}
    {link : Link World Factory Instance} {returned : Unit → Link World Factory Instance → Prop}
    {refused : Session.Error → Link World Factory Instance → Prop}
    (ends : Ends (solver.set target setting.1 setting.2) link.world
      (fun _ world => returned () { link with world := world })
      fun cause world =>
        (cause.isUnsupported = true →
          returned () { link with
            world := world
            events := link.events ++
              [.parameterIgnored (solver.name target) setting.1.text] }) ∧
        (cause.isUnsupported = false → refused (.solver cause) { link with world := world })) :
    Ends (writeSetting solver target setting) link returned refused := by
  unfold Ends writeSetting at *
  cases replied : solver.set target setting.1 setting.2 link.world with
  | ok done world =>
    rw [replied] at ends
    exact ends
  | error cause world =>
    rw [replied] at ends
    dsimp only
    by_cases unsupported : cause.isUnsupported = true
    · rw [if_pos unsupported]
      exact ends.1 unsupported
    · rw [if_neg unsupported]
      exact ends.2 (Bool.eq_false_iff.mpr unsupported)

theorem ends_copyModel {target : Instance} {model : Model Float}
    {link : Link World Factory Instance}
    {returned : CopyReceipt → Link World Factory Instance → Prop}
    {refused : Session.Error → Link World Factory Instance → Prop}
    (ends : Ends (solver.copyModel target model) link.world
      (fun receipt world => returned receipt { link with world := world })
      fun cause world => refused (.copy cause) { link with world := world }) :
    Ends (fun link => match solver.copyModel target model link.world with
      | .ok receipt world => .ok receipt { link with world := world }
      | .error cause world => .error (.copy cause) { link with world := world } :
        Action World Factory Instance CopyReceipt) link returned refused := by
  apply ends_within (fun world => { link with world := world }) .copy _ ends
  cases solver.copyModel target model link.world <;> rfl

theorem Consults.manages {target : Instance} {before after : Link World Factory Instance}
    (consults : Consults solver target before after) : Manages solver before after := by
  induction consults with
  | refl => exact .refl
  | tail _ glance ih =>
    cases glance with
    | get wanted => exact ih.tail (.get target wanted)
    | report event => exact ih.tail (.report [event])

theorem manages_report (event : Event) :
    Moves (Manages solver) (report event : Action World Factory Instance Unit) :=
  moves_modify fun _ => .single (.report [event])

theorem manages_requireCached (operation : String) :
    Moves (Manages solver) (requireCached operation : Action World Factory Instance Unit) := by
  apply moves_bind moves_get
  intro link
  split
  · exact moves_throw _
  · exact moves_pure ()

theorem manages_requireLive :
    Moves (Manages solver) (requireLive : Action World Factory Instance Instance) := by
  apply moves_bind moves_get
  intro link
  split
  · exact moves_pure _
  · exact moves_throw _

theorem manages_takeLive :
    Moves (Manages solver) (takeLive : Action World Factory Instance (Option Instance)) :=
  fun _ => .single (.hold none none)

theorem manages_close (target : Instance) : Moves (Manages solver) (close solver target) :=
  moves_bind (manages_report _) fun _ => moves_modify fun _ => .single (.close target)

theorem manages_writeSetting (target : Instance) (setting : Attribute × AttributeValue) :
    Moves (Manages solver) (writeSetting solver target setting) := by
  intro link
  have written : Ends (solver.set target setting.1 setting.2) link.world
      (fun _ world => Manages solver link { link with world := world })
      fun _ world => Manages solver link { link with world := world } :=
    ends_stateAfter.mpr (.single (.set target setting.1 setting.2))
  apply ends_writeSetting
  refine written.mono (fun _ _ moved => moved) ?_
  intro cause world moved
  exact ⟨fun _ => moved.tail (.report _), fun _ => moved⟩

theorem manages_instantiate : Moves (Manages solver) (instantiate solver) := by
  apply moves_bind moves_get
  intro link
  split
  · exact moves_throw _
  · apply moves_bind (moves_call fun _ => .single (.create _))
    intro target
    apply moves_bind (manages_report _)
    intro _
    refine moves_bind (moves_tryCatch (moves_forM (manages_writeSetting target) _) ?_) ?_
    · exact fun _ => moves_bind (manages_close target) fun _ => moves_throw _
    · exact fun _ => moves_modify fun _ => .single (.hold _ _)

theorem manages_release : Moves (Manages solver) (release solver) := by
  apply moves_bind manages_takeLive
  intro live
  split
  · exact moves_pure ()
  · exact moves_bind (manages_report _) fun _ => manages_close _

theorem manages_copyInto (target : Instance) (model : Model Float) :
    Moves (Manages solver) (copyInto solver target model) := by
  apply moves_bind (moves_call fun _ => .single (.empty target))
  intro _
  refine moves_bind ?_ ?_
  · intro link
    exact ends_copyModel (ends_stateAfter.mpr (.single (.copyModel target model)))
  · intro receipt
    split
    · exact moves_pure _
    · exact moves_throw _

theorem manages_start : Moves (Manages solver) (start solver) := by
  apply moves_bind moves_get
  intro link
  split
  · exact moves_throw _
  · split
    · exact manages_instantiate
    · exact moves_pure ()

theorem manages_equip (factory : Factory) :
    Moves (Manages solver) (modify fun link => { link with factory := some factory } :
      Action World Factory Instance Unit) :=
  moves_modify fun _ => .single (.equip (some factory))

theorem manages_attach (factory : Factory) : Moves (Manages solver) (attach solver factory) :=
  moves_bind (manages_requireCached _) fun _ => moves_bind manages_release fun _ =>
    moves_bind (manages_equip factory) fun _ => manages_instantiate

theorem manages_reattach : Moves (Manages solver) (reattach solver) :=
  moves_bind (manages_requireCached _) fun _ => moves_bind manages_release fun _ =>
    manages_instantiate

theorem manages_detach : Moves (Manages solver) (detach solver) :=
  moves_bind (manages_requireCached _) fun _ => manages_release

theorem manages_setFactory (factory : Factory) :
    Moves (Manages solver) (setFactory solver factory) :=
  moves_bind (manages_requireCached _) fun _ => moves_bind manages_release fun _ =>
    manages_equip factory

theorem manages_sync (model : Model Float) : Moves (Manages solver) (sync solver model) := by
  apply moves_bind (manages_requireCached _)
  intro _
  apply moves_bind manages_takeLive
  intro live
  split
  · exact moves_throw _
  · rename_i target
    refine moves_bind (moves_tryCatch (manages_copyInto target model) ?_) ?_
    · exact fun _ => moves_bind (manages_report _) fun _ =>
        moves_bind (manages_close target) fun _ => moves_throw _
    · exact fun _ => moves_bind (manages_report _) fun _ =>
        moves_modify fun _ => .single (.hold _ _)

theorem manages_prepare (model : Model Float) :
    Moves (Manages solver) (prepare solver model) := by
  have copied : Moves (Manages solver) (do
      if (← get).state model ≠ .synced then sync solver model :
        Action World Factory Instance Unit) := by
    apply moves_bind moves_get
    intro link
    split
    · exact manages_sync model
    · exact moves_pure ()
  apply moves_bind moves_get
  intro link
  split
  · exact moves_pure ()
  · dsimp only
    split
    · exact moves_bind manages_instantiate fun _ => copied
    · exact copied
  · split
    · exact moves_throw _
    · exact moves_throw _
    · exact moves_pure ()

theorem manages_backendIndex (model : Model Float) (entity : EntityRef) :
    Moves (Manages solver) (backendIndex model entity : Action World Factory Instance _) := by
  intro link
  unfold Ends backendIndex
  cases link.indexOf model entity with
  | ok index => exact .refl
  | error cause => exact .refl

theorem manages_entityBehind (model : Model Float) (index : IndexRef) :
    Moves (Manages solver) (entityBehind model index : Action World Factory Instance _) := by
  intro link
  unfold Ends entityBehind
  cases link.entityOf model index with
  | ok entity => exact .refl
  | error cause => exact .refl

end Manages

end Link

namespace Session

def Manages (solver : Solver World Factory Instance)
    (before after : Session World Factory Instance) : Prop :=
  ∃ link, after = { before with link := link } ∧ Link.Manages solver before.link link

instance (solver : Solver World Factory Instance) :
    IsPreorder (Session World Factory Instance) (Manages solver) where
  refl session := ⟨session.link, rfl, .refl⟩
  trans := by
    rintro first second third ⟨link, rfl, manages⟩ ⟨other, rfl, further⟩
    exact ⟨other, rfl, manages.trans further⟩

section Manages

variable {solver : Solver World Factory Instance}

theorem Consults.manages {before after : Session World Factory Instance}
    (consults : Consults solver before after) : Manages solver before after := by
  induction consults with
  | refl => exact refl_of (Manages solver) before
  | tail _ glance ih =>
    cases glance with
    | link live glance =>
      exact trans_of (Manages solver) ih ⟨_, rfl, Link.Consults.manages (.single glance)⟩

theorem manages_onLink {action : Model Float → Link.Action World Factory Instance α}
    (manages : ∀ model, Moves (Link.Manages solver) (action model)) :
    Moves (Manages solver) (onLink action) := by
  intro session
  apply ends_onLink
  exact (manages session.model session.link).mono
    (fun _ link moved => ⟨link, rfl, moved⟩) fun _ link moved => ⟨link, rfl, moved⟩

theorem manages_readResult (result : ResultRead) :
    Moves (Manages solver) (readResult solver result) :=
  (consults_readResult result).mono fun _ _ consults => consults.manages

theorem manages_prepareIfAutomatic : Moves (Manages solver) (prepareIfAutomatic solver) := by
  apply moves_bind moves_get
  intro session
  split
  · exact manages_onLink Link.manages_prepare
  · exact moves_pure ()

theorem manages_backendIndex (entity : EntityRef) :
    Moves (Manages solver) (backendIndex solver entity) :=
  moves_bind manages_prepareIfAutomatic fun _ =>
    manages_onLink fun model => Link.manages_backendIndex model entity

theorem manages_entityOf (index : IndexRef) : Moves (Manages solver) (entityOf solver index) :=
  moves_bind manages_prepareIfAutomatic fun _ =>
    manages_onLink fun model => Link.manages_entityBehind model index

theorem manages_ask (question : String) (answer : Model Float → α) :
    Moves (Manages solver) (ask question answer : Action World Factory Instance α) := by
  apply moves_bind moves_get
  intro session
  split
  · exact moves_pure _
  · exact moves_throw _

theorem manages_collect : Moves (Manages solver) (collect solver) := by
  refine manages_onLink fun model => moves_bind moves_get fun link => ?_
  split
  · exact moves_throw _
  · rename_i map found
    refine moves_bind Link.manages_requireLive fun target => ?_
    exact (Link.consults_collect model map).mono fun _ _ consults => consults.manages

theorem manages_done {action : Action World Factory Instance Unit}
    (manages : Moves (Manages solver) action) :
    Moves (Manages solver) (do action; return Answer.done) :=
  moves_bind manages fun _ => moves_pure _

end Manages

end Session

end ConicModel
