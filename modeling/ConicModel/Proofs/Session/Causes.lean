import ConicModel.Proofs.Model.Registry
import ConicModel.Proofs.Session.Frame
import ConicModel.Proofs.Session.Handling

/-!
Contract: the causes for which actions of a session are refused.

Owns:
- the causes that lie with the solver, those that a session that is put together right can have,
  and those that are no fault of configuration;
- the causes for which the actions on a link, and those of a session that do not ask for a model,
  are refused, from any state.

Does not own: operations, and the guards that refuse what does not go together with the mode or
the factory.

The guard of the link stands in front of the operations that need a model.  Behind it, and where
there is a model, these are refused for other causes like all the rest.  Only preparing, looking
up and collecting look at the correspondence, so every other action on a link is refused for a
cause that lies with the solver.
-/

namespace ConicModel

variable {World Factory Instance α : Type}

namespace Session

/-- Whether a cause lies with the solver: there is none, it refused a call, or what it replied
does not fit. -/
def Error.IsOutside : Error → Prop
  | .notAttached _ | .decode _ | .copy _ | .solver _ => True
  | _ => False

/-- Whether a cause is neither a fault of configuration nor a gap in the correspondence of the
last copy. -/
def Error.IsOrdinary : Error → Prop
  | .configuration _ | .stale .mapLost | .stale (.unmapped _) => False
  | _ => True

/-- Whether a cause is no fault of configuration. -/
def Error.IsProper (cause : Error) : Prop :=
  ∀ fault, cause ≠ .configuration fault

theorem Error.IsOutside.isOrdinary {cause : Error} (outside : cause.IsOutside) :
    cause.IsOrdinary := by
  cases cause with
  | notAttached | decode | copy | solver => exact trivial
  | _ => exact outside.elim

theorem Error.IsOrdinary.isProper {cause : Error} (ordinary : cause.IsOrdinary) :
    cause.IsProper := by
  rintro fault rfl
  exact ordinary

theorem Error.IsOutside.isProper {cause : Error} (outside : cause.IsOutside) : cause.IsProper :=
  outside.isOrdinary.isProper

theorem Error.kind_eq_configuration_iff {cause : Error} :
    cause.kind = .configuration ↔ ∃ fault, cause = .configuration fault := by
  constructor
  · intro kind
    cases cause with
    | configuration fault => exact ⟨fault, rfl⟩
    | model cause =>
      unfold Error.kind at kind
      dsimp only at kind
      split at kind <;> cases kind
    | _ => cases kind
  · rintro ⟨fault, rfl⟩
    rfl

/-- A computation is refused in its first step or in its second. -/
theorem bind_eq_error {β : Type} {first : Except Error α} {next : α → Except Error β}
    {cause : Error} (refused : (first >>= next) = .error cause) :
    first = .error cause ∨ ∃ value, next value = .error cause := by
  cases first with
  | error other =>
    cases refused
    exact .inl rfl
  | ok value => exact .inr ⟨value, refused⟩

end Session

open Session (Error bind_eq_error)

/-! ## Actions on a link -/

namespace Link

section Blames

variable {solver : Solver World Factory Instance} {target : Instance}

theorem blames_call (reply : Reply World α) :
    Blames Error.IsOutside (call reply : Action World Factory Instance α) :=
  fun _ => ends_call (ends_eq.mono (fun _ _ _ => trivial) fun _ _ _ => trivial)

theorem blames_report {fits : Error → Prop} (event : Event) :
    Blames fits (report event : Action World Factory Instance Unit) :=
  blames_modify _

theorem blames_takeLive {fits : Error → Prop} :
    Blames fits (takeLive : Action World Factory Instance (Option Instance)) :=
  fun _ => trivial

theorem blames_requireLive :
    Blames Error.IsOutside (requireLive : Action World Factory Instance Instance) := by
  refine blames_bind blames_get fun link => ?_
  split
  · exact blames_pure _
  · exact blames_throw trivial

theorem blames_close (target : Instance) : Blames Error.IsOutside (close solver target) :=
  blames_bind (blames_report _) fun _ => blames_modify _

theorem blames_writeSetting (target : Instance) (setting : Attribute × AttributeValue) :
    Blames Error.IsOutside (writeSetting solver target setting) :=
  fun _ => ends_writeSetting (ends_eq.mono (fun _ _ _ => trivial)
    fun _ _ _ => ⟨fun _ => trivial, fun _ => trivial⟩)

theorem blames_instantiate : Blames Error.IsOutside (instantiate solver) := by
  refine blames_bind blames_get fun link => ?_
  split
  · exact blames_throw trivial
  · refine blames_bind (blames_call _) fun target => ?_
    refine blames_bind (blames_report _) fun _ => ?_
    refine blames_bind ?_ fun _ => blames_modify _
    refine blames_tryCatch (blames_forM (blames_writeSetting target) _) fun cause outside => ?_
    exact blames_bind (blames_close target) fun _ => blames_throw outside

theorem blames_release : Blames Error.IsOutside (release solver) := by
  refine blames_bind blames_takeLive fun live => ?_
  split
  · exact blames_pure ()
  · exact blames_bind (blames_report _) fun _ => blames_close _

theorem blames_copyInto (target : Instance) (model : Model Float) :
    Blames Error.IsOutside (copyInto solver target model) := by
  refine blames_bind (blames_call _) fun _ => ?_
  refine blames_bind ?_ fun receipt => ?_
  · exact fun _ => ends_copyModel (ends_eq.mono (fun _ _ _ => trivial) fun _ _ _ => trivial)
  · split
    · exact blames_pure _
    · exact blames_throw trivial

/-! ### Behind the guard -/

section Cached

variable {link : Link World Factory Instance} (cached : link.mode ≠ .direct)
include cached

theorem outside_sync (model : Model Float) :
    Ends (sync solver model) link (fun _ _ => True) fun cause _ => cause.IsOutside := by
  apply ends_cached cached
  refine (blames_bind blames_takeLive fun live => ?_ : Blames Error.IsOutside _) link
  split
  · exact blames_throw trivial
  · rename_i target
    refine blames_bind ?_ fun map => blames_bind (blames_report _) fun _ => blames_modify _
    refine blames_tryCatch (blames_copyInto target model) fun cause outside => ?_
    exact blames_bind (blames_report _) fun _ => blames_bind (blames_close target) fun _ =>
      blames_throw outside

theorem outside_attach (factory : Factory) :
    Ends (attach solver factory) link (fun _ _ => True) fun cause _ => cause.IsOutside :=
  ends_cached cached (blames_bind blames_release (fun _ => blames_bind (blames_modify _)
    fun _ => blames_instantiate) link)

theorem outside_reattach :
    Ends (reattach solver) link (fun _ _ => True) fun cause _ => cause.IsOutside :=
  ends_cached cached (blames_bind blames_release (fun _ => blames_instantiate) link)

theorem outside_detach :
    Ends (detach solver) link (fun _ _ => True) fun cause _ => cause.IsOutside :=
  ends_cached cached (blames_release link)

theorem outside_setFactory (factory : Factory) :
    Ends (setFactory solver factory) link (fun _ _ => True) fun cause _ => cause.IsOutside :=
  ends_cached cached (blames_bind blames_release (fun _ => blames_modify _) link)

end Cached

/-! ### Preparing and indices -/

/-- Preparing does nothing where there is no model, and copies only where there is one.  In
manual mode it asks for a copy where there is an instance without the model. -/
theorem ends_prepare_causes (model : Model Float) (link : Link World Factory Instance) :
    Ends (prepare solver model) link (fun _ _ => True) fun cause _ =>
      cause.IsOutside ∨
        link.mode = .manual ∧ link.state model = .outOfSync ∧ cause = .stale .copyToRefresh := by
  have copied : ∀ link : Link World Factory Instance, link.mode ≠ .direct →
      Ends (do if (← get).state model ≠ .synced then sync solver model :
        Action World Factory Instance Unit) link (fun _ _ => True)
        fun cause _ => cause.IsOutside := by
    intro link cached
    apply ends_bind
    apply ends_get
    split
    · exact outside_sync cached model
    · exact ends_pure trivial
  apply ends_bind
  apply ends_get
  split
  · exact ends_pure trivial
  · rename_i automatic
    have cached : link.mode ≠ .direct := by
      rw [automatic]
      decide
    refine Ends.mono (?_ : Ends _ link (fun _ _ => True) fun cause _ => cause.IsOutside)
      (fun _ _ _ => trivial) fun _ _ outside => .inl outside
    dsimp only
    split
    · apply ends_bind
      refine ((blames_instantiate link).and (manages_instantiate link)).mono ?_ fun _ _ ended =>
        ended.1
      rintro _ created ⟨_, manages⟩
      refine copied created ?_
      rw [manages.steady.mode]
      exact cached
    · exact copied link cached
  · rename_i manual
    split
    · exact ends_throw (.inl trivial)
    · rename_i outdated
      exact ends_throw (.inr ⟨manual, outdated, rfl⟩)
    · exact ends_pure trivial

theorem blames_prepare (model : Model Float) : Blames Error.IsOrdinary (prepare solver model) := by
  intro link
  refine (ends_prepare_causes model link).mono (fun _ _ _ => trivial) ?_
  rintro cause _ (outside | ⟨_, _, rfl⟩)
  · exact outside.isOrdinary
  · exact trivial

theorem ordinary_currentMap {link : Link World Factory Instance} {model : Model Float}
    {cause : Error} (refused : link.currentMap model = .error cause) : cause.IsOrdinary := by
  unfold currentMap at refused
  split at refused
  · cases refused
    exact trivial
  · split at refused
    · cases refused
    · cases refused
      exact trivial
  · cases refused
    exact trivial

theorem ordinary_indexOf {link : Link World Factory Instance} {model : Model Float}
    {entity : EntityRef} {cause : Error} (refused : link.indexOf model entity = .error cause) :
    cause.IsOrdinary := by
  unfold indexOf at refused
  split at refused
  · split at refused <;> cases refused
  · rcases bind_eq_error refused with early | ⟨map, late⟩
    · exact ordinary_currentMap early
    · split at late <;> cases late
      exact trivial

theorem ordinary_entityOf {link : Link World Factory Instance} {model : Model Float}
    {index : IndexRef} {cause : Error} (refused : link.entityOf model index = .error cause) :
    cause.IsOrdinary := by
  unfold entityOf at refused
  split at refused
  · split at refused <;> cases refused
  · rcases bind_eq_error refused with early | ⟨map, late⟩
    · exact ordinary_currentMap early
    · split at late <;> cases late
      exact trivial

theorem blames_backendIndex (model : Model Float) (entity : EntityRef) :
    Blames Error.IsOrdinary (backendIndex model entity : Action World Factory Instance _) := by
  intro link
  unfold Ends backendIndex
  cases found : link.indexOf model entity with
  | ok index => exact trivial
  | error cause => exact ordinary_indexOf found

theorem blames_entityBehind (model : Model Float) (index : IndexRef) :
    Blames Error.IsOrdinary (entityBehind model index : Action World Factory Instance _) := by
  intro link
  unfold Ends entityBehind
  cases found : link.entityOf model index with
  | ok entity => exact trivial
  | error cause => exact ordinary_entityOf found

/-! ### Reads -/

theorem blames_interpret (reading : Except SolverError α) :
    Blames Error.IsOutside (interpret reading : Action World Factory Instance α) := by
  cases reading with
  | ok value => exact blames_pure value
  | error cause => exact blames_throw trivial

theorem blames_read (wanted : Attribute)
    (cast : Attribute → AttributeValue → Except SolverError α) :
    Blames Error.IsOutside (read solver target wanted cast) :=
  blames_bind (blames_call _) fun _ => blames_interpret _

theorem blames_read? (wanted : Attribute)
    (cast : Attribute → AttributeValue → Except SolverError α) :
    Blames Error.IsOutside (read? solver target wanted cast) := by
  intro link
  unfold Ends read?
  cases solver.get target wanted link.world with
  | ok value world =>
    have interpreted : Blames Error.IsOutside
        (some <$> interpret (cast wanted value) : Action World Factory Instance (Option α)) :=
      blames_map (blames_interpret _)
    exact interpreted { link with world := world }
  | error cause world =>
    dsimp only
    by_cases unsupported : cause.isUnsupported = true
    · rw [if_pos unsupported]
      exact trivial
    · rw [if_neg unsupported]
      exact trivial

theorem blames_resultStatus (wanted : Attribute) :
    Blames Error.IsOutside (resultStatus solver target wanted) :=
  blames_bind (blames_read? _ _) fun _ => blames_pure _

theorem blames_rawStatus : Blames Error.IsOutside (rawStatus solver target) :=
  blames_bind (blames_read? _ _) fun _ => blames_pure _

theorem blames_floatOf (status : ResultStatus) (wanted : Attribute) :
    Blames Error.IsOutside (floatOf solver target status wanted) := by
  unfold floatOf
  split
  · exact blames_read? _ _
  · exact blames_pure none

theorem blames_summary : Blames Error.IsOutside (summary solver target) := by
  refine blames_bind (blames_read _ _) fun termination => ?_
  refine blames_bind (blames_resultStatus _) fun primalStatus => ?_
  refine blames_bind (blames_resultStatus _) fun dualStatus => ?_
  refine blames_bind (blames_read? _ _) fun resultCount => ?_
  refine blames_bind (blames_floatOf _ _) fun objectiveValue => ?_
  refine blames_bind (blames_floatOf _ _) fun dualObjectiveValue => ?_
  refine blames_bind blames_rawStatus fun rawStatus => ?_
  refine blames_bind (blames_read? _ _) fun objectiveBound => ?_
  exact blames_bind (blames_read? _ _) fun solveTime => blames_pure _

theorem blames_constraintPrimal (index : ConstraintIndex) (set : ConstraintSet Float) :
    Blames Error.IsOutside (constraintPrimal solver target index set) := by
  refine blames_bind (blames_read _ _) fun values => ?_
  split
  · exact blames_pure _
  · exact blames_throw trivial

theorem blames_constraintDual? (index : ConstraintIndex) (set : ConstraintSet Float) :
    Blames Error.IsOutside (constraintDual? solver target index set) :=
  blames_bind (blames_read? _ _) fun _ => blames_pure _

/-- Whether a cause lies with the solver, or is that an entity that is wanted has no index. -/
def Unindexed (map : IndexMap) (wanted : EntityRef → Prop) (cause : Error) : Prop :=
  cause.IsOutside ∨
    ∃ entity, wanted entity ∧ map.index? entity = none ∧ cause = .stale (.unmapped entity)

theorem Unindexed.mono {map : IndexMap} {wanted more : EntityRef → Prop} {cause : Error}
    (unindexed : Unindexed map wanted cause) (weaken : ∀ entity, wanted entity → more entity) :
    Unindexed map more cause :=
  unindexed.imp_right fun ⟨entity, isWanted, rest⟩ => ⟨entity, weaken entity isWanted, rest⟩

theorem Unindexed.isProper {map : IndexMap} {wanted : EntityRef → Prop} {cause : Error}
    (unindexed : Unindexed map wanted cause) : cause.IsProper := by
  rcases unindexed with outside | ⟨entity, _, _, rfl⟩
  · exact outside.isProper
  · exact nofun

theorem blames_primals (map : IndexMap) :
    ∀ ids, Blames (Unindexed map fun entity => ∃ id ∈ ids, entity = .var id)
      (primals solver target map ids)
  | [] => blames_pure []
  | id :: others => by
    unfold primals
    split
    · rename_i missing
      exact blames_throw (.inr ⟨.var id, ⟨id, List.mem_cons_self, rfl⟩,
        Option.map_eq_none_iff.mpr missing, rfl⟩)
    · refine blames_bind ((blames_read _ _).mono fun _ => .inl) fun value => ?_
      refine blames_bind ((blames_primals map others).mono ?_) fun _ => blames_pure _
      rintro cause unindexed
      exact unindexed.mono fun entity ⟨other, member, same⟩ =>
        ⟨other, List.mem_cons_of_mem id member, same⟩

theorem blames_duals (map : IndexMap) :
    ∀ entries, Blames (Unindexed map fun entity => ∃ entry ∈ entries, entity = .con entry.id)
      (duals solver target map entries)
  | [] => blames_pure []
  | entry :: others => by
    have later : Blames (Unindexed map fun entity =>
        ∃ other ∈ entry :: others, entity = .con other.id) (duals solver target map others) :=
      (blames_duals map others).mono fun _ unindexed =>
        unindexed.mono fun _ ⟨other, member, same⟩ =>
          ⟨other, List.mem_cons_of_mem entry member, same⟩
    have rest : ∀ value : Except LengthMismatch (ResultValue Float),
        Blames (Unindexed map fun entity => ∃ other ∈ entry :: others, entity = .con other.id) (do
          let values ← duals solver target map others
          return (entry.id, value) :: values) :=
      fun _ => blames_bind later fun _ => blames_pure _
    unfold duals
    split
    · rename_i missing
      exact blames_throw (.inr ⟨.con entry.id, ⟨entry, List.mem_cons_self, rfl⟩,
        Option.map_eq_none_iff.mpr missing, rfl⟩)
    · refine blames_bind ((blames_constraintDual? _ _).mono fun _ => .inl) fun value => ?_
      split
      · exact later
      · split
        · exact blames_bind (blames_report _) fun _ => rest _
        · exact rest _

theorem blames_collect (model : Model Float) (map : IndexMap) :
    Blames (Unindexed map fun entity => model.contains entity = true)
      (collect solver target model map) := by
  have live : ∀ id ∈ model.vars.ids, model.contains (.var id) = true :=
    fun _ => Registry.contains_iff.mpr
  refine blames_bind (blames_summary.mono fun _ => .inl) fun summary => ?_
  have rest : ∀ primals, Blames (Unindexed map fun entity => model.contains entity = true) (do
      let duals ← if summary.dualStatus.hasValues then
          duals solver target map model.constraints.entries
        else pure []
      return (⟨model.generation, summary, primals, duals⟩ : ResultRecord)) := by
    intro primals
    dsimp only
    split
    · refine blames_bind ((blames_duals map _).mono fun _ unindexed => ?_) fun _ => blames_pure _
      refine unindexed.mono ?_
      rintro _ ⟨entry, member, rfl⟩
      exact Registry.contains_iff.mpr (List.mem_map_of_mem member)
    · exact blames_bind (blames_pure []) fun _ => blames_pure _
  dsimp only
  split
  · refine blames_bind ((blames_primals map _).mono fun _ unindexed => ?_) rest
    refine unindexed.mono ?_
    rintro _ ⟨id, member, rfl⟩
    exact live id member
  · exact blames_bind (blames_pure []) rest

end Blames

end Link

/-! ## Actions on a session -/

namespace Session

section Blames

variable {solver : Solver World Factory Instance}

theorem blames_onLink {fits : Error → Prop}
    {action : Model Float → Link.Action World Factory Instance α}
    (each : ∀ model, Blames fits (action model)) : Blames fits (onLink action) :=
  fun session => ends_onLink (each session.model session.link)

theorem blames_callLive (reply : Instance → Reply World α) :
    Blames Error.IsOutside (callLive reply : Action World Factory Instance α) :=
  blames_onLink fun _ => blames_bind Link.blames_requireLive fun _ => Link.blames_call _

theorem blames_editModel (change : Model.Edit Float) :
    Blames Error.IsOrdinary (editModel change : Action World Factory Instance _) := by
  refine blames_bind blames_get fun session => blames_bind (blames_modify _) fun _ => ?_
  split
  · exact blames_throw trivial
  · exact blames_bind (blames_modify _) fun _ => blames_pure _

/-- Collecting is refused for a cause that lies with the solver, or for a live entity that the
correspondence leaves out, or because there is no correspondence. -/
theorem ends_collect_causes (session : Session World Factory Instance) :
    Ends (collect solver) session (fun _ _ => True) fun cause _ =>
      match session.link.map with
      | none => cause = .stale .mapLost
      | some map =>
        Link.Unindexed map (fun entity => session.model.contains entity = true) cause := by
  apply ends_onLink
  apply ends_bind
  apply ends_get
  cases session.link.map with
  | none => exact ends_throw rfl
  | some map =>
    have collected : Blames
        (Link.Unindexed map fun entity => session.model.contains entity = true) (do
          let target ← Link.requireLive
          Link.collect solver target session.model map) :=
      blames_bind (Link.blames_requireLive.mono fun _ => .inl) fun target =>
        Link.blames_collect session.model map
    exact collected session.link

theorem blames_collect : Blames Error.IsProper (collect solver) := by
  intro session
  refine (ends_collect_causes session).mono (fun _ _ _ => trivial) fun cause _ why => ?_
  cases found : session.link.map with
  | none =>
    rw [found] at why
    subst why
    exact nofun
  | some map =>
    rw [found] at why
    exact why.isProper

/-- Solving asks for nothing that the mode could lack. -/
theorem blames_optimize : Blames Error.IsProper (optimize solver) := by
  have prepared : Blames Error.IsProper (onLink (Link.prepare solver)) :=
    blames_onLink fun model =>
      (Link.blames_prepare model).mono fun _ ordinary => ordinary.isProper
  have solved : Blames Error.IsProper (callLive solver.optimize :
      Action World Factory Instance Unit) :=
    (blames_callLive _).mono fun _ outside => outside.isProper
  refine blames_bind (blames_modify _) fun _ => blames_bind blames_get fun session => ?_
  dsimp only
  split
  · refine blames_bind prepared fun _ => blames_bind solved fun _ => ?_
    refine blames_bind blames_collect fun record => ?_
    exact blames_bind (blames_modify _) fun _ => blames_modify _
  · exact blames_bind solved fun _ => blames_modify _

theorem blames_prepareIfAutomatic : Blames Error.IsOrdinary (prepareIfAutomatic solver) := by
  refine blames_bind blames_get fun session => ?_
  split
  · exact blames_onLink Link.blames_prepare
  · exact blames_pure ()

theorem blames_backendIndex (entity : EntityRef) :
    Blames Error.IsOrdinary (backendIndex solver entity) :=
  blames_bind blames_prepareIfAutomatic fun _ =>
    blames_onLink fun model => Link.blames_backendIndex model entity

theorem blames_entityOf (index : IndexRef) : Blames Error.IsOrdinary (entityOf solver index) :=
  blames_bind blames_prepareIfAutomatic fun _ =>
    blames_onLink fun model => Link.blames_entityBehind model index

/-! ### Reads -/

theorem blames_fromSource {ask : Instance → Link.Action World Factory Instance α}
    {otherwise : Action World Factory Instance α}
    (asked : ∀ target, Blames Error.IsOutside (ask target))
    (recalled : Blames Error.IsOrdinary otherwise) :
    Blames Error.IsOrdinary (fromSource ask otherwise) := by
  refine blames_bind blames_get fun session => ?_
  split
  · exact blames_onLink fun _ => (asked _).mono fun _ outside => outside.isOrdinary
  · exact recalled

theorem blames_recallFact (fact : ResultSummary → α) :
    Blames Error.IsOrdinary (recallFact fact : Action World Factory Instance α) := by
  refine blames_bind blames_get fun session => ?_
  split
  · exact blames_pure _
  · exact blames_pure _

theorem blames_requireRecord :
    Blames Error.IsOrdinary (requireRecord : Action World Factory Instance ResultRecord) := by
  intro session
  unfold Ends requireRecord readableRecord
  cases session.record with
  | none => exact trivial
  | some record =>
    dsimp only
    by_cases current : record.isCurrent session.model = true
    · rw [if_pos current]
      exact trivial
    · rw [if_neg current]
      exact trivial

theorem blames_require (missing : Unavailable) (found : Option α) :
    Blames Error.IsOrdinary (require missing found : Action World Factory Instance α) := by
  cases found with
  | none => exact blames_throw trivial
  | some value => exact blames_pure value

theorem blames_ofExcept {result : Except Error α}
    (ordinary : ∀ cause, result = .error cause → cause.IsOrdinary) :
    Blames Error.IsOrdinary (MonadExcept.ofExcept result : Action World Factory Instance α) := by
  cases result with
  | error cause => exact blames_throw (ordinary cause rfl)
  | ok value => exact blames_pure value

theorem blames_resultSummary : Blames Error.IsOrdinary (resultSummary solver) :=
  blames_fromSource (fun _ => Link.blames_summary) (blames_recallFact id)

/-- A question whether there are values is never refused. -/
theorem blames_saysValues (status : Action World Factory Instance ResultStatus) :
    Blames Error.IsOrdinary (saysValues status) :=
  blames_tryCatch (blames_any _) fun _ _ => blames_pure false

theorem blames_afterRecord {next : Action World Factory Instance α}
    (rest : Blames Error.IsOrdinary next) : Blames Error.IsOrdinary (do
      if (← get).isCached then discard requireRecord
      next) := by
  refine blames_bind blames_get fun session => ?_
  dsimp only
  split
  · exact blames_bind (blames_map blames_requireRecord) fun _ => rest
  · exact rest

theorem blames_requirePrimal : Blames Error.IsOrdinary (requirePrimal solver) := by
  refine blames_afterRecord (blames_bind (blames_saysValues _) fun values => ?_)
  split
  · exact blames_throw trivial
  · exact blames_pure ()

theorem blames_solveFloat (wanted : Attribute) (fact : ResultSummary → Option Float) :
    Blames Error.IsOrdinary (solveFloat solver wanted fact) :=
  blames_bind
    (blames_fromSource (fun _ => Link.blames_read? _ _)
      (blames_bind blames_requireRecord fun _ => blames_pure _))
    fun _ => blames_require _ _

theorem blames_value (id : VariableId) : Blames Error.IsOrdinary (value solver id) := by
  refine blames_bind blames_requirePrimal fun _ => ?_
  refine blames_fromSource (fun _ => Link.blames_read _ _) ?_
  refine blames_bind blames_requireRecord fun record => ?_
  split
  · exact blames_pure _
  · exact blames_throw trivial

theorem ordinary_recordedValue {record : ResultRecord} {expr : Expr Float} {cause : Error}
    (refused : recordedValue record expr = .error cause) : cause.IsOrdinary := by
  unfold recordedValue at refused
  split at refused
  · cases refused
    exact trivial
  · split at refused <;> cases refused
    exact trivial

theorem ordinary_mapM {β : Type} {each : β → Except Error α}
    (ordinary : ∀ {item cause}, each item = .error cause → cause.IsOrdinary) {cause : Error} :
    ∀ {items : List β}, items.mapM each = .error cause → cause.IsOrdinary
  | [], refused => by cases refused
  | item :: others, refused => by
    rw [List.mapM_cons] at refused
    rcases bind_eq_error refused with first | ⟨value, later⟩
    · exact ordinary first
    · rcases bind_eq_error later with rest | ⟨values, done⟩
      · exact ordinary_mapM ordinary rest
      · cases done

theorem ordinary_recordedComponents {record : ResultRecord} {model : Model Float}
    {id : ConstraintId} {cause : Error}
    (refused : recordedComponents record model id = .error cause) : cause.IsOrdinary := by
  unfold recordedComponents at refused
  split at refused
  · cases refused
    exact trivial
  · split at refused
    · rename_i components
      cases refused
      exact ordinary_mapM ordinary_recordedValue components
    · split at refused <;> cases refused
      exact trivial

theorem blames_constraintValue (id : ConstraintId) :
    Blames Error.IsOrdinary (constraintValue solver id) := by
  refine blames_bind blames_requirePrimal fun _ => ?_
  refine blames_fromSource (fun _ => ?_) ?_
  · exact blames_bind (Link.blames_read _ _) fun _ => Link.blames_constraintPrimal _ _
  · exact blames_bind blames_requireRecord fun _ => blames_bind blames_get fun _ =>
      blames_ofExcept fun _ refused => ordinary_recordedComponents refused

theorem blames_evaluateWith (expr : Expr Float) :
    Blames Error.IsOrdinary (expr.evaluateWith (value solver)) :=
  Expr.evaluateWith_of_reads blames_pure (fun first next => blames_bind first next) blames_value
    expr

theorem blames_resultValueOf (expr : Expr Float) :
    Blames Error.IsOrdinary (resultValueOf solver expr) := by
  refine blames_bind blames_requirePrimal fun _ => blames_bind blames_get fun session => ?_
  split
  · exact blames_bind blames_requireRecord fun _ =>
      blames_ofExcept fun _ refused => ordinary_recordedValue refused
  · exact blames_evaluateWith expr

theorem blames_askDual (id : ConstraintId) (target : Instance) :
    Blames Error.IsOutside (askDual solver id target) :=
  blames_bind (Link.blames_read _ _) fun _ => Link.blames_constraintDual? _ _

theorem blames_hasResultDual (entity : EntityRef) :
    Blames Error.IsOrdinary (hasResultDual solver entity) := by
  cases entity with
  | var id => exact blames_pure false
  | con id =>
    refine blames_bind (blames_saysValues _) fun values => ?_
    split
    · exact blames_pure false
    · refine blames_bind blames_get fun session => ?_
      split
      · exact blames_pure _
      · refine blames_bind blames_get fun session => ?_
        split
        · exact blames_pure false
        · exact blames_tryCatch (blames_any _) fun _ _ => blames_pure false

theorem blames_recallDual (id : ConstraintId) :
    Blames Error.IsOrdinary (recallDual id : Action World Factory Instance _) := by
  refine blames_bind blames_get fun session => ?_
  split
  · exact blames_throw trivial
  · exact blames_bind blames_requireRecord fun _ => blames_pure _

theorem blames_requireDual (id : ConstraintId)
    (found : Option (Except LengthMismatch (ResultValue Float))) :
    Blames Error.IsOrdinary (requireDual id found : Action World Factory Instance _) := by
  unfold requireDual
  split
  · exact blames_pure _
  · exact blames_throw trivial
  · exact blames_throw trivial

theorem blames_resultDual (entity : EntityRef) :
    Blames Error.IsOrdinary (resultDual solver entity) := by
  cases entity with
  | var id => exact blames_afterRecord (blames_throw trivial)
  | con id =>
    refine blames_afterRecord (blames_bind (blames_saysValues _) fun values => ?_)
    have recalled : Blames Error.IsOrdinary (do
        let found ← fromSource (askDual solver id) (recallDual id)
        requireDual id found : Action World Factory Instance (ResultValue Float)) :=
      blames_bind (blames_fromSource (blames_askDual id) (blames_recallDual id))
        (blames_requireDual id)
    split
    · exact blames_throw trivial
    · exact recalled

/-- No read asks for anything that the mode could lack. -/
theorem blames_readResult (result : ResultRead) :
    Blames Error.IsOrdinary (readResult solver result) := by
  cases result with
  | summary => exact blames_map blames_resultSummary
  | terminationStatus =>
    exact blames_map (blames_fromSource (fun _ => Link.blames_read _ _) (blames_recallFact _))
  | primalStatus | dualStatus =>
    exact blames_map
      (blames_fromSource (fun _ => Link.blames_resultStatus _) (blames_recallFact _))
  | rawStatus =>
    exact blames_map (blames_fromSource (fun _ => Link.blames_rawStatus)
      (blames_bind blames_requireRecord fun _ => blames_pure _))
  | resultCount => exact blames_map (blames_bind blames_resultSummary fun _ => blames_pure _)
  | hasValues | hasDuals => exact blames_map (blames_saysValues _)
  | objectiveValue =>
    exact blames_map (blames_bind blames_requirePrimal fun _ => blames_solveFloat _ _)
  | dualObjectiveValue | objectiveBound | solveTime => exact blames_map (blames_solveFloat _ _)
  | value id => exact blames_map (blames_value id)
  | valueOfEntity entity =>
    cases entity with
    | var id => exact blames_map (blames_bind (blames_value id) fun _ => blames_pure _)
    | con id => exact blames_map (blames_constraintValue id)
  | valueOfExpr expr => exact blames_map (blames_resultValueOf expr)
  | dual entity => exact blames_map (blames_resultDual entity)
  | hasDual entity => exact blames_map (blames_hasResultDual entity)

end Blames

end Session

end ConicModel
