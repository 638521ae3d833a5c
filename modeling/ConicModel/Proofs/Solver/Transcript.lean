import ConicModel.Session.Configuration
import ConicModel.Solver.Journal
import Mathlib.Data.List.Basic

/-!
Contract: the transcripts that a well-behaved caller leaves.

Owns:
- the calls of one instance, and the model it was last asked to copy;
- `Told`, which generates the transcripts in which instances live one after another;
- what can be read off such a transcript.

Does not own: who calls.

The next call is judged by the transcript so far, so every fact about whole
transcripts is proved by one induction over `Told`.
-/

namespace ConicModel

/-! ## Positions in a list -/

/-- Whether a property holds of every member of a list and the members before it. -/
def Throughout {α : Type} (property : List α → α → Prop) (list : List α) : Prop :=
  ∀ before item after, list = before ++ item :: after → property before item

section Throughout

variable {α : Type} {property : List α → α → Prop} {list : List α}

theorem throughout_nil : Throughout property [] := by
  intro before item after split
  exact absurd split (by simp)

theorem throughout_append {others : List α} :
    Throughout property (list ++ others) ↔
      Throughout property list ∧
        Throughout (fun before item => property (list ++ before) item) others := by
  constructor
  · intro throughout
    constructor
    · intro before item after split
      exact throughout before item (after ++ others) (by simp [split])
    · intro before item after split
      exact throughout (list ++ before) item after (by simp [split])
  · rintro ⟨first, second⟩ before item after split
    rcases List.append_eq_append_iff.mp split with ⟨rest, rfl, parts⟩ | ⟨rest, parts, joined⟩
    · exact second rest item after parts
    · cases rest with
      | nil =>
        rw [List.append_nil] at parts
        have here : property (list ++ []) item := second [] item after joined.symm
        rw [List.append_nil, parts] at here
        exact here
      | cons head tail =>
        rw [List.cons_append, List.cons.injEq] at joined
        obtain ⟨rfl, _⟩ := joined
        exact first before item tail parts

theorem throughout_singleton {item : α} : Throughout property [item] ↔ property [] item := by
  constructor
  · intro throughout
    exact throughout [] item [] rfl
  · intro here before other after split
    cases before with
    | nil =>
      cases split
      exact here
    | cons head tail => simp at split

theorem throughout_concat {last : α} :
    Throughout property (list ++ [last]) ↔ Throughout property list ∧ property list last := by
  rw [throughout_append, throughout_singleton, List.append_nil]

theorem Throughout.imp {weaker : List α → α → Prop} (throughout : Throughout property list)
    (weaken : ∀ before item, property before item → weaker before item) :
    Throughout weaker list :=
  fun before item after split => weaken before item (throughout before item after split)

end Throughout

/-! ## Kinds of calls -/

namespace Call

/-- Whether the call neither creates nor closes an instance. -/
def isUse : Call → Bool
  | .create _ | .close => false
  | _ => true

def isSolve : Call → Bool
  | .optimize _ => true
  | _ => false

def isIncremental : Call → Bool
  | .addVariable _ _ | .addConstraint _ _ | .setObjective _ _ => true
  | .deleteVariable _ _ | .deleteConstraint _ _ => true
  | _ => false

def copied? : Call → Option (Model Float × Except CopyError CopyReceipt)
  | .copyModel model reply => some (model, reply)
  | _ => none

end Call

/-! ## Transcripts -/

namespace Transcript

variable {Factory : Type} {entries : List (JournalEntry Factory)}

def callsOf (entries : List (JournalEntry Factory)) (number : Nat) : List Call :=
  (entries.filter fun entry => entry.number == number).map JournalEntry.call

/-- The model that an instance was last asked to copy, with the reply. -/
def lastCopy? (entries : List (JournalEntry Factory)) (number : Nat) :
    Option (Model Float × Except CopyError CopyReceipt) :=
  ((callsOf entries number).filterMap Call.copied?).getLast?

theorem callsOf_append (others : List (JournalEntry Factory)) (number : Nat) :
    callsOf (entries ++ others) number = callsOf entries number ++ callsOf others number := by
  simp [callsOf]

theorem callsOf_same (number : Nat) (factory : Factory) (call : Call) :
    callsOf (entries ++ [⟨number, factory, call⟩]) number = callsOf entries number ++ [call] := by
  simp [callsOf]

theorem callsOf_other {entry : JournalEntry Factory} {number : Nat}
    (other : entry.number ≠ number) :
    callsOf (entries ++ [entry]) number = callsOf entries number := by
  simp [callsOf, other]

theorem lastCopy?_copyModel (number : Nat) (factory : Factory) (model : Model Float)
    (reply : Except CopyError CopyReceipt) :
    lastCopy? (entries ++ [⟨number, factory, .copyModel model reply⟩]) number =
      some (model, reply) := by
  unfold lastCopy?
  rw [callsOf_same]
  simp [Call.copied?]

/-- Entries that copy nothing leave the last copy. -/
theorem lastCopy?_append {others : List (JournalEntry Factory)}
    (copyNothing : ∀ entry ∈ others, entry.call.copied? = none) (number : Nat) :
    lastCopy? (entries ++ others) number = lastCopy? entries number := by
  have none : (callsOf others number).filterMap Call.copied? = [] := by
    rw [List.filterMap_eq_nil_iff]
    intro call member
    obtain ⟨entry, entryMember, rfl⟩ := List.mem_map.mp member
    exact copyNothing entry (List.mem_filter.mp entryMember).1
  unfold lastCopy?
  rw [callsOf_append, List.filterMap_append, none, List.append_nil]

/-- Whether a transcript may go on with a call of the open instance: a model is copied right
after the instance was emptied, and entities are handed over one by one only where there
is no model. -/
def Permits (mode : Mode) (entries : List (JournalEntry Factory)) (number : Nat)
    (factory : Factory) (call : Call) : Prop :=
  call.isUse = true ∧ (call.isIncremental = true → mode = .direct) ∧
    (call.copied?.isSome = true →
      ∃ before, entries = before ++ [⟨number, factory, .empty (.ok ())⟩])

/-- A call that is neither incremental nor a copy is permitted wherever an instance is open. -/
theorem permits_plain {mode : Mode} {number : Nat} {factory : Factory} (call : Call)
    (use : call.isUse = true) (whole : call.isIncremental = false)
    (copiesNothing : call.copied? = none) : Permits mode entries number factory call := by
  refine ⟨use, ?_, ?_⟩
  · rw [whole]
    exact fun impossible => nomatch impossible
  · rw [copiesNothing]
    exact fun impossible => nomatch impossible

/-- The transcripts in which one instance lives after another, with the number of creations
and the instance that is open. -/
inductive Told (mode : Mode) :
    List (JournalEntry Factory) → Nat → Option (Nat × Factory) → Prop where
  | start : Told mode [] 0 none
  | refused {entries : List (JournalEntry Factory)} {count : Nat}
      (told : Told mode entries count none) (factory : Factory) (cause : SolverError) :
      Told mode (entries ++ [⟨count, factory, .create (.error cause)⟩]) (count + 1) none
  | created {entries : List (JournalEntry Factory)} {count : Nat}
      (told : Told mode entries count none) (factory : Factory) :
      Told mode (entries ++ [⟨count, factory, .create (.ok ())⟩]) (count + 1)
        (some (count, factory))
  | used {entries : List (JournalEntry Factory)} {count number : Nat} {factory : Factory}
      (told : Told mode entries count (some (number, factory))) (call : Call)
      (permits : Permits mode entries number factory call) :
      Told mode (entries ++ [⟨number, factory, call⟩]) count (some (number, factory))
  | closed {entries : List (JournalEntry Factory)} {count number : Nat} {factory : Factory}
      (told : Told mode entries count (some (number, factory))) :
      Told mode (entries ++ [⟨number, factory, .close⟩]) count none

/-- The calls of one instance from its creation on, and whether it is still open. -/
inductive Life : List Call → Prop → Prop where
  | absent {isOpen : Prop} (shut : ¬ isOpen) : Life [] isOpen
  | refused {isOpen : Prop} (shut : ¬ isOpen) (cause : SolverError) :
      Life [.create (.error cause)] isOpen
  | running {isOpen : Prop} (still : isOpen) (uses : List Call)
      (areUses : ∀ call ∈ uses, call.isUse = true) : Life (.create (.ok ()) :: uses) isOpen
  | ended {isOpen : Prop} (shut : ¬ isOpen) (uses : List Call)
      (areUses : ∀ call ∈ uses, call.isUse = true) :
      Life (.create (.ok ()) :: uses ++ [.close]) isOpen

section Told

variable {mode : Mode} {count : Nat} {active : Option (Nat × Factory)}

theorem Told.number_lt (told : Told mode entries count active) :
    (∀ entry ∈ entries, entry.number < count) ∧ ∀ pair ∈ active, pair.1 < count := by
  induction told with
  | start => simp
  | refused told factory cause ih =>
    simp only [List.forall_mem_append, List.forall_mem_singleton]
    exact ⟨⟨fun entry member => Nat.lt_succ_of_lt (ih.1 entry member), Nat.lt_succ_self _⟩, nofun⟩
  | created told factory ih =>
    simp only [List.forall_mem_append, List.forall_mem_singleton]
    refine ⟨⟨fun entry member => Nat.lt_succ_of_lt (ih.1 entry member), Nat.lt_succ_self _⟩, ?_⟩
    intro pair same
    cases same
    exact Nat.lt_succ_self _
  | used told call permits ih =>
    simp only [List.forall_mem_append, List.forall_mem_singleton]
    exact ⟨⟨ih.1, ih.2 _ rfl⟩, ih.2⟩
  | closed told ih =>
    simp only [List.forall_mem_append, List.forall_mem_singleton]
    exact ⟨⟨ih.1, ih.2 _ rfl⟩, nofun⟩

/-- A number that was not handed out yet has no calls. -/
theorem Told.callsOf_count (told : Told mode entries count active) :
    callsOf entries count = [] := by
  unfold callsOf
  rw [List.map_eq_nil_iff, List.filter_eq_nil_iff]
  intro entry member
  have below := told.number_lt.1 entry member
  simp only [beq_iff_eq]
  omega

theorem Life.congr {calls : List Call} {isOpen isOpen' : Prop} (life : Life calls isOpen)
    (same : isOpen ↔ isOpen') : Life calls isOpen' := by
  cases life with
  | absent shut => exact .absent (mt same.mpr shut)
  | refused shut cause => exact .refused (mt same.mpr shut) cause
  | running still uses areUses => exact .running (same.mp still) uses areUses
  | ended shut uses areUses => exact .ended (mt same.mpr shut) uses areUses

/-- An open instance has been created and used. -/
theorem Life.uses_of_open {calls : List Call} {isOpen : Prop} (life : Life calls isOpen)
    (still : isOpen) :
    ∃ uses : List Call, calls = .create (.ok ()) :: uses ∧ ∀ call ∈ uses, call.isUse = true := by
  cases life with
  | absent shut => exact absurd still shut
  | refused shut cause => exact absurd still shut
  | running _ uses areUses => exact ⟨uses, rfl, areUses⟩
  | ended shut uses areUses => exact absurd still shut

/-- Every instance lives as `Life` says, and the open one is the one that still runs. -/
theorem Told.life (told : Told mode entries count active) (number : Nat) :
    Life (callsOf entries number) (∃ factory, active = some (number, factory)) := by
  induction told with
  | start => exact .absent (by simp)
  | @refused entries count told factory cause ih =>
    by_cases here : count = number
    · subst here
      rw [callsOf_same, told.callsOf_count]
      exact .refused (by simp) cause
    · rw [callsOf_other here]
      exact ih
  | @created entries count told factory ih =>
    by_cases here : count = number
    · subst here
      rw [callsOf_same, told.callsOf_count]
      exact .running ⟨factory, rfl⟩ [] (by simp)
    · rw [callsOf_other here]
      exact ih.congr (by simp [here])
  | @used entries count other factory told call permits ih =>
    by_cases here : other = number
    · subst here
      obtain ⟨uses, calls, areUses⟩ := ih.uses_of_open ⟨factory, rfl⟩
      rw [callsOf_same, calls]
      refine .running ⟨factory, rfl⟩ (uses ++ [call]) ?_
      simp only [List.forall_mem_append, List.forall_mem_singleton]
      exact ⟨areUses, permits.1⟩
    · rw [callsOf_other here]
      exact ih
  | @closed entries count other factory told ih =>
    by_cases here : other = number
    · subst here
      obtain ⟨uses, calls, areUses⟩ := ih.uses_of_open ⟨factory, rfl⟩
      rw [callsOf_same, calls]
      exact .ended (by simp) uses areUses
    · rw [callsOf_other here]
      exact ih.congr (by simp [here])

def Created (entries : List (JournalEntry Factory)) (number : Nat) : Prop :=
  .create (.ok ()) ∈ callsOf entries number

def Closed (entries : List (JournalEntry Factory)) (number : Nat) : Prop :=
  .close ∈ callsOf entries number

def Unclosed (entries : List (JournalEntry Factory)) (number : Nat) : Prop :=
  Created entries number ∧ ¬ Closed entries number

theorem not_mem_of_areUses {uses : List Call} (areUses : ∀ call ∈ uses, call.isUse = true) :
    .close ∉ uses := by
  intro member
  cases areUses _ member

/-- The instance that is still open is the active one. -/
theorem Told.unclosed_iff (told : Told mode entries count active) {number : Nat} :
    Unclosed entries number ↔ ∃ factory, active = some (number, factory) := by
  have life := told.life number
  unfold Unclosed Created Closed
  constructor
  · rintro ⟨created, unclosed⟩
    generalize callsOf entries number = calls at *
    cases life with
    | absent shut => cases created
    | refused shut cause => simp at created
    | running still uses areUses => exact still
    | ended shut uses areUses => simp at unclosed
  · intro still
    obtain ⟨uses, calls, areUses⟩ := life.uses_of_open still
    rw [calls]
    refine ⟨List.mem_cons_self, ?_⟩
    intro closed
    rcases List.mem_cons.mp closed with impossible | member
    · cases impossible
    · exact not_mem_of_areUses areUses member

/-- Where no instance is open, each one that was created was closed once, by its last call. -/
theorem Told.closed_once (told : Told mode entries count none) {number : Nat}
    (created : Created entries number) :
    ∃ uses : List Call, callsOf entries number = .create (.ok ()) :: uses ++ [.close] ∧
      ∀ call ∈ uses, call.isUse = true := by
  have life := told.life number
  unfold Created at created
  generalize callsOf entries number = calls at *
  cases life with
  | absent shut => cases created
  | refused shut cause => simp at created
  | running still uses areUses =>
    obtain ⟨factory, impossible⟩ := still
    cases impossible
  | ended shut uses areUses => exact ⟨uses, rfl, areUses⟩

/-- An instance is created only where none is open. -/
theorem Told.creations (told : Told mode entries count active) :
    Throughout (fun before entry => ∀ reply, entry.call = .create reply →
      ∃ earlier, Told mode before earlier none) entries := by
  induction told with
  | start => exact throughout_nil
  | refused told factory cause ih => exact throughout_concat.mpr ⟨ih, fun _ _ => ⟨_, told⟩⟩
  | created told factory ih => exact throughout_concat.mpr ⟨ih, fun _ _ => ⟨_, told⟩⟩
  | used told call permits ih =>
    refine throughout_concat.mpr ⟨ih, ?_⟩
    rintro reply rfl
    cases permits.1
  | closed told ih => exact throughout_concat.mpr ⟨ih, fun _ impossible => nomatch impossible⟩

/-- A model is copied right after the same instance was emptied. -/
theorem Told.copies (told : Told mode entries count active) :
    Throughout (fun before entry => entry.call.copied?.isSome = true →
      ∃ earlier, before = earlier ++ [⟨entry.number, entry.factory, .empty (.ok ())⟩]) entries := by
  induction told with
  | start => exact throughout_nil
  | refused told factory cause ih =>
    exact throughout_concat.mpr ⟨ih, fun impossible => nomatch impossible⟩
  | created told factory ih =>
    exact throughout_concat.mpr ⟨ih, fun impossible => nomatch impossible⟩
  | used told call permits ih => exact throughout_concat.mpr ⟨ih, permits.2.2⟩
  | closed told ih => exact throughout_concat.mpr ⟨ih, fun impossible => nomatch impossible⟩

/-- The last copy into the open instance is the last copy of all. -/
theorem Told.last_copy {number : Nat} {factory : Factory}
    (told : Told mode entries count (some (number, factory))) {model : Model Float}
    {reply : Except CopyError CopyReceipt} (last : lastCopy? entries number = some (model, reply)) :
    ∃ earlier between, entries = earlier ++ ⟨number, factory, .copyModel model reply⟩ :: between ∧
      ∀ entry ∈ between, entry.call.copied? = none := by
  generalize runs : some (number, factory) = running at told
  induction told with
  | start | refused _ _ _ _ | closed _ _ => cases runs
  | created told _ _ =>
    cases runs
    unfold lastCopy? at last
    rw [callsOf_same, told.callsOf_count] at last
    cases last
  | @used entries _ _ _ _ call _ inductionHypothesis =>
    cases runs
    cases copied : call.copied? with
    | none =>
      have same : lastCopy? entries number = some (model, reply) :=
        (lastCopy?_append (by simpa using copied) number).symm.trans last
      obtain ⟨earlier, between, rfl, copyNothing⟩ := inductionHypothesis same rfl
      refine ⟨earlier, between ++ [⟨number, factory, call⟩], by simp, ?_⟩
      simp only [List.forall_mem_append, List.forall_mem_singleton]
      exact ⟨copyNothing, copied⟩
    | some copy =>
      obtain ⟨model, reply, rfl⟩ : ∃ model reply, call = .copyModel model reply := by
        cases call <;> first | exact ⟨_, _, rfl⟩ | cases copied
      rw [lastCopy?_copyModel] at last
      cases last
      exact ⟨entries, [], rfl, by simp⟩

/-- Where there is a model, no entity is handed over by itself. -/
theorem Told.not_incremental (told : Told mode entries count active) (cached : mode ≠ .direct) :
    ∀ entry ∈ entries, entry.call.isIncremental = false := by
  induction told with
  | start => simp
  | refused told factory cause ih =>
    simp only [List.forall_mem_append, List.forall_mem_singleton]
    exact ⟨ih, rfl⟩
  | created told factory ih =>
    simp only [List.forall_mem_append, List.forall_mem_singleton]
    exact ⟨ih, rfl⟩
  | used told call permits ih =>
    simp only [List.forall_mem_append, List.forall_mem_singleton]
    exact ⟨ih, Bool.eq_false_iff.mpr (mt permits.2.1 cached)⟩
  | closed told ih =>
    simp only [List.forall_mem_append, List.forall_mem_singleton]
    exact ⟨ih, rfl⟩

end Told

end Transcript

end ConicModel
