import Passbook.Error.Classify
/-!
# What an error stands for

An error is a chain of causes, and the first cause in it that means something to the ledger decides what the whole
error stands for.  A failure that was passed on is no cause of its own: its place in the chain is taken by the chain
of the failure inside it.  A search for the first cause looks into that failure and then goes on behind it, so that it
comes to some causes again, but it passes none over, and it meets the new ones in their order.
-/

namespace Passbook

namespace Fault

/-! ### Chains -/

/-- What a single cause means for the ledger. -/
inductive Means : Fault → Refusal → Prop where
  | refusal (reason : Refusal) : Means (.refusal reason) reason
  | recordNotFound (what : String) : Means (.store (.recordNotFound what)) (.notFound what)
  | missingReference (what : String) : Means (.store (.missingReference what)) (.notFound what)
  | duplicateKey (what : String) : Means (.store (.duplicateKey what)) (.alreadyExists what)
  | constraintViolated (what : String) : Means (.store (.constraintViolated what)) (.invalid what)
  | rowNotFound : Means (.database .rowNotFound) (.notFound "row not found")
  | poolTimedOut : Means (.database .poolTimedOut) .timeout
  | unique (reason : String) : Means (.database (.rejected .unique reason)) (.alreadyExists reason)
  | foreignKey (reason : String) : Means (.database (.rejected .foreignKey reason)) (.notFound reason)
  | check (reason : String) : Means (.database (.rejected .check reason)) (.invalid reason)
  | notNull (reason : String) : Means (.database (.rejected .notNull reason)) (.invalid reason)

/-- The causes of an error, the outermost first: the error itself and then the causes of its source.  A failure that
was passed on has the causes of the failure inside it. -/
def chain : Fault → List Fault
  | .unknown cause => cause.chain
  | fault =>
    fault ::
      match _h : fault.source? with
      | some source => source.chain
      | none => []
termination_by fault => sizeOf fault
decreasing_by
  · simp
  · exact sizeOf_source?_lt ‹_›

/-- The first of the causes that means something, and what it means. -/
def Decides (causes : List Fault) (reason : Refusal) : Prop :=
  ∃ before cause after, causes = before ++ cause :: after ∧ (∀ other ∈ before, ∀ reason', ¬ other.Means reason') ∧
    cause.Means reason

/-- The errors that a search comes to, in its order.  It looks into a failure that was passed on before it goes on to
the source of that failure, which is the source of the failure inside. -/
def walk : Fault → List Fault
  | .unknown cause =>
    cause.walk ++
      match _h : cause.source? with
      | some source => source.walk
      | none => []
  | fault =>
    fault ::
      match _h : fault.source? with
      | some source => source.walk
      | none => []
termination_by fault => sizeOf fault
decreasing_by
  · simp
  · have := sizeOf_source?_lt ‹_›
    simp
    omega
  · exact sizeOf_source?_lt ‹_›

variable {fault cause source link : Fault} {reason : Refusal}

/-! ### Single causes -/

theorem refusal?_eq_some_iff : link.refusal? = some reason ↔ link.Means reason := by
  constructor
  · intro found
    unfold refusal? StoreFailure.refusal? DatabaseFailure.refusal? at found
    split at found
    · cases found
      constructor
    · split at found <;> cases found <;> constructor
    · split at found <;> cases found <;> constructor
    · cases found
  · intro means
    cases means <;> rfl

theorem refusal?_eq_none_iff : link.refusal? = none ↔ ∀ reason, ¬ link.Means reason := by
  simp only [← refusal?_eq_some_iff, Option.eq_none_iff_forall_ne_some]

/-- What is found first in a list of causes is what decides. -/
theorem findSome?_refusal?_eq_some_iff {causes : List Fault} :
    causes.findSome? refusal? = some reason ↔ Decides causes reason := by
  simp only [List.findSome?_eq_some_iff, Decides, refusal?_eq_some_iff, refusal?_eq_none_iff]
  constructor
  · rintro ⟨before, cause, after, split, means, nothing⟩
    exact ⟨before, cause, after, split, nothing, means⟩
  · rintro ⟨before, cause, after, split, nothing, means⟩
    exact ⟨before, cause, after, split, means, nothing⟩

/-! ### Chains and walks -/

/-- What holds of a failure that was passed on if it holds of the failure inside and of the source of that, and of any
other error if it holds of its source, holds of all errors. -/
theorem induction_on_source {motive : Fault → Prop}
    (passedOn : ∀ cause, motive cause → (∀ source, cause.source? = some source → motive source) →
      motive (.unknown cause))
    (own : ∀ fault, (∀ cause, fault ≠ .unknown cause) → (∀ source, fault.source? = some source → motive source) →
      motive fault)
    (fault : Fault) : motive fault := by
  induction size : sizeOf fault using Nat.strongRecOn generalizing fault with
  | ind size inductionHypothesis =>
      subst size
      by_cases passed : ∃ cause, fault = .unknown cause
      · obtain ⟨cause, rfl⟩ := passed
        have smaller : sizeOf cause < sizeOf (unknown cause) := by simp
        exact passedOn cause (inductionHypothesis _ smaller cause rfl) fun source known =>
          inductionHypothesis _ (Nat.lt_trans (sizeOf_source?_lt known) smaller) source rfl
      · exact own fault (fun cause same => passed ⟨cause, same⟩) fun source known =>
          inductionHypothesis _ (sizeOf_source?_lt known) source rfl

def behind (fault : Fault) : List Fault := fault.source?.elim [] chain

/-- What a search comes to behind an error. -/
def walkBehind (fault : Fault) : List Fault := fault.source?.elim [] walk

theorem chain_unknown (cause : Fault) : (unknown cause).chain = cause.chain := by rw [chain]

theorem chain_eq (own : ∀ cause, fault ≠ .unknown cause) : fault.chain = fault :: fault.behind := by
  rw [chain, behind]
  · cases fault.source? <;> rfl
  · exact own

theorem walk_unknown (cause : Fault) : (unknown cause).walk = cause.walk ++ cause.walkBehind := by
  rw [walk, walkBehind]
  cases cause.source? <;> rfl

theorem walk_eq (own : ∀ cause, fault ≠ .unknown cause) : fault.walk = fault :: fault.walkBehind := by
  rw [walk, walkBehind]
  · cases fault.source? <;> rfl
  · exact own

theorem classify_unknown (cause : Fault) :
    (unknown cause).classify = cause.classify.or (cause.source?.bind classify) := by
  rw [classify]
  simp only [source?]
  cases cause.classify <;> cases cause.source? <;> rfl

theorem classify_eq (own : ∀ cause, fault ≠ .unknown cause) :
    fault.classify = fault.refusal?.or (fault.source?.bind classify) := by
  rw [classify]
  · cases fault.refusal? with
    | some reason => rfl
    | none => cases fault.source? <;> rfl
  · exact own

/-- A search finds the first of the errors it comes to that means something. -/
theorem classify_eq_findSome?_walk (fault : Fault) : fault.classify = fault.walk.findSome? refusal? := by
  have following : ∀ {source? : Option Fault},
      (∀ source, source? = some source → source.classify = source.walk.findSome? refusal?) →
        source?.bind classify = (source?.elim [] walk).findSome? refusal? := fun {source?} same => by
    cases source? with
    | none => rfl
    | some source => exact same source rfl
  induction fault using induction_on_source with
  | passedOn cause inside behind =>
      rw [classify_unknown, walk_unknown, List.findSome?_append, inside, following behind, walkBehind]
  | own fault own behind =>
      rw [classify_eq own, walk_eq own, following behind, List.findSome?_cons, walkBehind]
      cases fault.refusal? <;> rfl

/-- It comes to the causes first, in their order. -/
theorem chain_prefix_walk (fault : Fault) : fault.chain <+: fault.walk := by
  induction fault using induction_on_source with
  | passedOn cause inside behind =>
      rw [chain_unknown, walk_unknown]
      exact inside.trans (List.prefix_append _ _)
  | own fault own behind =>
      rw [chain_eq own, walk_eq own, List.prefix_cons_inj, Fault.behind, walkBehind]
      cases known : fault.source? with
      | none => exact List.prefix_rfl
      | some source => exact behind source known

/-- What is behind an error is in its chain. -/
theorem behind_subset_chain (fault : Fault) : fault.behind ⊆ fault.chain := by
  induction fault using induction_on_source with
  | passedOn cause inside _ =>
      rw [chain_unknown]
      exact inside
  | own fault own _ =>
      rw [chain_eq own]
      exact List.subset_cons_self _ _

/-- Apart from the causes it comes to nothing. -/
theorem walk_subset_chain (fault : Fault) : fault.walk ⊆ fault.chain := by
  have further : ∀ {fault : Fault}, (∀ source, fault.source? = some source → source.walk ⊆ source.chain) →
      fault.walkBehind ⊆ fault.behind := fun {fault} same => by
    rw [walkBehind, Fault.behind]
    cases known : fault.source? with
    | none => exact List.Subset.refl _
    | some source => exact same source known
  induction fault using induction_on_source with
  | passedOn cause inside behind =>
      rw [chain_unknown, walk_unknown]
      exact List.append_subset.mpr ⟨inside, List.Subset.trans (further behind) cause.behind_subset_chain⟩
  | own fault own behind =>
      rw [chain_eq own, walk_eq own]
      exact List.cons_subset_cons _ (further behind)

/-- So what it finds is what comes first in the chain. -/
theorem classify_eq_findSome?_chain (fault : Fault) : fault.classify = fault.chain.findSome? refusal? := by
  obtain ⟨again, walk⟩ := fault.chain_prefix_walk
  have causes : again ⊆ fault.chain := fun link member =>
    fault.walk_subset_chain (walk ▸ List.mem_append_right _ member)
  rw [classify_eq_findSome?_walk, ← walk, List.findSome?_append]
  cases first : fault.chain.findSome? refusal? with
  | some reason => rfl
  | none =>
      rw [List.findSome?_eq_none_iff] at first
      exact List.findSome?_eq_none_iff.mpr fun link member => first link (causes member)

end Fault

/-! ### Errors of the ledger -/

namespace LedgerError

variable {fault : Fault}

/-- The errors of the ledger stay what they are. -/
theorem ofFault_toFault (error : LedgerError) : ofFault error.toFault = error := by
  cases error <;> rfl

/-- Any other error is what it stands for, or is passed on as it is. -/
theorem ofFault_eq (other : ∀ error : LedgerError, error.toFault ≠ fault) :
    ofFault fault = (fault.classify.map refused).getD (.unknown fault) := by
  unfold ofFault
  split
  · exact absurd rfl (other (.refused _))
  · exact absurd rfl (other (.unknown _))
  · cases fault.classify <;> rfl

end LedgerError

/-- Every error stands for what the first of its causes means that means anything, and for nothing if none does; going
behind the failures that were passed on once more makes no difference.  As an error of the ledger an error is itself if
it is one already; else it is what it stands for, or it is passed on whole.  So an error that has become one of the
ledger does not become another. -/
theorem Fault.stands_for_first_cause (fault : Fault) :
    (∀ reason, fault.classify = some reason ↔ Decides fault.chain reason) ∧
    (∀ reason, Decides fault.walk reason ↔ Decides fault.chain reason) ∧
    (fault.classify = none ↔ ∀ cause ∈ fault.chain, ∀ reason, ¬ cause.Means reason) ∧
    (∀ error : LedgerError, error.toFault = fault → LedgerError.ofFault fault = error) ∧
    ((∀ error : LedgerError, error.toFault ≠ fault) →
      (∀ reason, Decides fault.chain reason → LedgerError.ofFault fault = .refused reason) ∧
      ((∀ cause ∈ fault.chain, ∀ reason, ¬ cause.Means reason) → LedgerError.ofFault fault = .unknown fault)) ∧
    LedgerError.ofFault (LedgerError.ofFault fault).toFault = LedgerError.ofFault fault := by
  have found : ∀ reason, fault.classify = some reason ↔ Decides fault.chain reason := fun reason => by
    rw [classify_eq_findSome?_chain, findSome?_refusal?_eq_some_iff]
  have found' : ∀ reason, fault.classify = some reason ↔ Decides fault.walk reason := fun reason => by
    rw [classify_eq_findSome?_walk, findSome?_refusal?_eq_some_iff]
  have nothing : fault.classify = none ↔ ∀ cause ∈ fault.chain, ∀ reason, ¬ cause.Means reason := by
    simp only [classify_eq_findSome?_chain, List.findSome?_eq_none_iff, refusal?_eq_none_iff]
  refine ⟨found, fun reason => (found' reason).symm.trans (found reason), nothing, ?_,
    fun other => ⟨fun reason decides => ?_, fun meaningless => ?_⟩, LedgerError.ofFault_toFault _⟩
  · rintro error rfl
    exact error.ofFault_toFault
  · rw [LedgerError.ofFault_eq other, (found reason).mpr decides]
    rfl
  · rw [LedgerError.ofFault_eq other, nothing.mpr meaningless]
    rfl

/-- A store operation that failed since a key was taken, passed on twice on its way. -/
def takenKey : Fault :=
  .foreignOver "while saving" (.unknown (.operation "insert_account" (.unknown (.store (.duplicateKey "account 3")))))

theorem Fault.stands_for_first_cause_takenKey :
    (∀ error : LedgerError, error.toFault ≠ takenKey) ∧
    Decides takenKey.chain (.alreadyExists "account 3") ∧
    LedgerError.ofFault takenKey = .alreadyExists "account 3" := by
  have other : ∀ error : LedgerError, error.toFault ≠ takenKey := by
    rintro (_ | _) <;> nofun
  have known : takenKey.classify = some (.alreadyExists "account 3") := by
    simp [takenKey, classify, refusal?, source?, StoreFailure.refusal?]
  obtain ⟨found, _, _, _, mapped, _⟩ := takenKey.stands_for_first_cause
  have decides := (found _).mp known
  exact ⟨other, decides, (mapped other).1 _ decides⟩

end Passbook
