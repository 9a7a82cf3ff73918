import Passbook.Proofs.Http.Server
/-!
# What requests demand

Whatever a request is, it demands a reply that has nothing to do with the ledger, or one operation in the name of
whoever asks: the one to which its path and its method lead, on what the path names.
-/

namespace Passbook.Http

open Service (Direction Operation)

/-- The operations that a request can ask for. -/
inductive Request.Asks (request : Request) : Operation → Prop where
  | opens {currency : Option Currency} (method : request.method = .post)
      (path : Resource.ofPath? request.path = some .accounts) : Asks request (.openAccount currency)
  | moves {direction : Direction} {segment : String} {movement : MovementRequest}
      (method : request.method = .post)
      (path : Resource.ofPath? request.path = some (.movements direction segment))
      (named : readIdentifier AccountId.parse segment = .ok movement.account) :
      Asks request (.move direction movement)
  | closes {segment : String} {id : AccountId} (method : request.method = .delete)
      (path : Resource.ofPath? request.path = some (.account segment))
      (named : readIdentifier AccountId.parse segment = .ok id) : Asks request (.closeAccount id)
  | balance {segment : String} {id : AccountId}
      (path : Resource.ofPath? request.path = some (.balance segment)) : Asks request (.balance id)
  | history {segment : String} {id : AccountId}
      (path : Resource.ofPath? request.path = some (.history segment)) : Asks request (.history id)
  | transaction {segment : String} {id : TransactionId}
      (path : Resource.ofPath? request.path = some (.transaction segment)) : Asks request (.transaction id)

/-- What a request can demand: a reply that is an error, or that shows something other than a movement, or an
operation in the name of whoever asks. -/
inductive Request.Demands (request : Request) : Demand → Prop where
  | refused {reply : Reply} (isError : 400 ≤ reply.status) : Demands request (.reply reply)
  | told {reply : Reply} (ok : reply.status = 200)
      (path : ∀ direction segment, Resource.ofPath? request.path ≠ some (.movements direction segment)) :
      Demands request (.reply reply)
  | asked {user : UserId} {operation : Operation} (known : request.identity? = some user)
      (asks : request.Asks operation) : Demands request (.perform user operation)

/-- The operation that is demanded, and of whom, if one is. -/
def Demand.operation? : Demand → Option (UserId × Operation)
  | .perform user operation => some (user, operation)
  | .reply _ => none

theorem Demand.operation?_eq_some_iff {demand : Demand} {user : UserId} {operation : Operation} :
    demand.operation? = some (user, operation) ↔ demand = .perform user operation := by
  cases demand <;> simp [operation?]

/-- Every error of the ledger is an error for the client. -/
theorem Reply.le_status_ofError (e : LedgerError) : 400 ≤ (Reply.ofError e).status := by
  cases e with
  | refused reason => cases reason <;> simp [Reply.ofError, Reply.withBody, statusOf]
  | unknown cause => simp [Reply.ofError, Reply.withBody]

section Failures

variable {ε ε' α β : Type} {first : Except ε α} {rest : α → Except ε β}

private theorem ok_bind (value : α) : (.ok value >>= rest : Except ε β) = rest value := rfl

private theorem bind_eq_ok {done : β} (succeeded : first >>= rest = .ok done) :
    ∃ value, first = .ok value ∧ rest value = .ok done := by
  cases first with
  | ok value => exact ⟨value, rfl, succeeded⟩
  | error e => cases succeeded

private theorem bind_eq_error {e : ε} (failed : first >>= rest = .error e) :
    first = .error e ∨ ∃ value, first = .ok value ∧ rest value = .error e := by
  cases first with
  | ok value => exact .inr ⟨value, rfl, failed⟩
  | error e' =>
      cases failed
      exact .inl rfl

private theorem mapError_eq_ok {f : ε → ε'} {done : α} (succeeded : first.mapError f = .ok done) :
    first = .ok done := by
  cases first with
  | ok value =>
      cases succeeded
      rfl
  | error e => cases succeeded

private theorem mapError_eq_error {f : ε → ε'} {e' : ε'} (failed : first.mapError f = .error e') :
    ∃ e, first = .error e ∧ e' = f e := by
  cases first with
  | ok value => cases failed
  | error e =>
      cases failed
      exact ⟨e, rfl, rfl⟩

end Failures

section Demands

variable {request : Request} {user : UserId}

private theorem le_status_of_segmentText {segment : String} {refusal : Reply}
    (refused : segmentText segment = .error refusal) : 400 ≤ refusal.status := by
  obtain ⟨_, _, rfl⟩ := mapError_eq_error refused
  exact Nat.le_refl 400

private theorem le_status_of_readIdentifier {α : Type} {parse : String → Except LedgerError α}
    {segment : String} {refusal : Reply} (refused : readIdentifier parse segment = .error refusal) :
    400 ≤ refusal.status := by
  rcases bind_eq_error refused with undecoded | ⟨text, _, refused⟩
  · exact le_status_of_segmentText undecoded
  · obtain ⟨e, _, rfl⟩ := mapError_eq_error refused
    exact Reply.le_status_ofError e

/-- A movement is one on the account for which it was read. -/
theorem MovementBody.account_of_toRequest {body : MovementBody} {id : AccountId} {movement : MovementRequest}
    (read : body.toRequest id = .ok movement) : movement.account = id := by
  obtain ⟨_, _, read⟩ := bind_eq_ok read
  obtain ⟨_, _, read⟩ := bind_eq_ok read
  obtain ⟨_, _, read⟩ := bind_eq_ok read
  dsimp only at read
  split at read
  all_goals
    obtain ⟨_, _, read⟩ := bind_eq_ok read
    cases read
    rfl

/-- What is refused of a movement is refused with an error. -/
private theorem le_status_of_movement {direction : Direction} {segment : String} {refusal : Reply}
    (refused : request.movement direction segment = .error refusal) : 400 ≤ refusal.status := by
  rcases bind_eq_error refused with undecoded | ⟨_, _, refused⟩
  · exact le_status_of_segmentText undecoded
  · rcases bind_eq_error refused with unreadable | ⟨_, _, refused⟩
    · exact (Request.status_of_readBody unreadable).1
    · obtain ⟨e, _, rfl⟩ := mapError_eq_error refused
      exact Reply.le_status_ofError e

/-- What is asked for is a movement on the account that the path names. -/
private theorem of_movement {direction : Direction} {segment : String} {operation : Operation}
    (asked : request.movement direction segment = .ok operation) :
    ∃ movement, operation = .move direction movement ∧
      readIdentifier AccountId.parse segment = .ok movement.account := by
  obtain ⟨text, decoded, asked⟩ := bind_eq_ok asked
  obtain ⟨body, _, asked⟩ := bind_eq_ok asked
  obtain ⟨id, parsed, asked⟩ := bind_eq_ok (mapError_eq_ok asked)
  obtain ⟨movement, made, asked⟩ := bind_eq_ok asked
  cases asked
  refine ⟨movement, rfl, ?_⟩
  rw [MovementBody.account_of_toRequest made, readIdentifier, decoded, ok_bind, parsed]
  rfl

/-- An operation is asked for, or there is an error. -/
private theorem demands_ofExcept (known : request.identity? = some user) {asked : Except Reply Operation}
    (refused : ∀ refusal, asked = .error refusal → 400 ≤ refusal.status)
    (asks : ∀ operation, asked = .ok operation → request.Asks operation) :
    request.Demands (.ofExcept user asked) := by
  cases asked with
  | error refusal => exact .refused (refused refusal rfl)
  | ok operation => exact .asked known (asks operation rfl)

/-- The same for an operation on something that the request names. -/
private theorem demands_map (known : request.identity? = some user) {α : Type} {named : Except Reply α}
    {make : α → Operation} (refused : ∀ refusal, named = .error refusal → 400 ≤ refusal.status)
    (asks : ∀ value, named = .ok value → request.Asks (make value)) :
    request.Demands (.ofExcept user (make <$> named)) := by
  cases named with
  | error refusal => exact .refused (refused refusal rfl)
  | ok value => exact .asked known (asks value rfl)

/-- What a known user demands at an endpoint. -/
private theorem demandAt_demands (known : request.identity? = some user) {resource : Resource}
    {endpoint : Endpoint} (path : Resource.ofPath? request.path = some resource)
    (leads : resource.endpoint? request.method = some endpoint) :
    request.Demands (request.demandAt user endpoint) := by
  cases resource with
  | health | whoami =>
      have told : ∀ direction segment,
          Resource.ofPath? request.path ≠ some (.movements direction segment) := by
        rw [path]
        nofun
      cases method : request.method <;> rw [method] at leads <;> cases leads
      all_goals exact .told rfl told
  | accounts =>
      cases method : request.method <;> rw [method] at leads <;> cases leads
      refine demands_map known (fun refusal refused => ?_) fun currency _ => .opens method path
      obtain ⟨e, _, rfl⟩ := mapError_eq_error refused
      exact Reply.le_status_ofError e
  | account segment =>
      cases method : request.method <;> rw [method] at leads <;> cases leads
      exact demands_map known (fun _ => le_status_of_readIdentifier) fun id named => .closes method path named
  | movements direction segment =>
      cases method : request.method <;> rw [method] at leads <;> cases leads
      refine demands_ofExcept known (fun refusal => le_status_of_movement) fun operation asked => ?_
      obtain ⟨movement, rfl, named⟩ := of_movement asked
      exact .moves method path named
  | balance segment =>
      cases method : request.method <;> rw [method] at leads <;> cases leads
      all_goals exact demands_map known (fun _ => le_status_of_readIdentifier) fun id _ => .balance path
  | history segment =>
      cases method : request.method <;> rw [method] at leads <;> cases leads
      all_goals exact demands_map known (fun _ => le_status_of_readIdentifier) fun id _ => .history path
  | transaction segment =>
      cases method : request.method <;> rw [method] at leads <;> cases leads
      all_goals exact demands_map known (fun _ => le_status_of_readIdentifier) fun id _ => .transaction path

/-- Whatever a request is, it demands one of these things. -/
theorem Request.demands (request : Request) : request.Demands request.demand := by
  unfold demand
  split
  · rename_i path
    cases (Resource.health.endpoint? request.method).isSome with
    | true =>
        refine .told rfl ?_
        rw [path]
        nofun
    | false => exact .refused (show 400 ≤ 405 by decide)
  · rename_i user known notHealth
    unfold demandOf
    cases path : Resource.ofPath? request.path with
    | none => exact .refused (show 400 ≤ 404 by decide)
    | some resource =>
        cases leads : resource.endpoint? request.method with
        | none =>
            simp only [leads]
            exact .refused (show 400 ≤ 405 by decide)
        | some endpoint =>
            simp only [leads]
            exact demandAt_demands known path leads
  · exact .refused (show 400 ≤ 401 by decide)

end Demands

end Passbook.Http
