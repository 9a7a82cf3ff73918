import Passbook.Http.Server
import Passbook.Proofs.Identifiers
import Passbook.Proofs.Service.Effect
import Passbook.Proofs.Service.Performance
import Passbook.Proofs.Text.Utf8
/-!
# Requests to a server

What a known user demands, and what is known of a server that keeps its ledger in memory after any requests:
operations are carried out by themselves, and no account stands under an identifier that is to come.
-/

namespace Passbook

open Store (Tables)

namespace Http

open Service (Ledger Operation)

variable {server : Server} {request : Request} {user : UserId}

/-- What a known user demands whose path and method lead to an endpoint. -/
theorem Request.demand_eq {resource : Resource} {endpoint : Endpoint}
    (path : Resource.ofPath? request.path = some resource) (known : request.identity? = some user)
    (leads : resource.endpoint? request.method = some endpoint) :
    request.demand = request.demandAt user endpoint := by
  cases resource with
  | health =>
      have isHealth : endpoint = .health := by
        cases method : request.method <;> rw [method] at leads <;> cases leads <;> rfl
      simp only [demand, path, leads, isHealth, demandAt, Option.isSome_some, if_true]
  | _ => simp only [demand, demandOf, path, known, leads]

/-! ### Bodies -/

section Bodies

variable {δ α : Type} {shape : Json.Shape δ α} {body : α}

/-- A body is read that is announced, is not too long, and begins with a value of the shape. -/
theorem Request.readBody_eq_ok_iff :
    request.readBody shape = .ok body ↔
      request.hasJsonBody = true ∧ request.body.length ≤ bodyLimit ∧
        Json.readFront shape.read request.body = .ok body := by
  unfold readBody
  cases request.hasJsonBody with
  | false => simp
  | true =>
      by_cases short : request.body.length ≤ bodyLimit
      · rw [if_neg (by simp), if_neg (Nat.not_lt_of_le short)]
        cases Json.readFront shape.read request.body with
        | ok => simp [short]
        | error problem => cases problem <;> simp
      · simp [short, Nat.lt_of_not_le short]

/-- A body that is too long is not read. -/
theorem Request.readBody_of_long (announced : request.hasJsonBody = true) (long : bodyLimit < request.body.length) :
    request.readBody shape = .error (.bare 413) := by
  simp [readBody, announced, long]

/-- A body that cannot be read is the client's mistake. -/
theorem Request.status_of_readBody {refusal : Reply} (unreadable : request.readBody shape = .error refusal) :
    400 ≤ refusal.status ∧ refusal.status < 500 := by
  unfold readBody at unreadable
  split at unreadable
  · cases unreadable
    exact ⟨by decide, by decide⟩
  split at unreadable
  · cases unreadable
    exact ⟨by decide, by decide⟩
  split at unreadable
  · cases unreadable
  all_goals
    cases unreadable
    exact ⟨by decide, by decide⟩

/-- The bytes of a text are read as this text. -/
theorem readFront_toUTF8 (read : Json.Reader α) (text : String) :
    Json.readFront read text.toUTF8.data.toList = read (Json.treeOf text.toList).1 := by
  rw [Json.readFront, Text.utf8Signs_toUTF8, Json.treeOf]

end Bodies

namespace Server

def tables (server : Server) : Tables := server.ledger.store.world.tables

def after (server : Server) (requests : List Request) : Server :=
  requests.foldl (fun server request => (server.respond request).2) server

/-! ### A server after requests -/

/-- What is known of a server that keeps its ledger in memory after so many requests. -/
structure Kept (epoch : Nat) (settings : Config.Settings) (count : Nat) (server : Server) : Prop where
  atRest : server.ledger.store.AtRest
  timeout : server.operationTimeout = settings.operationTimeout
  currency : server.ledger.defaultCurrency = settings.defaultCurrency
  time : server.ledger.store.millis = epoch
  ids : max server.ledger.store.ids.millis epoch ≤ epoch + count * Ledger.allowance
  /-- Every account stands under an identifier that was given out. -/
  past : ∀ id, server.tables.account? id ≠ none → server.ledger.store.ids.IsPast id.uuid

section Kept

variable {epoch count : Nat} {settings : Config.Settings}

theorem Kept.inMemory (epoch : Nat) (settings : Config.Settings) :
    (inMemory epoch settings).Kept epoch settings 0 where
  atRest := .start epoch rfl
  timeout := rfl
  currency := rfl
  time := rfl
  ids := by simp [Server.inMemory, Ledger.start, Session.Simulation.start]
  past := fun _ found => absurd rfl found

/-- What such a server does to carry out an operation. -/
theorem Kept.exists_performs (kept : server.Kept epoch settings count) (inTime : 0 < settings.operationTimeout)
    (user : UserId) (operation : Operation) :
    ∃ outcome readings ledger,
      server.carryOut (.perform user operation) =
        (replyToOutcome operation (some outcome), { server with ledger := ledger }) ∧
      server.ledger.Performs user operation readings outcome ledger := by
  let call : Service.Call := { user := user, operation := operation, timeout := some server.operationTimeout }
  have someTime : ∀ timeout, call.timeout = some timeout → 0 < timeout := by
    rintro timeout ⟨rfl⟩
    exact kept.timeout ▸ inTime
  obtain ⟨outcome, readings, ledger, performed, performs⟩ :=
    Ledger.exists_performs kept.atRest (rfl : call.delay = 0) someTime
  refine ⟨outcome, readings, ledger, ?_, performs⟩
  simp only [carryOut]
  rw [show server.ledger.perform _ = _ from performed]

/-- Whatever is demanded, the server goes on as such a server. -/
theorem Kept.carryOut (kept : server.Kept epoch settings count) (inTime : 0 < settings.operationTimeout)
    (demand : Demand) : (server.carryOut demand).2.Kept epoch settings (count + 1) := by
  cases demand with
  | reply reply => exact { kept with ids := Nat.le_trans kept.ids (by rw [Nat.succ_mul]; omega) }
  | perform user operation =>
      obtain ⟨outcome, readings, ledger, carried, performs⟩ := kept.exists_performs inTime user operation
      obtain ⟨drawn, few, handedOut, ids⟩ := performs.drawn
      rw [carried]
      refine ⟨performs.atRest, kept.timeout, performs.currency.trans kept.currency,
        performs.time.trans kept.time, ?_, ?_⟩
      · have onward := server.ledger.store.ids.max_millis_take_le server.ledger.store.millis drawn
        have before := kept.ids
        rw [← ids, kept.time] at onward
        rw [Nat.succ_mul]
        show max ledger.store.ids.millis epoch ≤ _
        omega
      · intro id found
        show ledger.store.ids.IsPast id.uuid
        rw [ids]
        by_cases isFresh : id.uuid ∈ (server.ledger.store.ids.take server.ledger.store.millis drawn).1
        · exact Uuid.Source.isPast_of_mem_take isFresh
        · refine (kept.past id fun absent => found ?_).take _ _
          exact (Operation.carryOut_effect handedOut performs.carried).account?_eq_none isFresh absent

theorem Kept.after (kept : server.Kept epoch settings count) (inTime : 0 < settings.operationTimeout)
    (requests : List Request) : (server.after requests).Kept epoch settings (count + requests.length) := by
  induction requests generalizing server count with
  | nil => exact kept
  | cons request later inductionHypothesis =>
      have onward := inductionHypothesis (kept.carryOut inTime request.demand)
      rw [Nat.add_assoc, Nat.add_comm 1] at onward
      exact onward

/-- No account stands under an identifier that is handed out next. -/
theorem Kept.unused (kept : server.Kept epoch settings count)
    (early : epoch + (count + 1) * Ledger.allowance < Uuid.weight 48) {operation : Operation}
    {readings : List Session.Reading} {outcome : Session.Outcome Service.Answer} {ledger : Ledger}
    (performs : server.ledger.Performs user operation readings outcome ledger) {id : Uuid}
    (told : .newId id ∈ readings) : server.tables.account? ⟨id⟩ = none := by
  obtain ⟨drawn, few, handedOut, _⟩ := performs.drawn
  have before := kept.ids
  rw [Nat.succ_mul] at early
  refine Classical.byContradiction fun found => ?_
  refine Uuid.Source.not_isPast_of_mem_take ?_ (handedOut id told) (kept.past ⟨id⟩ found)
  rw [kept.time]
  omega

end Kept

end Server

end Http

end Passbook
