import Passbook.Proofs.Http.Amounts
import Passbook.Proofs.Json.Numbers
/-!
# Amounts given as numbers

The amount of a movement may be a JSON number or a text.  A whole number of 64 bits and a number of fifteen digits
request the same amount as the text of the same digits; of longer numbers only the nearest number of double precision
is requested, which may be another amount.
-/

namespace Passbook

open Json (NumberLiteral Tree)
open Decimal (Spells)

/-! ### Like requests -/

/-- Two requested amounts are alike if they are one amount of money, or decimals of one value. -/
inductive RequestedAmount.Alike : RequestedAmount → RequestedAmount → Prop where
  | exact (money : Money) : Alike (.exact money) (.exact money)
  | accountCurrency {value value' : Decimal} (same : value.toRat = value'.toRat) :
      Alike (.accountCurrency value) (.accountCurrency value')

/-- Two requested movements are alike if they differ in nothing but how the amount is written. -/
structure MovementRequest.Alike (request request' : MovementRequest) : Prop where
  account : request.account = request'.account
  amount : request.amount.Alike request'.amount
  source : request.source = request'.source
  target : request.target = request'.target

section Amounts

variable {text text' : String} {number : ℚ}

/-- A text that spells a number is read as that number of major units. -/
theorem Decimal.Spells.parseDecimal (spells : Spells text number) :
    ∃ value, Money.parseDecimal text = .ok value ∧ value.toRat = number := by
  obtain ⟨value, parsed, same⟩ := spells.exists_parse
  obtain ⟨numeral, spelled, -⟩ := spells
  have trimmed : Text.trim text = text := by
    rw [Text.trim, Text.trimChars_of_no_blank (spelled ▸ isBlank_of_mem_text numeral), String.ofList_toList]
  exact ⟨value, by rw [Money.parseDecimal, trimmed, parsed], same⟩

/-- Major units of one value come to one amount of money, or none of them comes to any. -/
theorem Money.toOption_ofMajor {value value' : Decimal} (same : value.toRat = value'.toRat) (currency : Currency) :
    (ofMajor value currency).toOption = (ofMajor value' currency).toOption := by
  rcases ofMajor_cases value currency with ⟨money, accepted, inCurrency, worth⟩ | ⟨⟨_, refused⟩, outside⟩ <;>
    rcases ofMajor_cases value' currency with ⟨money', accepted', inCurrency', worth'⟩ | ⟨⟨_, refused'⟩, outside'⟩
  · have amount : money.amount = money'.amount := by
      rw [IsWorth, same, inCurrency, ← inCurrency', ← worth'] at worth
      exact_mod_cast worth
    rw [accepted, accepted', eq_of_amount amount (inCurrency.trans inCurrency'.symm)]
  · rw [IsWorth, same, inCurrency] at worth
    exact absurd ⟨money.least_le, money.le_greatest⟩ (outside' _ worth)
  · rw [IsWorth, ← same, inCurrency'] at worth'
    exact absurd ⟨money'.least_le, money'.le_greatest⟩ (outside _ worth')
  · rw [refused, refused']
    rfl

/-- Texts that spell one number request like amounts, or none. -/
theorem RequestedAmount.parseMajor_alike (spells : Spells text number) (spells' : Spells text' number)
    (currency : Option Currency) :
    Option.Rel Alike (parseMajor text currency).toOption (parseMajor text' currency).toOption := by
  obtain ⟨value, parsed, same⟩ := spells.parseDecimal
  obtain ⟨value', parsed', same'⟩ := spells'.parseDecimal
  cases currency with
  | none =>
      simp only [parseMajor, parsed, parsed']
      exact .some (.accountCurrency (same.trans same'.symm))
  | some currency =>
      have money := Money.toOption_ofMajor (same.trans same'.symm) currency
      simp only [parseMajor, Money.parseMajor, parsed, parsed', bind, Except.bind]
      cases accepted : Money.ofMajor value currency <;> cases accepted' : Money.ofMajor value' currency <;>
        rw [accepted, accepted'] at money
      · exact .none
      · cases money
      · cases money
      · cases money
        exact .some (.exact _)

/-- Some amount is always accepted. -/
theorem RequestedAmount.exists_parseMajor_one (currency : Option Currency) :
    ∃ amount, parseMajor "1" currency = .ok amount := by
  rcases currency with _ | currency
  · exact ⟨_, rfl⟩
  · cases currency <;> exact ⟨_, rfl⟩

end Amounts

/-! ### Bodies around an amount -/

namespace Http.MovementBody

/-- What stands around the amount in a body: other members of a record, or the rest of a list. -/
inductive Around where
  | named (before after : List (Option String × Tree)) (closed : Bool)
  | listed (rest : List Tree) (closed : Bool)

def Around.body : Around → Tree → Tree
  | named before after closed, amount => .object (before ++ (some "amount", amount) :: after) closed
  | listed rest closed, amount => .array (amount :: rest) closed

/-- The movement that is asked for, if the body can be read and is accepted. -/
def asked (account : AccountId) (body : Tree) : Option MovementRequest :=
  (shape.read body).toOption.bind fun body => (body.toRequest account).toOption

def askedAmount (amount : Tree) (currency : Option Currency) : Option RequestedAmount :=
  (readAmount amount).toOption.bind fun text => (RequestedAmount.parseMajor text currency).toOption

/-- An amount that is given as a text. -/
def quoted (cs : List Char) : Tree := .string (some (String.ofList cs))

def one : Tree := .string (some "1")

def Draft.withAmount (text : String) (draft : Draft) : Draft := { draft with amount := some text }

def withAmount (text : String) (body : MovementBody) : MovementBody := { body with amount := text }

/-- A field that does not depend on the amount. -/
def Keeps (field : Json.Field Draft) : Prop :=
  ∀ value draft text, field.read value (draft.withAmount text) = (field.read value draft).map (Draft.withAmount text)

theorem keeps_of_name {field : Json.Field Draft} (member : field ∈ shape.fields) (other : field.name ≠ "amount") :
    Keeps field := by
  have keeps (name : String) {put : Option String → Draft → Draft}
      (commutes : ∀ content draft text, put content (draft.withAmount text) = (put content draft).withAmount text) :
      Keeps (optionalText name put) := by
    intro value draft text
    simp only [optionalText, Json.Field.of, bind, Except.bind]
    cases Tree.readOptional Tree.readText value with
    | error _ => rfl
    | ok content => exact congrArg Except.ok (commutes content draft text)
  simp only [shape, List.mem_cons, List.not_mem_nil, or_false] at member
  rcases member with rfl | rfl | rfl | rfl | rfl | rfl
  · exact absurd rfl other
  all_goals exact keeps _ fun _ _ _ => rfl

section Reading

variable {seen : List String} {d : Draft}

private theorem toOption_map {ε α β : Type} (result : Except ε α) (f : α → β) :
    (result.map f).toOption = result.toOption.map f := by
  cases result <;> rfl

private theorem toOption_bind {ε α β : Type} (result : Except ε α) (f : α → Except ε β) :
    (result.bind f).toOption = result.toOption.bind fun a => (f a).toOption := by
  cases result <;> rfl

/-- Once there is an amount, what is read after it does not depend on it. -/
theorem readNamed_withAmount (amountSeen : "amount" ∈ seen) (members : List (Option String × Tree)) (text : String) :
    Json.readNamed shape.fields seen members (d.withAmount text) =
      (Json.readNamed shape.fields seen members d).map (Draft.withAmount text) := by
  induction members generalizing seen d with
  | nil => rfl
  | cons member members inductionHypothesis =>
      obtain ⟨_ | key, value⟩ := member
      · rfl
      · cases found : shape.fields.find? (·.name == key) with
        | none =>
            simp only [Json.readNamed, found]
            split
            · exact inductionHypothesis amountSeen
            · rfl
        | some field =>
            have name : field.name = key := by simpa using List.find?_some found
            simp only [Json.readNamed, found]
            split
            · rfl
            · rename_i unseen
              have other : field.name ≠ "amount" := fun is => unseen (name ▸ is ▸ amountSeen)
              rw [keeps_of_name (List.mem_of_find?_eq_some found) other]
              cases field.read value d with
              | error _ => rfl
              | ok d => exact inductionHypothesis (List.mem_cons_of_mem _ amountSeen)

/-- Of a record with an amount the amount and all else is read. -/
theorem toOption_readNamed (seen : List String) (draft : Draft) (before after : List (Option String × Tree))
    (amount : Tree) : (Json.readNamed shape.fields seen (before ++ (some "amount", amount) :: after) draft).toOption =
      (readAmount amount).toOption.bind fun text =>
        (Json.readNamed shape.fields seen (before ++ (some "amount", one) :: after) draft).toOption.map
          (Draft.withAmount text) := by
  induction before generalizing seen draft with
  | nil =>
      have found : shape.fields.find? (·.name == "amount") =
        some (.of "amount" readAmount fun text draft => { draft with amount := some text }) := rfl
      simp only [List.nil_append, Json.readNamed, found]
      split
      · cases readAmount amount <;> rfl
      · cases read : readAmount amount with
        | error _ =>
            simp only [Json.Field.of, read, bind, Except.bind]
            rfl
        | ok text =>
            have commutes :=
              readNamed_withAmount (d := draft.withAmount "1") (List.mem_cons_self (l := seen)) after text
            simp only [Json.Field.of, read, bind, Except.bind]
            exact (congrArg Except.toOption commutes).trans (toOption_map _ _)
  | cons member before inductionHypothesis =>
      obtain ⟨_ | key, value⟩ := member
      · cases readAmount amount <;> rfl
      · simp only [List.cons_append, Json.readNamed]
        split
        · split
          · cases readAmount amount <;> rfl
          · rename_i field _ _
            cases field.read value draft with
            | error _ => cases readAmount amount <;> rfl
            | ok draft => exact inductionHypothesis (key :: seen) draft
        · split
          · exact inductionHypothesis seen draft
          · cases readAmount amount <;> rfl

/-- What is read of a list behind the amount does not depend on it either. -/
theorem readPositional_withAmount {fields : List (Json.Field Draft)} (keeps : ∀ field ∈ fields, Keeps field)
    (closed : Bool) (items : List Tree) (text : String) :
    Json.readPositional closed fields items (d.withAmount text) =
      (Json.readPositional closed fields items d).map (Draft.withAmount text) := by
  induction fields generalizing items d with
  | nil =>
      cases items with
      | nil => cases closed <;> rfl
      | cons _ _ => rfl
  | cons field fields inductionHypothesis =>
      cases items with
      | nil => rfl
      | cons item items =>
          rw [List.forall_mem_cons] at keeps
          simp only [Json.readPositional, keeps.1 item d text]
          cases field.read item d with
          | error _ => rfl
          | ok d => exact inductionHypothesis keeps.2 items

/-- What is read of a body before it is made of the draft. -/
def Around.readDraft : Around → Tree → Except Json.Problem Draft
  | named before after closed, amount => do
      let draft ← Json.readNamed shape.fields [] (before ++ (some "amount", amount) :: after) shape.empty
      if closed then .ok draft else .error .malformed
  | listed rest closed, amount => Json.readPositional closed shape.fields (amount :: rest) shape.empty

theorem toOption_read_eq (around : Around) (amount : Tree) :
    (shape.read (around.body amount)).toOption = (around.readDraft amount).toOption.bind shape.build := by
  cases around with
  | named before after closed =>
      simp only [Around.body, Json.Shape.read, Around.readDraft, bind, Except.bind]
      cases Json.readNamed shape.fields [] (before ++ (some "amount", amount) :: after) shape.empty with
      | error _ => rfl
      | ok draft =>
          cases closed with
          | false => rfl
          | true => cases built : shape.build draft <;> simp [built, Except.toOption]
  | listed rest closed =>
      simp only [Around.body, Json.Shape.read, Around.readDraft, bind, Except.bind]
      cases Json.readPositional closed shape.fields (amount :: rest) shape.empty with
      | error _ => rfl
      | ok draft => cases built : shape.build draft <;> simp [built, Except.toOption]

/-- Of a body with an amount the amount and all else is read. -/
theorem toOption_readDraft (around : Around) (amount : Tree) :
    (around.readDraft amount).toOption = (readAmount amount).toOption.bind fun text =>
      (around.readDraft one).toOption.map (Draft.withAmount text) := by
  cases around with
  | named before after closed =>
      have read := toOption_readNamed [] shape.empty before after amount
      have close (d : Draft) : (if closed then .ok d else .error .malformed : Except Json.Problem Draft).toOption =
          if closed then some d else none := by
        cases closed <;> rfl
      simp only [Around.readDraft, bind, toOption_bind, read, close, Option.bind_assoc]
      cases closed <;> simp
  | listed rest closed =>
      have others : ∀ field ∈ shape.fields.tail, Keeps field := fun field member =>
        keeps_of_name (List.mem_of_mem_tail member) (by
          simp only [shape, List.tail_cons, List.mem_cons, List.not_mem_nil, or_false] at member
          rcases member with rfl | rfl | rfl | rfl | rfl <;> decide)
      cases read : readAmount amount with
      | error _ =>
          simp only [Around.readDraft, shape, Json.readPositional, Json.Field.of, read, bind, Except.bind]
          rfl
      | ok text =>
          have commutes := readPositional_withAmount (d := shape.empty.withAmount "1") others closed rest text
          simp only [Around.readDraft, shape, Json.readPositional, Json.Field.of, read, bind, Except.bind]
          exact (congrArg Except.toOption commutes).trans (toOption_map _ _)

theorem toOption_read (around : Around) (amount : Tree) :
    (shape.read (around.body amount)).toOption = (readAmount amount).toOption.bind fun text =>
      (shape.read (around.body one)).toOption.map (withAmount text) := by
  have same := toOption_readDraft around one
  rw [toOption_read_eq, toOption_read_eq, toOption_readDraft]
  cases readAmount amount with
  | error _ => rfl
  | ok text =>
      cases read : around.readDraft one with
      | error _ => rfl
      | ok draft =>
          -- The draft has an amount, and that is one major unit.
          rw [read] at same
          rw [Option.some.inj same]
          rfl

end Reading

/-! ### Movements around an amount -/

section Movements

variable {account : AccountId} {around : Around} {amount amount' : Tree}

/-- A movement is accepted if its amount is, and all else. -/
theorem toOption_toRequest (account : AccountId) (body : MovementBody) (text : String)
    {currency : Option Currency} (stated : body.statedCurrency = .ok currency) :
    ((body.withAmount text).toRequest account).toOption =
      (RequestedAmount.parseMajor text currency).toOption.bind fun amount =>
        ((body.withAmount "1").toRequest account).toOption.map fun request => { request with amount := amount } := by
  obtain ⟨unit, accepted⟩ := RequestedAmount.exists_parseMajor_one currency
  have stated' (text : String) : (body.withAmount text).statedCurrency = .ok currency := stated
  have target (text : String) : (body.withAmount text).target = body.target := rfl
  have source (text : String) : (body.withAmount text).source = body.source := rfl
  have amount (text : String) : (body.withAmount text).amount = text := rfl
  simp only [toRequest, stated', target, source, amount, accepted, bind, Except.bind]
  generalize RequestedAmount.parseMajor text currency = parsed
  generalize body.target = target
  generalize body.source = source
  cases parsed with
  | error _ => rfl
  | ok amount =>
      cases target with
      | error _ => rfl
      | ok target =>
          cases source with
          | some name =>
              dsimp only
              cases MoneySource.parse name <;> rfl
          | none => cases target <;> rfl

/-- No movement is accepted if its currency is not. -/
theorem toOption_toRequest_of_error {body : MovementBody} {text : String} {e : LedgerError}
    (stated : body.statedCurrency = .error e) : ((body.withAmount text).toRequest account).toOption = none := by
  have stated' : (body.withAmount text).statedCurrency = .error e := stated
  rw [toRequest, stated']
  rfl

/-- The movement that a body asks for is the one it asks for with one major unit, for the amount that is read. -/
theorem asked_body (account : AccountId) (around : Around) (amount : Tree) :
    asked account (around.body amount) = (shape.read (around.body one)).toOption.bind fun body =>
      body.statedCurrency.toOption.bind fun currency => (body.toRequest account).toOption.bind fun request =>
        (askedAmount amount currency).map fun amount => { request with amount := amount } := by
  have same := toOption_read around one
  rw [asked, toOption_read around amount]
  cases read : shape.read (around.body one) with
  | error _ => cases readAmount amount <;> rfl
  | ok body =>
      have unit : body.withAmount "1" = body := by
        rw [read] at same
        exact (Option.some.inj same).symm
      have reduced : ((readAmount amount).toOption.bind fun text => some (body.withAmount text)).bind
          (fun body => (body.toRequest account).toOption) =
          (readAmount amount).toOption.bind fun text => ((body.withAmount text).toRequest account).toOption := by
        cases readAmount amount <;> rfl
      refine reduced.trans ?_
      show _ = body.statedCurrency.toOption.bind _
      cases stated : body.statedCurrency with
      | error _ =>
          simp only [toOption_toRequest_of_error stated]
          cases readAmount amount <;> rfl
      | ok currency =>
          have request (text : String) := toOption_toRequest account body text stated
          simp only [unit] at request
          simp only [request]
          show _ = (body.toRequest account).toOption.bind _
          unfold askedAmount
          cases readAmount amount with
          | error _ => cases body.toRequest account <;> rfl
          | ok text =>
              simp only [Except.toOption, Option.bind_some]
              cases body.toRequest account <;> cases RequestedAmount.parseMajor text currency <;> rfl

/-- Requested amounts are alike if they make alike requests of one that differs in nothing else. -/
theorem map_alike_iff {asked asked' : Option RequestedAmount} (request : MovementRequest) :
    Option.Rel MovementRequest.Alike (asked.map fun amount => { request with amount := amount })
      (asked'.map fun amount => { request with amount := amount }) ↔ Option.Rel RequestedAmount.Alike asked asked' := by
  cases asked <;> cases asked'
  · exact ⟨fun _ => .none, fun _ => .none⟩
  · exact ⟨nofun, nofun⟩
  · exact ⟨nofun, nofun⟩
  · exact ⟨fun | .some alike => .some alike.amount, fun | .some alike => .some ⟨rfl, alike, rfl, rfl⟩⟩

/-- Two bodies that differ in the amount only ask for like movements exactly if they ask for like amounts, or if no
amount in their place would be accepted. -/
theorem asked_alike_iff :
    Option.Rel MovementRequest.Alike (asked account (around.body amount)) (asked account (around.body amount')) ↔
      ∀ body request currency, shape.read (around.body one) = .ok body → body.toRequest account = .ok request →
        body.statedCurrency = .ok currency →
        Option.Rel RequestedAmount.Alike (askedAmount amount currency) (askedAmount amount' currency) := by
  rw [asked_body, asked_body account around amount']
  constructor
  · intro alike body request currency read accepted stated
    rw [read] at alike
    simp only [Except.toOption, Option.bind_some, stated, accepted] at alike
    exact (map_alike_iff request).mp alike
  · intro alike
    cases read : shape.read (around.body one) with
    | error _ => exact .none
    | ok body =>
        cases stated : body.statedCurrency with
        | error _ =>
            simp only [Except.toOption, Option.bind_some, stated]
            exact .none
        | ok currency =>
            cases accepted : body.toRequest account with
            | error _ =>
                simp only [Except.toOption, Option.bind_some, stated, accepted]
                exact .none
            | ok request =>
                simp only [Except.toOption, Option.bind_some, stated, accepted]
                exact (map_alike_iff request).mpr (alike body request currency read accepted stated)

end Movements

/-! ### Numbers and texts -/

section Numbers

variable {cs : List Char} {literal : NumberLiteral}

/-- A whole number of 64 bits and a number of fifteen digits request the same amount as the text of the same
characters. -/
theorem askedAmount_alike (spelled : Json.readNumber (cs.map some) = some (literal, []))
    (kept : (∃ n, literal.value? = some (.integer n)) ∨ literal.IsShort) (currency : Option Currency) :
    Option.Rel RequestedAmount.Alike (askedAmount (.number literal) currency) (askedAmount (quoted cs) currency) := by
  obtain ⟨numeral, rfl, spells⟩ := Json.exists_numeral spelled
  have again : numeral.HasRoom ∧ ∃ value, literal.value? = some value ∧ Spells value.toText numeral.value := by
    rcases kept with ⟨n, read⟩ | short
    · obtain ⟨room, value, again⟩ := spells.of_integer read
      exact ⟨room, _, read, value ▸ again⟩
    · exact ⟨spells.hasRoom short, spells.of_isShort short⟩
  obtain ⟨room, value, read, again⟩ := again
  have text : Spells (String.ofList numeral.text) numeral.value :=
    ⟨numeral, String.toList_ofList, spells.plain, room, rfl⟩
  have number : askedAmount (.number literal) currency =
      (RequestedAmount.parseMajor value.toText currency).toOption := by
    simp only [askedAmount, readAmount, read]
    rfl
  rw [number]
  exact RequestedAmount.parseMajor_alike again text currency

/-- A body with a number for its amount and the body with the same characters in quotes, which are read as that text,
ask for like movements, or for none, exactly if number and text are read as like amounts, or if no amount in their
place would be accepted.  So they do for whole numbers of 64 bits and for numbers of fifteen digits. -/
theorem number_like_text (spelled : Json.readNumber (cs.map some) = some (literal, [])) (account : AccountId) :
    (∀ rest, Json.readToken (some '"' :: (cs.map some ++ some '"' :: rest)) =
      some (.string (some (String.ofList cs)), rest)) ∧
    (∀ around : Around,
      Option.Rel MovementRequest.Alike (asked account (around.body (.number literal)))
        (asked account (around.body (quoted cs))) ↔
      ∀ body request currency, shape.read (around.body one) = .ok body → body.toRequest account = .ok request →
        body.statedCurrency = .ok currency →
        Option.Rel RequestedAmount.Alike (askedAmount (.number literal) currency) (askedAmount (quoted cs) currency)) ∧
    ((∃ n, literal.value? = some (.integer n)) ∨ literal.IsShort →
      ∀ around : Around, Option.Rel MovementRequest.Alike (asked account (around.body (.number literal)))
        (asked account (around.body (quoted cs)))) := by
  refine ⟨?_, fun around => asked_alike_iff, fun kept around => asked_alike_iff.mpr fun _ _ currency _ _ _ =>
    askedAmount_alike spelled kept currency⟩
  obtain ⟨numeral, rfl, -⟩ := Json.exists_numeral spelled
  exact Json.readToken_quoted numeral

def someAccount : AccountId := ⟨Uuid.ofNat 7⟩

def inDollars : Around := .named [] [(some "currency", .string (some "USD"))] true

def twelveAndAHalf : NumberLiteral := ⟨false, ['1', '2'], ['5'], none⟩

theorem number_like_text_dollars :
    Json.readNumber (['1', '2', '.', '5'].map some) = some (twelveAndAHalf, []) ∧
    asked someAccount (inDollars.body (.number twelveAndAHalf)) =
      some (.internal someAccount (.exact ⟨1250, .usd, by decide, by decide⟩)) ∧
    Option.Rel MovementRequest.Alike (asked someAccount (inDollars.body (.number twelveAndAHalf)))
      (asked someAccount (inDollars.body (quoted ['1', '2', '.', '5']))) := by
  have spelled : Json.readNumber (['1', '2', '.', '5'].map some) = some (twelveAndAHalf, []) := by decide
  have short : twelveAndAHalf.IsShort := ⟨by decide, by decide, nofun, by decide, by decide, by decide⟩
  exact ⟨spelled, by decide +kernel, (number_like_text spelled someAccount).2.2 (.inr short) inDollars⟩

/-- An amount of sixteen digits, the last of which a number of double precision does not hold. -/
def sixteenDigits : NumberLiteral :=
  ⟨false, ['9', '0', '0', '7', '1', '9', '9', '2', '5', '4', '7', '4', '0', '9'], ['9', '3'], none⟩

/-- Longer numbers do not all request the amount that their text requests: of 90071992547409.93 dollars a cent is
lost. -/
theorem not_forall_number_like_text :
    ¬ ∀ (cs : List Char) (literal : NumberLiteral) (around : Around) (account : AccountId),
      Json.readNumber (cs.map some) = some (literal, []) →
      Option.Rel MovementRequest.Alike (asked account (around.body (.number literal)))
        (asked account (around.body (quoted cs))) := by
  intro all
  have spelled : Json.readNumber ("90071992547409.93".toList.map some) = some (sixteenDigits, []) := by decide +kernel
  have alike := all _ _ inDollars someAccount spelled
  have number : asked someAccount (inDollars.body (.number sixteenDigits)) =
      some (.internal someAccount (.exact ⟨9007199254740992, .usd, by decide, by decide⟩)) := by decide +kernel
  have text : asked someAccount (inDollars.body (quoted "90071992547409.93".toList)) =
      some (.internal someAccount (.exact ⟨9007199254740993, .usd, by decide, by decide⟩)) := by decide +kernel
  rw [number, text] at alike
  cases alike with
  | some alike => cases alike.amount

end Numbers

end Http.MovementBody

end Passbook
