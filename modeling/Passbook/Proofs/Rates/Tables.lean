import Mathlib.Data.List.Forall2
import Passbook.Proofs.Decimal.Reciprocals
import Passbook.Proofs.Service.Movements
import Passbook.Rates
/-!
# Tables of rates

A table is made by setting one rate after the other, so that it has for every pair what the pair was given last.
A table that is read piece by piece is made so; what is read later overrides what was read before, and nothing
that was read before has a part in whether the rest can be read.  A rate that is derived from the opposite one is
there whenever that is, but it is nothing where the opposite one is too large for decimals to show the reciprocal.
-/

namespace Passbook

open Decimal

-- Powers are those of natural numbers and integers, whatever else is in scope.
attribute [local instance (2000)] instPowNat

/-- Among the entries with keys of some kind a key of this kind is found where it is found among all. -/
theorem lookup_filter_key {α β : Type} [BEq α] [LawfulBEq α] (kind : α → Bool) (entries : List (α × β)) (key : α) :
    (entries.filter fun entry => kind entry.1).lookup key = if kind key then entries.lookup key else none := by
  induction entries with
  | nil => simp
  | cons entry rest inductionHypothesis =>
      obtain ⟨first, value⟩ := entry
      rw [List.filter_cons]
      by_cases same : key = first
      · subst same
        split
        · rw [List.lookup_cons_self, List.lookup_cons_self]
        · rename_i dropped
          rw [inductionHypothesis, if_neg dropped]
      · have passed : (key == first) = false := by simpa using same
        split
        · rw [List.lookup_cons, List.lookup_cons, passed]
          exact inductionHypothesis
        · rw [List.lookup_cons, passed]
          exact inductionHypothesis

def CurrencyPair.opposite (pair : CurrencyPair) : CurrencyPair := ⟨pair.target, pair.source⟩

namespace RateTable

variable {table later after : RateTable} {pair : CurrencyPair} {rate : Decimal}
  {settings : List (CurrencyPair × Decimal)}

/-! ### One table over another -/

/-- The table with the rates of a later one in place of its own for the same pairs. -/
def overriddenBy (table later : RateTable) : RateTable :=
  ⟨later.settings ++ table.settings.filter fun setting => (later.setting? setting.1).isNone⟩

theorem setting?_overriddenBy (table later : RateTable) (pair : CurrencyPair) :
    (table.overriddenBy later).setting? pair = (later.setting? pair).or (table.setting? pair) := by
  unfold overriddenBy setting?
  rw [List.lookup_append, lookup_filter_key fun key => (later.settings.lookup key).isNone]
  cases later.settings.lookup pair <;> rfl

theorem overriddenBy_empty (table : RateTable) : table.overriddenBy empty = table := by
  simp [overriddenBy, empty, setting?]

theorem empty_overriddenBy (table : RateTable) : empty.overriddenBy table = table := by
  simp [overriddenBy, empty]

theorem overriddenBy_assoc (table between later : RateTable) :
    (table.overriddenBy between).overriddenBy later = table.overriddenBy (between.overriddenBy later) := by
  have kept : ∀ key, ((between.overriddenBy later).setting? key).isNone =
      ((later.setting? key).isNone && (between.setting? key).isNone) := by
    intro key
    rw [setting?_overriddenBy]
    cases later.setting? key <;> rfl
  simp only [overriddenBy, mk.injEq] at kept ⊢
  simp only [kept, List.filter_append, List.filter_filter, List.append_assoc]

/-- A rate that is set overrides the one that was set before. -/
theorem set_eq (table : RateTable) (pair : CurrencyPair) (rate : Decimal) :
    table.set pair rate =
      if rate.isPositive then .ok (table.overriddenBy ⟨[(pair, rate)]⟩)
      else .error (.invalid s!"rate {pair} must be positive") := by
  have kept : ∀ setting : CurrencyPair × Decimal,
      (setting? ⟨[(pair, rate)]⟩ setting.1).isNone = decide (setting.1 ≠ pair) := by
    intro setting
    by_cases same : setting.1 = pair
    · simp [setting?, same]
    · have passed : (setting.1 == pair) = false := by simpa using same
      simp [setting?, List.lookup_cons, same, passed]
  simp only [set, overriddenBy, kept, List.singleton_append]

/-! ### Rates one after the other -/

/-- Set the rates of pairs one after the other. -/
def setAll (table : RateTable) (settings : List (CurrencyPair × Decimal)) : Except LedgerError RateTable :=
  settings.foldlM (fun table setting => table.set setting.1 setting.2) table

def lastRate? (settings : List (CurrencyPair × Decimal)) (pair : CurrencyPair) : Option Decimal :=
  settings.reverse.lookup pair

theorem lastRate?_cons (setting : CurrencyPair × Decimal) (settings : List (CurrencyPair × Decimal))
    (pair : CurrencyPair) :
    lastRate? (setting :: settings) pair =
      (lastRate? settings pair).or (setting? ⟨[setting]⟩ pair) := by
  rw [lastRate?, List.reverse_cons, List.lookup_append]
  rfl

/-- A pair has been given a rate last if it has been given one. -/
theorem exists_lastRate?_iff : (∃ rate, lastRate? settings pair = some rate) ↔ ∃ rate, (pair, rate) ∈ settings := by
  rw [← Option.isSome_iff_exists, lastRate?, List.lookup_isSome_iff]
  constructor
  · rintro ⟨⟨pair', rate⟩, member, same⟩
    cases eq_of_beq same
    exact ⟨rate, List.mem_reverse.mp member⟩
  · rintro ⟨rate, member⟩
    exact ⟨_, List.mem_reverse.mpr member, beq_self_eq_true pair⟩

/-- A table that has been made from nothing by setting rates one after the other. -/
def MadeOf (table : RateTable) (settings : List (CurrencyPair × Decimal)) : Prop :=
  empty.setAll settings = .ok table

/-- Rates that are set override what was set before, and each of them is greater than zero. -/
theorem setAll_eq_ok (done : table.setAll settings = .ok after) :
    (∀ pair, after.setting? pair = (lastRate? settings pair).or (table.setting? pair)) ∧
      ∀ setting ∈ settings, setting.2.isPositive = true := by
  induction settings generalizing table with
  | nil =>
      cases done
      exact ⟨fun _ => rfl, fun _ member => absurd member List.not_mem_nil⟩
  | cons setting settings inductionHypothesis =>
      rw [setAll, List.foldlM_cons, set_eq] at done
      split at done
      · rename_i positive
        obtain ⟨found, positive'⟩ := inductionHypothesis done
        refine ⟨fun pair => ?_, List.forall_mem_cons.mpr ⟨positive, positive'⟩⟩
        rw [found, setting?_overriddenBy, lastRate?_cons, Option.or_assoc]
      · cases done

/-- The rate of a pair is derived from one that is so large that decimals do not show its reciprocal. -/
def Vanishes (settings : List (CurrencyPair × Decimal)) (pair : CurrencyPair) : Prop :=
  lastRate? settings pair = none ∧ ∃ opposite, lastRate? settings pair.opposite = some opposite ∧
    2 * 10 ^ 28 ≤ opposite.toRat

namespace MadeOf

variable (made : table.MadeOf settings)
include made

/-- A table has for a pair what the pair was given last. -/
theorem setting?_eq (pair : CurrencyPair) : table.setting? pair = lastRate? settings pair := by
  rw [(setAll_eq_ok made).1, empty, setting?, List.lookup_nil, Option.or_none]

/-- What it has is greater than zero. -/
theorem isPositive (found : table.setting? pair = some rate) : rate.isPositive = true := by
  rw [made.setting?_eq, lastRate?, List.lookup_eq_some_iff] at found
  obtain ⟨before, later, same, _⟩ := found
  have member : (pair, rate) ∈ settings.reverse := by
    rw [same]
    simp
  exact (setAll_eq_ok made).2 _ (List.mem_reverse.mp member)

/-- The rate between two currencies is the one that was given last, or, where none was, the reciprocal of the
one that the opposite pair was given last. -/
theorem rate?_eq (distinct : pair.source ≠ pair.target) :
    table.rate? pair =
      (lastRate? settings pair).or ((lastRate? settings pair.opposite).bind Decimal.reciprocal?) := by
  rw [rate?, if_neg distinct, made.setting?_eq, ← CurrencyPair.opposite, made.setting?_eq]
  cases lastRate? settings pair <;> rfl

/-- There is a rate between two currencies if one of them was given a rate in the other. -/
theorem exists_rate?_iff (distinct : pair.source ≠ pair.target) :
    (∃ rate, table.rate? pair = some rate) ↔ ∃ rate, (pair, rate) ∈ settings ∨ (pair.opposite, rate) ∈ settings := by
  rw [exists_or, ← exists_lastRate?_iff, ← exists_lastRate?_iff, made.rate?_eq distinct]
  cases lastRate? settings pair with
  | some rate => exact ⟨fun _ => .inl ⟨rate, rfl⟩, fun _ => ⟨rate, rfl⟩⟩
  | none =>
      cases opposite : lastRate? settings pair.opposite with
      | none => simp
      | some given =>
          rw [← made.setting?_eq] at opposite
          have positive := isPositive_iff.mp (made.isPositive opposite)
          have something : 0 < given.mantissa := by
            refine Nat.pos_of_ne_zero fun nothing => ?_
            rw [toRat_of_mantissa_eq_zero nothing] at positive
            exact positive.false
          obtain ⟨inverse, _, inverted, _⟩ := exists_reciprocal? something
          exact ⟨fun _ => .inr ⟨given, rfl⟩, fun _ => ⟨inverse, inverted⟩⟩

/-- No rate has a sign, that of a currency against itself included. -/
theorem negative_eq_false (rated : table.rate? pair = some rate) : rate.negative = false := by
  have unsigned : ∀ {pair rate}, table.setting? pair = some rate → rate.negative = false := by
    intro pair rate found
    have positive := made.isPositive found
    rw [Decimal.isPositive, Bool.and_eq_true, Bool.not_eq_true'] at positive
    exact positive.1
  unfold rate? at rated
  split at rated
  · cases rated
    rfl
  · split at rated
    · rename_i found
      cases rated
      exact unsigned found
    · obtain ⟨opposite, found, inverted⟩ := Option.bind_eq_some_iff.mp rated
      obtain ⟨_, places, inverts⟩ := inverts_of_reciprocal? inverted
      rw [inverts.negative_eq, unsigned found]

/-- No rate is less than zero, and all are greater, but for those that vanish. -/
theorem rate?_pos_iff (distinct : pair.source ≠ pair.target) (rated : table.rate? pair = some rate) :
    0 ≤ rate.toRat ∧ (0 < rate.toRat ↔ ¬ Vanishes settings pair) := by
  rw [made.rate?_eq distinct] at rated
  unfold Vanishes
  cases given : lastRate? settings pair with
  | some given' =>
      rw [given] at rated
      cases rated
      rw [← made.setting?_eq] at given
      have positive := isPositive_iff.mp (made.isPositive given)
      exact ⟨positive.le, fun _ vanishes => Option.some_ne_none _ vanishes.1, fun _ => positive⟩
  | none =>
      rw [given, Option.none_or, Option.bind_eq_some_iff] at rated
      obtain ⟨opposite, given', inverted⟩ := rated
      obtain ⟨_, places, inverts⟩ := inverts_of_reciprocal? inverted
      rw [← made.setting?_eq] at given'
      obtain ⟨nonneg, shown⟩ := inverts.toRat_pos_iff (isPositive_iff.mp (made.isPositive given'))
      refine ⟨nonneg, shown.trans ?_⟩
      rw [← made.setting?_eq pair.opposite, given', ← not_le]
      simp

end MadeOf

/-! ### Reading tables -/

section Reading

variable {piece front behind : List Char} {mark : Char} {currency : Currency}

/-- A text is divided at the first occurrence of a mark. -/
theorem splitAt?_append (absent : mark ∉ front) (behind : List Char) :
    splitAt? mark (front ++ mark :: behind) = some (front, behind) := by
  have passed : ∀ c ∈ front, decide (c ≠ mark) = true := fun c member =>
    decide_eq_true fun same => absent (same ▸ member)
  unfold splitAt?
  rw [if_pos (by simp), List.takeWhile_append_of_pos passed, List.dropWhile_append_of_pos passed]
  simp

theorem splitAt?_eq_some_iff :
    splitAt? mark piece = some (front, behind) ↔ piece = front ++ mark :: behind ∧ mark ∉ front := by
  constructor
  · intro found
    have member : mark ∈ piece := by
      by_contra absent
      rw [splitAt?, if_neg absent] at found
      cases found
    obtain ⟨front', behind', rfl, absent⟩ := List.eq_append_cons_of_mem member
    rw [splitAt?_append absent] at found
    cases found
    exact ⟨rfl, absent⟩
  · rintro ⟨rfl, absent⟩
    exact splitAt?_append absent behind

/-- A text is the code of a currency, in any letter case and with blanks around it. -/
def IsCode (text : List Char) (currency : Currency) : Prop :=
  (Text.trimChars text).map Char.toUpper = currency.code.toList

/-- Only letters have an upper case among the letters of codes. -/
theorem isAlpha_of_toUpper_mem {c : Char} (member : c.toUpper ∈ currency.code.toList) : c.isAlpha = true := by
  have upper : c.toUpper.isUpper = true := by
    have all : currency.code.toList.all Char.isUpper = true := by cases currency <;> decide
    exact List.all_eq_true.mp all _ member
  unfold Char.toUpper at upper
  show (c.isUpper || c.isLower) = true
  rw [Bool.or_eq_true]
  split at upper
  · rename_i lower
    exact .inr ((Bool.and_eq_true _ _).mpr ⟨decide_eq_true lower.1, decide_eq_true lower.2⟩)
  · exact .inl upper

/-- The codes of currencies are read as such, and nothing else is. -/
theorem parse_code_eq_ok_iff {text : List Char} :
    Currency.parse (String.ofList text) = .ok currency ↔ IsCode text currency := by
  unfold Currency.parse Text.trim IsCode
  simp only [String.toList_ofList]
  generalize Text.trimChars text = letters
  constructor
  · intro read
    split at read
    · split at read
      · rename_i found
        cases read
        have same := List.find?_some found
        rw [beq_iff_eq] at same
        rw [same, String.toList_ofList]
      · cases read
    · cases read
  · intro upper
    have wellFormed : Currency.wellFormed (String.ofList letters) = true := by
      have three : currency.code.toList.length = 3 := by cases currency <;> decide
      have length : letters.length = 3 := by rw [← three, ← upper, List.length_map]
      have alpha : letters.all Char.isAlpha = true := List.all_eq_true.mpr fun c member =>
        isAlpha_of_toUpper_mem (upper ▸ List.mem_map_of_mem member)
      simp [Currency.wellFormed, length, alpha]
    have found : Currency.ofCode? currency.code = some currency := by cases currency <;> decide
    rw [if_pos wellFormed, upper, String.ofList_toList, found]

/-- A piece of a table says what the rate of a pair is: two codes with a colon between them, an equality sign, and
a number greater than zero. -/
inductive Spells : List Char → CurrencyPair × Decimal → Prop where
  | intro {source target amount : List Char} {pair : CurrencyPair} {rate : Decimal} (noColon : ':' ∉ source)
      (noEquals : '=' ∉ source ++ ':' :: target) (isSource : IsCode source pair.source)
      (isTarget : IsCode target pair.target)
      (isRate : Decimal.parse (Text.trim (String.ofList amount)) = .ok rate) (positive : 0 < rate.toRat) :
      Spells (source ++ ':' :: target ++ '=' :: amount) (pair, rate)

/-- A piece that says what the rate of a pair is is read as that, and overrides what was read before. -/
theorem Spells.readPiece_eq {setting : CurrencyPair × Decimal} (spells : Spells piece setting) (table : RateTable) :
    table.readPiece piece = .ok (table.overriddenBy ⟨[setting]⟩) := by
  obtain ⟨noColon, noEquals, isSource, isTarget, isRate, positive⟩ := spells
  simp only [readPiece, splitAt?_append noEquals, splitAt?_append noColon, isRate, parse_code_eq_ok_iff.mpr isSource,
    parse_code_eq_ok_iff.mpr isTarget, bind, pure, Except.bind, Except.pure, set_eq, isPositive_iff.mpr positive,
    if_true]

/-- A piece is refused, for the same reason whatever was read before, or it says what the rate of a pair is. -/
theorem refused_or_spells (piece : List Char) :
    (∃ e, ∀ table : RateTable, table.readPiece piece = .error e) ∨ ∃ setting, Spells piece setting := by
  simp only [readPiece]
  cases found : splitAt? '=' piece with
  | none => exact .inl ⟨_, fun _ => rfl⟩
  | some parts =>
    cases divided : splitAt? ':' parts.1 with
    | none => exact .inl ⟨_, fun _ => by simp only [divided]; rfl⟩
    | some codes =>
      cases isRate : Decimal.parse (Text.trim (String.ofList parts.2)) with
      | error e => exact .inl ⟨_, fun _ => by simp only [divided, isRate]; rfl⟩
      | ok rate =>
        cases isSource : Currency.parse (String.ofList codes.1) with
        | error e => exact .inl ⟨e, fun _ => by simp only [divided, isRate, isSource]; rfl⟩
        | ok source =>
          cases isTarget : Currency.parse (String.ofList codes.2) with
          | error e => exact .inl ⟨e, fun _ => by simp only [divided, isRate, isSource, isTarget]; rfl⟩
          | ok target =>
            by_cases positive : rate.isPositive = true
            · obtain ⟨rfl, noEquals⟩ := splitAt?_eq_some_iff.mp found
              obtain ⟨same, noColon⟩ := splitAt?_eq_some_iff.mp divided
              rw [same] at noEquals ⊢
              exact .inr ⟨(⟨source, target⟩, rate), .intro noColon noEquals (parse_code_eq_ok_iff.mp isSource)
                (parse_code_eq_ok_iff.mp isTarget) isRate (isPositive_iff.mp positive)⟩
            · refine .inl ⟨.invalid s!"rate {(⟨source, target⟩ : CurrencyPair)} must be positive", fun _ => ?_⟩
              simp only [divided, isRate, isSource, isTarget, bind, pure, Except.bind, Except.pure, set_eq, positive]
              rfl

/-- What was read before has no part in whether a piece is read, nor in what is wrong with it if it is not; it is
overridden. -/
theorem readPiece_eq (table : RateTable) (piece : List Char) :
    table.readPiece piece = (empty.readPiece piece).map table.overriddenBy := by
  rcases refused_or_spells piece with ⟨e, refused⟩ | ⟨setting, spells⟩
  · rw [refused, refused]
    rfl
  · rw [spells.readPiece_eq, spells.readPiece_eq, empty_overriddenBy]
    rfl

/-- Only what says the rate of a pair is read. -/
theorem readPiece_eq_ok_iff :
    table.readPiece piece = .ok after ↔ ∃ setting, Spells piece setting ∧ after = table.overriddenBy ⟨[setting]⟩ := by
  constructor
  · intro read
    rcases refused_or_spells piece with ⟨e, refused⟩ | ⟨setting, spells⟩
    · cases (refused table).symm.trans read
    · cases (spells.readPiece_eq table).symm.trans read
      exact ⟨setting, spells, rfl⟩
  · rintro ⟨setting, spells, rfl⟩
    exact spells.readPiece_eq table

theorem spells_iff {setting : CurrencyPair × Decimal} :
    Spells piece setting ↔ empty.readPiece piece = .ok ⟨[setting]⟩ := by
  rw [readPiece_eq_ok_iff]
  simp only [empty_overriddenBy, mk.injEq, List.cons.injEq, and_true, exists_eq_right']

/-- What was read before has no part in how pieces are read after it either. -/
theorem foldlM_readPiece (pieces : List (List Char)) (table : RateTable) :
    pieces.foldlM readPiece table = (pieces.foldlM readPiece empty).map table.overriddenBy := by
  induction pieces generalizing table with
  | nil => exact congrArg Except.ok (overriddenBy_empty table).symm
  | cons piece pieces inductionHypothesis =>
      rw [List.foldlM_cons, List.foldlM_cons, readPiece_eq table]
      cases empty.readPiece piece with
      | error e => rfl
      | ok first =>
          show pieces.foldlM readPiece (table.overriddenBy first) =
            (pieces.foldlM readPiece first).map table.overriddenBy
          rw [inductionHypothesis (table.overriddenBy first), inductionHypothesis first]
          cases pieces.foldlM readPiece empty with
          | error e => rfl
          | ok rest => exact congrArg Except.ok (overriddenBy_assoc table first rest)

/-- The pieces of a table that say something, without the blanks around them. -/
def piecesOf (text : String) : List (List Char) :=
  ((pieces text.toList).map Text.trimChars).filter (· ≠ [])

/-- A comma stands between pieces. -/
theorem piecesOf_append (one other : String) :
    piecesOf (one ++ "," ++ other) = piecesOf one ++ piecesOf other := by
  have divided : (one ++ "," ++ other).toList = one.toList ++ ',' :: other.toList := by simp
  simp only [piecesOf, pieces, divided, List.splitOn_append_cons_self, List.map_append, List.filter_append]

/-- A text without a comma is one piece, if it is not blank. -/
theorem piecesOf_of_no_comma {text : String} (noComma : ',' ∉ text.toList) :
    piecesOf text = [Text.trimChars text.toList].filter (· ≠ []) := by
  rw [piecesOf, pieces, List.splitOn_eq_singleton noComma]
  rfl

theorem parse_eq (text : String) : parse text = (piecesOf text).foldlM readPiece empty := rfl

/-- To read the pieces of a table is to set the rates that they say. -/
theorem foldlM_readPiece_eq_setAll {pieces : List (List Char)} (spelled : List.Forall₂ Spells pieces settings)
    (table : RateTable) : pieces.foldlM readPiece table = table.setAll settings := by
  induction spelled generalizing table with
  | nil => rfl
  | @cons piece setting pieces settings spells _ inductionHypothesis =>
      have positive : setting.2.isPositive = true := by
        cases spells with
        | intro _ _ _ _ _ positive => exact isPositive_iff.mpr positive
      rw [List.foldlM_cons, setAll, List.foldlM_cons, set_eq, if_pos positive, spells.readPiece_eq]
      exact inductionHypothesis _

/-- Where a table is read, each of its pieces says the rate of a pair. -/
theorem exists_spelled {pieces : List (List Char)} (read : pieces.foldlM readPiece table = .ok after) :
    ∃ settings, List.Forall₂ Spells pieces settings := by
  induction pieces generalizing table with
  | nil => exact ⟨[], .nil⟩
  | cons piece pieces inductionHypothesis =>
      rw [List.foldlM_cons] at read
      rcases refused_or_spells piece with ⟨e, refused⟩ | ⟨setting, spells⟩
      · rw [refused] at read
        cases read
      · rw [spells.readPiece_eq] at read
        obtain ⟨settings, spelled⟩ := inductionHypothesis read
        exact ⟨setting :: settings, .cons spells spelled⟩

/-- The rates in a table that is read are those that its pieces say, one after the other. -/
theorem madeOf_of_spelled {text : String} (read : parse text = .ok table)
    (spelled : List.Forall₂ Spells (piecesOf text) settings) : table.MadeOf settings :=
  (foldlM_readPiece_eq_setAll spelled empty).symm.trans read

end Reading

/-! ### What tables are read as -/

/-- A text is read piece by piece: at every comma it is divided into what is read first and what overrides that.
A piece that is not blank has to say the rate of a pair, which is all that is read from it.  So between two
currencies a table has the rate that was said last, or the reciprocal of the one that was said last for the opposite
pair; a currency against itself has the rate one, whatever the table says. -/
theorem parse_piecewise :
    (∀ one other : String,
      parse (one ++ "," ++ other) = do
        let first ← parse one
        let later ← parse other
        return first.overriddenBy later) ∧
    (∀ (first later : RateTable) (pair : CurrencyPair),
      (first.overriddenBy later).setting? pair = (later.setting? pair).or (first.setting? pair)) ∧
    (∀ text : String, ',' ∉ text.toList →
      (Text.trimChars text.toList = [] → parse text = .ok empty) ∧
      (Text.trimChars text.toList ≠ [] → ∀ table, parse text = .ok table ↔
        ∃ setting, Spells (Text.trimChars text.toList) setting ∧ table = ⟨[setting]⟩)) ∧
    (∀ text table, parse text = .ok table →
      (∃ settings, List.Forall₂ Spells (piecesOf text) settings) ∧
      ∀ settings, List.Forall₂ Spells (piecesOf text) settings →
        ∀ pair : CurrencyPair, pair.source ≠ pair.target →
          table.rate? pair =
            (lastRate? settings pair).or ((lastRate? settings pair.opposite).bind Decimal.reciprocal?)) ∧
    ∀ (table : RateTable) (currency : Currency), table.rate? ⟨currency, currency⟩ = some unitRate := by
  refine ⟨fun one other => ?_, setting?_overriddenBy, fun text noComma => ⟨fun blank => ?_, fun notBlank table => ?_⟩,
    fun text table read => ?_, fun table currency => if_pos rfl⟩
  · rw [parse_eq, parse_eq, parse_eq, piecesOf_append, List.foldlM_append]
    refine bind_congr fun first => ?_
    rw [foldlM_readPiece]
    cases (piecesOf other).foldlM readPiece empty <;> rfl
  · rw [parse_eq, piecesOf_of_no_comma noComma, blank]
    rfl
  · rw [parse_eq, piecesOf_of_no_comma noComma, List.filter_cons_of_pos (by simpa using notBlank), List.filter_nil]
    simp only [List.foldlM_cons, List.foldlM_nil, bind_pure, readPiece_eq_ok_iff, empty_overriddenBy]
  · exact ⟨exists_spelled read, fun settings spelled pair distinct =>
      (madeOf_of_spelled read spelled).rate?_eq distinct⟩

/-- A text that says the rate of a pair twice. -/
theorem spelled_repeatedEuro :
    List.Forall₂ Spells (piecesOf ("EUR:USD=1.08, usd : jpy=150" ++ "," ++ " EUR:USD = 1.1 "))
      [(⟨.eur, .usd⟩, ⟨false, 108, 2, by decide, by decide⟩), (⟨.usd, .jpy⟩, ⟨false, 150, 0, by decide, by decide⟩),
        (⟨.eur, .usd⟩, ⟨false, 11, 1, by decide, by decide⟩)] := by
  have divided : piecesOf ("EUR:USD=1.08, usd : jpy=150" ++ "," ++ " EUR:USD = 1.1 ") =
      ["EUR:USD=1.08".toList, "usd : jpy=150".toList, "EUR:USD = 1.1".toList] := by decide
  rw [divided]
  exact .cons (spells_iff.mpr (by decide)) (.cons (spells_iff.mpr (by decide))
    (.cons (spells_iff.mpr (by decide)) .nil))

/-- A euro that is said to be 1.08 dollars and then to be 1.1 dollars is 1.1 dollars. -/
theorem parse_piecewise_repeatedEuro :
    ∃ first later table, parse "EUR:USD=1.08, usd : jpy=150" = .ok first ∧ parse " EUR:USD = 1.1 " = .ok later ∧
      parse ("EUR:USD=1.08, usd : jpy=150" ++ "," ++ " EUR:USD = 1.1 ") = .ok table ∧
      table = first.overriddenBy later ∧
      (∃ setting, Spells "EUR:USD = 1.1".toList setting ∧ later = ⟨[setting]⟩) ∧
      table.rate? ⟨.eur, .usd⟩ = some ⟨false, 11, 1, by decide, by decide⟩ ∧ parse " " = .ok empty := by
  obtain ⟨divided, -, single, last, -⟩ := parse_piecewise
  obtain ⟨first, readFirst⟩ : ∃ first, parse "EUR:USD=1.08, usd : jpy=150" = .ok first :=
    ⟨⟨[(⟨.usd, .jpy⟩, ⟨false, 150, 0, by decide, Nat.zero_le _⟩),
      (⟨.eur, .usd⟩, ⟨false, 108, 2, by decide, by decide⟩)]⟩, by decide⟩
  have readLater : parse " EUR:USD = 1.1 " =
      .ok ⟨[(⟨.eur, .usd⟩, ⟨false, 11, 1, by decide, by decide⟩)]⟩ := by decide
  have read := divided "EUR:USD=1.08, usd : jpy=150" " EUR:USD = 1.1 "
  rw [readFirst, readLater] at read
  have trimmed : Text.trimChars " EUR:USD = 1.1 ".toList = "EUR:USD = 1.1".toList := by decide
  refine ⟨first, _, _, readFirst, readLater, read, rfl, ?_, ?_, (single " " (by decide)).1 (by decide)⟩
  · rw [← trimmed]
    exact ((single " EUR:USD = 1.1 " (by decide)).2 (by decide) _).mp readLater
  · rw [(last _ _ read).2 _ spelled_repeatedEuro ⟨.eur, .usd⟩ (by decide)]
    decide

/-- Yet what is said last for a currency against itself does not count, here that a dollar is two dollars. -/
theorem not_forall_last_counts :
    ¬ ∀ (text : String) (table : RateTable) (settings : List (CurrencyPair × Decimal)), parse text = .ok table →
      List.Forall₂ Spells (piecesOf text) settings →
        ∀ pair rate, lastRate? settings pair = some rate → table.rate? pair = some rate := by
  intro always
  have read : parse "USD:USD=2" = .ok ⟨[(⟨.usd, .usd⟩, ⟨false, 2, 0, by decide, by decide⟩)]⟩ := by
    decide
  have spelled : List.Forall₂ Spells (piecesOf "USD:USD=2")
      [(⟨.usd, .usd⟩, ⟨false, 2, 0, by decide, by decide⟩)] := by
    have divided : piecesOf "USD:USD=2" = ["USD:USD=2".toList] := by decide
    rw [divided]
    exact .cons (spells_iff.mpr (by decide)) .nil
  have two := always _ _ _ read spelled ⟨.usd, .usd⟩ _ rfl
  revert two
  decide

/-! ### Rates that can be used -/

/-- A conversion can be recorded at a rate if that is greater than zero. -/
theorem exists_record_iff {stated : Money} {rate : Decimal} :
    (∃ info, ConversionInfo.record stated rate = .ok info) ↔ 0 < rate.toRat := by
  rw [← isPositive_iff]
  constructor
  · rintro ⟨info, recorded⟩
    exact (ConversionInfo.record_eq_ok recorded).1
  · intro positive
    exact ⟨⟨stated, rate⟩, if_pos positive⟩

/-- Between two currencies of a table, however it was made, there is a rate exactly if a rate was given for the pair
or for the opposite one, and it is the one that the pair was given last, if it was given one.  It is never less than
zero; it can be used, in that it is greater than zero and conversions at it can be recorded, but where it is derived
from one that is too large. -/
theorem rates_usable_iff (table : RateTable) {pair : CurrencyPair} (distinct : pair.source ≠ pair.target) :
    (∀ text, parse text = .ok table →
      ∃ settings, List.Forall₂ Spells (piecesOf text) settings ∧ table.MadeOf settings) ∧
    ∀ settings, table.MadeOf settings →
      ((∃ rate, table.rate? pair = some rate) ↔
        ∃ rate, (pair, rate) ∈ settings ∨ (pair.opposite, rate) ∈ settings) ∧
      (∀ rate, lastRate? settings pair = some rate → table.rate? pair = some rate) ∧
      ∀ rate, table.rate? pair = some rate →
        0 ≤ rate.toRat ∧ (0 < rate.toRat ↔ ¬ Vanishes settings pair) ∧
        ∀ stated, (∃ info, ConversionInfo.record stated rate = .ok info) ↔ 0 < rate.toRat := by
  refine ⟨fun text read => ?_, fun settings made => ?_⟩
  · obtain ⟨settings, spelled⟩ := exists_spelled read
    exact ⟨settings, spelled, madeOf_of_spelled read spelled⟩
  refine ⟨made.exists_rate?_iff distinct, fun rate given => ?_, fun rate rated => ?_⟩
  · rw [made.rate?_eq distinct, given, Option.some_or]
  · obtain ⟨nonneg, positive⟩ := made.rate?_pos_iff distinct rated
    exact ⟨nonneg, positive, fun stated => exists_record_iff⟩

/-- A dollar is set at the most euros that a decimal shows. -/
def mostEuros : Decimal := ⟨false, 2 ^ 96 - 1, 0, by decide, Nat.zero_le _⟩

/-- The table that says so. -/
def mostEurosPerDollar : RateTable := ⟨[(⟨.usd, .eur⟩, mostEuros)]⟩

theorem parse_mostEurosPerDollar :
    parse "USD:EUR=79228162514264337593543950335" = .ok mostEurosPerDollar := by decide

/-- No decimal shows the reciprocal of that rate: it vanishes, and the rate itself can be used. -/
theorem rates_usable_iff_mostEuros :
    (∃ settings, List.Forall₂ Spells (piecesOf "USD:EUR=79228162514264337593543950335") settings ∧
      mostEurosPerDollar.MadeOf settings) ∧
    (∃ rate, mostEurosPerDollar.rate? ⟨.eur, .usd⟩ = some rate ∧ ¬ 0 < rate.toRat) ∧
    mostEurosPerDollar.rate? ⟨.usd, .eur⟩ = some mostEuros ∧ 0 < mostEuros.toRat := by
  have made : mostEurosPerDollar.MadeOf [(⟨.usd, .eur⟩, mostEuros)] := by
    unfold MadeOf
    decide
  have large : 2 * 10 ^ 28 ≤ mostEuros.toRat := by norm_num [mostEuros, toRat, signed]
  have apart : (⟨.eur, .usd⟩ : CurrencyPair).source ≠ (⟨.eur, .usd⟩ : CurrencyPair).target := by decide
  have apart' : (⟨.usd, .eur⟩ : CurrencyPair).source ≠ (⟨.usd, .eur⟩ : CurrencyPair).target := by decide
  obtain ⟨spelled, usable⟩ := rates_usable_iff mostEurosPerDollar apart
  obtain ⟨-, usable'⟩ := rates_usable_iff mostEurosPerDollar apart'
  obtain ⟨some_iff, -, sign⟩ := usable _ made
  obtain ⟨rate, rated⟩ := some_iff.mpr ⟨mostEuros, .inr (List.mem_singleton.mpr rfl)⟩
  obtain ⟨-, given, sign'⟩ := usable' _ made
  have direct := given mostEuros rfl
  refine ⟨spelled _ parse_mostEurosPerDollar, ⟨rate, rated, fun positive => ?_⟩, direct, ?_⟩
  · exact (sign rate rated).2.1.mp positive ⟨rfl, mostEuros, rfl, large⟩
  · exact (sign' _ direct).2.1.mpr fun vanishes => Option.some_ne_none _ vanishes.1

/-- So a table can be read that has a rate of zero. -/
theorem not_forall_rates_positive :
    ¬ ∀ (text : String) (table : RateTable), parse text = .ok table →
      ∀ pair : CurrencyPair, pair.source ≠ pair.target → ∀ rate, table.rate? pair = some rate → 0 < rate.toRat := by
  intro always
  have nothing : mostEurosPerDollar.rate? ⟨.eur, .usd⟩ = some ⟨false, 0, 0, by decide, by decide⟩ := by
    decide
  have positive := always _ _ parse_mostEurosPerDollar ⟨.eur, .usd⟩ (by decide) _ nothing
  rw [← isPositive_iff] at positive
  cases positive

end RateTable

end Passbook
