import Mathlib.Data.List.TakeWhile
import Passbook.Net.Address
import Passbook.Proofs.Decimal.Writing
/-!
# How addresses are written

The texts that are addresses with a port, said without regard to how they are read: octets with points between them,
or groups with colons between them, of which two colons in a row leave some out.  Exactly these texts are read.
-/

namespace Passbook.Net

-- Powers are those of natural numbers and integers, whatever else is in scope.
attribute [local instance (2000)] instPowNat

open Decimal (Plain appendRow)

namespace Grammar

/-! ### The texts of addresses -/

/-- Digits for a number below a bound. -/
structure Number (bound : ℕ) (text : List Char) : Prop where
  plain : Plain text
  something : text ≠ []
  small : appendRow 0 text < bound

/-- Up to three digits for a number below 256, without a zero in front of others. -/
structure Octet (text : List Char) : Prop extends Number 256 text where
  short : text.length ≤ 3
  leading : text.head? = some '0' → text.length = 1

/-- Four octets with points between them. -/
def FourOctets (text : List Char) : Prop :=
  ∃ a b c d, Octet a ∧ Octet b ∧ Octet c ∧ Octet d ∧ text = a ++ '.' :: (b ++ '.' :: (c ++ '.' :: d))

def IsHex (c : Char) : Prop := c.isDigit = true ∨ ('a' ≤ c ∧ c ≤ 'f') ∨ ('A' ≤ c ∧ c ≤ 'F')

/-- Up to four hexadecimal digits. -/
structure Group (text : List Char) : Prop where
  something : text ≠ []
  short : text.length ≤ 4
  hex : ∀ c ∈ text, IsHex c

/-- So many groups with colons between them, of which the last two may be written as four octets. -/
inductive Row : (embeds : Bool) → ℕ → List Char → Prop where
  | nil : Row false 0 []
  | group {text : List Char} (group : Group text) : Row false 1 text
  | octets {text : List Char} (octets : FourOctets text) : Row true 2 text
  | cons {embeds : Bool} {count : ℕ} {text rest : List Char} (group : Group text)
      (others : Row embeds (count + 1) rest) : Row embeds (count + 2) (text ++ ':' :: rest)

/-- Eight groups, or fewer with two colons in place of the others.  Only behind these two colons, or if none is left
out, may four octets stand for two groups. -/
def EightGroups (text : List Char) : Prop :=
  (∃ embeds, Row embeds 8 text) ∨
    ∃ embeds count count' front back, Row false count front ∧ Row embeds count' back ∧ count + count' ≤ 7 ∧
      text = front ++ ':' :: ':' :: back

/-- A percent sign and a number of 32 bits, or nothing. -/
def Zone (text : List Char) : Prop := text = [] ∨ ∃ digits, Number (2 ^ 32) digits ∧ text = '%' :: digits

/-- An address, a colon and a port of 16 bits.  Groups and their zone stand in brackets. -/
def AddressWithPort (text : List Char) : Prop :=
  ∃ address port, Number 65536 port ∧
    (FourOctets address ∧ text = address ++ ':' :: port ∨
      ∃ zone, EightGroups address ∧ Zone zone ∧ text = '[' :: (address ++ (zone ++ ']' :: ':' :: port)))

end Grammar

open Grammar

/-! ### Digits -/

section Digits

variable {base bound value : ℕ} {c : Char} {cs digits rest : List Char}

/-- The value of a digit in bases up to sixteen. -/
private theorem digitIn?_eq (base : ℕ) (c : Char) :
    digitIn? base c =
      if c.isDigit then if c.toNat - 48 < base then some (c.toNat - 48) else none
      else if 'a' ≤ c ∧ c ≤ 'f' then if c.toNat - 97 + 10 < base then some (c.toNat - 97 + 10) else none
      else if 'A' ≤ c ∧ c ≤ 'F' then if c.toNat - 65 + 10 < base then some (c.toNat - 65 + 10) else none
      else none := by
  unfold digitIn?
  split
  · simp [Option.filter]
  split
  · simp [Option.filter]
  split
  · simp [Option.filter]
  · rfl

private theorem toNat_le_of_isDigit (isDigit : c.isDigit = true) : c.toNat ≤ 57 := by
  simpa [Char.isDigit, UInt32.le_iff_toNat_le] using (Bool.and_eq_true_iff.mp isDigit).2

theorem digitIn?_ten (c : Char) : digitIn? 10 c = Decimal.digit? c := by
  rw [digitIn?_eq, Decimal.digit?]
  split
  · rename_i isDigit
    have greatest := toNat_le_of_isDigit isDigit
    rw [if_pos (by omega)]
    rfl
  · split
    · rw [if_neg (by omega)]
    split
    · rw [if_neg (by omega)]
    · rfl

theorem digitIn?_sixteen_isSome : (digitIn? 16 c).isSome = true ↔ IsHex c := by
  have lower : c ≤ 'f' → c.toNat ≤ 102 := fun least => least
  have upper : c ≤ 'F' → c.toNat ≤ 70 := fun least => least
  rw [digitIn?_eq, IsHex]
  split
  · rename_i isDigit
    have greatest := toNat_le_of_isDigit isDigit
    rw [if_pos (by omega)]
    exact iff_of_true rfl (.inl isDigit)
  rename_i noDigit
  split
  · rename_i letter
    have greatest := lower letter.2
    rw [if_pos (by omega)]
    exact iff_of_true rfl (.inr (.inl letter))
  rename_i notLower
  split
  · rename_i letter
    have greatest := upper letter.2
    rw [if_pos (by omega)]
    exact iff_of_true rfl (.inr (.inr letter))
  · rename_i notUpper
    exact iff_of_false nofun (by simp [noDigit, notLower, notUpper])

/-- Nothing that a number goes on with comes next. -/
def Stops (base : ℕ) (rest : List Char) : Prop := ∀ c ∈ rest.head?, digitIn? base c = none

theorem stops_cons (noDigit : digitIn? base c = none) (rest : List Char) : Stops base (c :: rest) := by
  rintro _ ⟨⟩
  exact noDigit

/-- The number that digits of a base denote. -/
def valueIn (base : ℕ) (digits : List Char) : ℕ :=
  (digits.filterMap (digitIn? base)).foldl (fun n d => n * base + d) 0

theorem readNumber_eq_some (read : readNumber base bound cs = some (digits, value, rest)) :
    cs = digits ++ rest ∧ digits ≠ [] ∧ (∀ c ∈ digits, (digitIn? base c).isSome = true) ∧
      valueIn base digits < bound := by
  unfold readNumber at read
  dsimp only at read
  split at read
  · rename_i accepted
    cases read
    refine ⟨(List.prefix_iff_eq_append.mp (List.takeWhile_prefix _)).symm, accepted.1, ?_, accepted.2⟩
    intro c member
    simpa using List.mem_takeWhile_imp member
  · cases read

theorem readNumber_append (something : digits ≠ []) (all : ∀ c ∈ digits, (digitIn? base c).isSome = true)
    (small : valueIn base digits < bound) (stops : Stops base rest) :
    readNumber base bound (digits ++ rest) = some (digits, valueIn base digits, rest) := by
  have ends : rest.takeWhile (fun c => (digitIn? base c).isSome) = [] := by
    cases rest with
    | nil => rfl
    | cons c rest => rw [List.takeWhile_cons_of_neg (by simp [stops c rfl])]
  unfold readNumber
  rw [List.takeWhile_append_of_pos all, ends, List.append_nil]
  dsimp only
  rw [List.drop_left]
  exact if_pos ⟨something, small⟩

theorem readNumber_of_stops (stops : Stops base cs) : readNumber base bound cs = none := by
  unfold readNumber
  cases cs with
  | nil => simp
  | cons c cs => simp [List.takeWhile_cons_of_neg, stops c rfl]

/-! ### Decimal numbers -/

private theorem valueIn_ten (digits : List Char) : valueIn 10 digits = appendRow 0 digits := by
  rw [valueIn, appendRow, funext digitIn?_ten]

private theorem isSome_digitIn?_ten : (digitIn? 10 c).isSome = true ↔ c.isDigit = true := by
  rw [digitIn?_ten, Decimal.digit?]
  split <;> simp_all

theorem number_of_readNumber (read : readNumber 10 bound cs = some (digits, value, rest)) :
    cs = digits ++ rest ∧ Number bound digits := by
  obtain ⟨parts, something, all, small⟩ := readNumber_eq_some read
  exact ⟨parts, fun c member => isSome_digitIn?_ten.mp (all c member), something, valueIn_ten digits ▸ small⟩

theorem Grammar.Number.readNumber_append (number : Number bound digits) (stops : Stops 10 rest) :
    readNumber 10 bound (digits ++ rest) = some (digits, valueIn 10 digits, rest) :=
  Net.readNumber_append number.something (fun c member => isSome_digitIn?_ten.mpr (number.plain c member))
    (valueIn_ten digits ▸ number.small) stops

end Digits

/-! ### Octets -/

section Octets

variable {cs text rest : List Char} {value : ℕ}

theorem readMark_eq_some {mark : Char} (read : readMark mark cs = some rest) : cs = mark :: rest := by
  cases cs with
  | nil => cases read
  | cons c cs =>
      rw [readMark] at read
      split at read
      · rename_i same
        cases read
        rw [same]
      · cases read

theorem readMark_cons (mark : Char) (rest : List Char) : readMark mark (mark :: rest) = some rest := if_pos rfl

theorem octet_of_readOctet (read : readOctet cs = some (value, rest)) : ∃ text, cs = text ++ rest ∧ Octet text := by
  obtain ⟨⟨digits, value', rest'⟩, number, read⟩ := Option.bind_eq_some_iff.mp read
  dsimp only at read
  split at read
  · cases read
  · rename_i accepted
    cases read
    obtain ⟨parts, number⟩ := number_of_readNumber number
    refine ⟨digits, parts, number, by omega, fun zero => ?_⟩
    have something := List.length_pos_iff.mpr number.something
    by_contra others
    exact accepted (.inr ⟨zero, by omega⟩)

theorem Grammar.Octet.readOctet_append (octet : Octet text) (stops : Stops 10 rest) :
    readOctet (text ++ rest) = some (valueIn 10 text, rest) := by
  have accepted : ¬(3 < text.length ∨ text.head? = some '0' ∧ 1 < text.length) := by
    rintro (long | ⟨zero, others⟩)
    · exact absurd octet.short (Nat.not_le_of_lt long)
    · rw [octet.leading zero] at others
      exact absurd others (Nat.lt_irrefl 1)
  rw [readOctet, octet.toNumber.readNumber_append stops]
  exact if_neg accepted

theorem fourOctets_of_readAddressV4 {address : AddressV4} (read : readAddressV4 cs = some (address, rest)) :
    ∃ text, cs = text ++ rest ∧ FourOctets text := by
  obtain ⟨⟨a, _⟩, read₁, read⟩ := Option.bind_eq_some_iff.mp read
  obtain ⟨_, mark₁, read⟩ := Option.bind_eq_some_iff.mp read
  obtain ⟨⟨b, _⟩, read₂, read⟩ := Option.bind_eq_some_iff.mp read
  obtain ⟨_, mark₂, read⟩ := Option.bind_eq_some_iff.mp read
  obtain ⟨⟨c, _⟩, read₃, read⟩ := Option.bind_eq_some_iff.mp read
  obtain ⟨_, mark₃, read⟩ := Option.bind_eq_some_iff.mp read
  obtain ⟨⟨d, _⟩, read₄, read⟩ := Option.bind_eq_some_iff.mp read
  cases read
  obtain ⟨first, rfl, octet₁⟩ := octet_of_readOctet read₁
  obtain rfl := readMark_eq_some mark₁
  obtain ⟨second, rfl, octet₂⟩ := octet_of_readOctet read₂
  obtain rfl := readMark_eq_some mark₂
  obtain ⟨third, rfl, octet₃⟩ := octet_of_readOctet read₃
  obtain rfl := readMark_eq_some mark₃
  obtain ⟨fourth, rfl, octet₄⟩ := octet_of_readOctet read₄
  exact ⟨_, by simp, first, second, third, fourth, octet₁, octet₂, octet₃, octet₄, rfl⟩

theorem Grammar.FourOctets.exists_readAddressV4 (octets : FourOctets text) (stops : Stops 10 rest) :
    ∃ a b c d, readAddressV4 (text ++ rest) = some (⟨[a, b, c, d]⟩, rest) := by
  obtain ⟨first, second, third, fourth, octet₁, octet₂, octet₃, octet₄, rfl⟩ := octets
  have point (rest : List Char) : Stops 10 ('.' :: rest) := stops_cons rfl rest
  refine ⟨valueIn 10 first, valueIn 10 second, valueIn 10 third, valueIn 10 fourth, ?_⟩
  simp only [List.append_assoc, List.cons_append, readAddressV4, octet₁.readOctet_append (point _),
    octet₂.readOctet_append (point _), octet₃.readOctet_append (point _), octet₄.readOctet_append stops, readMark_cons,
    Option.bind_eq_bind, Option.bind_some]

end Octets

/-! ### Groups -/

section Groups

variable {cs text rest : List Char} {value room count : ℕ} {embeds : Bool}

theorem group_of_readGroup (read : readGroup cs = some (value, rest)) : ∃ text, cs = text ++ rest ∧ Group text := by
  obtain ⟨⟨digits, value', _⟩, number, read⟩ := Option.bind_eq_some_iff.mp read
  dsimp only at read
  split at read
  · cases read
  · rename_i short
    cases read
    obtain ⟨parts, something, all, -⟩ := readNumber_eq_some number
    exact ⟨digits, parts, something, by omega, fun c member => digitIn?_sixteen_isSome.mp (all c member)⟩

/-- Of hexadecimal digits each makes a number at most sixteen times as large. -/
private theorem foldl_sixteen_lt (digits : List Char) (n : ℕ) :
    (digits.filterMap (digitIn? 16)).foldl (fun n d => n * 16 + d) n < (n + 1) * 16 ^ digits.length := by
  induction digits generalizing n with
  | nil => simp
  | cons c digits inductionHypothesis =>
      rw [List.length_cons, Nat.pow_succ]
      cases digit : digitIn? 16 c with
      | none =>
          have least := inductionHypothesis n
          rw [List.filterMap_cons_none digit]
          nlinarith
      | some d =>
          have small : d < 16 := by simpa using (Option.filter_eq_some_iff.mp digit).2
          have least := inductionHypothesis (n * 16 + d)
          have more : (n * 16 + d + 1) * 16 ^ digits.length ≤ (n + 1) * 16 * 16 ^ digits.length :=
            Nat.mul_le_mul_right _ (by omega)
          rw [List.filterMap_cons_some digit, List.foldl_cons]
          nlinarith

private theorem valueIn_sixteen_lt (digits : List Char) : valueIn 16 digits < 16 ^ digits.length := by
  have small := foldl_sixteen_lt digits 0
  rwa [Nat.zero_add, Nat.one_mul] at small

theorem Grammar.Group.readGroup_append (group : Group text) (stops : Stops 16 rest) :
    readGroup (text ++ rest) = some (valueIn 16 text, rest) := by
  have small : valueIn 16 text < 65536 :=
    Nat.lt_of_lt_of_le (valueIn_sixteen_lt text) (Nat.pow_le_pow_right (by decide) group.short)
  rw [readGroup, readNumber_append group.something
    (fun c member => digitIn?_sixteen_isSome.mpr (group.hex c member)) small stops]
  exact if_neg (Nat.not_lt_of_le group.short)

theorem readAddressV4_of_stops (stops : Stops 10 cs) : readAddressV4 cs = none := by
  rw [readAddressV4, readOctet, readNumber_of_stops stops]
  rfl

theorem readGroup_of_stops (stops : Stops 16 cs) : readGroup cs = none := by
  rw [readGroup, readNumber_of_stops stops]
  rfl

/-- A group is no four octets, unless a point comes behind it. -/
theorem Grammar.Group.readAddressV4_eq_none (group : Group text) (stops : Stops 16 rest)
    (noPoint : rest.head? ≠ some '.') : readAddressV4 (text ++ rest) = none := by
  cases read : readAddressV4 (text ++ rest) with
  | none => rfl
  | some found =>
      obtain ⟨_, parts, first, _, _, _, octet, _, _, _, rfl⟩ := fourOctets_of_readAddressV4 read
      rw [List.append_assoc, List.cons_append] at parts
      rcases List.append_eq_append_iff.mp parts with ⟨more, rfl, ahead⟩ | ⟨more, rfl, ahead⟩
      · -- The first octet goes on behind the group, or the point comes there.
        cases more with
        | nil => exact absurd (by rw [ahead]; rfl) noPoint
        | cons c more =>
            have noDigit : digitIn? 16 c = none := stops c (by rw [ahead]; rfl)
            have digit := digitIn?_sixteen_isSome.mpr (.inl (octet.plain c (by simp)))
            rw [noDigit] at digit
            cases digit
      · -- The point stands in the group, or behind it.
        cases more with
        | nil => exact absurd (by rw [← List.nil_append rest, ← ahead]; rfl) noPoint
        | cons c more =>
            obtain ⟨rfl, -⟩ := List.cons.inj ahead
            have point := digitIn?_sixteen_isSome.mpr (group.hex '.' (by simp))
            cases point

/-- What is read as groups is a row of groups, behind a colon if others come before it. -/
theorem row_of_readGroups {first : Bool} {groups : List ℕ} (read : readGroups room first cs = (groups, embeds, rest)) :
    (groups = [] ∧ embeds = false ∧ rest = cs) ∨
      ∃ text, cs = (if first then text else ':' :: text) ++ rest ∧ Row embeds groups.length text ∧
        0 < groups.length ∧ groups.length ≤ room := by
  induction room generalizing first cs groups embeds rest with
  | zero =>
      cases read
      exact .inl ⟨rfl, rfl, rfl⟩
  | succ room inductionHypothesis =>
      rw [readGroups] at read
      split at read
      · cases read
        exact .inl ⟨rfl, rfl, rfl⟩
      rename_i next opened
      have parts (text rest : List Char) (begins : next = text ++ rest) :
          cs = (if first then text else ':' :: text) ++ rest := by
        subst begins
        cases first with
        | true =>
            cases opened
            rfl
        | false => exact readMark_eq_some opened
      split at read
      · rename_i octets
        cases read
        split at octets
        · cases octets
        · rename_i something
          obtain ⟨text, begins, address⟩ := fourOctets_of_readAddressV4 octets
          have room : 2 ≤ room + 1 := Nat.succ_le_succ (Nat.pos_of_ne_zero something)
          exact .inr ⟨text, parts _ _ begins, .octets address, by simp, room⟩
      · split at read
        · cases read
          exact .inl ⟨rfl, rfl, rfl⟩
        · rename_i value behind taken
          obtain ⟨text, begins, group⟩ := group_of_readGroup taken
          cases others : readGroups room false behind with
          | mk groups' others' =>
          rw [others] at read
          cases read
          rcases inductionHypothesis others with ⟨rfl, noOctets, rfl⟩ | ⟨text', rfl, row, something, fits⟩
          · rw [noOctets]
            exact .inr ⟨text, parts _ _ begins, .group group, by simp, by simp⟩
          · obtain ⟨count, length⟩ := Nat.exists_eq_add_one.mpr something
            rw [length] at row
            refine .inr ⟨text ++ ':' :: text', parts _ _ (by simp [begins]), ?_, by simp, by simpa using fits⟩
            rw [List.length_cons, length]
            exact .cons group row

/-- What may come behind a row of groups: a zone, the closing bracket, or the two colons. -/
inductive Follows : List Char → Prop where
  | zone {rest : List Char} : Follows ('%' :: rest)
  | bracket {rest : List Char} : Follows (']' :: rest)
  | colons {rest : List Char} : Follows (':' :: ':' :: rest)

namespace Follows

variable (follows : Follows rest)
include follows

theorem stops_ten : Stops 10 rest := by
  cases follows <;> exact stops_cons rfl _

theorem stops_sixteen : Stops 16 rest := by
  cases follows <;> exact stops_cons rfl _

theorem head?_ne_point : rest.head? ≠ some '.' := by
  cases follows <;> simp

/-- No group is read there. -/
theorem readGroups_eq (room : ℕ) (first : Bool) : readGroups room first rest = ([], false, rest) := by
  cases room with
  | zero => rfl
  | succ room =>
      have nothing : readAddressV4 rest = none := readAddressV4_of_stops follows.stops_ten
      have nothing' : readGroup rest = none := readGroup_of_stops follows.stops_sixteen
      cases first with
      | true => simp [readGroups, nothing, nothing']
      | false =>
          cases follows with
          | zone | bracket => rfl
          | @colons rest =>
              have stops (base : ℕ) : Stops base (':' :: rest) := stops_cons rfl rest
              simp [readGroups, readMark_cons, readAddressV4_of_stops (stops 10), readGroup_of_stops (stops 16)]

end Follows

section Reading

variable {first : Bool} {next behind : List Char} {group a b c d : ℕ} {groups : List ℕ}
  (opened : (if first then some cs else readMark ':' cs) = some next)
include opened

private theorem readGroups_of_octets (some : room ≠ 0)
    (read : readAddressV4 next = .some (⟨[a, b, c, d]⟩, rest)) :
    readGroups (room + 1) first cs = ([a * 256 + b, c * 256 + d], true, rest) := by
  rw [readGroups, opened]
  simp only [if_neg some, read]

private theorem readGroups_of_group (noOctets : readAddressV4 next = none)
    (read : readGroup next = some (group, behind)) (others : readGroups room false behind = (groups, embeds, rest)) :
    readGroups (room + 1) first cs = (group :: groups, embeds, rest) := by
  rw [readGroups, opened]
  simp only [noOctets, ite_self, read, others]

end Reading

/-- A row of groups is read, behind a colon if others come before it. -/
theorem Grammar.Row.exists_readGroups (row : Row embeds count text) (something : 0 < count) (fits : count ≤ room)
    (follows : Follows rest) (first : Bool) :
    ∃ groups, groups.length = count ∧
      readGroups room first ((if first then text else ':' :: text) ++ rest) = (groups, embeds, rest) := by
  have opened (text rest : List Char) (first : Bool) :
      (if first then some ((if first then text else ':' :: text) ++ rest)
        else readMark ':' ((if first then text else ':' :: text) ++ rest)) = some (text ++ rest) := by
    cases first with
    | true => rfl
    | false => simp [readMark_cons]
  induction row generalizing room first with
  | nil => cases something
  | @group text group =>
      obtain ⟨room, rfl⟩ := Nat.exists_eq_add_one.mpr fits
      have noOctets := group.readAddressV4_eq_none follows.stops_sixteen follows.head?_ne_point
      have read := group.readGroup_append follows.stops_sixteen
      exact ⟨[_], rfl, readGroups_of_group (opened text rest first) noOctets read (follows.readGroups_eq room false)⟩
  | @octets text octets =>
      obtain ⟨room, rfl⟩ := Nat.exists_eq_add_one.mpr (Nat.lt_of_lt_of_le Nat.zero_lt_two fits)
      obtain ⟨a, b, c, d, read⟩ := octets.exists_readAddressV4 follows.stops_ten
      exact ⟨[_, _], rfl, readGroups_of_octets (opened text rest first) (by omega) read⟩
  | @cons embeds count text others group row inductionHypothesis =>
      obtain ⟨room, rfl⟩ := Nat.exists_eq_add_one.mpr (Nat.lt_of_lt_of_le (Nat.succ_pos _) fits)
      obtain ⟨groups, length, read⟩ := inductionHypothesis (Nat.succ_pos _) (Nat.le_of_succ_le_succ fits) false
      have stops : Stops 16 (':' :: (others ++ rest)) := stops_cons rfl _
      have begins : text ++ ':' :: others ++ rest = text ++ ':' :: (others ++ rest) := by simp
      have opened' := opened (text ++ ':' :: others) rest first
      rw [begins] at opened'
      exact ⟨_ :: groups, by rw [List.length_cons, length], readGroups_of_group opened'
        (group.readAddressV4_eq_none stops (by simp)) (group.readGroup_append stops) read⟩

/-- What is read first as groups is a row of groups, perhaps of none. -/
theorem exists_row_of_readGroups {groups : List ℕ} (read : readGroups room true cs = (groups, embeds, rest)) :
    ∃ text, cs = text ++ rest ∧ Row embeds groups.length text ∧ groups.length ≤ room := by
  rcases row_of_readGroups read with ⟨rfl, rfl, rfl⟩ | ⟨text, parts, row, -, fits⟩
  · exact ⟨[], rfl, .nil, Nat.zero_le _⟩
  · exact ⟨text, parts, row, fits⟩

theorem Grammar.Row.exists_readGroups_first (row : Row embeds count text) (fits : count ≤ room)
    (follows : Follows rest) :
    ∃ groups, groups.length = count ∧ readGroups room true (text ++ rest) = (groups, embeds, rest) := by
  rcases Nat.eq_zero_or_pos count with rfl | something
  · cases row
    exact ⟨[], rfl, follows.readGroups_eq room true⟩
  · exact row.exists_readGroups something fits follows true

end Groups

/-! ### Addresses with a port -/

section Ports

variable {cs text rest : List Char}

theorem eightGroups_of_readAddressV6 {address : AddressV6} (read : readAddressV6 cs = some (address, rest)) :
    ∃ text, cs = text ++ rest ∧ EightGroups text := by
  unfold readAddressV6 at read
  rcases front : readGroups groupCount true cs with ⟨head, embedded, behind⟩
  obtain ⟨text, rfl, row, most⟩ := exists_row_of_readGroups front
  have eight : groupCount = 8 := rfl
  simp only [front] at read
  split at read
  · rename_i all
    cases read
    rw [all] at row
    exact ⟨text, rfl, .inl ⟨embedded, row⟩⟩
  split at read
  · cases read
  · rename_i notAll noOctets
    rw [Bool.not_eq_true] at noOctets
    subst noOctets
    obtain ⟨_, marked, read⟩ := Option.bind_eq_some_iff.mp read
    obtain ⟨others, marked', read⟩ := Option.bind_eq_some_iff.mp read
    rcases back : readGroups (groupCount - (head.length + 1)) true others with ⟨tail, embedded', behind'⟩
    obtain ⟨text', rfl, row', fits⟩ := exists_row_of_readGroups back
    simp only [back] at read
    cases read
    obtain rfl := readMark_eq_some marked
    obtain rfl := readMark_eq_some marked'
    exact ⟨text ++ ':' :: ':' :: text', by simp,
      .inr ⟨embedded', head.length, tail.length, text, text', row, row', by omega, rfl⟩⟩

theorem Grammar.EightGroups.exists_readAddressV6 (groups : EightGroups text) (follows : Follows rest) :
    ∃ address, readAddressV6 (text ++ rest) = some (address, rest) := by
  rcases groups with ⟨embeds, row⟩ | ⟨embeds, count, count', front, back, row, row', few, rfl⟩
  · obtain ⟨groups, length, read⟩ := row.exists_readGroups_first (Nat.le_refl 8) follows
    refine ⟨⟨groups⟩, ?_⟩
    rw [readAddressV6, show groupCount = 8 from rfl, read]
    exact if_pos length
  · obtain ⟨head, length, read⟩ :=
      row.exists_readGroups_first (by omega : count ≤ 8) (.colons : Follows (':' :: ':' :: (back ++ rest)))
    obtain ⟨tail, length', read'⟩ := row'.exists_readGroups_first
      (by omega : count' ≤ 8 - (head.length + 1)) follows
    have parts : front ++ ':' :: ':' :: back ++ rest = front ++ ':' :: ':' :: (back ++ rest) := by simp
    have notAll : head.length ≠ 8 := by omega
    refine ⟨⟨head ++ List.replicate (8 - head.length - tail.length) 0 ++ tail⟩, ?_⟩
    rw [parts, readAddressV6, show groupCount = 8 from rfl, read]
    simp only [if_neg notAll, Bool.false_eq_true, if_false, readMark_cons, Option.bind_eq_bind, Option.bind_some, read']

theorem number_of_readPort {port : ℕ} (read : readPort cs = some (port, rest)) :
    ∃ digits, cs = ':' :: (digits ++ rest) ∧ Number 65536 digits := by
  obtain ⟨_, marked, read⟩ := Option.bind_eq_some_iff.mp read
  obtain ⟨⟨digits, _, _⟩, taken, read⟩ := Option.bind_eq_some_iff.mp read
  cases read
  obtain rfl := readMark_eq_some marked
  obtain ⟨rfl, number⟩ := number_of_readNumber taken
  exact ⟨digits, rfl, number⟩

theorem Grammar.Number.exists_readPort (number : Number 65536 text) :
    ∃ port, readPort (':' :: text) = some (port, []) := by
  have stops : Stops 10 [] := by
    intro c next
    cases next
  have read := number.readNumber_append stops
  rw [List.append_nil] at read
  refine ⟨valueIn 10 text, ?_⟩
  simp only [readPort, readMark_cons, Option.bind_eq_bind, Option.bind_some, read]

theorem zone_of_readZone {zone : ℕ} (read : readZone cs = (zone, rest)) : ∃ text, cs = text ++ rest ∧ Zone text := by
  unfold readZone at read
  split at read
  · split at read
    · rename_i taken
      cases read
      obtain ⟨rfl, number⟩ := number_of_readNumber taken
      exact ⟨'%' :: _, rfl, .inr ⟨_, number, rfl⟩⟩
    · cases read
      exact ⟨[], rfl, .inl rfl⟩
  · cases read
    exact ⟨[], rfl, .inl rfl⟩

theorem Grammar.Zone.exists_readZone (zone : Zone text) (rest : List Char) :
    ∃ value, readZone (text ++ ']' :: rest) = (value, ']' :: rest) := by
  rcases zone with rfl | ⟨digits, number, rfl⟩
  · exact ⟨0, rfl⟩
  · have read := number.readNumber_append (stops_cons rfl rest : Stops 10 (']' :: rest))
    refine ⟨valueIn 10 digits, ?_⟩
    simp only [List.cons_append, readZone, read]

theorem addressWithPort_of_readSocketAddress {address : SocketAddress}
    (read : readSocketAddress cs = some (address, rest)) : ∃ text, cs = text ++ rest ∧ AddressWithPort text := by
  rcases Option.or_eq_some_iff.mp read with read | ⟨-, read⟩
  · obtain ⟨⟨_, _⟩, taken, read⟩ := Option.bind_eq_some_iff.mp read
    obtain ⟨⟨_, _⟩, port, read⟩ := Option.bind_eq_some_iff.mp read
    cases read
    obtain ⟨text, rfl, octets⟩ := fourOctets_of_readAddressV4 taken
    obtain ⟨digits, rfl, number⟩ := number_of_readPort port
    exact ⟨text ++ ':' :: digits, by simp, text, digits, number, .inl ⟨octets, rfl⟩⟩
  · obtain ⟨_, opened, read⟩ := Option.bind_eq_some_iff.mp read
    obtain ⟨⟨_, behind⟩, taken, read⟩ := Option.bind_eq_some_iff.mp read
    rcases zoned : readZone behind with ⟨zone, behind'⟩
    simp only [zoned] at read
    obtain ⟨_, closed, read⟩ := Option.bind_eq_some_iff.mp read
    obtain ⟨⟨_, _⟩, port, read⟩ := Option.bind_eq_some_iff.mp read
    cases read
    obtain rfl := readMark_eq_some opened
    obtain ⟨text, rfl, groups⟩ := eightGroups_of_readAddressV6 taken
    obtain ⟨text', rfl, zone⟩ := zone_of_readZone zoned
    obtain rfl := readMark_eq_some closed
    obtain ⟨digits, rfl, number⟩ := number_of_readPort port
    exact ⟨'[' :: (text ++ (text' ++ ']' :: ':' :: digits)), by simp, text, digits, number,
      .inr ⟨text', groups, zone, rfl⟩⟩

theorem Grammar.AddressWithPort.exists_readSocketAddress (address : AddressWithPort text) :
    ∃ found, readSocketAddress text = some (found, []) := by
  obtain ⟨address, port, number, ⟨octets, rfl⟩ | ⟨zone, groups, zoned, rfl⟩⟩ := address
  · obtain ⟨a, b, c, d, read⟩ := octets.exists_readAddressV4 (stops_cons rfl port : Stops 10 (':' :: port))
    obtain ⟨value, read'⟩ := number.exists_readPort
    refine ⟨.v4 ⟨[a, b, c, d]⟩ value, ?_⟩
    simp only [readSocketAddress, read, read', Option.bind_eq_bind, Option.bind_some, Option.some_or]
  · have noOctets : readAddressV4 ('[' :: (address ++ (zone ++ ']' :: ':' :: port))) = none :=
      readAddressV4_of_stops (stops_cons rfl _)
    have follows : Follows (zone ++ ']' :: ':' :: port) := by
      rcases zoned with rfl | ⟨digits, -, rfl⟩
      · exact .bracket
      · exact .zone
    obtain ⟨found, read⟩ := groups.exists_readAddressV6 follows
    obtain ⟨value, read'⟩ := zoned.exists_readZone (':' :: port)
    obtain ⟨value', read''⟩ := number.exists_readPort
    refine ⟨.v6 found value value', ?_⟩
    simp only [readSocketAddress, noOctets, readMark_cons, read, read', read'', Option.bind_eq_bind, Option.bind_none,
      Option.bind_some, Option.none_or]

/-- Exactly the texts of addresses with a port are read. -/
theorem SocketAddress.exists_parse?_iff (text : String) :
    (∃ address, SocketAddress.parse? text = some address) ↔ AddressWithPort text.toList := by
  unfold SocketAddress.parse?
  constructor
  · rintro ⟨address, read⟩
    split at read
    · rename_i taken
      obtain ⟨text', parts, address⟩ := addressWithPort_of_readSocketAddress taken
      rwa [parts, List.append_nil]
    · cases read
  · intro address
    obtain ⟨found, read⟩ := address.exists_readSocketAddress
    exact ⟨found, by rw [read]⟩

end Ports

end Passbook.Net
