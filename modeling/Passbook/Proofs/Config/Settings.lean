import Passbook.Config.Settings
import Passbook.Proofs.Decimal.Writing
import Passbook.Proofs.Net.Address
import Passbook.Proofs.Rates.Tables
import Passbook.Proofs.Text.Blank
/-!
# Settings that are read

What is valid is said key by key, without regard to how it is read.  Settings are read if every key that is
consulted is blank or holds a valid value, and else the error names the first key for which this is not so.  Blanks
around a value, and whether a key is blank or absent, have no part in what is read.
-/

namespace Passbook

-- Powers are those of natural numbers and integers, whatever else is in scope.
attribute [local instance (2000)] instPowNat

/-! ### Natural numbers -/

namespace Text

open Decimal (Plain appendRow)

/-- A text denotes a natural number: digits, perhaps behind a plus sign. -/
def Denotes (text : List Char) (n : ℕ) : Prop :=
  ∃ digits, Plain digits ∧ digits ≠ [] ∧ (text = digits ∨ text = '+' :: digits) ∧ appendRow 0 digits = n

section Naturals

variable {bound n m : ℕ} {digits : List Char}

theorem readDigitsBelow_eq_ok_iff (small : n < bound) :
    readDigitsBelow bound digits n = .ok m ↔ Plain digits ∧ appendRow n digits = m ∧ m < bound := by
  induction digits generalizing n with
  | nil =>
      simp only [readDigitsBelow, appendRow, Except.ok.injEq]
      constructor
      · rintro rfl
        exact ⟨List.forall_mem_nil _, rfl, small⟩
      · exact fun read => read.2.1
  | cons c digits inductionHypothesis =>
      rw [readDigitsBelow]
      cases digit : c.isDigit with
      | false =>
          constructor
          · rintro ⟨⟩
          · intro read
            rw [read.1 c List.mem_cons_self] at digit
            cases digit
      | true =>
          have longer : appendRow n (c :: digits) = appendRow (n * 10 + (c.toNat - '0'.toNat)) digits :=
            Decimal.appendRow_of_digit (Decimal.digit?_eq_some digit) n
          have plain : Plain (c :: digits) ↔ Plain digits := by
            simp [Plain, digit]
          simp only [Bool.not_true, Bool.false_eq_true, if_false]
          split
          · rename_i fits
            rw [inductionHypothesis fits, plain, longer]
          · rename_i tooLarge
            constructor
            · rintro ⟨⟩
            · intro read
              refine absurd ?_ tooLarge
              exact Nat.lt_of_le_of_lt (Decimal.le_appendRow _ _) (longer ▸ read.2.1 ▸ read.2.2)

theorem not_plain_plus (digits : List Char) : ¬Plain ('+' :: digits) := fun plain => by
  cases plain '+' List.mem_cons_self

/-- Natural numbers below the bound are read, and nothing else is. -/
theorem readNaturalBelow_eq_ok_iff (positive : 0 < bound) (text : String) :
    readNaturalBelow bound text = .ok n ↔ Denotes text.toList n ∧ n < bound := by
  unfold readNaturalBelow Denotes
  split
  · rename_i nothing
    rw [nothing]
    refine ⟨nofun, ?_⟩
    rintro ⟨⟨digits, -, something, rfl | ⟨⟨⟩⟩, -⟩, -⟩
    exact absurd rfl something
  · rename_i plus
    rw [plus]
    refine ⟨nofun, ?_⟩
    rintro ⟨⟨digits, plain, something, rfl | ⟨⟨⟩⟩, -⟩, -⟩
    · exact absurd plain (not_plain_plus [])
    · exact absurd rfl something
  · rename_i digits something plus
    rw [plus, readDigitsBelow_eq_ok_iff positive]
    constructor
    · rintro ⟨plain, value, fits⟩
      exact ⟨⟨digits, plain, something, .inr rfl, value⟩, fits⟩
    · rintro ⟨⟨digits', plain, -, rfl | ⟨⟨⟩⟩, value⟩, fits⟩
      · exact absurd plain (not_plain_plus digits)
      · exact ⟨plain, value, fits⟩
  · rename_i something _ noPlus
    rw [readDigitsBelow_eq_ok_iff positive]
    constructor
    · rintro ⟨plain, value, fits⟩
      exact ⟨⟨_, plain, something, .inl rfl, value⟩, fits⟩
    · rintro ⟨⟨digits, plain, -, same | plus, value⟩, fits⟩
      · rw [same]
        exact ⟨plain, value, fits⟩
      · exact absurd plus (noPlus digits)

end Naturals

end Text

namespace Config

/-! ### Valid values -/

/-- The words for the forms of log lines. -/
def formatWords : List String := ["json", "pretty", "text"]

/-- What a key may hold.  Address of the database and filter of log lines are taken as they are. -/
def Key.Valid : Key → String → Prop
  | .databaseUrl, _ | .logFilter, _ => True
  | .maxConnections, text => ∃ n < 2 ^ 32, Text.Denotes (Text.trimChars text.toList) n
  | .acquireTimeout, text => ∃ n < 2 ^ 64, Text.Denotes (Text.trimChars text.toList) n
  | .defaultCurrency, text => ∃ currency, RateTable.IsCode text.toList currency
  | .operationTimeout, text => ∃ n < 2 ^ 64, 0 < n ∧ Text.Denotes (Text.trimChars text.toList) n
  | .rates, text => ∀ piece ∈ RateTable.piecesOf text, ∃ setting, RateTable.Spells piece setting
  | .address, text => Net.Grammar.AddressWithPort (Text.trimChars text.toList)
  | .logFormat, text => Text.toAsciiLower (Text.trim text) ∈ formatWords

section Values

variable {n bound : ℕ} {text : String}

theorem mapError_eq_ok_iff {ε ε' α : Type} {f : ε → ε'} {result : Except ε α} {a : α} :
    result.mapError f = .ok a ↔ result = .ok a := by
  cases result <;> simp [Except.mapError]

theorem parseNatural_eq_ok_iff (positive : 0 < bound) :
    parseNatural bound text = .ok n ↔ Text.Denotes (Text.trimChars text.toList) n ∧ n < bound := by
  rw [parseNatural, mapError_eq_ok_iff, Text.readNaturalBelow_eq_ok_iff positive, Text.trim, String.toList_ofList]

theorem exists_parseNatural_iff (positive : 0 < bound) :
    (∃ n, parseNatural bound text = .ok n) ↔ ∃ n < bound, Text.Denotes (Text.trimChars text.toList) n :=
  exists_congr fun _ => (parseNatural_eq_ok_iff positive).trans and_comm

theorem exists_parseTimeout_iff :
    (∃ n, parseTimeout text = .ok n) ↔ Key.operationTimeout.Valid text := by
  constructor
  · rintro ⟨n, read⟩
    cases parsed : parseMillis text with
    | error reason =>
        rw [parseTimeout, parsed] at read
        cases read
    | ok millis =>
        obtain ⟨denotes, fits⟩ := (parseNatural_eq_ok_iff (by decide)).mp parsed
        refine ⟨millis, fits, Nat.pos_of_ne_zero fun nothing => ?_, denotes⟩
        rw [parseTimeout, parsed, nothing] at read
        cases read
  · rintro ⟨n, fits, positive, denotes⟩
    have parsed : parseMillis text = .ok n := (parseNatural_eq_ok_iff (by decide)).mpr ⟨denotes, fits⟩
    refine ⟨n, ?_⟩
    rw [parseTimeout, parsed]
    exact if_neg (Nat.ne_of_gt positive)

theorem exists_parse_currency_iff :
    (∃ currency, (Currency.parse text).mapError (·.message) = .ok currency) ↔ Key.defaultCurrency.Valid text := by
  refine exists_congr fun currency => mapError_eq_ok_iff.trans ?_
  rw [← RateTable.parse_code_eq_ok_iff, String.ofList_toList]

theorem exists_foldlM_readPiece_iff {pieces : List (List Char)} {table : RateTable} :
    (∃ after, pieces.foldlM RateTable.readPiece table = .ok after) ↔
      ∀ piece ∈ pieces, ∃ setting, RateTable.Spells piece setting := by
  induction pieces generalizing table with
  | nil => exact ⟨fun _ => nofun, fun _ => ⟨table, rfl⟩⟩
  | cons piece pieces inductionHypothesis =>
      rw [List.foldlM_cons, List.forall_mem_cons]
      rcases RateTable.refused_or_spells piece with ⟨e, refused⟩ | ⟨setting, spells⟩
      · have unspelled : ¬∃ setting, RateTable.Spells piece setting := by
          rintro ⟨setting, spells⟩
          cases (refused table).symm.trans (spells.readPiece_eq table)
        rw [refused]
        exact ⟨nofun, fun spelled => absurd spelled.1 unspelled⟩
      · rw [spells.readPiece_eq]
        exact inductionHypothesis.trans (and_iff_right ⟨setting, spells⟩).symm

theorem exists_parse_rates_iff :
    (∃ table, (RateTable.parse text).mapError (·.message) = .ok table) ↔ Key.rates.Valid text := by
  simp only [mapError_eq_ok_iff, RateTable.parse_eq]
  exact exists_foldlM_readPiece_iff

theorem exists_parseAddress_iff : (∃ address, parseAddress text = .ok address) ↔ Key.address.Valid text := by
  have written := Net.SocketAddress.exists_parse?_iff (Text.trim text)
  rw [Text.trim, String.toList_ofList] at written
  refine (exists_congr fun address => ?_).trans written
  unfold parseAddress
  rw [Text.trim]
  cases Net.SocketAddress.parse? (String.ofList (Text.trimChars text.toList)) <;> simp

theorem exists_parse_format_iff :
    (∃ format, (LogFormat.parse text).mapError (·.message) = .ok format) ↔ Key.logFormat.Valid text := by
  simp only [mapError_eq_ok_iff, Key.Valid]
  unfold LogFormat.parse
  split <;> simp_all [formatWords]

end Values

/-! ### Blame -/

/-- A key is absent, or nothing but blanks stands there. -/
def Lookup.Blank (lookup : Lookup) (key : Key) : Prop :=
  ∀ text, lookup key.name = some text → ∀ c ∈ text.toList, Text.isBlank c = true

/-- A key is blank or holds a valid value. -/
def Lookup.Sound (lookup : Lookup) (key : Key) : Prop :=
  lookup.Blank key ∨ ∃ text, lookup key.name = some text ∧ key.Valid text

/-- The keys that are consulted in any case, in order. -/
def alwaysConsulted : List Key := [.defaultCurrency, .operationTimeout, .rates, .address, .logFormat]

/-- The keys that are consulted, in order: those of the database only if there is one. -/
def Consulted (lookup : Lookup) (keys : List Key) : Prop :=
  lookup.Blank .databaseUrl ∧ keys = alwaysConsulted ∨
    ¬lookup.Blank .databaseUrl ∧ keys = .maxConnections :: .acquireTimeout :: alwaysConsulted

/-- A result depends on keys in order: it is there if all of them are sound, and else it is the fault of the first
that is not. -/
def Blames {α : Type} (lookup : Lookup) (keys : List Key) : Except Invalid α → Prop
  | .ok _ => ∀ key ∈ keys, lookup.Sound key
  | .error e => ∃ before after, keys = before ++ e.key :: after ∧ (∀ key ∈ before, lookup.Sound key) ∧
      ¬lookup.Sound e.key

section Blame

variable {lookup : Lookup} {key : Key} {keys more : List Key} {α β : Type}

theorem given_eq_none_iff : lookup.given key = none ↔ lookup.Blank key := by
  simp [Lookup.given, Lookup.Blank, Option.filter_eq_none_iff, Text.allBlank]

theorem of_given_eq_some {text : String} (given : lookup.given key = some text) :
    lookup key.name = some text ∧ ¬lookup.Blank key := by
  refine ⟨(Option.filter_eq_some_iff.mp given).1, fun blank => ?_⟩
  rw [given_eq_none_iff.mpr blank] at given
  cases given

theorem sound_iff_of_given {text : String} (given : lookup.given key = some text) :
    lookup.Sound key ↔ key.Valid text := by
  obtain ⟨there, visible⟩ := of_given_eq_some given
  constructor
  · rintro (blank | ⟨text', there', valid⟩)
    · exact absurd blank visible
    · rwa [Option.some.inj (there.symm.trans there')]
  · exact fun valid => .inr ⟨text, there, valid⟩

/-- A key that is read bears the blame for what is read of it. -/
theorem blames_read {parse : String → Except String α} {default : α}
    (validates : ∀ text, (∃ a, parse text = .ok a) ↔ key.Valid text) :
    Blames lookup [key] (lookup.read key default parse) := by
  unfold Lookup.read
  cases given : lookup.given key with
  | none =>
      rintro _ (_ | ⟨_, ⟨⟩⟩)
      exact .inl (given_eq_none_iff.mp given)
  | some text =>
      have sound := (sound_iff_of_given given).trans (validates text).symm
      cases parsed : parse text with
      | ok a =>
          simp only [parsed]
          rintro _ (_ | ⟨_, ⟨⟩⟩)
          exact sound.mpr ⟨a, parsed⟩
      | error reason =>
          simp only [parsed]
          refine ⟨[], [], rfl, nofun, fun holds => ?_⟩
          obtain ⟨a, known⟩ := sound.mp holds
          cases parsed.symm.trans known

/-- What comes later is to blame only if what comes first is sound. -/
theorem Blames.bind {first : Except Invalid α} {rest : α → Except Invalid β} (blames : Blames lookup keys first)
    (blames' : ∀ a, Blames lookup more (rest a)) : Blames lookup (keys ++ more) (first >>= rest) := by
  cases first with
  | error e =>
      obtain ⟨before, after, rfl, sound, unsound⟩ := blames
      exact ⟨before, after ++ more, by simp, sound, unsound⟩
  | ok a =>
      have later := blames' a
      change Blames lookup (keys ++ more) (rest a)
      cases read : rest a with
      | ok b =>
          rw [read] at later
          exact fun key member => (List.mem_append.mp member).elim (blames key) (later key)
      | error e =>
          rw [read] at later
          obtain ⟨before, after, rfl, sound, unsound⟩ := later
          exact ⟨keys ++ before, after, by simp, fun key member =>
            (List.mem_append.mp member).elim (blames key) (sound key), unsound⟩

theorem blames_ok (a : α) : Blames lookup [] (.ok a) := nofun

/-- The keys of the database are to blame first, then those that are consulted in any case. -/
theorem Blames.settings (blames : Blames lookup keys (readDatabase lookup)) :
    Blames lookup (keys ++ alwaysConsulted) (Settings.read lookup) :=
  blames.bind fun _ =>
    (blames_read fun _ => exists_parse_currency_iff).bind fun _ =>
    (blames_read fun _ => exists_parseTimeout_iff).bind fun _ =>
    (blames_read fun _ => exists_parse_rates_iff).bind fun _ =>
    (blames_read fun _ => exists_parseAddress_iff).bind fun _ =>
    (blames_read fun _ => exists_parse_format_iff).bind fun _ => blames_ok _

theorem blames_consulted (consulted : Consulted lookup keys) : Blames lookup keys (Settings.read lookup) := by
  rcases consulted with ⟨blank, rfl⟩ | ⟨visible, rfl⟩
  · have database : Blames lookup [] (readDatabase lookup) := by
      rw [readDatabase, given_eq_none_iff.mpr blank]
      exact blames_ok _
    exact database.settings
  · have database : Blames lookup [.maxConnections, .acquireTimeout] (readDatabase lookup) := by
      obtain ⟨url, given⟩ := Option.ne_none_iff_exists'.mp fun none => visible (given_eq_none_iff.mp none)
      rw [readDatabase, given]
      exact (blames_read fun _ => exists_parseNatural_iff (by decide)).bind fun _ =>
        (blames_read fun _ => exists_parseNatural_iff (by decide)).bind fun _ => blames_ok _
    exact database.settings

theorem Blames.exists_ok_iff {result : Except Invalid α} (blames : Blames lookup keys result) :
    (∃ a, result = .ok a) ↔ ∀ key ∈ keys, lookup.Sound key := by
  cases result with
  | ok a => exact ⟨fun _ => blames, fun _ => ⟨a, rfl⟩⟩
  | error e =>
      obtain ⟨before, after, rfl, -, unsound⟩ := blames
      exact ⟨nofun, fun sound => absurd (sound e.key (by simp)) unsound⟩

end Blame

/-! ### Likeness -/

/-- Two values of a key are alike: the same but for blanks around them, or the very same where they are taken as they
are. -/
def Key.Alike : Key → String → String → Prop
  | .databaseUrl, text, text' | .logFilter, text, text' => text = text'
  | _, text, text' => Text.trim text = Text.trim text'

/-- Two lookups are alike: where one is blank so is the other, and else their values are alike. -/
def Lookup.Alike (lookup lookup' : Lookup) : Prop :=
  ∀ key : Key, lookup.Blank key ∧ lookup'.Blank key ∨
    ∃ text text', lookup key.name = some text ∧ lookup' key.name = some text' ∧ key.Alike text text'

section Likeness

variable {lookup lookup' : Lookup} {key : Key} {text text' : String} {α : Type}

/-- Blanks around a text are blanks around its first and around its last piece. -/
theorem map_trimChars_pieces {before after : List Char} (blank : ∀ c ∈ before, Text.isBlank c = true)
    (blank' : ∀ c ∈ after, Text.isBlank c = true) (cs : List Char) :
    (RateTable.pieces (before ++ cs ++ after)).map Text.trimChars = (RateTable.pieces cs).map Text.trimChars := by
  have noComma : ∀ {cs : List Char}, (∀ c ∈ cs, Text.isBlank c = true) → ',' ∉ cs := fun blank member => by
    cases blank ',' member
  induction length : cs.length using Nat.strong_induction_on generalizing before cs with
  | _ count inductionHypothesis =>
    unfold RateTable.pieces at inductionHypothesis ⊢
    by_cases comma : ',' ∈ cs
    · obtain ⟨first, others, rfl, alone⟩ := List.eq_append_cons_of_mem comma
      have piece : ',' ∉ before ++ first := by simp [noComma blank, alone]
      have trimmed : Text.trimChars (before ++ first ++ []) = Text.trimChars first :=
        Text.trimChars_surrounded blank (List.forall_mem_nil _) first
      have shorter : others.length < count := by
        rw [List.length_append, List.length_cons] at length
        omega
      have rest : (([] ++ others ++ after).splitOn ',').map Text.trimChars =
          (others.splitOn ',').map Text.trimChars :=
        inductionHypothesis others.length shorter (List.forall_mem_nil _) others rfl
      rw [List.append_nil] at trimmed
      rw [List.nil_append] at rest
      rw [List.append_assoc, List.append_assoc, List.cons_append, ← List.append_assoc,
        List.splitOn_append_cons_self, List.splitOn_append_cons_self, List.splitOn_eq_singleton piece,
        List.splitOn_eq_singleton alone, List.map_append, List.map_append, rest, List.map_singleton, trimmed,
        List.map_singleton]
    · have piece : ',' ∉ before ++ cs ++ after := by simp [noComma blank, noComma blank', comma]
      rw [List.splitOn_eq_singleton piece, List.splitOn_eq_singleton comma, List.map_singleton, List.map_singleton,
        Text.trimChars_surrounded blank blank']

/-- Texts that are the same but for blanks around them make the same table. -/
theorem parse_rates_congr (same : Text.trim text = Text.trim text') : RateTable.parse text = RateTable.parse text' := by
  have trimmed : ∀ text : String,
      (RateTable.pieces text.toList).map Text.trimChars =
        (RateTable.pieces (Text.trim text).toList).map Text.trimChars := by
    intro text
    obtain ⟨before, after, blank, blank', eq⟩ := Text.exists_surrounded text.toList
    have dropped := map_trimChars_pieces blank blank' (Text.trimChars text.toList)
    rwa [← eq, ← String.toList_ofList (l := Text.trimChars text.toList)] at dropped
  rw [RateTable.parse_eq, RateTable.parse_eq, RateTable.piecesOf, RateTable.piecesOf, trimmed text, trimmed text', same]

theorem parseNatural_congr (bound : ℕ) (same : Text.trim text = Text.trim text') :
    parseNatural bound text = parseNatural bound text' := by
  unfold parseNatural
  rw [same]

theorem parseTimeout_congr (same : Text.trim text = Text.trim text') : parseTimeout text = parseTimeout text' := by
  unfold parseTimeout parseMillis
  rw [parseNatural_congr _ same]

theorem parseAddress_congr (same : Text.trim text = Text.trim text') : parseAddress text = parseAddress text' := by
  unfold parseAddress
  rw [same]

theorem allBlank_iff : Text.allBlank text = true ↔ Text.trim text = "" := by
  rw [Text.allBlank, List.all_eq_true, ← Text.trimChars_eq_nil_iff, Text.trim]
  exact String.ofList_eq_empty_iff.symm

theorem Key.Alike.trim_eq (alike : key.Alike text text') : Text.trim text = Text.trim text' := by
  cases key with
  | databaseUrl | logFilter => rw [(alike : text = text')]
  | _ => exact alike

theorem Lookup.Alike.given (alike : lookup.Alike lookup') (key : Key) :
    lookup.given key = none ∧ lookup'.given key = none ∨
      ∃ text text', lookup.given key = some text ∧ lookup'.given key = some text' ∧ key.Alike text text' := by
  rcases alike key with ⟨blank, blank'⟩ | ⟨text, text', there, there', same⟩
  · exact .inl ⟨given_eq_none_iff.mpr blank, given_eq_none_iff.mpr blank'⟩
  · have blank : Text.allBlank text = Text.allBlank text' := by
      rw [Bool.eq_iff_iff, allBlank_iff, allBlank_iff, same.trim_eq]
    unfold Lookup.given
    rw [there, there']
    cases visible : Text.allBlank text with
    | true =>
        rw [visible] at blank
        exact .inl ⟨by simp [visible], by simp [← blank]⟩
    | false =>
        rw [visible] at blank
        exact .inr ⟨text, text', by simp [visible], by simp [← blank], same⟩

theorem Lookup.Alike.read_eq (alike : lookup.Alike lookup') {parse : String → Except String α} {default : α}
    (congruent : ∀ text text', key.Alike text text' → parse text = parse text') :
    lookup.read key default parse = lookup'.read key default parse := by
  unfold Lookup.read
  rcases alike.given key with ⟨none, none'⟩ | ⟨text, text', given, given', same⟩
  · rw [none, none']
  · simp only [given, given', congruent text text' same]

theorem Lookup.Alike.readDatabase_eq (alike : lookup.Alike lookup') : readDatabase lookup = readDatabase lookup' := by
  have maxConnections : lookup.read .maxConnections 10 (parseNatural (2 ^ 32)) =
      lookup'.read .maxConnections 10 (parseNatural (2 ^ 32)) :=
    alike.read_eq fun _ _ same => parseNatural_congr _ same.trim_eq
  have acquireTimeout : lookup.read .acquireTimeout 3000 parseMillis = lookup'.read .acquireTimeout 3000 parseMillis :=
    alike.read_eq fun _ _ same => parseNatural_congr _ same.trim_eq
  unfold readDatabase
  rw [maxConnections, acquireTimeout]
  rcases alike.given .databaseUrl with ⟨none, none'⟩ | ⟨text, _, given, given', ⟨⟩⟩
  · rw [none, none']
  · rw [given, given']

/-- From lookups that are alike the same settings are read, or the same error comes of them. -/
theorem Lookup.Alike.settings_eq (alike : lookup.Alike lookup') : Settings.read lookup = Settings.read lookup' := by
  have currency : lookup.read .defaultCurrency .usd (fun text => (Currency.parse text).mapError (·.message)) =
      lookup'.read .defaultCurrency .usd fun text => (Currency.parse text).mapError (·.message) :=
    alike.read_eq fun _ _ same => by rw [Currency.parse, Currency.parse, same.trim_eq]
  have timeout : lookup.read .operationTimeout 5000 parseTimeout = lookup'.read .operationTimeout 5000 parseTimeout :=
    alike.read_eq fun _ _ same => parseTimeout_congr same.trim_eq
  have rates : lookup.read .rates RateTable.empty (fun text => (RateTable.parse text).mapError (·.message)) =
      lookup'.read .rates RateTable.empty fun text => (RateTable.parse text).mapError (·.message) :=
    alike.read_eq fun _ _ same => by rw [parse_rates_congr same.trim_eq]
  have address : lookup.read .address defaultAddress parseAddress = lookup'.read .address defaultAddress parseAddress :=
    alike.read_eq fun _ _ same => parseAddress_congr same.trim_eq
  have format :
      lookup.read .logFormat LogSettings.standard.format (fun text => (LogFormat.parse text).mapError (·.message)) =
        lookup'.read .logFormat LogSettings.standard.format fun text => (LogFormat.parse text).mapError (·.message) :=
    alike.read_eq fun _ _ same => by rw [LogFormat.parse, LogFormat.parse, same.trim_eq]
  have filter : lookup.given .logFilter = lookup'.given .logFilter := by
    rcases alike.given .logFilter with ⟨none, none'⟩ | ⟨text, _, given, given', ⟨⟩⟩
    · rw [none, none']
    · rw [given, given']
  unfold Settings.read
  rw [alike.readDatabase_eq, currency, timeout, rates, address, format, filter]

end Likeness

/-- Settings are read exactly if every key that is consulted is blank or holds a valid value; else the error names the
first one, in the order in which they are consulted, for which this is not so.  The same settings and the same errors
come of lookups that differ in blanks around values, or in whether what is blank is there at all. -/
theorem settings_blame_first_unsound (lookup : Lookup) :
    (∃ keys, Consulted lookup keys ∧
      ((∃ settings, Settings.read lookup = .ok settings) ↔ ∀ key ∈ keys, lookup.Sound key) ∧
      ∀ e, Settings.read lookup = .error e →
        ∃ before after, keys = before ++ e.key :: after ∧ (∀ key ∈ before, lookup.Sound key) ∧ ¬lookup.Sound e.key ∧
          e.message = "invalid value for " ++ e.key.name ++ ": " ++ e.reason) ∧
    ∀ lookup' : Lookup, lookup.Alike lookup' → Settings.read lookup' = Settings.read lookup := by
  refine ⟨?_, fun lookup' alike => alike.settings_eq.symm⟩
  obtain ⟨keys, consulted⟩ : ∃ keys, Consulted lookup keys := by
    by_cases blank : lookup.Blank .databaseUrl
    · exact ⟨_, .inl ⟨blank, rfl⟩⟩
    · exact ⟨_, .inr ⟨blank, rfl⟩⟩
  have blames := blames_consulted consulted
  refine ⟨keys, consulted, blames.exists_ok_iff, fun e failed => ?_⟩
  rw [failed] at blames
  obtain ⟨before, after, order, sound, unsound⟩ := blames
  exact ⟨before, after, order, sound, unsound, rfl⟩

/-- Settings with a number of connections that is none, and an operation that may take no time. -/
def misset : Lookup := fun name =>
  [("DATABASE_URL", "postgres://db"), ("LEDGERLY_DB_MAX_CONNECTIONS", "ten"),
    ("LEDGERLY_OPERATION_TIMEOUT_MS", "0")].lookup name

/-- The same with blanks. -/
def missetLoosely : Lookup := fun name =>
  [("DATABASE_URL", "postgres://db"), ("LEDGERLY_DB_MAX_CONNECTIONS", " ten\t"),
    ("LEDGERLY_DEFAULT_CURRENCY", "\u00a0"), ("LEDGERLY_OPERATION_TIMEOUT_MS", "0\n")].lookup name

theorem misset_alike : misset.Alike missetLoosely
  | .databaseUrl => .inr ⟨_, _, rfl, rfl, rfl⟩
  | .maxConnections | .operationTimeout => .inr ⟨_, _, rfl, rfl, by unfold Key.Alike; decide⟩
  | .defaultCurrency => .inl ⟨nofun, given_eq_none_iff.mp (by decide)⟩
  | .acquireTimeout | .rates | .address | .logFormat | .logFilter => .inl ⟨nofun, nofun⟩

/-- Settings without a database, with an address of version 6. -/
def wellSet : Lookup := fun name =>
  [("LEDGERLY_DEFAULT_CURRENCY", "eur"), ("LEDGERLY_FX_RATES", "EUR:USD=1.1, USD:JPY=150"),
    ("LEDGERLY_HTTP_ADDR", " [2001:db8::1.2.3.4%7]:080")].lookup name

/-- The connections are blamed, as they are consulted before the operation, and are so in both.  Of other settings
nothing is to blame. -/
theorem settings_blame_first_unsound_misset :
    Settings.read missetLoosely = Settings.read misset ∧
      (∃ e, Settings.read misset = .error e ∧ e.key = .maxConnections ∧ ¬misset.Sound e.key) ∧
      (∃ settings, Settings.read wellSet = .ok settings) ∧ wellSet.Sound .address := by
  refine ⟨(settings_blame_first_unsound misset).2 missetLoosely misset_alike, ?_, ?_⟩
  · have failed : Settings.read misset = .error ⟨.maxConnections, "invalid digit found in string"⟩ := by decide
    obtain ⟨keys, -, -, blamed⟩ := (settings_blame_first_unsound misset).1
    obtain ⟨-, -, -, -, unsound, -⟩ := blamed _ failed
    exact ⟨_, failed, rfl, unsound⟩
  · have read : (Settings.read wellSet).isOk = true := by decide +kernel
    obtain ⟨keys, consulted, succeeds, -⟩ := (settings_blame_first_unsound wellSet).1
    have read' : ∃ settings, Settings.read wellSet = .ok settings := by
      cases result : Settings.read wellSet with
      | ok settings => exact ⟨settings, rfl⟩
      | error e =>
          rw [result] at read
          cases read
    refine ⟨read', succeeds.mp read' .address ?_⟩
    rcases consulted with ⟨-, rfl⟩ | ⟨-, rfl⟩ <;> simp [alwaysConsulted]

end Config

end Passbook
