import Passbook.Entry.Target
/-!
# Masked targets

What the masked form of an external target gives away: which kind of target it is, whether there is a routing
number, and of every identifier the suffix that may be shown.  No two of these run into each other, since an
identifier has no blank in it.
-/

namespace Passbook

/-! ### Identifiers and what is shown of them -/

/-- The characters of an identifier, blanks and dashes left out. -/
def cleaned (text : String) : List Char := text.toList.filter fun c => !Text.isBlank c && c != '-'

/-- The part of an identifier that is shown: its end, four characters of it or half of it, whichever is
less. -/
structure IsShown (shown identifier : List Char) : Prop where
  suffix : shown <:+ identifier
  length : shown.length = min 4 (identifier.length / 2)

/-- Of two identifiers as they are written the same is shown. -/
def SameShown (text text' : String) : Prop :=
  ∃ shown, IsShown shown (cleaned text) ∧ IsShown shown (cleaned text')

/-- The end of an identifier that its masked form keeps. -/
def Text.visible (identifier : List Char) : List Char :=
  identifier.drop (identifier.length - min Text.maxVisible (identifier.length / 2))

theorem Text.isShown_visible (identifier : List Char) : IsShown (visible identifier) identifier where
  suffix := List.drop_suffix _ _
  length := by
    rw [visible, List.length_drop, maxVisible]
    omega

/-- No other part is shown. -/
theorem IsShown.eq_visible {shown identifier : List Char} (isShown : IsShown shown identifier) :
    shown = Text.visible identifier := by
  rw [List.suffix_iff_eq_drop.mp isShown.suffix, isShown.length]
  rfl

theorem sameShown_iff {text text' : String} :
    SameShown text text' ↔ Text.visible (cleaned text) = Text.visible (cleaned text') := by
  constructor
  · rintro ⟨shown, isShown, isShown'⟩
    rw [← isShown.eq_visible, ← isShown'.eq_visible]
  · intro same
    exact ⟨_, Text.isShown_visible _, same ▸ Text.isShown_visible _⟩

/-- At least half of an identifier is hidden. -/
theorem exists_hidden (identifier : List Char) :
    ∃ hidden shown, identifier = hidden ++ shown ∧ IsShown shown identifier ∧
      shown.length ≤ hidden.length := by
  have isShown := Text.isShown_visible identifier
  obtain ⟨hidden, parts⟩ := isShown.suffix
  refine ⟨hidden, _, parts.symm, isShown, ?_⟩
  have total := congrArg List.length parts
  have few := isShown.length
  rw [List.length_append] at total
  omega

/-- The characters of a masked text. -/
theorem Text.toList_maskSuffix (identifier : List Char) :
    (Text.maskSuffix (String.ofList identifier)).toList = "****".toList ++ visible identifier := by
  show (String.ofList ("****".toList ++ visible (String.ofList identifier).toList)).toList = _
  simp only [String.toList_ofList]

/-! ### Targets as they are written -/

/-- The identifiers of a target as a caller writes them. -/
inductive TargetText where
  | bank (account : String) (routing : Option String)
  | wallet (address : String)

namespace TargetText

/-- The target, unless an identifier is refused. -/
def read : TargetText → Except LedgerError ExternalTarget
  | bank account routing => ExternalTarget.ofBank account routing
  | wallet address => ExternalTarget.ofWallet address

/-- Two targets are of one kind, both with a routing number or both without, and of every identifier of the
one the same is shown as of the other's. -/
inductive ShowsSame : TargetText → TargetText → Prop where
  | bank {account account' : String} (accounts : SameShown account account') :
      ShowsSame (.bank account none) (.bank account' none)
  | routed {account account' routing routing' : String} (accounts : SameShown account account')
      (routings : SameShown routing routing') :
      ShowsSame (.bank account (some routing)) (.bank account' (some routing'))
  | wallet {address address' : String} (addresses : SameShown address address') :
      ShowsSame (.wallet address) (.wallet address')

end TargetText

namespace ExternalTarget

/-- An identifier that is accepted is kept without blanks and dashes, and there is no blank in it. -/
theorem readIdentifier_eq_ok {what text identifier : String} {least greatest : Nat}
    (read : readIdentifier what least greatest text = .ok identifier) :
    identifier = String.ofList (cleaned text) ∧ ' ' ∉ cleaned text := by
  unfold readIdentifier at read
  dsimp only at read
  split at read
  · cases read
  · split at read
    · cases read
    · rename_i alphanumeric
      split at read
      · cases read
      · cases read
        refine ⟨rfl, fun blank => ?_⟩
        rw [Bool.not_eq_true, Bool.not_eq_false'] at alphanumeric
        exact absurd (List.all_eq_true.mp alphanumeric ' ' blank) (by decide)

/-- The ways in which a target is accepted. -/
inductive Accepts : TargetText → ExternalTarget → Prop where
  | bank {account : String} (plain : ' ' ∉ cleaned account) :
      Accepts (.bank account none) (.bank (String.ofList (cleaned account)) none)
  | routed {account routing : String} (plain : ' ' ∉ cleaned account) (plain' : ' ' ∉ cleaned routing) :
      Accepts (.bank account (some routing))
        (.bank (String.ofList (cleaned account)) (some (String.ofList (cleaned routing))))
  | wallet {address : String} (plain : ' ' ∉ cleaned address) :
      Accepts (.wallet address) (.wallet (String.ofList (cleaned address)))

theorem accepts_of_read {written : TargetText} {target : ExternalTarget}
    (read : written.read = .ok target) : Accepts written target := by
  cases written with
  | wallet address =>
      simp only [TargetText.read, ofWallet] at read
      cases readAddress : readIdentifier "wallet address" 8 128 address with
      | error e =>
          rw [readAddress] at read
          cases read
      | ok identifier =>
          rw [readAddress] at read
          cases read
          obtain ⟨rfl, plain⟩ := readIdentifier_eq_ok readAddress
          exact .wallet plain
  | bank account routing =>
      simp only [TargetText.read, ofBank] at read
      cases readAccount : readIdentifier "bank account number" 4 34 account with
      | error e =>
          rw [readAccount] at read
          cases read
      | ok identifier =>
          rw [readAccount] at read
          obtain ⟨rfl, plain⟩ := readIdentifier_eq_ok readAccount
          cases routing with
          | none =>
              cases read
              exact .bank plain
          | some routing =>
              cases readRouting : readIdentifier "routing number" 4 34 routing with
              | error e =>
                  simp only [readRouting] at read
                  cases read
              | ok identifier' =>
                  simp only [readRouting] at read
                  cases read
                  obtain ⟨rfl, plain'⟩ := readIdentifier_eq_ok readRouting
                  exact .routed plain plain'

/-! ### Masked forms -/

theorem toList_masked_bank (account : List Char) :
    (masked (.bank (String.ofList account) none)).toList = "bank ****".toList ++ Text.visible account := by
  show ("bank " ++ Text.maskSuffix (String.ofList account)).toList = _
  rw [String.toList_append, Text.toList_maskSuffix]
  rfl

theorem toList_masked_routed (account routing : List Char) :
    (masked (.bank (String.ofList account) (some (String.ofList routing)))).toList =
      "bank ****".toList ++ (Text.visible account ++ ' ' :: ("routing ****".toList ++ Text.visible routing)) := by
  show ("bank " ++ Text.maskSuffix (String.ofList account) ++ " routing " ++
    Text.maskSuffix (String.ofList routing)).toList = _
  rw [String.toList_append, String.toList_append, String.toList_append, Text.toList_maskSuffix,
    Text.toList_maskSuffix]
  simp only [List.append_assoc]
  rfl

theorem toList_masked_wallet (address : List Char) :
    (masked (.wallet (String.ofList address))).toList = "wallet ****".toList ++ Text.visible address := by
  show ("wallet " ++ Text.maskSuffix (String.ofList address)).toList = _
  rw [String.toList_append, Text.toList_maskSuffix]
  rfl

/-- Two texts are the same up to the first place at which a character stands, and from there on. -/
private theorem eq_of_append_cons {c : Char} {one other rest rest' : List Char} (absent : c ∉ one)
    (absent' : c ∉ other) (same : one ++ c :: rest = other ++ c :: rest') : one = other ∧ rest = rest' := by
  rcases List.append_eq_append_iff.mp same with ⟨between, rfl, tail⟩ | ⟨between, rfl, tail⟩
  all_goals
    cases between with
    | nil =>
        rw [List.nil_append] at tail
        cases tail
        exact ⟨by simp, rfl⟩
    | cons first others =>
        obtain ⟨rfl, _⟩ := List.cons.inj tail
        simp at absent absent'

/-- No blank is shown of an identifier that has none. -/
private theorem plain_visible {identifier : List Char} (plain : ' ' ∉ identifier) :
    ' ' ∉ Text.visible identifier :=
  fun shown => plain (List.mem_of_mem_drop shown)

/-- A masked bank account without a routing number is not one with a routing number. -/
private theorem masked_bank_ne_routed {account account' routing : List Char} (plain : ' ' ∉ account) :
    masked (.bank (String.ofList account) none) ≠
      masked (.bank (String.ofList account') (some (String.ofList routing))) := by
  intro same
  have texts := congrArg String.toList same
  rw [toList_masked_bank, toList_masked_routed, List.append_cancel_left_eq] at texts
  have blank : ' ' ∈ Text.visible account := by simp [texts]
  exact plain_visible plain blank

/-- The masked forms of two accepted targets are the same if and only if they show the same. -/
theorem masked_eq_iff {written written' : TargetText} {one other : ExternalTarget}
    (read : written.read = .ok one) (read' : written'.read = .ok other) :
    one.masked = other.masked ↔ written.ShowsSame written' := by
  constructor
  · intro same
    have texts := congrArg String.toList same
    cases accepts_of_read read with
    | @bank account plain =>
        cases accepts_of_read read' with
        | bank =>
            rw [toList_masked_bank, toList_masked_bank, List.append_cancel_left_eq] at texts
            exact .bank (sameShown_iff.mpr texts)
        | routed => exact absurd same (masked_bank_ne_routed plain)
        | wallet =>
            rw [toList_masked_bank, toList_masked_wallet] at texts
            cases texts
    | @routed account routing plain plain' =>
        cases accepts_of_read read' with
        | bank plain'' => exact absurd same.symm (masked_bank_ne_routed plain'')
        | routed plain'' =>
            rw [toList_masked_routed, toList_masked_routed, List.append_cancel_left_eq] at texts
            obtain ⟨accounts, rest⟩ := eq_of_append_cons (plain_visible plain) (plain_visible plain'') texts
            rw [List.append_cancel_left_eq] at rest
            exact .routed (sameShown_iff.mpr accounts) (sameShown_iff.mpr rest)
        | wallet =>
            rw [toList_masked_routed, toList_masked_wallet] at texts
            cases texts
    | @wallet address =>
        cases accepts_of_read read' with
        | bank =>
            rw [toList_masked_wallet, toList_masked_bank] at texts
            cases texts
        | routed =>
            rw [toList_masked_wallet, toList_masked_routed] at texts
            cases texts
        | wallet =>
            rw [toList_masked_wallet, toList_masked_wallet, List.append_cancel_left_eq] at texts
            exact .wallet (sameShown_iff.mpr texts)
  · intro shows
    cases shows with
    | bank accounts =>
        cases accepts_of_read read
        cases accepts_of_read read'
        apply String.toList_injective
        rw [toList_masked_bank, toList_masked_bank, sameShown_iff.mp accounts]
    | routed accounts routings =>
        cases accepts_of_read read
        cases accepts_of_read read'
        apply String.toList_injective
        rw [toList_masked_routed, toList_masked_routed, sameShown_iff.mp accounts, sameShown_iff.mp routings]
    | wallet addresses =>
        cases accepts_of_read read
        cases accepts_of_read read'
        apply String.toList_injective
        rw [toList_masked_wallet, toList_masked_wallet, sameShown_iff.mp addresses]

end ExternalTarget

end Passbook
