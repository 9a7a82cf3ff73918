import Passbook.Proofs.Json.Writing
/-!
# Records that are read

A record with its members in the order of its fields is read like the list of their values, and what is read for a
field is what the text has in the place of this field.
-/

namespace Passbook.Json

-- Powers are those of natural numbers and integers, whatever else is in scope.
attribute [local instance (2000)] instPowNat

variable {δ α β : Type}

/-! ### Members in order -/

section Order

variable {all fields : List (Field δ)} {field : Field δ}

theorem find?_field (distinct : (fields.map (·.name)).Nodup) (member : field ∈ fields) :
    fields.find? (·.name == field.name) = some field := by
  induction fields with
  | nil => cases member
  | cons first fields inductionHypothesis =>
      rw [List.map_cons, List.nodup_cons] at distinct
      rcases List.mem_cons.mp member with rfl | later
      · exact List.find?_cons_of_pos (by simp)
      · have other : first.name ≠ field.name := fun same => distinct.1 (same ▸ List.mem_map_of_mem later)
        rw [List.find?_cons_of_neg (by simpa using other)]
        exact inductionHypothesis distinct.2 later

/-- Members with the names of fields in their order. -/
theorem readNamed_zip {trees : List Tree} (same : trees.length = fields.length) :
    ∀ {seen : List String} {draft : δ}, (∀ field ∈ fields, all.find? (·.name == field.name) = some field) →
      (∀ field ∈ fields, field.name ∉ seen) → (fields.map (·.name)).Nodup →
      readNamed all seen ((fields.map fun field => some field.name).zip trees) draft =
        readPositional true fields trees draft := by
  induction fields generalizing trees with
  | nil =>
      obtain rfl : trees = [] := List.length_eq_zero_iff.mp same
      intros
      rfl
  | cons field fields inductionHypothesis =>
      obtain ⟨tree, trees, rfl⟩ := List.exists_cons_of_length_eq_add_one same
      intro seen draft found unseen distinct
      rw [List.map_cons, List.nodup_cons] at distinct
      have others : ∀ draft,
          readNamed all (field.name :: seen) ((fields.map fun field => some field.name).zip trees) draft =
            readPositional true fields trees draft := fun draft => inductionHypothesis (by simpa using same)
        (fun other member => found other (List.mem_cons_of_mem _ member))
        (fun other member => by
          rw [List.mem_cons, not_or]
          exact ⟨fun same => distinct.1 (same ▸ List.mem_map_of_mem member),
            unseen other (List.mem_cons_of_mem _ member)⟩)
        distinct.2
      rw [List.map_cons, List.zip_cons_cons, readNamed, found field List.mem_cons_self]
      simp only [if_neg (unseen field List.mem_cons_self), readPositional, others]

end Order

namespace Value

theorem itemTrees_eq_map (items : List Value) : itemTrees items = items.map tree := by
  induction items with
  | nil => rfl
  | cons item items inductionHypothesis => rw [itemTrees, inductionHypothesis, List.map_cons]

theorem memberTrees_eq_zip (members : List (String × Value)) :
    memberTrees members = (members.map fun member => some member.1).zip (itemTrees (members.map (·.2))) := by
  induction members with
  | nil => rfl
  | cons member members inductionHypothesis => rw [memberTrees, inductionHypothesis]; rfl

end Value

/-- A record that is written with its members in the order of the fields is read like the list of their values. -/
theorem Shape.read_object {shape : Shape δ α} {members : List (String × Value)}
    (distinct : (shape.fields.map (·.name)).Nodup) (names : members.map (·.1) = shape.fields.map (·.name)) :
    shape.read (Value.object members).tree = shape.read (Value.array (members.map (·.2))).tree := by
  have labels : (members.map fun member => some member.1) = shape.fields.map fun field => some field.name := by
    have labelled := congrArg (List.map some) names
    simpa only [List.map_map, Function.comp_def] using labelled
  have length : (Value.itemTrees (members.map (·.2))).length = shape.fields.length := by
    simpa [Value.itemTrees_eq_map] using congrArg List.length names
  have inOrder : readNamed shape.fields []
      ((shape.fields.map fun field => some field.name).zip (Value.itemTrees (members.map (·.2)))) shape.empty =
      readPositional true shape.fields (Value.itemTrees (members.map (·.2))) shape.empty :=
    readNamed_zip length (fun field member => find?_field distinct member) (fun _ _ => List.not_mem_nil) distinct
  simp only [Shape.read, Value.tree, Value.memberTrees_eq_zip, labels, inOrder, if_true]
  cases readPositional true shape.fields (Value.itemTrees (members.map (·.2))) shape.empty <;> rfl

/-! ### The place of a field -/

/-- What stands in the place of a field: the member with its name, or the item that is as far behind. -/
def Tree.part? (names : List String) (name : String) : Tree → Option Tree
  | object members _ => members.lookup (some name)
  | array items _ => (names.zip items).lookup name
  | _ => none

theorem bind_eq_ok_iff {first : Except Problem α} {rest : α → Except Problem β} {done : β} :
    first >>= rest = .ok done ↔ ∃ a, first = .ok a ∧ rest a = .ok done := by
  cases first with
  | error problem => exact ⟨nofun, nofun⟩
  | ok a =>
      refine ⟨fun ok => ⟨a, rfl, ok⟩, ?_⟩
      rintro ⟨_, ⟨⟩, ok⟩
      exact ok

theorem Field.of_read_eq_ok {name : String} {read : Reader α} {put : α → δ → δ} {tree : Tree} {draft after : δ} :
    (Field.of name read put).read tree draft = .ok after ↔ ∃ a, read tree = .ok a ∧ put a draft = after :=
  bind_eq_ok_iff.trans (exists_congr fun _ => and_congr_right fun _ => ⟨Except.ok.inj, congrArg _⟩)

/-- The fields with a name set a part of a draft to what is read in their place, and the others do not touch it. -/
structure Sets (fields : List (Field δ)) (name : String) (read : Reader β) (get : δ → Option β) : Prop where
  distinct : (fields.map (·.name)).Nodup
  sets : ∀ field ∈ fields, field.name = name → ∀ {tree draft after}, field.read tree draft = .ok after →
    ∃ b, read tree = .ok b ∧ get after = some b
  keeps : ∀ field ∈ fields, field.name ≠ name → ∀ {tree draft after}, field.read tree draft = .ok after →
    get after = get draft

/-- A part of a draft comes from what stands in its place, or is as it was if nothing stands there. -/
def ComesFrom (read : Reader β) (part : Option Tree) (before after : Option β) : Prop :=
  match part with
  | some tree => ∃ b, read tree = .ok b ∧ after = some b
  | none => after = before

section Parts

variable {fields : List (Field δ)} {name : String} {read : Reader β} {get : δ → Option β} {draft after : δ}

theorem Sets.tail {field : Field δ} (sets : Sets (field :: fields) name read get) : Sets fields name read get where
  distinct := (List.nodup_cons.mp sets.distinct).2
  sets other member := sets.sets other (List.mem_cons_of_mem _ member)
  keeps other member := sets.keeps other (List.mem_cons_of_mem _ member)

theorem Sets.comesFrom_positional (sets : Sets fields name read get) {closed : Bool} {items : List Tree}
    (ok : readPositional closed fields items draft = .ok after) :
    ComesFrom read (((fields.map (·.name)).zip items).lookup name) (get draft) (get after) := by
  induction fields generalizing items draft with
  | nil =>
      cases items with
      | nil =>
          obtain rfl : draft = after := by
            cases closed <;> cases ok
            rfl
          rfl
      | cons item items => cases ok
  | cons field fields inductionHypothesis =>
      cases items with
      | nil => cases ok
      | cons item items =>
          obtain ⟨middle, first, others⟩ := bind_eq_ok_iff.mp ok
          have later := inductionHypothesis sets.tail others
          rw [List.map_cons, List.zip_cons_cons, List.lookup_cons]
          by_cases same : field.name = name
          · have absent : ((fields.map (·.name)).zip items).lookup name = none := by
              refine List.lookup_eq_none_iff.mpr fun entry member => ?_
              have listed : entry.1 ∈ fields.map (·.name) := (List.of_mem_zip member).1
              have other : name ≠ entry.1 := by
                intro eq
                rw [← eq, ← same] at listed
                exact (List.nodup_cons.mp sets.distinct).1 listed
              simpa using other
            rw [absent] at later
            obtain ⟨b, known, eq⟩ := sets.sets field List.mem_cons_self same first
            simp only [same, beq_self_eq_true]
            exact ⟨b, known, later.trans eq⟩
          · rw [sets.keeps field List.mem_cons_self same first] at later
            simpa [beq_false_of_ne (Ne.symm same)] using later

theorem Sets.comesFrom_named (sets : Sets fields name read get) (known : name ∈ fields.map (·.name))
    {seen : List String} {members : List (Option String × Tree)}
    (ok : readNamed fields seen members draft = .ok after) :
    ComesFrom read (if name ∈ seen then none else members.lookup (some name)) (get draft) (get after) := by
  induction members generalizing seen draft with
  | nil =>
      cases ok
      split <;> rfl
  | cons member members inductionHypothesis =>
      obtain ⟨key, tree⟩ := member
      cases key with
      | none => cases ok
      | some key =>
        rw [readNamed] at ok
        rw [List.lookup_cons]
        split at ok
        · rename_i field found
          have listed := List.mem_of_find?_eq_some found
          have named : field.name = key := by simpa using List.find?_some found
          split at ok
          · cases ok
          rename_i unseen
          obtain ⟨middle, first, others⟩ := bind_eq_ok_iff.mp ok
          have later := inductionHypothesis others
          by_cases same : key = name
          · subst key
            rw [if_pos (same ▸ List.mem_cons_self)] at later
            obtain ⟨b, content, eq⟩ := sets.sets field listed same first
            rw [if_neg (same ▸ unseen)]
            simp only [same, beq_self_eq_true]
            exact ⟨b, content, later.trans eq⟩
          · have skipped : (some name == some key) = false := by simpa using Ne.symm same
            rw [sets.keeps field listed (named ▸ same) first] at later
            simpa [Ne.symm same, skipped] using later
        · rename_i unknown
          have other : name ≠ key := by
            rintro rfl
            obtain ⟨field, listed, named⟩ := List.mem_map.mp known
            exact absurd (List.find?_eq_none.mp unknown field listed) (by simp [named])
          have skipped : (some name == some key) = false := by simpa using other
          split at ok
          · simpa only [skipped] using inductionHypothesis ok
          · cases ok

/-- A record that is read is made of a draft, and this is filled by name or in order. -/
theorem Shape.exists_draft {shape : Shape δ α} {tree : Tree} {a : α} (ok : shape.read tree = .ok a) :
    ∃ draft, shape.build draft = some a ∧
      ((∃ members, tree = .object members true ∧ readNamed shape.fields [] members shape.empty = .ok draft) ∨
        ∃ items closed, tree = .array items closed ∧
          readPositional closed shape.fields items shape.empty = .ok draft) := by
  cases tree with
  | object members closed =>
      obtain ⟨draft, named, built⟩ := bind_eq_ok_iff.mp ok
      cases closed with
      | true =>
          obtain ⟨_, ⟨⟩, built⟩ := bind_eq_ok_iff.mp built
          refine ⟨draft, ?_, .inl ⟨members, rfl, named⟩⟩
          beta_reduce at built
          split at built <;> cases built
          assumption
      | false => cases built
  | array items closed =>
      obtain ⟨draft, listed, built⟩ := bind_eq_ok_iff.mp ok
      refine ⟨draft, ?_, .inr ⟨items, closed, rfl, listed⟩⟩
      beta_reduce at built
      split at built <;> cases built
      assumption
  | null | bool _ | number _ | string _ | broken => cases ok

/-- What is read of a record for a field is what stands in the place of this field. -/
theorem Shape.comesFrom {shape : Shape δ α} (sets : Sets shape.fields name read get)
    (known : name ∈ shape.fields.map (·.name)) {tree : Tree} {a : α} (ok : shape.read tree = .ok a) :
    ∃ draft, shape.build draft = some a ∧
      ComesFrom read (tree.part? (shape.fields.map (·.name)) name) (get shape.empty) (get draft) := by
  obtain ⟨draft, built, ⟨members, rfl, named⟩ | ⟨items, closed, rfl, listed⟩⟩ := Shape.exists_draft ok
  · exact ⟨draft, built, by simpa [Tree.part?] using sets.comesFrom_named known named⟩
  · exact ⟨draft, built, sets.comesFrom_positional listed⟩

end Parts

/-! ### Values that are written -/

section Written

variable {a : α}

/-- An integer of 64 bits is read as it is written. -/
theorem Tree.readInteger_integer {n : ℤ} (least : -2 ^ 63 ≤ n) (less : n < 2 ^ 63) :
    readInteger (Value.integer n).tree = .ok n := by
  have value := value?_ofInt (n := n) least (by omega)
  simp only [Value.tree, readInteger, value]
  exact if_pos ⟨least, less⟩

theorem Tree.readText_eq_ok_iff {tree : Tree} {s : String} : tree.readText = .ok s ↔ tree = .string (some s) := by
  constructor
  · intro read
    cases tree with
    | string content =>
        cases content with
        | none => cases read
        | some s' => rw [Except.ok.inj read]
    | null | bool _ | number _ | array _ _ | object _ _ | broken => cases read
  · rintro rfl
    rfl

theorem Tree.readTextAs_eq_ok_iff {parse : String → Option α} {tree : Tree} :
    tree.readTextAs parse = .ok a ↔ ∃ s, tree = .string (some s) ∧ parse s = some a := by
  refine bind_eq_ok_iff.trans (exists_congr fun s => and_congr readText_eq_ok_iff ?_)
  cases parse s <;> simp

theorem Tree.readTextAs_string {parse : String → Option α} {s : String} (parsed : parse s = some a) :
    (Tree.string (some s)).readTextAs parse = .ok a :=
  readTextAs_eq_ok_iff.mpr ⟨s, rfl, parsed⟩

theorem readAll_eq_ok_iff {read : Reader α} {text : String} :
    readAll read text = .ok a ↔ ∃ tree, treeOf text.toList = (tree, []) ∧ read tree = .ok a := by
  unfold readAll
  obtain ⟨tree, rest⟩ := treeOf text.toList
  refine bind_eq_ok_iff.trans ?_
  constructor
  · rintro ⟨a', known, finished⟩
    split at finished
    · rename_i ends
      exact ⟨tree, by rw [ends], by rw [known, finished]⟩
    · cases finished
  · rintro ⟨_, ⟨⟩, known⟩
    exact ⟨a, known, if_pos rfl⟩

theorem Tree.readOptional_of_ok {read : Reader α} {tree : Tree} (something : tree ≠ .null) (ok : read tree = .ok a) :
    readOptional read tree = .ok (some a) := by
  unfold readOptional
  split
  · exact absurd rfl something
  · rw [ok]
    rfl

/-- A value that may be missing is written as `null` if it is. -/
theorem Tree.readOptional_ofOption {read : Reader α} {write : α → Value} {value : Option α}
    (something : ∀ a, (write a).tree ≠ .null) (back : ∀ a ∈ value, read (write a).tree = .ok a) :
    readOptional read (Value.ofOption (value.map write)).tree = .ok value := by
  cases value with
  | none => rfl
  | some a => exact readOptional_of_ok (something a) (back a rfl)

/-- An item that is read goes into the draft. -/
theorem readPositional_of {name : String} {read : Reader α} {put : α → δ → δ} {fields : List (Field δ)} {closed : Bool}
    {item : Tree} {rest : List Tree} {draft : δ} (ok : read item = .ok a) :
    readPositional closed (.of name read put :: fields) (item :: rest) draft =
      readPositional closed fields rest (put a draft) := by
  rw [readPositional, Field.of_read_eq_ok.mpr ⟨a, ok, rfl⟩]
  rfl

/-- A record is made of a draft into which all items have gone. -/
theorem Shape.read_array {shape : Shape δ α} {items : List Value} (draft : δ)
    (filled : readPositional true shape.fields (Value.itemTrees items) shape.empty = .ok draft)
    (built : shape.build draft = some a) : shape.read (Value.array items).tree = .ok a := by
  refine bind_eq_ok_iff.mpr ⟨draft, filled, ?_⟩
  simp only [built]

end Written

end Passbook.Json
