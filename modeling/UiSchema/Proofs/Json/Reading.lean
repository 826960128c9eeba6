import Mathlib.Logic.Basic
import UiSchema.Json.Reader
import UiSchema.Proofs.Json.Tokens

/-! Documents read back from their tokens. If no object has a key twice, the reader gives the
document again exactly when it can read every word and the nesting is not beyond its limit. -/

set_option autoImplicit false

namespace UiSchema

namespace Json

mutual

/-- No object has a key twice, at any depth. -/
def Keyed : Json → Prop
  | .array items => ItemsKeyed items
  | .object members => Entries.Distinct members ∧ MembersKeyed members
  | _ => True

def ItemsKeyed : List Json → Prop
  | [] => True
  | item :: rest => Keyed item ∧ ItemsKeyed rest

def MembersKeyed : List (String × Json) → Prop
  | [] => True
  | (_, value) :: rest => Keyed value ∧ MembersKeyed rest

end

theorem membersKeyed_iff {members : Entries Json} :
    MembersKeyed members ↔ ∀ member ∈ members, member.2.Keyed := by
  induction members with
  | nil => simp [MembersKeyed]
  | cons member rest ih => rw [MembersKeyed, ih, List.forall_mem_cons]

theorem itemsKeyed_iff {items : List Json} :
    ItemsKeyed items ↔ ∀ item ∈ items, item.Keyed := by
  induction items with
  | nil => simp [ItemsKeyed]
  | cons item rest ih => rw [ItemsKeyed, ih, List.forall_mem_cons]

mutual

/-- The greatest number of arrays and objects that are open at once. -/
def nesting : Json → Nat
  | .array items => nestingItems items + 1
  | .object members => nestingMembers members + 1
  | _ => 0

def nestingItems : List Json → Nat
  | [] => 0
  | item :: rest => max item.nesting (nestingItems rest)

def nestingMembers : List (String × Json) → Nat
  | [] => 0
  | (_, value) :: rest => max value.nesting (nestingMembers rest)

end

namespace Reading

variable {d : Dialect} {token : Json → Token}

/-- A document does not begin with the end of an array, if its leaves do not. -/
theorem run_firstItem {v : Json} {stack : List Frame} (rest : List Token)
    (leaves : ∀ leaf ∈ words v, token leaf = .leaf leaf) :
    run d (.firstItem stack) (tokenList token v ++ rest) =
      run d (.value (.array [] :: stack)) (tokenList token v ++ rest) := by
  cases v with
  | array items => cases items <;> rfl
  | object members => cases members <;> rfl
  | str value => rfl
  | _ =>
    simp only [tokenList, leaves _ (List.mem_singleton_self _)]
    rfl

theorem run_opened {stack : List Frame} {inside : Reading} {bracket : Token}
    (opening : step d (.value stack) bracket = opened d stack inside) (rest : List Token) :
    run d (.value stack) (bracket :: rest) =
      if stack.length < d.depth then run d inside rest else .error .tooDeep := by
  rw [run, opening, opened]
  by_cases room : stack.length < d.depth
  · rw [if_pos room, if_neg (by omega)]
    rfl
  · rw [if_neg room, if_pos (by omega)]
    rfl

theorem run_openArray (stack : List Frame) (rest : List Token) :
    run d (.value stack) (.openArray :: rest) =
      if stack.length < d.depth then run d (.firstItem stack) rest else .error .tooDeep :=
  run_opened rfl rest

theorem run_openObject (stack : List Frame) (rest : List Token) :
    run d (.value stack) (.openObject :: rest) =
      if stack.length < d.depth then run d (.firstKey stack) rest else .error .tooDeep :=
  run_opened rfl rest

theorem run_leaf {leaf : Json} {stack : List Frame} {rest : List Token}
    (read : token leaf = .leaf leaf) (flat : leaf.nesting = 0) (room : stack.length ≤ d.depth) :
    run d (.value stack) ([token leaf] ++ rest) =
      if stack.length + leaf.nesting ≤ d.depth then run d (complete leaf stack) rest
      else .error .tooDeep := by
  rw [read, flat]
  exact (if_pos room).symm

theorem run_nextItem (read : List Json) (stack : List Frame) (rest : List Token) :
    run d (.next (.array read) stack) (.comma :: rest) =
      run d (.value (.array read :: stack)) rest :=
  rfl

theorem run_firstMember (name : String) (stack : List Frame) (rest : List Token) :
    run d (.firstKey stack) (.str name :: .colon :: rest) =
      run d (.value (.member [] name :: stack)) rest :=
  rfl

theorem run_nextMember (read : List (String × Json)) (name : String) (stack : List Frame)
    (rest : List Token) :
    run d (.next (.object read) stack) (.comma :: .str name :: .colon :: rest) =
      run d (.value (.member read name :: stack)) rest :=
  rfl

/-- A name that has not been read goes to the end. -/
theorem put_of_distinct {read members : List (String × Json)} {name : String} {held : Json}
    (distinct : Entries.Distinct (read ++ (name, held) :: members)) :
    Entries.put read name held = read ++ [(name, held)] := by
  unfold Entries.Distinct Entries.keys at distinct
  rw [List.map_append, List.map_cons, List.nodup_append] at distinct
  exact Entries.put_of_notMem
    (fun member => distinct.2.2 name member name (List.mem_cons_self ..) rfl) held

mutual

-- the stack and the tokens that follow are arbitrary: both grow on the way into a document

/-- The tokens of a document are read as that document, whatever comes after them, unless it is
nested too deeply. -/
theorem run_tokenList : ∀ (v : Json) (stack : List Frame) (rest : List Token), Keyed v →
    (∀ leaf ∈ words v, token leaf = .leaf leaf) → stack.length ≤ d.depth →
    run d (.value stack) (tokenList token v ++ rest) =
      if stack.length + v.nesting ≤ d.depth then run d (complete v stack) rest
      else .error .tooDeep
  | .null, _, _, _, leaves, room => run_leaf (leaves _ (List.mem_singleton_self _)) rfl room
  | .bool _, _, _, _, leaves, room => run_leaf (leaves _ (List.mem_singleton_self _)) rfl room
  | .int _, _, _, _, leaves, room => run_leaf (leaves _ (List.mem_singleton_self _)) rfl room
  | .float _, _, _, _, leaves, room => run_leaf (leaves _ (List.mem_singleton_self _)) rfl room
  | .str _, _, _, _, _, room => (if_pos room).symm
  | .array [], stack, rest, _, _, _ => by
    have tokens : tokenList token (.array []) ++ rest = .openArray :: .closeArray :: rest := rfl
    rw [tokens, run_openArray]
    rfl
  | .array (item :: items), stack, rest, keyed, leaves, _ => by
    have tokens : tokenList token (.array (item :: items)) ++ rest = .openArray ::
        (tokenList token item ++ (itemTokens token items ++ .closeArray :: rest)) := by
      simp [tokenList]
    obtain ⟨first, others⟩ := List.forall_mem_append.1 leaves
    rw [tokens, run_openArray]
    by_cases room : stack.length < d.depth
    · rw [if_pos room, run_firstItem _ first,
        run_tokenList item (.array [] :: stack) _ keyed.1 first room, complete,
        run_itemTokens items [item] stack rest keyed.2 others room, ← ite_and]
      apply if_congr _ rfl rfl
      simp only [List.length_cons, nesting, nestingItems]
      omega
    · rw [if_neg room, if_neg]
      simp only [nesting]
      omega
  | .object [], stack, rest, _, _, _ => by
    have tokens : tokenList token (.object []) ++ rest = .openObject :: .closeObject :: rest := rfl
    rw [tokens, run_openObject]
    rfl
  | .object ((name, held) :: members), stack, rest, keyed, leaves, _ => by
    have tokens : tokenList token (.object ((name, held) :: members)) ++ rest = .openObject ::
        .str name :: .colon ::
          (tokenList token held ++ (memberTokens token members ++ .closeObject :: rest)) := by
      simp [tokenList]
    obtain ⟨first, others⟩ := List.forall_mem_append.1 leaves
    rw [tokens, run_openObject]
    by_cases room : stack.length < d.depth
    · have read := run_memberTokens members [(name, held)] stack rest keyed.1 keyed.2.2 others room
      rw [if_pos room, run_firstMember,
        run_tokenList held (.member [] name :: stack) _ keyed.2.1 first room, complete,
        Entries.put, read, ← ite_and]
      apply if_congr _ rfl rfl
      simp only [List.length_cons, nesting, nestingMembers]
      omega
    · rw [if_neg room, if_neg]
      simp only [nesting]
      omega

/-- The items after the first go to the end of the array. -/
theorem run_itemTokens : ∀ (items read : List Json) (stack : List Frame) (rest : List Token),
    ItemsKeyed items → (∀ leaf ∈ itemWords items, token leaf = .leaf leaf) →
    stack.length < d.depth →
    run d (.next (.array read) stack) (itemTokens token items ++ .closeArray :: rest) =
      if stack.length + 1 + nestingItems items ≤ d.depth then
        run d (complete (.array (read.reverse ++ items)) stack) rest
      else .error .tooDeep
  | [], read, stack, rest, _, _, room => by
    rw [List.append_nil]
    exact (if_pos room).symm
  | item :: items, read, stack, rest, keyed, leaves, room => by
    have tokens : itemTokens token (item :: items) ++ .closeArray :: rest =
        .comma :: (tokenList token item ++ (itemTokens token items ++ .closeArray :: rest)) := by
      simp [itemTokens]
    obtain ⟨first, others⟩ := List.forall_mem_append.1 leaves
    have after := run_itemTokens items (item :: read) stack rest keyed.2 others room
    rw [List.reverse_cons, List.append_assoc] at after
    rw [tokens, run_nextItem, run_tokenList item (.array read :: stack) _ keyed.1 first room,
      complete, after, ← ite_and]
    apply if_congr _ rfl rfl
    simp only [List.length_cons, nestingItems]
    omega

/-- The members after the first go to the end of the object. -/
theorem run_memberTokens : ∀ (members read : List (String × Json)) (stack : List Frame)
    (rest : List Token), Entries.Distinct (read ++ members) → MembersKeyed members →
    (∀ leaf ∈ memberWords members, token leaf = .leaf leaf) → stack.length < d.depth →
    run d (.next (.object read) stack) (memberTokens token members ++ .closeObject :: rest) =
      if stack.length + 1 + nestingMembers members ≤ d.depth then
        run d (complete (.object (read ++ members)) stack) rest
      else .error .tooDeep
  | [], read, stack, rest, _, _, _, room => by
    rw [List.append_nil]
    exact (if_pos room).symm
  | (name, held) :: members, read, stack, rest, distinct, keyed, leaves, room => by
    have tokens : memberTokens token ((name, held) :: members) ++ .closeObject :: rest = .comma ::
        .str name :: .colon ::
          (tokenList token held ++ (memberTokens token members ++ .closeObject :: rest)) := by
      simp [memberTokens]
    obtain ⟨first, others⟩ := List.forall_mem_append.1 leaves
    have after := run_memberTokens members (read ++ [(name, held)]) stack rest
      (by rwa [List.append_assoc]) keyed.2 others room
    rw [List.append_assoc] at after
    rw [tokens, run_nextMember,
      run_tokenList held (.member read name :: stack) _ keyed.1 first room, complete,
      put_of_distinct distinct, after, ← ite_and]
    apply if_congr _ rfl rfl
    simp only [List.length_cons, nestingMembers]
    omega

end

/-- No reader goes past these. -/
inductive Refused : Token → Prop where
  | oversized : Refused .oversized
  | fault : Refused .fault

theorem step_refused {refused : Token} (bad : Refused refused) (reading : Reading) :
    ∃ cause, step d reading refused = .error cause := by
  cases bad <;> rcases reading with _ | _ | _ | _ | _ | ⟨_ | _, _⟩ | _ <;> exact ⟨_, rfl⟩

theorem run_refused {refused : Token} (bad : Refused refused) :
    ∀ (tokens : List Token) (reading : Reading), refused ∈ tokens →
      ∃ cause, run d reading tokens = .error cause
  | first :: rest, reading, member => by
    rw [run]
    rcases List.mem_cons.1 member with rfl | later
    · obtain ⟨cause, refusal⟩ := step_refused (d := d) bad reading
      rw [refusal]
      exact ⟨cause, rfl⟩
    · cases step d reading first with
      | error cause => exact ⟨cause, rfl⟩
      | ok next => exact run_refused bad rest next later

mutual

theorem mem_tokenList : ∀ {v leaf : Json}, leaf ∈ words v → token leaf ∈ tokenList token v
  | .null, _, member | .bool _, _, member | .int _, _, member | .float _, _, member => by
    cases List.mem_singleton.1 member
    exact List.mem_singleton_self _
  | .array (_ :: _), _, member => by
    rcases List.mem_append.1 member with first | others
    · simp [tokenList, mem_tokenList first]
    · simp [tokenList, mem_itemTokens others]
  | .object ((_, _) :: _), _, member => by
    rcases List.mem_append.1 member with first | others
    · simp [tokenList, mem_tokenList first]
    · simp [tokenList, mem_memberTokens others]

theorem mem_itemTokens : ∀ {items : List Json} {leaf : Json},
    leaf ∈ itemWords items → token leaf ∈ itemTokens token items
  | _ :: _, _, member => by
    rcases List.mem_append.1 member with first | others
    · simp [itemTokens, mem_tokenList first]
    · simp [itemTokens, mem_itemTokens others]

theorem mem_memberTokens : ∀ {members : List (String × Json)} {leaf : Json},
    leaf ∈ memberWords members → token leaf ∈ memberTokens token members
  | (_, _) :: _, _, member => by
    rcases List.mem_append.1 member with first | others
    · simp [memberTokens, mem_tokenList first]
    · simp [memberTokens, mem_memberTokens others]

end

end Reading

/-- The word of a leaf is read as the leaf. -/
def Legible (d : Dialect) (f : Format) (leaf : Json) : Prop :=
  word? d (f.chars 0 leaf) = some leaf

theorem Legible.token {d : Dialect} {f : Format} {leaf : Json} (legible : Legible d f leaf) :
    f.leafToken d leaf = .leaf leaf := by
  unfold Legible at legible
  rw [Format.leafToken, Scan.wordToken, List.reverse_reverse, legible]

section Written

variable {d : Dialect} {f : Format} {v : Json}

theorem refused_of_unread {leaf : Json} (unread : word? d (f.chars 0 leaf) = none) :
    Reading.Refused (f.leafToken d leaf) := by
  rw [Format.leafToken, Scan.wordToken, List.reverse_reverse, unread]
  dsimp only
  split
  · exact .oversized
  · exact .fault

theorem tokens_write (plain : f.Plain) (isWord : ∀ leaf ∈ words v, IsWord f leaf) :
    tokens d (f.chars 0 v) = tokenList (f.leafToken d) v := by
  have ends : Scan.EndsWord [] := nofun
  have scanned := Format.tokens_chars (d := d) plain 0 v isWord ends
  have nothing : Scan.tokens d .between [] = [] := rfl
  rwa [nothing, List.append_nil, List.append_nil] at scanned

/-- A document of legible words is read back, up to the depth that the reader bears. -/
theorem readChars_legible (plain : f.Plain) (keyed : Keyed v)
    (isWord : ∀ leaf ∈ words v, IsWord f leaf) (legible : ∀ leaf ∈ words v, Legible d f leaf) :
    readChars d (f.chars 0 v) = if v.nesting ≤ d.depth then .ok v else .error .tooDeep := by
  have read := Reading.run_tokenList v [] [] keyed (fun leaf member => (legible leaf member).token)
    (Nat.zero_le d.depth)
  rw [List.append_nil, List.length_nil, Nat.zero_add] at read
  rw [readChars, tokens_write plain isWord, read]
  split <;> rfl

theorem readChars_unread (plain : f.Plain) (isWord : ∀ leaf ∈ words v, IsWord f leaf) {leaf : Json}
    (member : leaf ∈ words v) (unread : word? d (f.chars 0 leaf) = none) :
    ∃ cause, readChars d (f.chars 0 v) = .error cause := by
  obtain ⟨cause, refusal⟩ := Reading.run_refused (d := d) (refused_of_unread unread) _ (.value [])
    (Reading.mem_tokenList member)
  rw [readChars, tokens_write plain isWord, refusal]
  exact ⟨cause, rfl⟩

/-- Reading undoes writing, in every plain format. It fails only on words that the reader refuses
and on too many open arrays and objects. -/
theorem readChars_eq_ok (plain : f.Plain) (keyed : Keyed v)
    (isWord : ∀ leaf ∈ words v, IsWord f leaf)
    (read : ∀ leaf ∈ words v, Legible d f leaf ∨ word? d (f.chars 0 leaf) = none) {found : Json} :
    readChars d (f.chars 0 v) = .ok found ↔
      ((∀ leaf ∈ words v, Legible d f leaf) ∧ v.nesting ≤ d.depth) ∧ v = found := by
  by_cases legible : ∀ leaf ∈ words v, Legible d f leaf
  · rw [readChars_legible plain keyed isWord legible]
    split
    · rename_i room
      simp only [Except.ok.injEq, room, and_true]
      exact ⟨fun same => ⟨legible, same⟩, And.right⟩
    · rename_i deep
      simp [deep]
  -- one word without a reading is enough for the whole text to be refused
  · obtain ⟨leaf, member, illegible⟩ : ∃ leaf ∈ words v, ¬ Legible d f leaf := by
      simpa using legible
    obtain ⟨cause, refusal⟩ := readChars_unread plain isWord member
      ((read leaf member).resolve_left illegible)
    rw [refusal]
    constructor
    · nofun
    · rintro ⟨⟨every, _⟩, _⟩
      exact absurd every legible

end Written

end Json

end UiSchema
