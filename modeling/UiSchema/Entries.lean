/-! Ordered entries: keys in the order of their first appearance, each with the last value given
for it. Every keyed collection of the library (objects, style maps, registries) has this shape. -/

set_option autoImplicit false

namespace UiSchema

abbrev Entries (α : Type) := List (String × α)

namespace Entries

variable {α : Type}

def get? : Entries α → String → Option α
  | [], _ => none
  | (k, v) :: rest, key => if k = key then some v else get? rest key

def contains (es : Entries α) (key : String) : Bool := (es.get? key).isSome

def keys (es : Entries α) : List String := es.map (·.1)

def values (es : Entries α) : List α := es.map (·.2)

/-- A known key keeps its position, a new one goes to the end. -/
def put : Entries α → String → α → Entries α
  | [], key, value => [(key, value)]
  | (k, v) :: rest, key, value =>
    if k = key then (k, value) :: rest else (k, v) :: put rest key value

def erase : Entries α → String → Entries α
  | [], _ => []
  | (k, v) :: rest, key => if k = key then rest else (k, v) :: erase rest key

/-- Every entry of `later` put onto `base`, in order. -/
def putAll (base later : Entries α) : Entries α :=
  later.foldl (fun es e => es.put e.1 e.2) base

/-- A list of pairs read as entries: repeated keys are joined. -/
def ofPairs (pairs : List (String × α)) : Entries α := putAll [] pairs

def mapValues {β : Type} (f : α → β) (es : Entries α) : Entries β := es.map fun e => (e.1, f e.2)

/-- No key appears twice. -/
def Distinct (es : Entries α) : Prop := es.keys.Nodup

theorem distinct_cons {e : String × α} {rest : Entries α} :
    Distinct (e :: rest) ↔ e.1 ∉ rest.keys ∧ Distinct rest := List.nodup_cons

@[simp] theorem get?_nil (key : String) : get? ([] : Entries α) key = none := rfl

theorem get?_cons (k key : String) (v : α) (rest : Entries α) :
    get? ((k, v) :: rest) key = if k = key then some v else get? rest key := rfl

theorem get?_put (es : Entries α) (key other : String) (value : α) :
    get? (put es key value) other = if key = other then some value else get? es other := by
  induction es with
  | nil => simp [put, get?_cons]
  | cons e rest ih =>
    obtain ⟨k, v⟩ := e
    grind [put, get?_cons]

theorem isEmpty_put (es : Entries α) (key : String) (value : α) :
    (es.put key value).isEmpty = false := by
  cases es with
  | nil => rfl
  | cons e rest =>
    rw [put]
    split <;> rfl

theorem put_put (es : Entries α) (key : String) (first second : α) :
    (es.put key first).put key second = es.put key second := by
  induction es with
  | nil => simp [put]
  | cons e rest ih =>
    obtain ⟨k, v⟩ := e
    by_cases same : k = key
    · simp [put, same]
    · simp [put, same, ih]

/-- A key is looked up in vain exactly when it is no key of the entries. -/
theorem get?_eq_none_iff (es : Entries α) (key : String) :
    es.get? key = none ↔ key ∉ es.keys := by
  induction es with
  | nil => simp [keys]
  | cons e rest ih =>
    obtain ⟨k, v⟩ := e
    rw [get?_cons]
    by_cases same : k = key
    · simp [same, keys]
    · rw [if_neg same, ih]
      simp only [keys, List.map_cons, List.mem_cons, not_or]
      exact ⟨fun absent => ⟨fun equal => same equal.symm, absent⟩, fun both => both.2⟩

theorem mem_of_get? {es : Entries α} {key : String} {value : α}
    (found : es.get? key = some value) : (key, value) ∈ es := by
  induction es with
  | nil => cases found
  | cons e rest ih =>
    obtain ⟨k, v⟩ := e
    rw [get?_cons] at found
    split at found
    · rename_i same
      cases found
      exact same ▸ List.mem_cons_self
    · exact List.mem_cons_of_mem _ (ih found)

theorem get?_of_mem {es : Entries α} (distinct : Distinct es) {e : String × α} (member : e ∈ es) :
    es.get? e.1 = some e.2 := by
  induction es with
  | nil => cases member
  | cons first rest ih =>
    obtain ⟨absent, others⟩ := distinct_cons.1 distinct
    rcases List.mem_cons.1 member with rfl | member
    · rw [get?_cons, if_pos rfl]
    · have other : first.1 ≠ e.1 := fun same => absent (same ▸ List.mem_map_of_mem member)
      rw [get?_cons, if_neg other, ih others member]

@[simp] theorem keys_nil : keys ([] : Entries α) = [] := rfl

@[simp] theorem keys_cons (e : String × α) (rest : Entries α) :
    keys (e :: rest) = e.1 :: keys rest := rfl

theorem keys_put (es : Entries α) (key : String) (value : α) :
    (put es key value).keys = if key ∈ es.keys then es.keys else es.keys ++ [key] := by
  induction es with
  | nil => rfl
  | cons e rest ih =>
    obtain ⟨k, v⟩ := e
    by_cases same : k = key
    · simp [put, same]
    · have other : ¬ key = k := fun equal => same equal.symm
      rw [put, if_neg same, keys_cons, keys_cons, ih]
      by_cases member : key ∈ keys rest
      · rw [if_pos member, if_pos (List.mem_cons_of_mem _ member)]
      · rw [if_neg member, if_neg (by simp [other, member])]
        rfl

theorem mem_keys_put (es : Entries α) (key : String) (value : α) {other : String}
    (member : other = key ∨ other ∈ es.keys) : other ∈ (es.put key value).keys := by
  rw [keys_put]
  split
  · rename_i known
    rcases member with rfl | member
    · exact known
    · exact member
  · rcases member with rfl | member
    · simp
    · exact List.mem_append_left _ member

theorem mem_put {es : Entries α} {key : String} {value : α} {e : String × α}
    (member : e ∈ es.put key value) : e = (key, value) ∨ e ∈ es := by
  induction es with
  | nil => exact .inl (List.mem_singleton.1 member)
  | cons first rest ih =>
    obtain ⟨k, v⟩ := first
    rw [put] at member
    split at member
    · rename_i same
      rcases List.mem_cons.1 member with rfl | later
      · exact .inl (same ▸ rfl)
      · exact .inr (List.mem_cons_of_mem _ later)
    · rcases List.mem_cons.1 member with rfl | later
      · exact .inr List.mem_cons_self
      · exact (ih later).imp_right (List.mem_cons_of_mem _)

/-- A new key goes to the end. -/
theorem put_of_notMem {es : Entries α} {key : String} (new : key ∉ es.keys) (value : α) :
    es.put key value = es ++ [(key, value)] := by
  induction es with
  | nil => rfl
  | cons e rest ih =>
    rw [keys_cons, List.mem_cons, not_or] at new
    rw [put, if_neg (Ne.symm new.1), ih new.2]
    rfl

/-- What is there already need not be put there. -/
theorem put_eq_self {es : Entries α} {key : String} {value : α}
    (known : es.get? key = some value) : es.put key value = es := by
  induction es with
  | nil => cases known
  | cons e rest ih =>
    obtain ⟨k, v⟩ := e
    rw [get?_cons] at known
    by_cases same : k = key
    · rw [if_pos same] at known
      cases known
      rw [put, if_pos same]
    · rw [if_neg same] at known
      rw [put, if_neg same, ih known]

/-- A key that is there keeps its place, so it does not matter when it gets its value. -/
theorem put_comm {es : Entries α} {key other : String} (member : key ∈ es.keys)
    (different : other ≠ key) (value next : α) :
    (es.put other next).put key value = (es.put key value).put other next := by
  induction es with
  | nil => cases member
  | cons e rest ih =>
    obtain ⟨k, v⟩ := e
    by_cases here : k = key
    · subst here
      simp [put, Ne.symm different]
    · have later : key ∈ keys rest := (List.mem_cons.1 member).resolve_left (Ne.symm here)
      by_cases there : k = other
      · simp [put, there, different]
      · simp [put, here, there, ih later]

theorem Distinct.put {es : Entries α} (distinct : Distinct es) (key : String) (value : α) :
    Distinct (es.put key value) := by
  unfold Distinct
  rw [keys_put]
  split
  · exact distinct
  · rename_i absent
    rw [List.nodup_append]
    refine ⟨distinct, by simp, ?_⟩
    intro other member added inSingle equal
    rw [List.mem_singleton] at inSingle
    exact absent (inSingle ▸ equal ▸ member)

theorem putAll_cons (base : Entries α) (e : String × α) (later : Entries α) :
    base.putAll (e :: later) = (base.put e.1 e.2).putAll later := rfl

theorem mem_putAll {base later : Entries α} {e : String × α} (member : e ∈ base.putAll later) :
    e ∈ base ∨ e ∈ later := by
  induction later generalizing base with
  | nil => exact .inl member
  | cons next rest ih =>
    rcases ih member with inBase | inRest
    · rcases mem_put inBase with rfl | inBase
      · exact .inr List.mem_cons_self
      · exact .inl inBase
    · exact .inr (List.mem_cons_of_mem _ inRest)

/-- Entries with keys of their own go to the end, in their order. -/
theorem putAll_eq_append {base later : Entries α} (distinct : Distinct (base ++ later)) :
    base.putAll later = base ++ later := by
  induction later generalizing base with
  | nil => exact (List.append_nil base).symm
  | cons e rest ih =>
    have moved : base ++ e :: rest = base ++ [e] ++ rest := by simp
    have new : e.1 ∉ base.keys := by
      intro member
      rw [Distinct, keys, List.map_append] at distinct
      exact (List.nodup_append.1 distinct).2.2 e.1 member e.1 (by simp) rfl
    rw [moved] at distinct ⊢
    rw [putAll_cons, put_of_notMem new, ih distinct]

theorem nil_putAll {later : Entries α} (distinct : Distinct later) :
    putAll [] later = later := putAll_eq_append distinct

theorem putAll_eq_self {base later : Entries α} (known : ∀ e ∈ later, base.get? e.1 = some e.2) :
    base.putAll later = base := by
  induction later with
  | nil => rfl
  | cons e rest ih =>
    obtain ⟨here, others⟩ := List.forall_mem_cons.1 known
    rw [putAll_cons, put_eq_self here, ih others]

/-- Known keys keep their places, and the new ones follow in their order. -/
theorem keys_putAll (base : Entries α) {later : Entries α} (distinct : Distinct later) :
    (base.putAll later).keys = base.keys ++ later.keys.filter (· ∉ base.keys) := by
  induction later generalizing base with
  | nil => exact (List.append_nil base.keys).symm
  | cons e rest ih =>
    obtain ⟨absent, others⟩ := distinct_cons.1 distinct
    rw [putAll_cons, ih (base.put e.1 e.2) others, keys_put, keys_cons]
    by_cases known : e.1 ∈ base.keys
    · rw [if_pos known, List.filter_cons_of_neg (by simpa using known)]
    · -- the key was put there for itself only, so it makes no other one known
      have same : (keys rest).filter (· ∉ base.keys ++ [e.1]) =
          (keys rest).filter (· ∉ base.keys) := by
        apply List.filter_congr
        intro key member
        have other : key ≠ e.1 := fun same => absent (same ▸ member)
        simp [other]
      rw [if_neg known, List.filter_cons_of_pos (by simpa using known), same, List.append_assoc]
      rfl

theorem Distinct.putAll {base : Entries α} (distinct : Distinct base) (later : Entries α) :
    Distinct (base.putAll later) := by
  induction later generalizing base with
  | nil => exact distinct
  | cons e rest ih => exact ih (distinct.put e.1 e.2)

theorem put_putAll {later : Entries α} {key : String} (absent : key ∉ later.keys)
    {base : Entries α} (member : key ∈ base.keys) (value : α) :
    (base.putAll later).put key value = (base.put key value).putAll later := by
  induction later generalizing base with
  | nil => rfl
  | cons e rest ih =>
    rw [keys_cons, List.mem_cons, not_or] at absent
    rw [putAll_cons, putAll_cons, ih absent.2 (mem_keys_put base e.1 e.2 (.inr member)),
      put_comm member (Ne.symm absent.1)]

/-- An entry put last has the last word, whether or not its key is new. -/
theorem putAll_put {later : Entries α} (distinct : Distinct later) (base : Entries α) (key : String)
    (value : α) : base.putAll (later.put key value) = (base.putAll later).put key value := by
  induction later generalizing base with
  | nil => rfl
  | cons e rest ih =>
    obtain ⟨k, v⟩ := e
    obtain ⟨absent, others⟩ := List.nodup_cons.1 distinct
    by_cases same : k = key
    · subst same
      rw [put, if_pos rfl, putAll_cons, putAll_cons,
        put_putAll absent (mem_keys_put base k v (.inl rfl)), put_put]
    · rw [put, if_neg same, putAll_cons, putAll_cons, ih others]

theorem ofPairs_distinct (pairs : List (String × α)) : Distinct (ofPairs pairs) :=
  Distinct.putAll (show Distinct ([] : Entries α) from List.nodup_nil) pairs

theorem get?_append (first second : Entries α) (key : String) :
    get? (first ++ second) key = (get? first key).or (get? second key) := by
  induction first with
  | nil => rfl
  | cons e rest ih =>
    obtain ⟨k, v⟩ := e
    rw [List.cons_append, get?_cons, get?_cons, ih]
    split <;> rfl

/-- Of the later entries with a key the last one counts; the base is only asked where there is
none. -/
theorem get?_putAll_eq (base later : Entries α) (key : String) :
    get? (putAll base later) key = (get? later.reverse key).or (get? base key) := by
  induction later generalizing base with
  | nil => rfl
  | cons e rest ih =>
    obtain ⟨k, v⟩ := e
    rw [putAll_cons, ih, List.reverse_cons, get?_append, get?_put, get?_cons, get?_nil]
    cases get? rest.reverse key with
    | some value => rfl
    | none => by_cases same : k = key <;> simp [same]

/-- Two lists with the same entries hold the same values if no key appears twice. -/
theorem get?_perm {es fs : Entries α} (same : es.Perm fs) (distinct : Distinct es)
    (key : String) : es.get? key = fs.get? key := by
  induction same with
  | nil => rfl
  | cons e _ ih =>
    obtain ⟨k, v⟩ := e
    rw [get?_cons, get?_cons, ih (List.nodup_cons.1 distinct).2]
  | swap e f rest =>
    obtain ⟨k, v⟩ := e
    obtain ⟨k', v'⟩ := f
    have different : k' ≠ k := by
      rintro rfl
      exact (List.nodup_cons.1 distinct).1 (by simp)
    simp only [get?_cons]
    by_cases first : k = key
    · have second : k' ≠ key := fun equal => different (equal.trans first.symm)
      simp [first, second]
    · simp [first]
  | trans first _ ih ih' =>
    rw [ih distinct, ih' ((first.map Prod.fst).nodup distinct)]

/-- Entries put onto others count where they have the key. -/
theorem get?_putAll (base : Entries α) {later : Entries α} (distinct : Distinct later)
    (key : String) : get? (putAll base later) key = (get? later key).or (get? base key) := by
  rw [get?_putAll_eq, ← get?_perm (List.reverse_perm later).symm distinct key]

theorem putAll_self {es : Entries α} (distinct : Distinct es) : es.putAll es = es :=
  putAll_eq_self fun _ member => get?_of_mem distinct member

/-- Entries that were put onto others need not be put there again. -/
theorem putAll_putAll (base : Entries α) {later : Entries α} (distinct : Distinct later) :
    (base.putAll later).putAll later = base.putAll later :=
  putAll_eq_self fun e member => by rw [get?_putAll base distinct, get?_of_mem distinct member]; rfl

end Entries

end UiSchema
