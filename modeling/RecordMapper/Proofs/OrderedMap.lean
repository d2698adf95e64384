import RecordMapper.OrderedMap
/-! # Collecting pairs into a map

Pairs with distinct keys are collected as they are (`entries_ofList`).  If a key occurs twice, the map
has fewer entries than there are pairs (`size_ofList_lt`); the keys stand in the order in which they
first came (`keys_ofList`), and of the values of a key the map has the last (`mem_entries_ofList`). -/
set_option autoImplicit false
namespace RecordMapper

theorem lookup_cons_eq {α : Type} (key first : String) (value : α) (rest : List (String × α)) :
    List.lookup key ((first, value) :: rest) =
      if key = first then some value else rest.lookup key := by
  by_cases same : key = first
  · simp [same]
  · have differs : (key == first) = false := by simpa using same
    rw [List.lookup_cons, differs, if_neg same]

theorem lookup_eq_none_of_notMem {α : Type} {key : String} {entries : List (String × α)}
    (new : key ∉ entries.map Prod.fst) : entries.lookup key = none := by
  apply List.lookup_eq_none_iff.mpr
  intro entry member
  apply bne_iff_ne.mpr
  rintro rfl
  exact new (List.mem_map_of_mem member)

/-- Where each key occurs once, its value is the one that is found. -/
theorem mem_iff_lookup {α : Type} {key : String} {value : α} {entries : List (String × α)}
    (distinct : (entries.map Prod.fst).Nodup) :
    (key, value) ∈ entries ↔ entries.lookup key = some value := by
  induction entries with
  | nil => simp
  | cons entry rest ih =>
      obtain ⟨first, other⟩ := entry
      rw [List.map_cons, List.nodup_cons] at distinct
      rw [List.mem_cons, ih distinct.2, lookup_cons_eq]
      by_cases here : key = first
      · subst here
        have absent := lookup_eq_none_of_notMem distinct.1
        simp [absent, eq_comm]
      · simp [here]

theorem upsert_of_notMem {α : Type} (key : String) (value : α) (entries : List (String × α))
    (new : key ∉ entries.map Prod.fst) : upsert key value entries = entries ++ [(key, value)] := by
  induction entries with
  | nil => rfl
  | cons entry rest ih =>
      obtain ⟨k, v⟩ := entry
      rw [List.map_cons, List.mem_cons, not_or] at new
      rw [upsert, if_neg (Ne.symm new.1), ih new.2]
      rfl

theorem length_upsert {α : Type} (key : String) (value : α) (entries : List (String × α)) :
    (upsert key value entries).length =
      if key ∈ entries.map Prod.fst then entries.length else entries.length + 1 := by
  have keys := congrArg List.length (keys_upsert key value entries)
  rw [List.length_map] at keys
  rw [keys]
  split
  · exact List.length_map ..
  · simp

namespace OrderedMap
variable {α : Type}

/-- New keys that are distinct are put at the end, in order. -/
theorem entries_insertAll (m : OrderedMap α) (pairs : List (String × α))
    (distinct : (m.keys ++ pairs.map Prod.fst).Nodup) :
    (m.insertAll pairs).entries = m.entries ++ pairs := by
  induction pairs generalizing m with
  | nil => simp [insertAll]
  | cons pair rest ih =>
      obtain ⟨key, value⟩ := pair
      have new : key ∉ m.entries.map Prod.fst := by
        intro old
        rw [List.nodup_append] at distinct
        exact distinct.2.2 key old key (List.mem_cons_self ..) rfl
      have entries : (m.insert key value).entries = m.entries ++ [(key, value)] :=
        upsert_of_notMem key value m.entries new
      have distinct' : ((m.insert key value).keys ++ rest.map Prod.fst).Nodup := by
        rw [keys, entries]
        simpa [keys] using distinct
      have there := ih (m.insert key value) distinct'
      rw [insertAll, List.foldl_cons, ← insertAll, there, entries, List.append_assoc]
      rfl

theorem size_insertAll_le (m : OrderedMap α) (pairs : List (String × α)) :
    (m.insertAll pairs).size ≤ m.size + pairs.length := by
  induction pairs generalizing m with
  | nil => exact Nat.le_refl _
  | cons pair rest ih =>
      have there := ih (m.insert pair.1 pair.2)
      have here : (m.insert pair.1 pair.2).size ≤ m.size + 1 := by
        have length := length_upsert pair.1 pair.2 m.entries
        simp only [size, insert]
        split at length <;> omega
      rw [insertAll, List.foldl_cons, ← insertAll, List.length_cons]
      omega

theorem size_insertAll_lt (m : OrderedMap α) (pairs : List (String × α))
    (twice : ¬ (m.keys ++ pairs.map Prod.fst).Nodup) :
    (m.insertAll pairs).size < m.size + pairs.length := by
  induction pairs generalizing m with
  | nil => simp [keys, m.nodup_keys] at twice
  | cons pair rest ih =>
      obtain ⟨key, value⟩ := pair
      have length := length_upsert key value m.entries
      rw [insertAll, List.foldl_cons, ← insertAll, List.length_cons]
      by_cases old : key ∈ m.entries.map Prod.fst
      · have least := size_insertAll_le (m.insert key value) rest
        rw [if_pos old] at length
        simp only [size, insert] at least ⊢
        omega
      · have entries : (m.insert key value).entries = m.entries ++ [(key, value)] :=
          upsert_of_notMem key value m.entries old
        have twice' : ¬ ((m.insert key value).keys ++ rest.map Prod.fst).Nodup := by
          rw [keys, entries]
          simpa [keys] using twice
        have there := ih (m.insert key value) twice'
        rw [if_neg old] at length
        simp only [size, insert] at there ⊢
        omega

theorem entries_ofList (pairs : List (String × α)) (distinct : (pairs.map Prod.fst).Nodup) :
    (ofList pairs).entries = pairs :=
  entries_insertAll empty pairs distinct

/-- New keys come behind the old ones, in the order in which they first occur. -/
theorem keys_insertAll (m : OrderedMap α) (pairs : List (String × α)) :
    (m.insertAll pairs).keys =
      m.keys ++ ((pairs.map Prod.fst).filter fun key => !m.keys.contains key).eraseDups := by
  induction pairs generalizing m with
  | nil => simp [insertAll]
  | cons pair rest ih =>
      obtain ⟨key, value⟩ := pair
      have here : (m.insert key value).keys = if key ∈ m.keys then m.keys else m.keys ++ [key] :=
        keys_upsert key value m.entries
      rw [insertAll, List.foldl_cons, ← insertAll, ih, here, List.map_cons]
      by_cases old : key ∈ m.keys
      · rw [if_pos old, List.filter_cons_of_neg (by simpa using old)]
      · have later : ((rest.map Prod.fst).filter fun other => !(m.keys ++ [key]).contains other) =
            ((rest.map Prod.fst).filter fun other => !m.keys.contains other).filter
              fun other => !other == key := by
          rw [List.filter_filter]
          refine List.filter_congr fun other _ => ?_
          simp [Bool.beq_eq_decide_eq, Bool.and_comm]
        rw [if_neg old, later, List.filter_cons_of_pos (by simpa using old), List.eraseDups_cons,
          List.append_assoc]
        rfl

theorem keys_ofList (pairs : List (String × α)) :
    (ofList pairs).keys = (pairs.map Prod.fst).eraseDups := by
  have all : ((pairs.map Prod.fst).filter fun key => !(empty : OrderedMap α).keys.contains key) =
      pairs.map Prod.fst := List.filter_eq_self.mpr fun key _ => rfl
  rw [ofList, keys_insertAll, all]
  rfl

theorem mem_keys_insert {m : OrderedMap α} {key other : String} {value : α} :
    other ∈ (m.insert key value).keys ↔ other ∈ m.keys ∨ other = key := by
  have all := keys_upsert key value m.entries
  rw [keys, insert, all, keys]
  split
  · next old => exact ⟨.inl, fun member => member.elim id (· ▸ old)⟩
  · rw [List.mem_append, List.mem_singleton]

theorem mem_keys_insertAll {m : OrderedMap α} {pairs : List (String × α)} {key : String} :
    key ∈ (m.insertAll pairs).keys ↔ key ∈ m.keys ∨ key ∈ pairs.map Prod.fst := by
  induction pairs generalizing m with
  | nil => simp [insertAll]
  | cons pair rest ih =>
      rw [insertAll, List.foldl_cons, ← insertAll, ih, mem_keys_insert, List.map_cons, List.mem_cons,
        or_assoc]

theorem mem_keys_ofList {pairs : List (String × α)} {key : String} :
    key ∈ (ofList pairs).keys ↔ key ∈ pairs.map Prod.fst := by
  rw [ofList, mem_keys_insertAll]
  simp [keys, empty]

theorem entries_ofList_concat (pairs : List (String × α)) (key : String) (value : α)
    (new : key ∉ pairs.map Prod.fst) :
    (ofList (pairs ++ [(key, value)])).entries = (ofList pairs).entries ++ [(key, value)] := by
  have last : ofList (pairs ++ [(key, value)]) = (ofList pairs).insert key value := by
    rw [ofList, insertAll, List.foldl_append]
    rfl
  rw [last]
  exact upsert_of_notMem key value _ fun old => new (mem_keys_ofList.mp old)

theorem size_ofList_lt (pairs : List (String × α)) (twice : ¬ (pairs.map Prod.fst).Nodup) :
    (ofList pairs).size < pairs.length := by
  have less := size_insertAll_lt empty pairs twice
  rw [show (empty : OrderedMap α).size = 0 from rfl, Nat.zero_add] at less
  exact less

theorem lookup_upsert_self (key : String) (value : α) (entries : List (String × α)) :
    (upsert key value entries).lookup key = some value := by
  induction entries with
  | nil => simp [upsert]
  | cons entry rest ih =>
      obtain ⟨k, v⟩ := entry
      by_cases same : k = key
      · simp [upsert, same]
      · have differs : (key == k) = false := by simpa using Ne.symm same
        rw [upsert, if_neg same, List.lookup_cons, differs]
        exact ih

theorem lookup_upsert_of_ne {key other : String} (value : α) (entries : List (String × α))
    (ne : other ≠ key) : (upsert key value entries).lookup other = entries.lookup other := by
  have differs : (other == key) = false := by simpa using ne
  induction entries with
  | nil => rw [upsert, List.lookup_cons, differs]
  | cons entry rest ih =>
      obtain ⟨k, v⟩ := entry
      by_cases same : k = key
      · rw [upsert, if_pos same, List.lookup_cons, List.lookup_cons, same, differs]
      · rw [upsert, if_neg same, List.lookup_cons, List.lookup_cons, ih]

theorem upsert_of_lookup {key : String} {value : α} {entries : List (String × α)}
    (known : entries.lookup key = some value) : upsert key value entries = entries := by
  induction entries with
  | nil => cases known
  | cons entry rest ih =>
      obtain ⟨k, v⟩ := entry
      by_cases same : k = key
      · subst same
        obtain rfl : v = value := by simpa using known
        rw [upsert, if_pos rfl]
      · have differs : (key == k) = false := by simpa using Ne.symm same
        rw [List.lookup_cons, differs] at known
        rw [upsert, if_neg same, ih known]

theorem get?_insert_self (m : OrderedMap α) (key : String) (value : α) :
    (m.insert key value).get? key = some value := lookup_upsert_self key value m.entries

theorem get?_insert_of_ne (m : OrderedMap α) {key other : String} (value : α) (ne : other ≠ key) :
    (m.insert key value).get? other = m.get? other := lookup_upsert_of_ne value m.entries ne

theorem get?_insertAll (m : OrderedMap α) (pairs : List (String × α)) (key : String) :
    (m.insertAll pairs).get? key = (pairs.reverse.lookup key).or (m.get? key) := by
  induction pairs generalizing m with
  | nil => rfl
  | cons pair rest ih =>
      obtain ⟨first, value⟩ := pair
      rw [insertAll, List.foldl_cons, ← insertAll, ih, List.reverse_cons, List.lookup_append,
        Option.or_assoc, lookup_cons_eq]
      by_cases same : key = first
      · rw [same, get?_insert_self, if_pos rfl, Option.some_or]
      · rw [get?_insert_of_ne m value same, if_neg same, List.lookup_nil, Option.none_or]

/-- Each key has the last value that it was given. -/
theorem mem_entries_ofList {pairs : List (String × α)} {key : String} {value : α} :
    (key, value) ∈ (ofList pairs).entries ↔
      ∃ front behind, pairs = front ++ (key, value) :: behind ∧ ∀ pair ∈ behind, pair.1 ≠ key := by
  have collected := get?_insertAll empty pairs key
  rw [show (empty : OrderedMap α).get? key = none from rfl, Option.or_none] at collected
  rw [mem_iff_lookup (ofList pairs).nodup_keys, ← get?, ofList, collected, List.lookup_eq_some_iff]
  constructor
  · rintro ⟨behind, front, split, others⟩
    refine ⟨front.reverse, behind.reverse, ?_, fun pair member => ?_⟩
    · rw [← List.reverse_reverse pairs, split]
      simp
    · exact (bne_iff_ne.mp (others pair (List.mem_reverse.mp member))).symm
  · rintro ⟨front, behind, rfl, others⟩
    refine ⟨behind.reverse, front.reverse, by simp, fun pair member => ?_⟩
    exact bne_iff_ne.mpr (others pair (List.mem_reverse.mp member)).symm

/-- Where the values depend on the keys alone, there is one entry for each key, in the order in which
the keys first occur. -/
theorem entries_ofList_map (f : String → α) (names : List String) :
    (ofList (names.map fun name => (name, f name))).entries =
      names.eraseDups.map fun name => (name, f name) := by
  let m := ofList (names.map fun name => (name, f name))
  have known : ∀ entry ∈ m.entries, entry = (entry.1, f entry.1) := by
    rintro ⟨key, value⟩ member
    obtain ⟨front, behind, split, -⟩ := mem_entries_ofList.mp member
    have given : (key, value) ∈ names.map fun name => (name, f name) := by simp [split]
    obtain ⟨name, -, same⟩ := List.mem_map.mp given
    obtain ⟨rfl, rfl⟩ := Prod.mk.inj same
    rfl
  have keys : m.keys = names.eraseDups := by
    rw [keys_ofList, List.map_map]
    exact congrArg List.eraseDups (List.map_id names)
  calc m.entries = m.entries.map fun entry => (entry.1, f entry.1) :=
        (List.map_id m.entries).symm.trans (List.map_congr_left known)
    _ = m.keys.map fun name => (name, f name) := by
        rw [OrderedMap.keys, List.map_map]
        rfl
    _ = names.eraseDups.map fun name => (name, f name) := by rw [keys]

theorem insert_of_get? {m : OrderedMap α} {key : String} {value : α}
    (known : m.get? key = some value) : m.insert key value = m := by
  obtain ⟨entries, distinct⟩ := m
  simp only [insert, upsert_of_lookup known]

end OrderedMap

end RecordMapper
