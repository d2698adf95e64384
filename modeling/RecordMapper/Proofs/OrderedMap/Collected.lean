import RecordMapper.Filter.Conditions
import RecordMapper.Proofs.OrderedMap
/-! # What a map has collected

A map is made by giving it pairs, at once or one by one.  Its keys stand in the order in which they
first came, each with the value that came last (`OrderedMap.Collects`).  Conditions and the values of
fields are such maps (`maps_collect_in_order`). -/
set_option autoImplicit false
namespace RecordMapper

open RecordMapper.Filter (Conditions Key Operand)

namespace OrderedMap
variable {α : Type}

/-- The pair is there, and none behind it has its key. -/
def GivenLast (pairs : List (String × α)) (key : String) (value : α) : Prop :=
  ∃ front behind, pairs = front ++ (key, value) :: behind ∧ ∀ pair ∈ behind, pair.1 ≠ key

/-- What has become of the pairs that a map was given. -/
structure Collects (m : OrderedMap α) (pairs : List (String × α)) : Prop where
  distinct : m.keys.Nodup
  arrival : m.keys = (pairs.map Prod.fst).eraseDups
  last : ∀ key value, (key, value) ∈ m.entries ↔ GivenLast pairs key value
  found : ∀ key value, m.get? key = some value ↔ GivenLast pairs key value
  missing : ∀ key, m.get? key = none ↔ key ∉ pairs.map Prod.fst
  again : ofList m.entries = m

theorem ofList_append (pairs more : List (String × α)) :
    ofList (pairs ++ more) = (ofList pairs).insertAll more := List.foldl_append ..

theorem get?_eq_some_iff {m : OrderedMap α} {key : String} {value : α} :
    m.get? key = some value ↔ (key, value) ∈ m.entries :=
  (mem_iff_lookup m.nodup_keys).symm

theorem get?_eq_none_iff {m : OrderedMap α} {key : String} : m.get? key = none ↔ key ∉ m.keys := by
  constructor
  · rintro none member
    obtain ⟨⟨_, value⟩, entry, rfl⟩ := List.mem_map.mp member
    rw [get?_eq_some_iff.mpr entry] at none
    cases none
  · exact lookup_eq_none_of_notMem

theorem ofList_entries (m : OrderedMap α) : ofList m.entries = m := by
  have same := entries_ofList m.entries m.nodup_keys
  cases m with
  | mk entries distinct =>
      generalize collected : ofList entries = n at same
      cases n
      cases same
      rfl

theorem collects_ofList (pairs : List (String × α)) : (ofList pairs).Collects pairs where
  distinct := (ofList pairs).nodup_keys
  arrival := keys_ofList pairs
  last _ _ := mem_entries_ofList
  found _ _ := get?_eq_some_iff.trans mem_entries_ofList
  missing _ := get?_eq_none_iff.trans (not_congr mem_keys_ofList)
  again := ofList_entries _

/-- Pairs that come one by one are collected like those that came at once before them. -/
theorem collects_insertAll (given added : List (String × α)) :
    ((ofList given).insertAll added).Collects (given ++ added) := by
  rw [← ofList_append]
  exact collects_ofList _

end OrderedMap

theorem Filter.Conditions.containsField_ofList {pairs : List (String × Operand)} {field : String} :
    Conditions.containsField (OrderedMap.ofList pairs) field = true ↔
      ∃ pair ∈ pairs, (Key.ofText pair.1).field = field := by
  rw [Conditions.containsField, List.any_eq_true]
  constructor
  · rintro ⟨raw, member, aimed⟩
    obtain ⟨pair, given, rfl⟩ := List.mem_map.mp (OrderedMap.mem_keys_ofList.mp member)
    exact ⟨pair, given, beq_iff_eq.mp aimed⟩
  · rintro ⟨pair, given, aimed⟩
    exact ⟨pair.1, OrderedMap.mem_keys_ofList.mpr (List.mem_map_of_mem given), beq_iff_eq.mpr aimed⟩

/-- Conditions and values, collected from a list and then given more of them, hold what they were
given last for each key, in the order in which the keys first came.  A field is among those of the
conditions if and only if some key that was given is aimed at it. -/
theorem maps_collect_in_order :
    (∀ given added : List (String × Operand),
      let conditions : Conditions := (OrderedMap.ofList given).insertAll added
      conditions.Collects (given ++ added) ∧
        ∀ field, conditions.containsField field = true ↔
          ∃ pair ∈ given ++ added, (Key.ofText pair.1).field = field) ∧
    ∀ given added : List (String × Value),
      let values : Values := (OrderedMap.ofList given).insertAll added
      values.Collects (given ++ added) := by
  constructor
  · intro given added
    refine ⟨OrderedMap.collects_insertAll given added, fun field => ?_⟩
    rw [← OrderedMap.ofList_append]
    exact Filter.Conditions.containsField_ofList
  · exact OrderedMap.collects_insertAll

end RecordMapper
