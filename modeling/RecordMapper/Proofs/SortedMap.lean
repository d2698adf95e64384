import Mathlib.Data.List.Forall2
import Mathlib.Data.List.Induction
import RecordMapper.Proofs.OrderedMap
import RecordMapper.SortedMap
/-! # Maps in key order

A map stays in order when the value of a key is altered (`sorted_alter`), and no other key has another
value then (`lookup_alter`).  Pairs that are in ascending order already are collected as they are
(`ofList_sorted`), and pairs with distinct keys are all kept (`ofList_perm`).

Pairs can also be collected by making something of the values of each key, one after another
(`collect`): what is made of them is there under the key (`lookup_collect`).  In particular the values
can be grouped by their keys: each stands in the group of its key (`mem_group`), where none is lost
(`flatMap_group_perm`) and the last one is that which counts in a map of the pairs
(`forall₂_group_ofList`). -/
set_option autoImplicit false
namespace RecordMapper.SortedMap
variable {α : Type}

def Sorted (pairs : List (String × α)) : Prop := (pairs.map Prod.fst).Pairwise (· < ·)

theorem Sorted.nodup {pairs : List (String × α)} (sorted : Sorted pairs) :
    (pairs.map Prod.fst).Nodup := by
  apply List.Pairwise.imp _ sorted
  rintro key other less rfl
  exact String.lt_irrefl key less

theorem mem_of_mem_insert {key : String} {value : α} {m : SortedMap α} {pair : String × α}
    (member : pair ∈ insert key value m) : pair = (key, value) ∨ pair ∈ m := by
  induction m with
  | nil => exact .inl (List.mem_singleton.mp member)
  | cons first rest ih =>
      obtain ⟨k, v⟩ := first
      rw [insert, alter] at member
      split at member
      · exact List.mem_cons.mp member
      · split at member
        · exact (List.mem_cons.mp member).imp_right (List.mem_cons_of_mem _)
        · rcases List.mem_cons.mp member with rfl | later
          · exact .inr (List.mem_cons_self ..)
          · exact (ih later).imp_right (List.mem_cons_of_mem _)

theorem mem_of_mem_ofList {pairs : List (String × α)} {pair : String × α}
    (member : pair ∈ ofList pairs) : pair ∈ pairs := by
  have collected : ∀ (pairs : List (String × α)) (m : SortedMap α),
      pair ∈ pairs.foldl (fun m pair => insert pair.1 pair.2 m) m → pair ∈ m ∨ pair ∈ pairs := by
    intro pairs
    induction pairs with
    | nil => exact fun m inside => .inl inside
    | cons first rest ih =>
        intro m inside
        rcases ih _ inside with inside | later
        · rcases mem_of_mem_insert inside with rfl | before
          · exact .inr (List.mem_cons_self ..)
          · exact .inl before
        · exact .inr (List.mem_cons_of_mem _ later)
  exact (collected pairs [] member).resolve_left List.not_mem_nil

theorem insert_last (key : String) (value : α) (m : SortedMap α)
    (last : ∀ k ∈ m.map Prod.fst, k < key) : insert key value m = m ++ [(key, value)] := by
  induction m with
  | nil => rfl
  | cons pair rest ih =>
      obtain ⟨k, v⟩ := pair
      have beyond : k < key := last k (List.mem_cons_self ..)
      have notBefore : ¬ key < k := String.lt_asymm beyond
      have notSame : key ≠ k := by
        rintro rfl
        exact String.lt_irrefl key beyond
      have there := ih fun other member => last other (List.mem_cons_of_mem k member)
      rw [insert] at there
      rw [insert, alter, if_neg notBefore, if_neg notSame, there]
      rfl

theorem foldl_insert_sorted (pairs : List (String × α)) (m : SortedMap α)
    (sorted : Sorted (m ++ pairs)) :
    pairs.foldl (fun m pair => insert pair.1 pair.2 m) m = m ++ pairs := by
  induction pairs generalizing m with
  | nil => rw [List.foldl_nil, List.append_nil]
  | cons pair rest ih =>
      obtain ⟨key, value⟩ := pair
      have last : ∀ k ∈ m.map Prod.fst, k < key := by
        intro k member
        rw [Sorted, List.map_append, List.pairwise_append] at sorted
        exact sorted.2.2 k member key (List.mem_cons_self ..)
      have shape : m ++ (key, value) :: rest = m ++ [(key, value)] ++ rest := by
        rw [List.append_assoc]
        rfl
      rw [shape] at sorted ⊢
      rw [List.foldl_cons, insert_last key value m last]
      exact ih _ sorted

theorem ofList_sorted (pairs : List (String × α)) (sorted : Sorted pairs) :
    ofList pairs = pairs :=
  foldl_insert_sorted pairs [] sorted

/-! ## Altering the value of a key -/

variable {key : String} {f : Option α → α} {m : SortedMap α}

theorem mem_keys_alter {k : String} :
    k ∈ (alter key f m).map Prod.fst ↔ k = key ∨ k ∈ m.map Prod.fst := by
  induction m with
  | nil => simp [alter]
  | cons pair rest ih =>
      obtain ⟨first, v⟩ := pair
      rw [alter]
      split
      · simp
      · split
        · next same => simp [same]
        · rw [List.map_cons, List.mem_cons, ih, List.map_cons, List.mem_cons, or_left_comm]

theorem sorted_alter (sorted : Sorted m) : Sorted (alter key f m) := by
  induction m with
  | nil => simp [alter, Sorted]
  | cons pair rest ih =>
      obtain ⟨first, v⟩ := pair
      obtain ⟨least, others⟩ := List.pairwise_cons.mp sorted
      rw [alter]
      split
      · next before =>
          apply List.pairwise_cons.mpr
          refine ⟨fun k member => ?_, sorted⟩
          rcases List.mem_cons.mp member with rfl | member
          · exact before
          · exact String.lt_trans before (least k member)
      · next notBefore =>
          split
          · next same =>
              subst same
              exact List.pairwise_cons.mpr ⟨least, others⟩
          · next differs =>
              apply List.pairwise_cons.mpr
              refine ⟨fun k member => ?_, ih others⟩
              rcases mem_keys_alter.mp member with rfl | member
              · apply String.not_le.mp
                intro le
                exact differs (String.le_antisymm le (String.not_lt.mp notBefore))
              · exact least k member

theorem lookup_alter (sorted : Sorted m) (k : String) :
    (alter key f m).lookup k = if k = key then some (f (m.lookup key)) else m.lookup k := by
  induction m with
  | nil => exact lookup_cons_eq ..
  | cons pair rest ih =>
      obtain ⟨first, v⟩ := pair
      obtain ⟨least, others⟩ := List.pairwise_cons.mp sorted
      rw [alter]
      split
      · next before =>
          have absent : List.lookup key ((first, v) :: rest) = none := by
            apply lookup_eq_none_of_notMem
            intro member
            rcases List.mem_cons.mp member with rfl | member
            · exact String.lt_irrefl key before
            · exact String.lt_irrefl key (String.lt_trans before (least key member))
          rw [absent, lookup_cons_eq]
      · split
        · next same =>
            subst same
            rw [lookup_cons_eq, lookup_cons_eq, lookup_cons_eq, if_pos rfl]
            split <;> rfl
        · next differs =>
            rw [lookup_cons_eq, lookup_cons_eq, lookup_cons_eq, if_neg differs, ih others]
            by_cases here : k = first
            · have apart : k ≠ key := fun same => differs (same.symm.trans here)
              rw [if_pos here, if_neg apart, if_pos here]
            · rw [if_neg here, if_neg here]

theorem perm_alter_of_notMem (new : key ∉ m.map Prod.fst) :
    (alter key f m).Perm ((key, f none) :: m) := by
  induction m with
  | nil => exact .refl _
  | cons pair rest ih =>
      obtain ⟨first, v⟩ := pair
      rw [List.map_cons, List.mem_cons, not_or] at new
      rw [alter]
      split
      · exact .refl _
      · rw [if_neg new.1]
        exact ((ih new.2).cons _).trans (.swap ..)

theorem forall₂_alter {β : Type} {R : α → β → Prop} {n : SortedMap β} {g : Option β → β}
    (related : List.Forall₂ (fun pair other => pair.1 = other.1 ∧ R pair.2 other.2) m n)
    (new : R (f none) (g none)) (kept : ∀ a b, R a b → R (f (some a)) (g (some b))) :
    List.Forall₂ (fun pair other => pair.1 = other.1 ∧ R pair.2 other.2)
      (alter key f m) (alter key g n) := by
  induction related with
  | nil => exact .cons ⟨rfl, new⟩ .nil
  | @cons pair other rest others here later ih =>
      obtain ⟨first, v⟩ := pair
      obtain ⟨second, w⟩ := other
      obtain ⟨same, value⟩ := here
      obtain rfl : first = second := same
      rw [alter, alter]
      split
      · exact .cons ⟨rfl, new⟩ (.cons ⟨rfl, value⟩ later)
      · split
        · exact .cons ⟨rfl, kept v w value⟩ later
        · exact .cons ⟨rfl, value⟩ ih

/-! ## Collecting pairs -/

section Collect
variable {β : Type} {step : Option α → β → α}

/-- The map in which `step` has made something of the values of each key, one after another. -/
def collect (step : Option α → β → α) (pairs : List (String × β)) : SortedMap α :=
  pairs.foldl (fun m pair => alter pair.1 (step · pair.2) m) []

theorem collect_concat (step : Option α → β → α) (pairs : List (String × β)) (key : String)
    (value : β) : collect step (pairs ++ [(key, value)]) =
      alter key (step · value) (collect step pairs) := by
  rw [collect, List.foldl_append]
  rfl

theorem ofList_eq_collect (pairs : List (String × α)) :
    ofList pairs = collect (fun _ value => value) pairs := rfl

theorem sorted_collect (step : Option α → β → α) (pairs : List (String × β)) :
    Sorted (collect step pairs) := by
  induction pairs using List.reverseRecOn with
  | nil => exact List.Pairwise.nil
  | append_singleton front pair ih =>
      rw [collect_concat]
      exact sorted_alter ih

def valuesOf (key : String) (pairs : List (String × β)) : List β :=
  (pairs.filter (·.1 = key)).map Prod.snd

/-- Under a key stands what was made of its values, and nothing if it has none. -/
theorem lookup_collect (key : String) (pairs : List (String × β)) :
    (collect step pairs).lookup key =
      (valuesOf key pairs).foldl (fun made value => some (step made value)) none := by
  induction pairs using List.reverseRecOn with
  | nil => rfl
  | append_singleton front pair ih =>
      obtain ⟨other, value⟩ := pair
      rw [collect_concat, lookup_alter (sorted_collect step front), valuesOf, List.filter_append,
        List.map_append, List.foldl_append]
      by_cases same : key = other
      · subst same
        simp [ih, valuesOf]
      · have apart : ¬ other = key := Ne.symm same
        simp [same, apart, ih, valuesOf]

theorem mem_keys_collect {key : String} {pairs : List (String × β)} :
    key ∈ (collect step pairs).map Prod.fst ↔ key ∈ pairs.map Prod.fst := by
  induction pairs using List.reverseRecOn with
  | nil => rfl
  | append_singleton front pair ih =>
      obtain ⟨other, value⟩ := pair
      rw [collect_concat, mem_keys_alter, ih]
      simp [or_comm]

end Collect

/-- Where the last value of each key counts, it stands under the key. -/
theorem mem_ofList {key : String} {value : α} {pairs : List (String × α)} :
    (key, value) ∈ ofList pairs ↔ (valuesOf key pairs).getLast? = some value := by
  have last : ∀ given : List α, given.foldl (fun _ value => some value) none = given.getLast? := by
    intro given
    induction given using List.reverseRecOn with
    | nil => rfl
    | append_singleton front value => rw [List.foldl_concat, List.getLast?_concat]
  rw [ofList_eq_collect, mem_iff_lookup (sorted_collect _ pairs).nodup, lookup_collect, last]

theorem ofList_perm (pairs : List (String × α)) (distinct : (pairs.map Prod.fst).Nodup) :
    (ofList pairs).Perm pairs := by
  rw [ofList_eq_collect]
  induction pairs using List.reverseRecOn with
  | nil => exact .refl _
  | append_singleton front pair ih =>
      obtain ⟨key, value⟩ := pair
      rw [List.map_append, List.nodup_append] at distinct
      have new : key ∉ (collect (fun _ value => value) front : SortedMap α).map Prod.fst := by
        intro old
        exact distinct.2.2 key (mem_keys_collect.mp old) key (by simp) rfl
      rw [collect_concat]
      exact (perm_alter_of_notMem new).trans
        (((ih distinct.1).cons _).trans (List.perm_append_singleton ..).symm)

/-! ## Groups of values -/

/-- The values of each key, in the order of the pairs. -/
def group (pairs : List (String × α)) : SortedMap (List α) :=
  collect (fun values value => values.getD [] ++ [value]) pairs

/-- A group is there for each key that has a value, and consists of all its values. -/
theorem mem_group {key : String} {values : List α} {pairs : List (String × α)} :
    (key, values) ∈ group pairs ↔ values = valuesOf key pairs ∧ values ≠ [] := by
  have appended : ∀ given : List α,
      given.foldl (fun made value => some (made.getD [] ++ [value])) none =
        if given = [] then none else some given := by
    intro given
    induction given using List.reverseRecOn with
    | nil => rfl
    | append_singleton front value ih =>
        rw [List.foldl_append, ih]
        by_cases first : front = []
        · simp [first]
        · simp [first]
  rw [group, mem_iff_lookup (sorted_collect _ pairs).nodup, lookup_collect, appended]
  by_cases empty : valuesOf key pairs = []
  · simp only [empty, if_true]
    simp
  · rw [if_neg empty, Option.some.injEq]
    constructor
    · rintro rfl
      exact ⟨rfl, empty⟩
    · rintro ⟨rfl, -⟩
      rfl

theorem flatMap_alter_perm (key : String) (value : α) (m : SortedMap (List α)) :
    ((alter key (fun values => values.getD [] ++ [value]) m).flatMap Prod.snd).Perm
      (m.flatMap Prod.snd ++ [value]) := by
  induction m with
  | nil => exact .refl _
  | cons pair rest ih =>
      obtain ⟨first, values⟩ := pair
      rw [alter]
      split
      · exact (List.perm_append_singleton ..).symm
      · split
        · show (values ++ [value] ++ _).Perm (values ++ _ ++ [value])
          rw [List.append_assoc, List.append_assoc]
          exact (List.perm_append_comm ..).append_left values
        · show (values ++ _).Perm (values ++ _ ++ [value])
          rw [List.append_assoc]
          exact ih.append_left values

/-- Every value stands in one of the groups, as often as it was given. -/
theorem flatMap_group_perm (pairs : List (String × α)) :
    ((group pairs).flatMap Prod.snd).Perm (pairs.map Prod.snd) := by
  induction pairs using List.reverseRecOn with
  | nil => exact .refl _
  | append_singleton front pair ih =>
      obtain ⟨key, value⟩ := pair
      rw [group, collect_concat, List.map_append]
      exact (flatMap_alter_perm key value _).trans (ih.append_right _)

/-- Where the last value of each key counts, it is the last one of its group. -/
theorem forall₂_group_ofList (pairs : List (String × α)) :
    List.Forall₂ (fun pair other => pair.1 = other.1 ∧ pair.2.getLast? = some other.2)
      (group pairs) (ofList pairs) := by
  rw [ofList_eq_collect]
  induction pairs using List.reverseRecOn with
  | nil => exact .nil
  | append_singleton front pair ih =>
      rw [group, collect_concat, collect_concat]
      refine forall₂_alter (R := fun (values : List α) value => values.getLast? = some value)
        ih rfl ?_
      intro values value last
      exact List.getLast?_concat

end RecordMapper.SortedMap
