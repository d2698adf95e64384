import RecordMapper.Proofs.OrderedMap
import RecordMapper.Proofs.Sql.Filtering
/-! # Lists and their negations

A condition on a list with `NULL` in it is a null test and a membership test, joined by `OR` whether the
key is negated or not.  So a negated list with `NULL` in it keeps every row whose field is not `NULL`,
those with a listed value among them (`negation_excludes_iff`). -/
set_option autoImplicit false
namespace RecordMapper

open Calendar (Offset)

namespace Filter
variable {V : Type} (m : Interpretation V)

namespace Key

theorem ofText_negated {raw : String} (plain : (ofText raw).negate = false) :
    ofText ("!" ++ raw) = { ofText raw with negate := true } := by
  have marked : ("!" ++ raw).toList = '!' :: raw.toList := by rw [String.toList_append]; rfl
  have unmarked : splitMark '!' raw.toList = (false, raw.toList) := by
    cases shape : raw.toList with
    | nil => rfl
    | cons c rest =>
        by_cases same : c = '!'
        · rw [ofText, shape, splitMarks, splitMark, if_pos same] at plain
          cases plain
        · rw [splitMark, if_neg same]
  rw [ofText, ofText, marked, splitMarks, splitMarks, unmarked]
  rfl

end Key

/-- The value is one of those listed, `NULL` left out. -/
def Interpretation.Lists (values : List Value) (zone : Offset) (value : Option V) : Prop :=
  ∃ a, value = some a ∧ ∃ v ∈ values, ∃ param, v.toParam zone = some param ∧
    m.holds .eq a (m.value param) = true

theorem isNull_of_toParam {v : Value} {zone : Offset} (unbound : v.toParam zone = none) :
    v.isNull = true := by
  cases v with
  | null => rfl
  | _ => cases unbound

theorem params_eq_nil_iff (values : List Value) (zone : Offset)
    (present : values.any Value.isNull = false) :
    values.filterMap (fun v => v.toParam zone) = [] ↔ values = [] := by
  constructor
  · intro unbound
    refine List.eq_nil_iff_forall_not_mem.mpr fun v member => ?_
    have isNull := isNull_of_toParam (List.filterMap_eq_nil_iff.mp unbound v member)
    exact List.any_eq_false.mp present v member isNull
  · rintro rfl
    rfl

theorem Interpretation.member_eq_yes_iff (values : List Value) (zone : Offset) (value : Option V) :
    m.member false value ((values.filterMap fun v => v.toParam zone).map m.value) = .yes ↔
      m.Lists values zone value := by
  have yes : ∀ b : Bool, Truth.ofBool b = .yes ↔ b = true := by decide
  cases value with
  | none => simp [member, Lists]
  | some a =>
      simp only [member, Bool.false_eq_true, if_false, yes, List.any_eq_true, List.mem_map,
        List.mem_filterMap]
      constructor
      · rintro ⟨_, ⟨param, ⟨v, member, bound⟩, rfl⟩, holds⟩
        exact ⟨a, rfl, v, member, param, bound, holds⟩
      · rintro ⟨_, ⟨⟩, v, member, param, bound, holds⟩
        exact ⟨_, ⟨param, ⟨v, member, bound⟩, rfl⟩, holds⟩

theorem Interpretation.member_negated_iff (contrary : ∀ a b, m.holds .ne a b = !m.holds .eq a b)
    (values : List Value) (zone : Offset) (value : Option V) :
    m.member true value ((values.filterMap fun v => v.toParam zone).map m.value) = .yes ↔
      value.isSome = true ∧ ¬ m.Lists values zone value := by
  rw [m.member_negate contrary, ← m.member_eq_yes_iff]
  cases value with
  | none => simp [member, Truth.not]
  | some a =>
      rw [member]
      generalize (if false = true then _ else _ : Bool) = among
      cases among <;> simp [Truth.ofBool, Truth.not]

namespace Key
variable {key : Key}

/-- A list under an equality key is true if one of its two terms is; without terms, if it is negated. -/
theorem listTruth_eq_yes_iff (equality : key.operator = .eq) (either : key.join = .or)
    (value : Option V) (values : List Value) (zone : Offset) :
    key.listTruth m value values zone = .yes ↔
      (values.any Value.isNull = true ∧ nullTruth key.negate value = .yes) ∨
        (values.filterMap (fun v => v.toParam zone) ≠ [] ∧ m.member key.negate value
          ((values.filterMap fun v => v.toParam zone).map m.value) = .yes) ∨
        (values.any Value.isNull = false ∧ values.filterMap (fun v => v.toParam zone) = [] ∧
          key.negate = true) := by
  rw [listTruth, termTruths, equality, either]
  generalize values.filterMap (fun v => v.toParam zone) = params
  cases values.any Value.isNull with
  | true =>
      cases params with
      | nil => simp [Connective.join]
      | cons param rest => simp [Connective.join, Connective.apply, Truth.or_eq_yes]
  | false =>
      cases params with
      | nil => cases negated : key.negate <;> simp [vacuous, equality, Truth.ofBool, negated]
      | cons param rest => simp [Connective.join]

theorem listTruth_plain_iff (equality : key.operator = .eq) (either : key.join = .or)
    (plain : key.negate = false) (value : Option V) (values : List Value) (zone : Offset) :
    key.listTruth m value values zone = .yes ↔
      (values.any Value.isNull = true ∧ value = none) ∨ m.Lists values zone value := by
  have null : nullTruth false value = .yes ↔ value = none := by
    cases value <;> simp [nullTruth, Truth.ofBool]
  have bound : m.Lists values zone value → values.filterMap (fun v => v.toParam zone) ≠ [] := by
    rintro ⟨a, -, v, member, param, bound, -⟩
    exact List.ne_nil_of_mem (List.mem_filterMap.mpr ⟨v, member, bound⟩)
  rw [listTruth_eq_yes_iff m equality either, plain, null, m.member_eq_yes_iff]
  constructor
  · rintro (absent | ⟨-, among⟩ | ⟨-, -, ⟨⟩⟩)
    · exact .inl absent
    · exact .inr among
  · rintro (absent | among)
    · exact .inl absent
    · exact .inr (.inl ⟨bound among, among⟩)

theorem listTruth_negated_iff (contrary : ∀ a b, m.holds .ne a b = !m.holds .eq a b)
    (equality : key.operator = .eq) (either : key.join = .or) (negated : key.negate = true)
    (value : Option V) (values : List Value) (zone : Offset) :
    key.listTruth m value values zone = .yes ↔
      values = [] ∨ (value.isSome = true ∧
        (values.any Value.isNull = true ∨ ¬ m.Lists values zone value)) := by
  have null : nullTruth true value = .yes ↔ value.isSome = true := by
    cases value <;> simp [nullTruth, Truth.ofBool]
  rw [listTruth_eq_yes_iff m equality either, negated, null, m.member_negated_iff contrary]
  cases listed : values.any Value.isNull with
  | true =>
      have given : values ≠ [] := by
        rintro rfl
        cases listed
      constructor
      · rintro (⟨-, present⟩ | ⟨-, present, -⟩ | ⟨⟨⟩, -⟩)
        · exact .inr ⟨present, .inl rfl⟩
        · exact .inr ⟨present, .inl rfl⟩
      · rintro (empty | ⟨present, -⟩)
        · exact absurd empty given
        · exact .inl ⟨rfl, present⟩
  | false =>
      rw [ne_eq, params_eq_nil_iff values zone listed]
      constructor
      · rintro (⟨⟨⟩, -⟩ | ⟨-, present, apart⟩ | ⟨-, empty, -⟩)
        · exact .inr ⟨present, .inr apart⟩
        · exact .inl empty
      · rintro (empty | ⟨present, listed | apart⟩)
        · exact .inr (.inr ⟨rfl, empty, rfl⟩)
        · exact absurd listed Bool.false_ne_true
        · by_cases empty : values = []
          · exact .inr (.inr ⟨rfl, empty, rfl⟩)
          · exact .inr (.inl ⟨empty, present, apart⟩)

end Key

theorem Conditions.truth_single (raw : String) (operand : Operand) (row : Column → Option V)
    (table : String) (compose : Connective) (zone : Offset) :
    Conditions.truth (.ofList [(raw, operand)]) m row table compose zone =
      (Key.ofText raw).truth m (row (Column.of table (Key.ofText raw).field)) zone operand := rfl

end Filter

namespace Sql
open RecordMapper.Filter (Column Conditions Connective Interpretation Key Operand)
open Fragment (tokens)
variable {V : Type}

theorem truth?_condition {dialect : Dialect} (legible : dialect.Legible) (conditions : Conditions)
    (given : conditions.entries ≠ []) (table : String) (compose : Connective) (m : Interpretation V)
    (row : Column → Option V) :
    (dialect.condition conditions table compose).truth? dialect.quote m row =
      some (conditions.truth m row table compose dialect.zone) := by
  have text := Fragment.tokens?_statement legible _
    (spaced_where (Where.ofConditions conditions table compose dialect.zone))
  obtain ⟨whole, found, truth⟩ := read_conditions conditions table compose dialect.zone given
  rw [Statement.truth?, Dialect.condition, text, Option.bind_eq_bind, Option.bind_some]
  generalize tokens (Where.ofConditions conditions table compose dialect.zone).fragments = read at found
  cases read with
  | nil => cases found
  | cons token rest =>
      dsimp only
      rw [found, Option.map_some, truth]

/-- The row fulfils the condition on one list, by the text of the condition and its parameters. -/
def Dialect.Keeps (dialect : Dialect) (m : Interpretation V) (row : Column → Option V)
    (table : String) (compose : Connective) (raw : String) (values : List Value) : Prop :=
  (dialect.condition (.ofList [(raw, .many values)]) table compose).truth? dialect.quote m row =
    some .yes

theorem keeps_iff {dialect : Dialect} (legible : dialect.Legible) (m : Interpretation V)
    (row : Column → Option V) (table : String) (compose : Connective) (raw : String)
    (values : List Value) :
    dialect.Keeps m row table compose raw values ↔
      (Key.ofText raw).listTruth m (row (Column.of table (Key.ofText raw).field)) values
        dialect.zone = .yes := by
  have given : (OrderedMap.ofList [(raw, Operand.many values)]).entries ≠ [] := List.cons_ne_nil _ _
  rw [Dialect.Keeps, truth?_condition legible _ given, Filter.Conditions.truth_single,
    Option.some.injEq]
  rfl

def literal : Interpretation Param :=
  ⟨id, id, fun operator a b => (a == b) == (operator == .eq || operator == .like)⟩

theorem literal_contrary (a b : Param) : literal.holds .ne a b = !literal.holds .eq a b := by
  show ((a == b) == false) = !((a == b) == true)
  cases a == b <;> rfl

/-- Under an equality key without `*`, and where `<>` says the contrary of `=`: a negated list with
`NULL` in it keeps every row whose field is not `NULL`, whatever else is listed.  So a row is kept both
by a list and by its negation if and only if `NULL` is listed and the field is another value listed:
lists without `NULL` exclude what they list, and so does `NULL`. -/
theorem negation_excludes_iff {dialect : Dialect} (legible : dialect.Legible) {raw : String}
    (equality : (Key.ofText raw).operator = .eq) (either : (Key.ofText raw).join = .or)
    (plain : (Key.ofText raw).negate = false) (m : Interpretation V)
    (contrary : ∀ a b, m.holds .ne a b = !m.holds .eq a b) (row : Column → Option V)
    (table : String) (compose : Connective) (values : List Value) :
    let value := row (Column.of table (Key.ofText raw).field)
    (values.any Value.isNull = true →
        (dialect.Keeps m row table compose ("!" ++ raw) values ↔ value.isSome = true)) ∧
      (dialect.Keeps m row table compose raw values ∧
          dialect.Keeps m row table compose ("!" ++ raw) values ↔
        values.any Value.isNull = true ∧ m.Lists values dialect.zone value) := by
  intro value
  have kept : dialect.Keeps m row table compose raw values ↔
      (values.any Value.isNull = true ∧ value = none) ∨ m.Lists values dialect.zone value := by
    rw [keeps_iff legible]
    exact Key.listTruth_plain_iff m equality either plain value values dialect.zone
  have keptNegated : dialect.Keeps m row table compose ("!" ++ raw) values ↔
      values = [] ∨ (value.isSome = true ∧
        (values.any Value.isNull = true ∨ ¬ m.Lists values dialect.zone value)) := by
    rw [keeps_iff legible, Key.ofText_negated plain]
    refine Key.listTruth_negated_iff m contrary ?_ ?_ ?_ value values dialect.zone
    · exact equality
    · exact either
    · rfl
  rw [kept, keptNegated]
  constructor
  · intro listed
    have given : values ≠ [] := by
      rintro rfl
      cases listed
    exact ⟨fun holds => (holds.resolve_left given).1, fun present => .inr ⟨present, .inl listed⟩⟩
  · constructor
    · rintro ⟨⟨listed, absent⟩ | among, empty | ⟨present, listed' | apart⟩⟩
      · rw [empty] at listed
        cases listed
      · rw [absent] at present
        cases present
      · rw [absent] at present
        cases present
      · obtain ⟨a, -, v, member, -⟩ := among
        rw [empty] at member
        cases member
      · exact ⟨listed', among⟩
      · exact absurd among apart
    · rintro ⟨listed, among⟩
      have present : value.isSome = true := Option.isSome_of_eq_some among.choose_spec.1
      exact ⟨.inr among, .inr ⟨present, .inl listed⟩⟩

theorem negation_excludes_iff_numbered :
    let dialect : Dialect := ⟨'"', .numbered, Offset.utc⟩
    let listed : List Value := [.null, .int 18]
    let row : Column → Option Param := fun _ => some (Cell.int 18).param
    dialect.Legible ∧ (Key.ofText "=age").operator = .eq ∧ (Key.ofText "=age").join = .or ∧
      (Key.ofText "=age").negate = false ∧
      (∀ a b, literal.holds .ne a b = !literal.holds .eq a b) ∧
      dialect.Keeps literal row "users" .or "=age" listed ∧
      dialect.Keeps literal row "users" .or "!=age" listed := by
  intro dialect listed row
  have legible : dialect.Legible := by decide
  have equality : (Key.ofText "=age").operator = .eq := by decide
  have either : (Key.ofText "=age").join = .or := by decide
  have plain : (Key.ofText "=age").negate = false := by decide
  have both := (negation_excludes_iff legible equality either plain literal literal_contrary row
    "users" .or listed).2.mpr ⟨rfl, (Cell.int 18).param, rfl, .int 18, by simp [listed], _, rfl, by decide⟩
  exact ⟨legible, equality, either, plain, literal_contrary, both.1, both.2⟩

/-- A list with `NULL` in it and its negation both keep a row with a value that is listed. -/
theorem negated_list_keeps_listed :
    let listed : List Value := [.str "Rome", .null, .str "Oslo"]
    let row : Column → Option Param := fun _ => some (Cell.str "Rome").param
    (Dialect.standard.condition (.ofList [("city", .many listed)]) "users" .and).sql =
        "(`users`.`city` is NULL OR `users`.`city` in (?,?))" ∧
      (Dialect.standard.condition (.ofList [("!city", .many listed)]) "users" .and).sql =
        "(`users`.`city` is NOT NULL OR `users`.`city` not in (?,?))" ∧
      Dialect.standard.Keeps literal row "users" .and "city" listed ∧
      Dialect.standard.Keeps literal row "users" .and "!city" listed := by
  intro listed row
  unfold Dialect.Keeps
  refine ⟨?_, ?_, ?_, ?_⟩
  · decide +kernel
  · decide +kernel
  · decide +kernel
  · decide +kernel

end Sql

end RecordMapper
