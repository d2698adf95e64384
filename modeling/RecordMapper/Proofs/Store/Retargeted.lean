import RecordMapper.Proofs.Filter.Rendering
import RecordMapper.Proofs.Store.Conditions
/-! # Keys aimed at columns

A search compares columns.  The key of a condition is aimed at the column of its field, and travels on as
the text of that key.  Where no mark stands at the front of the column's name, this text says of the
column what the key said of the field, and the statement is made as from the caller's own marks in front
of the column's name (`search_retargets`). -/
set_option autoImplicit false
namespace RecordMapper

open Calendar (Offset)
open RecordMapper.Filter (Conditions Key Operand)
open Session (runOn)

/-! ## Marks in front of another name -/

namespace Filter.Key
variable {column : String}

theorem splitOperator_sign_unmarked {sign : String} {operator : Operator} {lowers : Bool}
    (listed : (sign, operator, lowers) ∈ signs) (unmarked : Unmarked column) :
    splitOperator (sign.toList ++ column.toList) = ((operator, lowers), column.toList) := by
  simp only [signs, List.mem_cons, List.not_mem_nil, or_false, Prod.mk.injEq] at listed
  rcases listed with ⟨rfl, rfl, rfl⟩ | ⟨rfl, rfl, rfl⟩ | ⟨rfl, rfl, rfl⟩ | ⟨rfl, rfl, rfl⟩ |
    ⟨rfl, rfl, rfl⟩ | ⟨rfl, rfl, rfl⟩ | ⟨rfl, rfl, rfl⟩ | ⟨rfl, rfl, rfl⟩ | ⟨rfl, rfl, rfl⟩ |
    ⟨rfl, rfl, rfl⟩ | ⟨rfl, rfl, rfl⟩
  case inl => exact splitOperator_marks .eq unmarked
  case inr.inr.inr.inr.inr.inr.inl => exact splitOperator_marks .gt unmarked
  case inr.inr.inr.inr.inr.inr.inr.inl => exact splitOperator_marks .lt unmarked
  all_goals rfl

theorem settled_sign_unmarked {entry : String × Operator × Bool} (listed : entry ∈ signs)
    (unmarked : Unmarked column) (negate all : Bool) :
    Settled negate all (entry.1.toList ++ column.toList) := by
  have signs : ∀ entry ∈ signs, entry.1.toList.head? ≠ some '!' ∧ entry.1.toList.head? ≠ some '*' := by
    decide
  have other : ∀ c, c = '!' ∨ c = '*' → (entry.1.toList ++ column.toList).head? ≠ some c := by
    intro c mark first
    rw [List.head?_append, Option.or_eq_some_iff] at first
    rcases first with sign | ⟨-, name⟩
    · rcases mark with rfl | rfl
      · exact (signs entry listed).1 sign
      · exact (signs entry listed).2 sign
    · obtain ⟨rest, shape⟩ := List.head?_eq_some_iff.mp name
      refine unmarked.head_notMem shape ?_
      rcases mark with rfl | rfl <;> decide
  exact ⟨fun _ _ => other _ (.inl rfl), fun _ => other _ (.inr rfl)⟩

theorem exists_marks (raw : String) : ∃ marks, marks ++ (ofText raw).field = raw := by
  obtain ⟨all, sign, -, -, shape⟩ := exists_written raw
  refine ⟨String.ofList (bang (ofText raw).negate ++ (star all ++ sign.toList)),
    String.toList_inj.mp ?_⟩
  rw [String.toList_append, String.toList_ofList, List.append_assoc, List.append_assoc, ← shape]

/-- The marks of a key in front of an unmarked name are the key aimed at it. -/
theorem ofText_marks_append {raw marks : String} (split : marks ++ (ofText raw).field = raw)
    (unmarked : Unmarked column) : ofText (marks ++ column) = (ofText raw).withField column := by
  obtain ⟨all, sign, join, listed, shape⟩ := exists_written raw
  have written : (marks ++ column).toList =
      bang (ofText raw).negate ++ (star all ++ (sign.toList ++ column.toList)) := by
    have whole : marks.toList ++ (ofText raw).field.toList = raw.toList := by
      rw [← String.toList_append, split]
    rw [shape, ← List.append_assoc, ← List.append_assoc] at whole
    rw [String.toList_append, List.append_cancel_right whole, List.append_assoc, List.append_assoc]
  rw [ofText_eq_iff, written, withField, said]
  dsimp only
  rw [← join, splitMarks_eq_iff]
  exact ⟨splitOperator_sign_unmarked listed unmarked, settled_sign_unmarked listed unmarked ..⟩

end Filter.Key

/-! ## What becomes of the conditions of a search -/

/-- A condition of a search behind which no other comes out at the same key. -/
def Search.Last (request : Search) (schema : Schema) (raw : String) (operand : Operand) : Prop :=
  ∃ front behind, request.conditions.entries = front ++ (raw, operand) :: behind ∧
    ∀ entry ∈ behind, schema.columnKey entry.1 ≠ schema.columnKey raw

namespace Schema
variable {schema : Schema} {column : String}

theorem mem_columnConditions {request : Search} {key : String} {operand : Operand} :
    (key, operand) ∈ (schema.columnConditions request.conditions).entries ↔
      ∃ raw, request.Last schema raw operand ∧ schema.columnKey raw = key := by
  rw [columnConditions, OrderedMap.mem_entries_ofList]
  constructor
  · rintro ⟨front, behind, split, others⟩
    obtain ⟨before, rest, entries, -, mapped⟩ := List.map_eq_append_iff.mp split
    obtain ⟨⟨raw, given⟩, after, rfl, pair, rfl⟩ := List.map_eq_cons_iff.mp mapped
    obtain ⟨rfl, rfl⟩ := Prod.mk.inj pair
    exact ⟨raw, ⟨before, after, entries, fun entry member => others _ (List.mem_map_of_mem member)⟩,
      rfl⟩
  · rintro ⟨raw, ⟨front, behind, entries, others⟩, rfl⟩
    refine ⟨_, _, by rw [entries, List.map_append, List.map_cons], fun pair member => ?_⟩
    obtain ⟨entry, later, rfl⟩ := List.mem_map.mp member
    exact others entry later

/-- A key aimed at an unmarked column says what the caller's marks say in front of the column. -/
theorem ofText_columnKey {raw marks : String} (unmarked : Key.Unmarked column)
    (split : marks ++ (Key.ofText raw).field = raw)
    (aimed : schema.column (Key.ofText raw).field = column) :
    Key.ofText (schema.columnKey raw) = Key.ofText (marks ++ column) := by
  subst aimed
  rw [columnKey]
  split
  · next same => rw [same, split]
  · rw [Key.ofText_withField raw unmarked, Key.ofText_marks_append split unmarked]

end Schema

theorem Search.mem_clauses_select {request : Search} {schema : Schema} {zone : Offset}
    {clause : Sql.Clause} :
    clause ∈ (Sql.Where.ofConditions (request.select schema).conditions schema.table request.compose
        zone).clauses ↔
      ∃ raw operand, request.Last schema raw operand ∧
        clause = Sql.Clause.ofCondition schema.table zone (schema.columnKey raw) operand := by
  rw [Sql.Where.ofConditions, List.mem_map]
  constructor
  · rintro ⟨⟨key, operand⟩, member, rfl⟩
    obtain ⟨raw, last, rfl⟩ := Schema.mem_columnConditions.mp member
    exact ⟨raw, operand, last, rfl⟩
  · rintro ⟨raw, operand, last, rfl⟩
    exact ⟨(schema.columnKey raw, operand), Schema.mem_columnConditions.mpr ⟨raw, last, rfl⟩, rfl⟩

namespace Store

/-- A key that is aimed at an unmarked column reads as the caller's marks in front of the column do, and
differs from the caller's key in the field alone.  So the statement of a search has the clauses that
these keys make for the conditions on the column, and no others. -/
theorem search_retargets {column : String} (unmarked : Key.Unmarked column) :
    (∀ raw, ∃ marks, marks ++ (Key.ofText raw).field = raw ∧
      let aimed := Key.ofText ((Key.ofText raw).withField column).text
      aimed = Key.ofText (marks ++ column) ∧ aimed.field = column ∧
        aimed.negate = (Key.ofText raw).negate ∧ aimed.join = (Key.ofText raw).join ∧
        aimed.operator = (Key.ofText raw).operator ∧
        aimed.negatedOperator = (Key.ofText raw).negatedOperator ∧
        aimed.caseInsensitive = (Key.ofText raw).caseInsensitive) ∧
    ∀ {σ : Type} (entity : String) (request : Search) (store : Store σ) {schema : Schema},
      (runOn (Store.schema entity) store).1 = .ok schema →
      ∃ clauses succeeded later,
        (runOn (search entity request) store).2.journal = store.journal ++
          .call (.query (Sql.Fragment.statement store.dialect
            ((request.select schema).front ++ (Sql.Where.mk request.compose clauses).suffix ++
              (request.select schema).groupFragments ++ (request.select schema).orderFragments ++
              (request.select schema).rawFragments))) succeeded :: later ∧
        (∀ clause, clause ∈ clauses ↔ ∃ raw operand, request.Last schema raw operand ∧
          clause = Sql.Clause.ofCondition schema.table store.dialect.zone (schema.columnKey raw)
            operand) ∧
        ∀ raw marks operand, marks ++ (Key.ofText raw).field = raw →
          schema.column (Key.ofText raw).field = column →
          Sql.Clause.ofCondition schema.table store.dialect.zone (schema.columnKey raw) operand =
            Sql.Clause.ofCondition schema.table store.dialect.zone (marks ++ column) operand := by
  constructor
  · intro raw
    obtain ⟨marks, split⟩ := Key.exists_marks raw
    refine ⟨marks, split, ?_⟩
    rw [Key.ofText_withField raw unmarked, Key.ofText_marks_append split unmarked]
    exact ⟨rfl, rfl, rfl, rfl, rfl, rfl, rfl⟩
  · intro σ entity request store schema known
    obtain ⟨succeeded, later, journal⟩ := journal_search entity request store known
    let made := Sql.Where.ofConditions (request.select schema).conditions schema.table request.compose
      store.dialect.zone
    refine ⟨made.clauses, succeeded, later, ?_, fun clause => ?_,
      fun raw marks operand split aimed => ?_⟩
    · rw [journal, Sql.Select.statement, Sql.Select.fragments_listed, Sql.Select.listed,
        ← List.append_assoc]
      rfl
    · exact Search.mem_clauses_select
    · simp only [Sql.Clause.ofCondition, Schema.ofText_columnKey unmarked split aimed]

theorem search_retargets_people :
    let request : Search :=
      { conditions := ⟨[("!i%name", .one (.str "a%")), ("city", .one (.str "Oslo"))], by decide⟩ }
    Key.Unmarked "full_name" ∧ (runOn (Store.schema "Person") peopleStore).1 = .ok peopleSchema ∧
      request.Last peopleSchema "!i%name" (.one (.str "a%")) ∧
      "!i%" ++ (Key.ofText "!i%name").field = "!i%name" ∧
      peopleSchema.column (Key.ofText "!i%name").field = "full_name" ∧
      Key.ofText ((Key.ofText "!i%name").withField "full_name").text =
        ⟨"full_name", .like, true, .or, true⟩ ∧
      ∃ clauses succeeded later,
        (runOn (search "Person" request) peopleStore).2.journal =
          .call (.query (Sql.Fragment.statement .standard
            ((request.select peopleSchema).front ++ (Sql.Where.mk .and clauses).suffix ++
              [.text " GROUP BY ", .name "people", .text ".", .name "city"]))) succeeded :: later ∧
        Sql.Clause.ofCondition "people" .utc "!i%full_name" (.one (.str "a%")) ∈ clauses := by
  intro request
  have unmarked : Key.Unmarked "full_name" := by decide
  have known : (runOn (Store.schema "Person") peopleStore).1 = .ok peopleSchema := rfl
  have last : request.Last peopleSchema "!i%name" (.one (.str "a%")) := ⟨[], _, rfl, by decide⟩
  have split : "!i%" ++ (Key.ofText "!i%name").field = "!i%name" := by decide
  have aimed : peopleSchema.column (Key.ofText "!i%name").field = "full_name" := by decide
  obtain ⟨-, searched⟩ := search_retargets unmarked
  obtain ⟨clauses, succeeded, later, journal, exact, same⟩ :=
    searched "Person" request peopleStore known
  refine ⟨unmarked, known, last, split, aimed, by decide, clauses, succeeded, later, ?_, ?_⟩
  · exact journal.trans (by simp only [List.append_assoc]; rfl)
  · exact (exact _).mpr ⟨_, _, last, (same _ _ _ split aimed).symm⟩

end Store

end RecordMapper
