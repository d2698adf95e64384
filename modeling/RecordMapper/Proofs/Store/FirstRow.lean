import RecordMapper.Proofs.Sql.Pagination
import RecordMapper.Proofs.Store.Conditions
/-! # Searches for the first record

A search for the first record writes `LIMIT 1` in front of whatever the caller wants at the end of the
statement.  If that is a pagination clause, the statement still ends with one, which asks for one row at
the caller's offset, if and only if the caller's clause has no limit (`Store.searchFirst_limits`). -/
set_option autoImplicit false
namespace RecordMapper

open Session (runOn)

namespace Search

theorem verbatim_raw (request : Search) {raw : String} (shown : Text.trim raw ≠ "") :
    ({ request with raw := some raw } : Search).verbatim =
      ({ request with raw := none } : Search).verbatim ++ " " ++ Text.trim raw := by
  have given : ¬ (Text.trim raw).isEmpty := by rwa [String.isEmpty_iff]
  have none : (Text.trim "").isEmpty = true := by decide
  simp only [verbatim, Option.getD_some, Option.getD_none, if_neg given, if_pos none,
    String.append_empty, String.append_assoc]

/-- The statement of a search with a last text is that without it, and the text behind it. -/
theorem statement_raw (request : Search) (schema : Schema) (dialect : Sql.Dialect) {raw : String}
    (shown : Text.trim raw ≠ "") :
    let plain := (({ request with raw := none } : Search).select schema).statement dialect
    (({ request with raw := some raw } : Search).select schema).statement dialect =
      ⟨plain.sql ++ " " ++ Text.trim raw, plain.params⟩ := by
  intro plain
  have bare : plain = _ := statement_select { request with raw := none } schema dialect
  rw [statement_select, verbatim_raw request shown, bare]
  simp only [String.append_assoc]
  rfl

end Search

theorem trim_limit_ne (rest : String) : Text.trim ("LIMIT 1 " ++ rest) ≠ "" := by
  intro none
  have chars := congrArg String.toList none
  rw [Text.trim, String.toList_ofList] at chars
  have blank := Text.trimChars_eq_nil_iff.mp chars 'L' (by simp)
  exact absurd blank (by decide)

namespace Store
variable {σ : Type}

/-- Where the last text of a search is a pagination clause, or blank, a search for the first record
sends the statement of the search without that text, and a clause behind it.  The clause limits the
answer to one row, at the caller's offset if there is one, unless the caller gives a limit: then there
are two, and the text behind the statement is no pagination clause. -/
theorem searchFirst_limits (entity : String) (request : Search) (store : Store σ) {schema : Schema}
    (known : (runOn (Store.schema entity) store).1 = .ok schema) {asked : Sql.Pagination}
    (pages : Sql.Pagination.ofText? (request.raw.getD "") = some asked) :
    ∃ (plain : Sql.Statement) (clause : String) (searched limited : Bool),
      store.Called (runOn (search entity { request with raw := none }) store).2
        [(.query plain, searched)] ∧
      store.Called (runOn (searchFirst entity request) store).2
        [(.query ⟨plain.sql ++ " " ++ clause, plain.params⟩, limited)] ∧
      Sql.Pagination.ofText? clause =
        if asked.limit = none then some ⟨some 1, asked.offset⟩ else none := by
  obtain ⟨searched, whole⟩ := called_search entity { request with raw := none } store known
  obtain ⟨limited, first⟩ := called_search entity request.limitOne store known
  have sent := request.statement_raw schema store.dialect (trim_limit_ne (request.raw.getD ""))
  refine ⟨_, Text.trim ("LIMIT 1 " ++ request.raw.getD ""), searched, limited, whole, ?_,
    Sql.Pagination.ofText?_limited pages⟩
  rw [searchFirst, searchOne_looks, ← sent]
  exact first

theorem searchFirst_limits_offset :
    let request : Search := { orderBy := ["city"], raw := some " OFFSET 20\n" }
    (runOn (Store.schema "Person") peopleStore).1 = .ok peopleSchema ∧
      Sql.Pagination.ofText? (request.raw.getD "") = some ⟨none, some 20⟩ ∧
      ∃ (clause : String) (limited : Bool),
        peopleStore.Called (runOn (searchFirst "Person" request) peopleStore).2
          [(.query ⟨"SELECT `people`.*, `people`.`full_name` AS `name` FROM `people` " ++
            "GROUP BY `people`.`city` ORDER BY city " ++ clause, []⟩, limited)] ∧
        Sql.Pagination.ofText? clause = some ⟨some 1, some 20⟩ := by
  intro request
  have known : (runOn (Store.schema "Person") peopleStore).1 = .ok peopleSchema := rfl
  have pages : Sql.Pagination.ofText? (request.raw.getD "") = some ⟨none, some 20⟩ := by decide +kernel
  obtain ⟨plain, clause, searched, limited, whole, first, read⟩ :=
    searchFirst_limits "Person" request peopleStore known pages
  have journal : (runOn (search "Person" { request with raw := none }) peopleStore).2.journal =
      [.call (.query ⟨"SELECT `people`.*, `people`.`full_name` AS `name` FROM `people` " ++
        "GROUP BY `people`.`city` ORDER BY city", []⟩) true] := by
    decide +kernel
  obtain ⟨statement, -⟩ := Prod.mk.inj (List.cons.inj (whole.unique ⟨_, journal, rfl⟩)).1
  obtain rfl := Call.query.inj statement
  exact ⟨known, pages, clause, limited, first, read⟩

/-- A page that has a limit, as a caller may well ask for one, gets a second limit in front of it. -/
theorem searchFirst_limits_twice :
    Sql.Pagination.ofText? "LIMIT 10 OFFSET 20" = some ⟨some 10, some 20⟩ ∧
      (runOn (searchFirst "Person" { raw := some "LIMIT 10 OFFSET 20" }) peopleStore).2.journal =
        [.call (.query ⟨"SELECT `people`.*, `people`.`full_name` AS `name` FROM `people` " ++
          "GROUP BY `people`.`city` LIMIT 1 LIMIT 10 OFFSET 20", []⟩) true] ∧
      Sql.Pagination.ofText? "LIMIT 1 LIMIT 10 OFFSET 20" = none := by
  exact ⟨Sql.Pagination.ofText?_text ⟨some 10, some 20⟩, by decide +kernel, by decide +kernel⟩

end Store

end RecordMapper
