import RecordMapper.Entity.Registry
import RecordMapper.Proofs.OrderedMap
/-! # Runs of lookups

Between lookups the entities may be declared anew.  Every lookup of an entity is answered with what
its declaration came to at the first one, and no declaration is consulted again (`run_answers_first`).
What carries a run is that no step changes what the later ones are promised (`promised_lookUp`,
`promised_define`). -/
set_option autoImplicit false
namespace RecordMapper.Registry
variable {registry : Registry} {catalog : Catalog} {name : String}

theorem lookup_new (new : registry.get? name = none) :
    registry.lookup catalog name =
      ((catalog.entity name).declaration.schema,
        registry.insert name (catalog.entity name).declaration.schema,
        (catalog.consult name).2) := by
  rw [Registry.lookup, new]
  rfl

theorem lookup_known {found : Except Misuse Schema} (known : registry.get? name = some found) :
    registry.lookup catalog name = (found, registry, catalog) := by
  rw [Registry.lookup, known]

/-! ## Steps -/

inductive Step
  | lookUp (name : String)
  | define (name : String) (entity : Entity)

def Step.subject : Step → String
  | .lookUp name => name
  | .define name _ => name

@[simp] theorem subject_lookUp (name : String) : (Step.lookUp name).subject = name := rfl

@[simp] theorem subject_define (name : String) (entity : Entity) :
    (Step.define name entity).subject = name := rfl

def Step.lookedUp? : Step → Option String
  | .lookUp name => some name
  | .define _ _ => none

def lookedUp (steps : List Step) : List String := steps.filterMap Step.lookedUp?

theorem lookedUp_lookUp (name : String) (rest : List Step) :
    lookedUp (.lookUp name :: rest) = name :: lookedUp rest := rfl

theorem lookedUp_define (name : String) (entity : Entity) (rest : List Step) :
    lookedUp (.define name entity :: rest) = lookedUp rest := rfl

theorem lookedUp_filter (name : String) (steps : List Step) :
    lookedUp (steps.filter fun step => step.subject = name) =
      (lookedUp steps).filter fun other => other = name := by
  induction steps with
  | nil => rfl
  | cons step rest ih =>
      cases step with
      | lookUp other =>
          by_cases same : other = name
          · simp [lookedUp_lookUp, same, ih]
          · simp [lookedUp_lookUp, same, ih]
      | define other entity =>
          by_cases same : other = name
          · simp [lookedUp_define, same, ih]
          · simp [lookedUp_define, same, ih]

def run : List Step → Registry → Catalog →
    List (String × Except Misuse Schema) × Registry × Catalog
  | [], registry, catalog => ([], registry, catalog)
  | .lookUp name :: rest, registry, catalog =>
    let (answer, registry, catalog) := registry.lookup catalog name
    let (answers, after) := run rest registry catalog
    ((name, answer) :: answers, after)
  | .define name entity :: rest, registry, catalog => run rest registry (catalog.define name entity)

/-- The declaration that is in force when `name` is first looked up, or behind all steps if it is not;
`declared` is the one in force before them. -/
def atFirst (name : String) (declared : Declaration) : List Step → Declaration
  | [] => declared
  | .lookUp other :: rest => if name = other then declared else atFirst name declared rest
  | .define other entity :: rest =>
    atFirst name (if name = other then entity.declaration else declared) rest

theorem atFirst_filter (name : String) (declared : Declaration) (steps : List Step) :
    atFirst name declared (steps.filter fun step => step.subject = name) =
      atFirst name declared steps := by
  induction steps generalizing declared with
  | nil => rfl
  | cons step rest ih =>
      cases step with
      | lookUp other =>
          by_cases same : other = name
          · simp [atFirst, same]
          · simp [atFirst, same, Ne.symm same, ih]
      | define other entity =>
          by_cases same : other = name
          · simp [atFirst, same, ih]
          · simp [atFirst, same, Ne.symm same, ih]

/-! ## What lookups are promised -/

/-- What every lookup of `name` in `steps` is to be answered with. -/
def promised (registry : Registry) (catalog : Catalog) (steps : List Step) (name : String) :
    Except Misuse Schema :=
  (registry.get? name).getD (atFirst name (catalog.entity name).declaration steps).schema

theorem promised_start (entity : String → Entity) (steps : List Step) (name : String) :
    promised .empty (.ofEntities entity) steps name =
      (atFirst name (entity name).declaration steps).schema := by
  have nothing : OrderedMap.get? (OrderedMap.empty : Registry) name = none := rfl
  rw [promised, nothing, Option.getD_none, Catalog.ofEntities]

theorem promised_lookUp (registry : Registry) (catalog : Catalog) (other : String)
    (rest : List Step) :
    promised (registry.lookup catalog other).2.1 (registry.lookup catalog other).2.2 rest =
      promised registry catalog (.lookUp other :: rest) := by
  funext name
  cases found : registry.get? other with
  | some answer =>
      rw [lookup_known found, promised, promised, atFirst]
      by_cases same : name = other
      · rw [same, found, Option.getD_some, Option.getD_some]
      · rw [if_neg same]
  | none =>
      rw [lookup_new found, promised, promised, atFirst]
      dsimp only [Catalog.consult]
      by_cases same : name = other
      · rw [same, OrderedMap.get?_insert_self, found, if_pos rfl, Option.getD_some, Option.getD_none]
      · rw [OrderedMap.get?_insert_of_ne registry _ same, if_neg same]

theorem promised_define (registry : Registry) (catalog : Catalog) (other : String) (entity : Entity)
    (rest : List Step) :
    promised registry (catalog.define other entity) rest =
      promised registry catalog (.define other entity :: rest) := by
  funext name
  rw [promised, promised, atFirst]
  dsimp only [Catalog.define]
  by_cases same : name = other
  · rw [if_pos same, if_pos same]
  · rw [if_neg same, if_neg same]

theorem lookup_promised (registry : Registry) (catalog : Catalog) (name : String) (rest : List Step) :
    (registry.lookup catalog name).1 = promised registry catalog (.lookUp name :: rest) name := by
  rw [promised, atFirst, if_pos rfl]
  cases found : registry.get? name with
  | some answer => rw [lookup_known found, Option.getD_some]
  | none => rw [lookup_new found, Option.getD_none]

/-- A lookup puts in the registry what it is answered with, if it is not there already. -/
theorem lookup_insert (registry : Registry) (catalog : Catalog) (name : String) :
    (registry.lookup catalog name).2.1 =
      registry.insert name (registry.lookup catalog name).1 := by
  cases found : registry.get? name with
  | some answer => rw [lookup_known found, OrderedMap.insert_of_get? found]
  | none => rw [lookup_new found]

/-! ## Runs -/

theorem run_answers (steps : List Step) (registry : Registry) (catalog : Catalog) :
    (run steps registry catalog).1 =
      (lookedUp steps).map fun name => (name, promised registry catalog steps name) := by
  induction steps generalizing registry catalog with
  | nil => rfl
  | cons step rest ih =>
      cases step with
      | lookUp other =>
          have later := ih (registry.lookup catalog other).2.1 (registry.lookup catalog other).2.2
          rw [promised_lookUp] at later
          rw [lookedUp_lookUp, List.map_cons, ← later, ← lookup_promised]
          rfl
      | define other entity =>
          have later := ih registry (catalog.define other entity)
          rw [promised_define] at later
          exact later

theorem run_registry (steps : List Step) (registry : Registry) (catalog : Catalog) :
    (run steps registry catalog).2.1 =
      registry.insertAll ((lookedUp steps).map fun name =>
        (name, promised registry catalog steps name)) := by
  induction steps generalizing registry catalog with
  | nil => rfl
  | cons step rest ih =>
      cases step with
      | lookUp other =>
          have later := ih (registry.lookup catalog other).2.1 (registry.lookup catalog other).2.2
          have first : (registry.lookup catalog other).2.1 =
              registry.insert other (promised registry catalog (.lookUp other :: rest) other) := by
            rw [lookup_insert, lookup_promised]
          rw [promised_lookUp] at later
          calc
            (run (.lookUp other :: rest) registry catalog).2.1
              = (registry.lookup catalog other).2.1.insertAll ((lookedUp rest).map fun name =>
                  (name, promised registry catalog (.lookUp other :: rest) name)) := later
            _ = registry.insertAll ((lookedUp (.lookUp other :: rest)).map fun name =>
                  (name, promised registry catalog (.lookUp other :: rest) name)) := by
              rw [first]
              rfl
      | define other entity =>
          have later := ih registry (catalog.define other entity)
          rw [promised_define] at later
          exact later

theorem run_consulted (steps : List Step) (registry : Registry) (catalog : Catalog) (name : String) :
    (run steps registry catalog).2.2.consulted name = catalog.consulted name +
      if name ∈ lookedUp steps ∧ registry.get? name = none then 1 else 0 := by
  induction steps generalizing registry catalog with
  | nil => simp [run, lookedUp]
  | cons step rest ih =>
      cases step with
      | lookUp other =>
          have later := ih (registry.lookup catalog other).2.1 (registry.lookup catalog other).2.2
          refine Eq.trans later ?_
          simp only [lookedUp_lookUp, List.mem_cons]
          cases found : registry.get? other with
          | some answer =>
              rw [lookup_known found]
              by_cases same : name = other
              · simp [same, found]
              · simp [same]
          | none =>
              rw [lookup_new found]
              dsimp only [Catalog.consult]
              by_cases same : name = other
              · simp [same, found, OrderedMap.get?_insert_self]
              · simp [same, OrderedMap.get?_insert_of_ne registry _ same]
      | define other entity => exact ih registry (catalog.define other entity)

/-- After any steps from the start, and so at any time in between: all lookups of an entity were
answered with what the declaration comes to that was in force at the first one, valid or not; if there
was one, its declaration has been consulted once; there is an entry for each entity looked up; and to
leave out the steps about other entities changes no answer. -/
theorem run_answers_first (entity : String → Entity) (steps : List Step) :
    (run steps .empty (.ofEntities entity)).1 =
        (lookedUp steps).map (fun name =>
          (name, (atFirst name (entity name).declaration steps).schema)) ∧
      (∀ name, (run steps .empty (.ofEntities entity)).2.2.consulted name =
        if name ∈ lookedUp steps then 1 else 0) ∧
      (run steps .empty (.ofEntities entity)).2.1.size = (lookedUp steps).eraseDups.length ∧
      ∀ name, (run (steps.filter fun step => step.subject = name) .empty (.ofEntities entity)).1 =
        (run steps .empty (.ofEntities entity)).1.filter fun answer => answer.1 = name := by
  have answers : ∀ steps, (run steps .empty (.ofEntities entity)).1 =
      (lookedUp steps).map fun name =>
        (name, (atFirst name (entity name).declaration steps).schema) := by
    intro steps
    simp only [run_answers, promised_start]
  refine ⟨answers steps, fun name => ?_, ?_, fun name => ?_⟩
  · rw [run_consulted]
    simp [OrderedMap.get?, OrderedMap.empty, Catalog.ofEntities]
  · have entries := OrderedMap.entries_ofList_map
      (promised OrderedMap.empty (.ofEntities entity) steps) (lookedUp steps)
    have length := congrArg List.length entries
    rw [List.length_map] at length
    rw [run_registry]
    exact length
  · rw [answers, answers, lookedUp_filter, List.filter_map]
    refine List.map_congr_left fun other member => ?_
    obtain rfl : other = name := of_decide_eq_true (List.mem_filter.mp member).2
    rw [atFirst_filter]

end RecordMapper.Registry
