import RecordMapper.Entity.Schema
/-! # The registry of schemas

The declaration of an entity is consulted once, when the entity is first looked up, and what came
of it is kept: the schema, or the fault.  A `Catalog` holds the entities as they are declared now
and counts how often each declaration has been consulted. -/
set_option autoImplicit false
namespace RecordMapper

structure Catalog where
  entity : String → Entity
  consulted : String → Nat

namespace Catalog

def ofEntities (entity : String → Entity) : Catalog := ⟨entity, fun _ => 0⟩

def consult (catalog : Catalog) (name : String) : Declaration × Catalog :=
  ((catalog.entity name).declaration,
    { catalog with
      consulted := fun n => if n = name then catalog.consulted n + 1 else catalog.consulted n })

def define (catalog : Catalog) (name : String) (entity : Entity) : Catalog :=
  { catalog with entity := fun n => if n = name then entity else catalog.entity n }

end Catalog

/-- What came of the declarations looked up so far. -/
abbrev Registry := OrderedMap (Except Misuse Schema)

def Registry.lookup (registry : Registry) (catalog : Catalog) (name : String) :
    Except Misuse Schema × Registry × Catalog :=
  match registry.get? name with
  | some found => (found, registry, catalog)
  | none =>
    let (declaration, catalog) := catalog.consult name
    (declaration.schema, registry.insert name declaration.schema, catalog)

end RecordMapper
