import DesignLint.Registry

/-! # The history of a registry

A registry changes by registrations, which may be refused, and by clearings:

* `Registry.perform`: one operation and the answer to it;
* `Registry.performAll`: operations in a row, with a record of them. -/

namespace DesignLint

namespace Registry

/-- What changes a registry. -/
inductive Operation where
  /-- Registers a candidate. -/
  | register (candidate : Candidate)
  /-- Removes all checks. -/
  | clear

/-- An operation with the error that it was refused for, if it was. -/
structure Record where
  /-- The operation. -/
  operation : Operation
  /-- Why it was refused; none if it was not. -/
  refusal : Option RegistryError

/-- The registry behind an operation, and why the operation is refused, if it is. What is refused
changes nothing. -/
def perform (registry : Registry) : Operation → Registry × Option RegistryError
  | .register candidate =>
    match registry.register candidate with
    | .ok next => (next, none)
    | .error e => (registry, some e)
  | .clear => (empty, none)

/-- The registry behind some operations, and what became of each of them. -/
def performAll (registry : Registry) : List Operation → Registry × List Record
  | [] => (registry, [])
  | operation :: rest =>
    let (next, refusal) := registry.perform operation
    let (last, records) := next.performAll rest
    (last, ⟨operation, refusal⟩ :: records)

end Registry

end DesignLint
