import Vigil.Handler.Http
import Vigil.Handler.Log
import Vigil.Table

/-!
# The registry of handlers

Handlers are made by name, once until the registry is cleared. A handler that
could not be made is not kept, so that the next request for it tries again.
-/

namespace Vigil

/-- A handler that was made, with the number of handlers made before it. -/
structure HandlerInstance where
  number : Nat
  handler : Handler

/-- The ways to make handlers, and the handlers made since the last clearing. -/
structure HandlerRegistry where
  factories : Table String HandlerFactory
  loaded : Table String HandlerInstance
  /-- The number of handlers made so far. -/
  made : Nat

namespace HandlerRegistry

/-- A registry without handlers. -/
def empty : HandlerRegistry := ⟨Table.empty, Table.empty, 0⟩

/-- Adds the factory of a name or replaces it. -/
def register (registry : HandlerRegistry) (name : String) (factory : HandlerFactory) :
    HandlerRegistry :=
  { registry with factories := registry.factories.set name factory }

/-- The registry of the log handler and the HTTP handler. -/
def standard : HandlerRegistry :=
  (empty.register LogHandler.name fun options => .ok (LogHandler.make options)).register
    HttpHandler.name HttpHandler.make

/-- Forgets the handlers that were made. -/
def clear (registry : HandlerRegistry) : HandlerRegistry := { registry with loaded := Table.empty }

/-- Whether a name has a factory. -/
def contains (registry : HandlerRegistry) (name : String) : Bool := registry.factories.contains name

/-- The handler of a name, made on first use. -/
def get (registry : HandlerRegistry) (name : String) (options : Options) :
    HandlerRegistry × Except HandlerFault HandlerInstance :=
  match registry.loaded.get? name with
  | some made => (registry, .ok made)
  | none =>
      match registry.factories.get? name with
      | none => (registry, .error (.setup (.unknown name)))
      | some factory =>
          match factory options with
          | .error fault => (registry, .error (.setup fault))
          | .ok handler =>
              let fresh := ⟨registry.made, handler⟩
              ({ registry with
                  loaded := registry.loaded.set name fresh
                  made := registry.made + 1 }, .ok fresh)

/-- A handler that was made is used again. -/
theorem get_of_loaded {registry : HandlerRegistry} {name : String} {made : HandlerInstance}
    (loaded : registry.loaded.get? name = some made) (options : Options) :
    registry.get name options = (registry, .ok made) := by
  simp [get, loaded]

/-- A handler that was asked for with success is the one of its name. -/
theorem loaded_get {registry : HandlerRegistry} {name : String} {options : Options}
    {made : HandlerInstance} (success : (registry.get name options).2 = .ok made) :
    (registry.get name options).1.loaded.get? name = some made := by
  unfold get at success ⊢
  split at success
  · cases success
    rename_i loaded
    simp [loaded]
  · split at success
    · cases success
    · split at success
      · cases success
      · cases success
        simp [Table.get?_set, *]

/-- A handler that cannot be made leaves nothing behind. -/
theorem get_of_error {registry : HandlerRegistry} {name : String} {options : Options}
    {fault : HandlerFault} (failure : (registry.get name options).2 = .error fault) :
    (registry.get name options).1 = registry := by
  unfold get at failure ⊢
  split at failure
  · cases failure
  · split at failure
    · rfl
    · split at failure
      · rfl
      · cases failure

/-- No handler stays made after a clearing. -/
@[simp] theorem loaded_clear (registry : HandlerRegistry) (name : String) :
    registry.clear.loaded.get? name = none := rfl

/-- The names in the order of their characters. -/
def names (registry : HandlerRegistry) : List String :=
  registry.factories.keys.mergeSort fun a b => a ≤ b

/-- The registry as it is shown. -/
def text (registry : HandlerRegistry) : String :=
  "HandlerRegistry \x7b names: [" ++ ", ".intercalate (registry.names.map Text.quoted)
    ++ "], loaded: " ++ String.ofList (Decimal.numeral registry.loaded.keys.length) ++ " \x7d"

end HandlerRegistry

end Vigil
