import Vigil.Handler.Registry

/-!
# The table of handlers

Each level has a list of handlers, and all of them share one limit on the time of
an answer. A name whose handler cannot be made is reported and left out.
-/

namespace Vigil

/-- The handlers of each level, and how long each of them may take. -/
structure HandlerTable where
  byLevel : Table Level (List HandlerInstance)
  limit : Duration

namespace HandlerTable

/-- A table without handlers. -/
def empty : HandlerTable := ⟨Table.empty, ⟨0⟩⟩

/-- The handlers of a level in their order. -/
def handlers (table : HandlerTable) (level : Level) : List HandlerInstance :=
  (table.byLevel.get? level).getD []

/-- The names of the handlers of a level. -/
def names (table : HandlerTable) (level : Level) : List String :=
  (table.handlers level).map fun made => made.handler.name

end HandlerTable

namespace HandlerRegistry

/-- The part of the program that reports on registered handlers. -/
def place : String := "handlers"

/-- The part of the program that reports on handlers that cannot be made. -/
def usersPlace : String := "reactor"

/-- The entry of a handler that was made. -/
def madeEntry (name : String) : LogEntry :=
  ⟨.debug, place, "Handler initialized", [("handler", name)]⟩

/-- The entry of a handler that cannot be made for a level. -/
def refusedEntry (level : Level) (name : String) (fault : HandlerFault) : LogEntry :=
  ⟨.error, usersPlace, "Handler init failed",
    [("handler", name), ("level", level.name), ("error", fault.message)]⟩

/-- The handlers of those names that have one, in their order. -/
def getAll (registry : HandlerRegistry) (options : Options) (level : Level) :
    List String → HandlerRegistry × List HandlerInstance × List LogEntry
  | [] => (registry, [], [])
  | name :: rest =>
      let (next, got) := registry.get name options
      let (last, handlers, log) := next.getAll options level rest
      match got with
      | .error fault => (last, handlers, refusedEntry level name fault :: log)
      | .ok made =>
          (last, made :: handlers, if registry.made < next.made then madeEntry name :: log else log)

/-- The handlers of some levels. -/
def getLevels (registry : HandlerRegistry) (options : Options) :
    List Level → HandlerRegistry × Table Level (List HandlerInstance) × List LogEntry
  | [] => (registry, Table.empty, [])
  | level :: rest =>
      let (next, handlers, log) := registry.getAll options level (options.handlersFor level)
      let (last, table, more) := next.getLevels options rest
      (last, table.set level handlers, log ++ more)

/-- The table of the options: every handler is made anew, once for all levels. -/
def table (registry : HandlerRegistry) (options : Options) (limit : Duration) :
    HandlerRegistry × HandlerTable × List LogEntry :=
  let (registry, byLevel, log) := registry.clear.getLevels options Level.all
  (registry, ⟨byLevel, limit⟩, log)

end HandlerRegistry

end Vigil
