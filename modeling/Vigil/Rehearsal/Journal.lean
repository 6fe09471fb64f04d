import Vigil.Handler.Delivery
import Vigil.LogEntry

/-!
# Journals

A journal keeps what became known in a rehearsal, each item with its time. Items of
one time have no order among different alerts, so they are listed by alert.
-/

namespace Vigil.Rehearsal

/-- Something, and the millisecond in which it happened. -/
structure Dated (α : Type) where
  time : Nat
  item : α

/-- Whether an item may stand before another one. -/
def Dated.before (alert : α → String) (a b : Dated α) : Bool :=
  a.time < b.time || a.time = b.time && alert a.item ≤ alert b.item

/-- Items by time and then by alert, and otherwise in the order in which they happened. -/
def Dated.list (alert : α → String) (items : List (Dated α)) : List (Dated α) :=
  items.mergeSort (Dated.before alert)

/-- A request of an alert. -/
structure Sent where
  alert : String
  request : FetchRequest

/-- What became known. -/
structure Journal where
  events : List (Dated Event)
  requests : List (Dated Sent)
  receipts : List (Dated Receipt)
  log : List (Dated LogEntry)

namespace Journal

/-- Nothing became known yet. -/
def empty : Journal := ⟨[], [], [], []⟩

/-- Items at one time. -/
def dated (time : Nat) (items : List α) : List (Dated α) := items.map fun item => ⟨time, item⟩

/-- Adds notifications. -/
def addEvents (journal : Journal) (time : Nat) (items : List Event) : Journal :=
  { journal with events := journal.events ++ dated time items }

/-- Adds requests. -/
def addRequests (journal : Journal) (time : Nat) (items : List Sent) : Journal :=
  { journal with requests := journal.requests ++ dated time items }

/-- Adds notifications that handlers keep. -/
def addReceipts (journal : Journal) (time : Nat) (items : List Receipt) : Journal :=
  { journal with receipts := journal.receipts ++ dated time items }

/-- Adds log entries. -/
def addLog (journal : Journal) (time : Nat) (items : List LogEntry) : Journal :=
  { journal with log := journal.log ++ dated time items }

/-- Every list in its order. -/
def listed (journal : Journal) : Journal where
  events := Dated.list (fun event => event.alert.name) journal.events
  requests := Dated.list (fun sent => sent.alert) journal.requests
  receipts := Dated.list (fun receipt => receipt.event.alert.name) journal.receipts
  log := Dated.list (fun entry => entry.alert?.getD "") journal.log

end Journal

end Vigil.Rehearsal
