import InspectionForms.Store.Basic

namespace InspectionForms

namespace Store

def tamperRow (store : Store) (id : Int) (change : StoredRow → StoredRow) : Nat × Store :=
  match store.table with
  | none => (0, store)
  | some table =>
    (table.rows.countP fun row => row.id == id,
      { store with table := some { table with
          rows := table.rows.map fun row => if row.id == id then change row else row } })

def tamperPayload (store : Store) (id : Int) (text : String) : Nat × Store :=
  store.tamperRow id fun row => { row with payloadText := text }

def tamperStatus (store : Store) (id : Int) (text : String) : Nat × Store :=
  store.tamperRow id fun row => { row with statusText := text }

def tamperVersion (store : Store) (text : String) : Store := { store with versionText := text }

def dropTable (store : Store) : Store := { store with table := none }

end Store

end InspectionForms
