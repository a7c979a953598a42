import InspectionForms.Database.Grammar.Statement

namespace InspectionForms

/-- What is done before or after each change of a kind, or instead of it. `text` has made the trigger. -/
structure Trigger where
  name : String
  text : String
  statement : TriggerStatement

namespace Trigger

def ofText? (name text : String) : Option Trigger :=
  match SchemaStatement.ofText text with
  | .ok (.trigger statement) => some ⟨name, text, statement⟩
  | _ => none

def isEarly (trigger : Trigger) : Bool := trigger.statement.time == .before

/-- Whether a trigger waits for an event, which for a change names the columns that it is about. -/
def waitsFor (isEarly : Bool) (event : TriggerEvent) (trigger : Trigger) : Bool :=
  trigger.isEarly == isEarly && match trigger.statement.event, event with
    | .insertion, .insertion | .deletion, .deletion => true
    | .change none, .change _ => true
    | .change (some columns), .change (some changed) =>
      columns.any fun column => changed.any fun name => isSameName name column
    | _, _ => false

end Trigger

end InspectionForms
