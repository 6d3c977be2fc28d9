import TableStore.Event

/-! # Log lines

One format for the lines of a log: each is coloured by the level of its event, whatever the log is
written to. Sessions may log in any other format.
-/

namespace TableStore

set_option autoImplicit false

/-- Cyan, green, yellow and red. -/
def Level.colour : Level → String
  | debug => "\x1b[36m"
  | info => "\x1b[32m"
  | warning => "\x1b[33m"
  | error => "\x1b[31m"

def resetColour : String :=
  "\x1b[0m"

/-- Ends a line with the reset of its colour, unless it ends so already. -/
def closeColour (line : String) : String :=
  if resetColour.toList.isSuffixOf line.toList then line else line ++ resetColour

/-- The line of an event in the log. The stamp says when it happened. -/
def Event.line (stamp : String) (event : Event) : String :=
  closeColour s!"{event.level.colour}{stamp}:{event.level.name}:{event.source}: {event.message}"

end TableStore
