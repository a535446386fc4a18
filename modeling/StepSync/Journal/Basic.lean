namespace StepSync

/-!
# The journal

What happens to a session is written to a journal. An entry has a level, a topic
that says whose entry it is, and a text. Topics form a tree whose paths are
written with slashes.
-/

/-- How important an entry is, most important first. -/
inductive Level where
  | error
  | warn
  | info
  | debug
  | trace
  deriving Repr, DecidableEq

namespace Level

/-- The level's name. -/
def name : Level → String
  | error => "ERROR"
  | warn => "WARN"
  | info => "INFO"
  | debug => "DEBUG"
  | trace => "TRACE"

/-- Zero for the most important level, more for less important ones. -/
def detail : Level → Nat
  | error => 0
  | warn => 1
  | info => 2
  | debug => 3
  | trace => 4

end Level

/-- Whose entries these are. -/
structure Topic where
  path : String
  deriving Repr, DecidableEq

namespace Topic

/-- The topic of a session that was given no other. -/
def standard : Topic :=
  ⟨"lockstep"⟩

/-- The topic of a part. -/
def child (topic : Topic) (name : String) : Topic :=
  ⟨topic.path ++ "/" ++ name⟩

end Topic

/-- One entry of the journal. -/
structure Entry where
  level : Level
  topic : Topic
  text : String
  deriving Repr, DecidableEq

namespace Entry

/-- The entry as a line. -/
def line (entry : Entry) : String :=
  entry.level.name ++ " " ++ entry.topic.path ++ ": " ++ entry.text

/--
The entry is important enough for a journal that is kept down to
the given level.
-/
def isKept (entry : Entry) (level : Level) : Bool :=
  entry.level.detail ≤ level.detail

end Entry

end StepSync
