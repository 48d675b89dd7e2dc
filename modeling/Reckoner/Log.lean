import Reckoner.Text.Spelling
import Reckoner.Text.Uppercase

/-!
# Log records

Work that is worth a note leaves a record behind. Records are part of a result (`Logged`), in the
order in which they were made; whether a record is shown is decided by whoever shows it, by a level.
-/

namespace Reckoner

namespace Log

/-- How much a record matters. The lowest level is no record's: it admits every one. -/
inductive Level where
  | notset
  | debug
  | info
  | warning
  | error
  | critical
  deriving DecidableEq, Repr

namespace Level

/-- The place of a level among the others. -/
def rank : Level → Nat
  | notset => 0
  | debug => 10
  | info => 20
  | warning => 30
  | error => 40
  | critical => 50

/-- The name that a record shows. -/
def name : Level → String
  | notset => "NOTSET"
  | debug => "DEBUG"
  | info => "INFO"
  | warning => "WARNING"
  | error => "ERROR"
  | critical => "CRITICAL"

/-- The names that a level may be asked for by. Two levels have a second one. -/
def names : List (String × Level) :=
  [ ("CRITICAL", critical), ("FATAL", critical), ("ERROR", error), ("WARN", warning),
    ("WARNING", warning), ("INFO", info), ("DEBUG", debug), ("NOTSET", notset) ]

/-- A name that is no level's was asked for. It is kept in upper case. -/
structure Unknown where
  name : String
  deriving DecidableEq, Repr

/-- The wording of the complaint. -/
def Unknown.message (e : Unknown) : String := "Unknown level: " ++ Text.quoted e.name

/-- The level of the given name in any case. -/
def ofName (name : String) : Except Unknown Level :=
  match names.lookup (Text.uppercase name) with
  | some level => .ok level
  | none => .error ⟨Text.uppercase name⟩

/-- Whether a threshold lets records of a level through. -/
def admits (threshold level : Level) : Bool := threshold.rank ≤ level.rank

end Level

/-- One note, from the part of the library that made it. -/
structure Record where
  level : Level
  source : String
  text : String
  deriving DecidableEq, Repr

/-- A record as it is shown. -/
def Record.line (r : Record) : String := r.level.name ++ ":" ++ r.source ++ ":" ++ r.text

end Log

/-- A value and the records made on the way to it. -/
structure Logged (α : Type) where
  records : List Log.Record
  value : α

namespace Logged

/-- A value that was come by without a note. -/
def quietly {α : Type} (value : α) : Logged α := ⟨[], value⟩

/-- A note that goes with a value. -/
def noting {α : Type} (level : Log.Level) (source text : String) (value : α) : Logged α :=
  ⟨[⟨level, source, text⟩], value⟩

/-- One piece of work after another. -/
def andThen {α β : Type} (first : Logged α) (next : α → Logged β) : Logged β :=
  ⟨first.records ++ (next first.value).records, (next first.value).value⟩

instance : Monad Logged where
  pure := quietly
  bind := andThen

end Logged

end Reckoner
