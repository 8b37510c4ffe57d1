import Mathlib.Data.List.Basic

/-! # The table formatter, observed through its calls

`table_formatter` renders GATK report tables, and its code lies outside the covariate headers.
What the dump code commits to is the sequence of calls it makes: the columns with their formats
and alignments, then rows, each opened by `start_row`, filled by one `data` per cell and closed
by `end_row`, and `end_table` after each pass. A formatter is modelled by the calls delivered
to it, oldest first; every method appends its own call and nothing else.
-/

namespace Firepony

/-- Column formats, `table_formatter::FMT_*`. -/
inductive ColumnFormat where
  | fmtString
  | fmtChar
  | fmtFloat4
  | fmtFloat2
  | fmtUint64
deriving DecidableEq, Repr

/-- Column alignments, `table_formatter::ALIGNMENT_*`. -/
inductive Alignment where
  | alignmentLeft
  | alignmentRight
deriving DecidableEq, Repr

/-- An argument of `table_formatter::data`, by its C++ type. -/
inductive Cell where
  | string (value : String)
  | char (value : Char)
  | double (value : Float)
  | uint32 (value : UInt32)
deriving Repr

/-- One call received by a `table_formatter`; alignments are those passed explicitly. -/
inductive Call where
  | addColumn (name : String) (format : ColumnFormat) (alignments : List Alignment)
  | startRow
  | data (cell : Cell)
  | endRow
  | endTable
deriving Repr

/-- A `table_formatter`: its table name and the calls it has received, oldest first. -/
structure TableFormatter where
  name : String
  calls : List Call
deriving Repr

namespace TableFormatter

/-- `table_formatter fmt(name)`. -/
def new (name : String) : TableFormatter := ⟨name, []⟩

/-- Deliver calls to the formatter, in order. -/
def send (fmt : TableFormatter) (calls : List Call) : TableFormatter :=
  { fmt with calls := fmt.calls ++ calls }

@[simp] theorem send_nil (fmt : TableFormatter) : fmt.send [] = fmt := by
  simp [send]

@[simp] theorem send_send (fmt : TableFormatter) (first second : List Call) :
    (fmt.send first).send second = fmt.send (first ++ second) := by
  simp [send]

def addColumn (fmt : TableFormatter) (name : String) (format : ColumnFormat)
    (alignments : List Alignment) : TableFormatter :=
  fmt.send [.addColumn name format alignments]

def startRow (fmt : TableFormatter) : TableFormatter := fmt.send [.startRow]

def data (fmt : TableFormatter) (cell : Cell) : TableFormatter := fmt.send [.data cell]

def endRow (fmt : TableFormatter) : TableFormatter := fmt.send [.endRow]

def endTable (fmt : TableFormatter) : TableFormatter := fmt.send [.endTable]

@[simp] theorem addColumn_eq (fmt : TableFormatter) (name : String) (format : ColumnFormat)
    (alignments : List Alignment) :
    fmt.addColumn name format alignments = fmt.send [.addColumn name format alignments] := rfl

@[simp] theorem startRow_eq (fmt : TableFormatter) : fmt.startRow = fmt.send [.startRow] := rfl

@[simp] theorem data_eq (fmt : TableFormatter) (cell : Cell) :
    fmt.data cell = fmt.send [.data cell] := rfl

@[simp] theorem endRow_eq (fmt : TableFormatter) : fmt.endRow = fmt.send [.endRow] := rfl

@[simp] theorem endTable_eq (fmt : TableFormatter) : fmt.endTable = fmt.send [.endTable] := rfl

end TableFormatter

end Firepony
