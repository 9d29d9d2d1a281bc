import Mathlib.Data.List.Basic

/-!
# Rows of a CSV text

What `csv.reader(io.StringIO(text))` yields, in the dialect that it has by default: commas between
the fields, and quotes around a field that may have commas, quotes and line ends of its own.
The text is read line by line, and the reader is told where each line ends.

* `readChar`, `readLine` — what a character and a line do to the reader;
* `csvReader` — the records, and the error that ends them if there is one.
-/

namespace PythonCsv

inductive ParserState
  | startRecord
  | startField
  | inField
  | inQuotedField
  | quoteInQuotedField
  | eatCrnl
  deriving DecidableEq, Repr

structure Reader where
  state : ParserState := .startRecord
  field : List Char := []
  fields : List String := []
  deriving Repr

def fieldLimit : Nat := 131072

namespace Reader

/-- `parse_save_field`. -/
def saveField (reader : Reader) : Reader :=
  { reader with fields := reader.fields ++ [String.ofList reader.field], field := [] }

/-- `parse_add_char`. -/
def addChar (reader : Reader) (c : Char) : Except String Reader :=
  if fieldLimit ≤ reader.field.length then .error "field larger than field limit (131072)"
  else .ok { reader with field := reader.field ++ [c] }

def enter (state : ParserState) (reader : Reader) : Reader := { reader with state }

/-- What follows a field: another one, or the end of the record. -/
def afterField (reader : Reader) (c : Option Char) : Option Reader :=
  match c with
  | none => some (reader.saveField.enter .startRecord)
  | some '\n' => some (reader.saveField.enter .eatCrnl)
  | some '\r' => some (reader.saveField.enter .eatCrnl)
  | some ',' => some (reader.saveField.enter .startField)
  | some _ => none

def readFirst (reader : Reader) (c : Option Char) : Except String Reader :=
  match reader.afterField c, c with
  | some next, _ => .ok next
  | none, some '"' => .ok (reader.enter .inQuotedField)
  | none, some c => return (← reader.addChar c).enter .inField
  | none, none => .ok reader

/-- `parse_process_char`; no character is the end of a line. -/
def readChar (reader : Reader) (c : Option Char) : Except String Reader :=
  match reader.state with
  | .startRecord =>
      match c with
      | none => .ok reader
      | some '\n' => .ok (reader.enter .eatCrnl)
      | some '\r' => .ok (reader.enter .eatCrnl)
      | some c => (reader.enter .startField).readFirst (some c)
  | .startField => reader.readFirst c
  | .inField =>
      match reader.afterField c, c with
      | some next, _ => .ok next
      | none, some c => reader.addChar c
      | none, none => .ok reader
  | .inQuotedField =>
      match c with
      | none => .ok reader
      | some '"' => .ok (reader.enter .quoteInQuotedField)
      | some c => reader.addChar c
  | .quoteInQuotedField =>
      match reader.afterField c, c with
      | some next, _ => .ok next
      | none, some '"' => return (← reader.addChar '"').enter .inQuotedField
      | none, some c => return (← reader.addChar c).enter .inField
      | none, none => .ok reader
  | .eatCrnl =>
      match c with
      | some '\n' => .ok reader
      | some '\r' => .ok reader
      | none => .ok (reader.enter .startRecord)
      | some _ => .error ("new-line character seen in unquoted field - " ++
          "do you need to open the file with newline=''?")

def readLine (reader : Reader) (line : List Char) : Except String Reader :=
  (line.map some ++ [none]).foldlM readChar reader

/-- The records of the lines that are left. -/
def readLines (reader : Reader) : List (List Char) → List (Except String (List String))
  | [] =>
      if reader.field ≠ [] ∨ reader.state = .inQuotedField then [.ok reader.saveField.fields]
      else []
  | line :: lines =>
      match reader.readLine line with
      | .error e => [.error e]
      | .ok next =>
          if next.state = .startRecord then .ok next.fields :: readLines {} lines
          else next.readLines lines

end Reader

def linesOf : List Char → List (List Char)
  | [] => []
  | c :: rest =>
      if c = '\n' then ['\n'] :: linesOf rest
      else
        match linesOf rest with
        | [] => [[c]]
        | line :: lines => (c :: line) :: lines

/-- **What the reader yields.** -/
def csvReader (text : String) : List (Except String (List String)) :=
  Reader.readLines {} (linesOf text.toList)

example : csvReader "a,\"b,\"\"c\"\n\"d\ne\",f\n" =
    [.ok ["a", "b,\"c"], .ok ["d\ne", "f"]] := by decide

end PythonCsv
