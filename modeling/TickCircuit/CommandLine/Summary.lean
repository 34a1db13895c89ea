/-!
# Batch Summaries

A batch ends with a table of its files: what came of each one, and how many succeeded.
-/

namespace TickCircuit.CommandLine

/-- What came of one file of a batch. -/
inductive Verdict where
  | ran (ticks : Nat)
  /-- No circuit could be loaded. -/
  | rejected (reason : String)
  /-- The simulation failed. -/
  | failed (reason : String)
  deriving Repr, DecidableEq

namespace Verdict

/-- The word for a verdict. -/
def status : Verdict → String
  | ran _ => "OK"
  | rejected _ => "LOAD_ERROR"
  | failed _ => "FAIL"

def details : Verdict → String
  | ran ticks => toString ticks ++ " ticks"
  | rejected reason => reason
  | failed reason => reason

def isSuccess : Verdict → Bool
  | ran _ => true
  | _ => false

end Verdict

/-- A line of a summary. -/
structure SummaryLine where
  file : String
  verdict : Verdict
  deriving Repr, DecidableEq

namespace Summary

/-- A text filled up with blanks to a width. -/
def column (width : Nat) (text : String) : String :=
  text ++ String.ofList (List.replicate (width - text.length) ' ')

/-- A row of the table. -/
def row (file status details : String) : String :=
  column 40 file ++ " " ++ column 12 status ++ " " ++ details ++ "\n"

def lineText (l : SummaryLine) : String := row l.file l.verdict.status l.verdict.details

/-- How many files succeeded and how many failed. -/
def countText (ls : List SummaryLine) : String :=
  let passed := ls.countP (·.verdict.isSuccess)
  toString passed ++ "/" ++ toString ls.length ++ " succeeded, " ++
    toString (ls.length - passed) ++ " failed\n"

/-- The table of a batch. -/
def text (ls : List SummaryLine) : String :=
  "\n" ++ row "File" "Status" "Details" ++ String.ofList (List.replicate 70 '-') ++ "\n" ++
    String.join (ls.map lineText) ++ "\n" ++ countText ls

/-- Every file succeeded. -/
def isSuccess (ls : List SummaryLine) : Bool := ls.all (·.verdict.isSuccess)

end Summary

end TickCircuit.CommandLine
