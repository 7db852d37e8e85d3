import LivingDoc.Gherkin.Document

namespace LivingDoc

open Gherkin (Row)

structure Table where
  header : Row
  data : List Row
deriving DecidableEq

namespace Table

def ofRows (rows : List Row) : Table := ⟨rows.headD [], rows.tail⟩

def rows (t : Table) : List Row := t.header :: t.data

theorem rows_ofRows {rows : List Row} (h : rows ≠ []) : (ofRows rows).rows = rows := by
  cases rows with
  | nil => exact absurd rfl h
  | cons r l => rfl

end Table

inductive Verdict where
  | passed
  | failed
  | inconclusive
deriving DecidableEq

structure Cell where
  value : String
  verdict : Option Verdict
deriving DecidableEq

structure ExampleTable where
  header : Row
  data : List (List Cell)
deriving DecidableEq

namespace ExampleTable

/-- The table whose first row names the columns; it has no verdicts yet. -/
def ofRows (rows : List Row) : ExampleTable :=
  ⟨rows.headD [], rows.tail.map fun r ↦ r.map (⟨·, none⟩)⟩

def rows (t : ExampleTable) : List Row := t.header :: t.data.map fun r ↦ r.map Cell.value

def setVerdict (t : ExampleTable) (row cell : Nat) (v : Option Verdict) : ExampleTable :=
  { t with data := t.data.modify row (·.modify cell ({ · with verdict := v })) }

theorem rows_ofRows {rows : List Row} (h : rows ≠ []) : (ofRows rows).rows = rows := by
  cases rows with
  | nil => exact absurd rfl h
  | cons r l => simp [ofRows, ExampleTable.rows, Function.comp_def]

end ExampleTable

end LivingDoc
