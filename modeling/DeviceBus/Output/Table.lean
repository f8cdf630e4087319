/-!
# Tables

A table is drawn with lines around its cells. Each column is as wide as its widest cell and a
blank on either side; cells stand to the left.
-/

namespace DeviceBus

/-- A header and rows of cells. -/
structure Table where
  header : List String
  rows : List (List String)
  deriving DecidableEq, Repr

namespace Table

/-- The width of each column, blanks included. -/
def widths (table : Table) : List Nat :=
  table.header.zipIdx.map fun (title, column) =>
    2 + table.rows.foldl (fun width row => max width ((row[column]?.getD "").length)) title.length

/-- A horizontal line: its left end, its stroke, its crossings and its right end. -/
def rule (left stroke crossing right : Char) (widths : List Nat) : String :=
  left.toString ++
    String.intercalate crossing.toString
      (widths.map fun width => String.ofList (List.replicate width stroke)) ++
    right.toString

/-- A line of cells. -/
def line (widths : List Nat) (cells : List String) : String :=
  "│" ++
    String.intercalate "┆"
      ((widths.zip cells).map fun (width, cell) =>
        " " ++ cell ++ String.ofList (List.replicate (width - 1 - cell.length) ' ')) ++
    "│"

/-- The table as text, without a line end after its last line. -/
def render (table : Table) : String :=
  let widths := table.widths
  let rows := table.rows.map (line widths)
  String.intercalate "\n"
    ([rule '┌' '─' '┬' '┐' widths, line widths table.header, rule '╞' '═' '╪' '╡' widths] ++
      rows.intersperse (rule '├' '╌' '┼' '┤' widths) ++
      [rule '└' '─' '┴' '┘' widths])

end Table

end DeviceBus
