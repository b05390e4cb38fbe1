import Spreadsheet.Address
import Spreadsheet.Binary64
import Spreadsheet.Binary64.Shortest
import Spreadsheet.Calendar
import Spreadsheet.Cell
import Spreadsheet.CellFormat
import Spreadsheet.CellKind
import Spreadsheet.CharSet
import Spreadsheet.Column
import Spreadsheet.CommandLine.Files
import Spreadsheet.CommandLine.Log
import Spreadsheet.CommandLine.Options
import Spreadsheet.CommandLine.Run
import Spreadsheet.CommandLine.Settings
import Spreadsheet.Config
import Spreadsheet.Editor
import Spreadsheet.Editor.Action
import Spreadsheet.Editor.Appearance
import Spreadsheet.Editor.Entry
import Spreadsheet.Editor.Layout
import Spreadsheet.Editor.Pointer
import Spreadsheet.Editor.Sheets
import Spreadsheet.Editor.Sorting
import Spreadsheet.Editor.Transfer
import Spreadsheet.Formula
import Spreadsheet.Formula.Arguments
import Spreadsheet.Formula.Block
import Spreadsheet.Formula.Call
import Spreadsheet.Formula.Error
import Spreadsheet.Formula.Function
import Spreadsheet.FormulaBar
import Spreadsheet.Grid
import Spreadsheet.Json
import Spreadsheet.Json.Number
import Spreadsheet.Json.Reader
import Spreadsheet.Number
import Spreadsheet.Number.Numeral
import Spreadsheet.Pattern.Parser
import Spreadsheet.Pattern.Program
import Spreadsheet.Pattern.Replacement
import Spreadsheet.Pattern.Search
import Spreadsheet.Pattern.Syntax
import Spreadsheet.Pattern.Template
import Spreadsheet.Reference
import Spreadsheet.Reference.Relocation
import Spreadsheet.Selection
import Spreadsheet.Sheet
import Spreadsheet.Sheet.Layout
import Spreadsheet.Sheet.Order
import Spreadsheet.Store
import Spreadsheet.Text
import Spreadsheet.Text.Blank
import Spreadsheet.Text.Case
import Spreadsheet.Text.Quoted
import Spreadsheet.Toml
import Spreadsheet.Toml.Reader
import Spreadsheet.Toml.Scalar
import Spreadsheet.Tsv
import Spreadsheet.Unicode.Age
import Spreadsheet.Unicode.Casing
import Spreadsheet.Unicode.Category
import Spreadsheet.Unicode.Property
import Spreadsheet.Unicode.PropertyList
import Spreadsheet.Unicode.Script
import Spreadsheet.Unicode.ScriptExtension
import Spreadsheet.Unicode.Segmentation
import Spreadsheet.Workbook
import Spreadsheet.Workbook.Error
import Spreadsheet.Main
import Spreadsheet.Proofs.ColumnLabels
import Spreadsheet.Proofs.GridShape
import Spreadsheet.Proofs.Soundness
import Spreadsheet.Proofs.Changes
import Spreadsheet.Proofs.RowOrder
import Spreadsheet.Proofs.Validity
import Spreadsheet.Proofs.SheetHeights
import Spreadsheet.Proofs.CheckedGrid
import Spreadsheet.Proofs.CheckedEditor
import Spreadsheet.Proofs.RowTraces
import Spreadsheet.Proofs.ReferenceText
import Spreadsheet.Proofs.WrittenCalls
import Spreadsheet.Proofs.AggregateText
import Spreadsheet.Proofs.CopiedBlocks
import Spreadsheet.Proofs.JsonTokens
import Spreadsheet.Proofs.JsonText
import Spreadsheet.Proofs.FiniteNumbers
import Spreadsheet.Proofs.StoredNumbers
import Spreadsheet.Proofs.WorkbookText
import Spreadsheet.Proofs.Views
import Spreadsheet.Proofs.CellOrigins
import Spreadsheet.Proofs.WorkbookFiles
import Spreadsheet.Proofs.CommandRuns
import Spreadsheet.Proofs.WriteThrough
import Spreadsheet.Proofs.SheetIds
import Spreadsheet.Proofs.Reopening
import Spreadsheet.Proofs.FailedActions
import Spreadsheet.Proofs.Appearance
import Spreadsheet.Proofs.MovedBlocks
import Spreadsheet.Proofs.DistinctIds
import Spreadsheet.Proofs.Agreement
import Spreadsheet.Proofs.StartingOver
import Spreadsheet.Proofs.ActiveSheet
import Spreadsheet.Proofs.DrawnRanges
import Spreadsheet.Proofs.FilledBlocks
import Spreadsheet.Proofs.SelectedColumns
import Spreadsheet.Proofs.Segments
import Spreadsheet.Proofs.Mentions
import Spreadsheet.Proofs.ColumnOrdinals
import Spreadsheet.Proofs.RelocatedReferences
import Spreadsheet.Proofs.ArgumentLists
import Spreadsheet.Proofs.ArgumentPieces
import Spreadsheet.Proofs.NumberOrder
import Spreadsheet.Proofs.SortedRows
import Spreadsheet.Proofs.RepeatedMoves
import Spreadsheet.Proofs.SplicedSheets
import Spreadsheet.Proofs.EditAnchors
import Spreadsheet.Proofs.UndoneEdits
import Spreadsheet.Proofs.SelectedCell
import Spreadsheet.Proofs.PastedBlocks
import Spreadsheet.Proofs.PastedFormulas
import Spreadsheet.Proofs.CopiedText
import Spreadsheet.Proofs.PrintedSheets
import Spreadsheet.Proofs.SubmittedTexts
import Spreadsheet.Proofs.DraggedSelections
import Spreadsheet.Proofs.BytePositions
import Spreadsheet.Proofs.BarEdits
import Spreadsheet.Proofs.ReplacedRanges
import Spreadsheet.Proofs.RemovedSheets
import Spreadsheet.Proofs.TabOrder
import Spreadsheet.Proofs.Literals
import Spreadsheet.Proofs.RewrittenTokens
import Spreadsheet.Proofs.RelocatedCalls
import Spreadsheet.Proofs.ArgumentCounts
import Spreadsheet.Proofs.ErrorTokens
import Spreadsheet.Proofs.RangeLimits
import Spreadsheet.Proofs.ReadCells
import Spreadsheet.Proofs.SplitRanges
import Spreadsheet.Proofs.RoundingIntervals
import Spreadsheet.Proofs.WrittenNumbers
import Spreadsheet.Proofs.DistinctRows
import Spreadsheet.Proofs.ReplacementTemplates
import Spreadsheet.Proofs.MatchingPrograms
import Spreadsheet.Proofs.SuccessiveMatches
import Spreadsheet.Proofs.ReplacedTexts
import Spreadsheet.Proofs.NumeralTexts
import Spreadsheet.Proofs.SortedNumbers
import Spreadsheet.Proofs.EnteredNumbers
