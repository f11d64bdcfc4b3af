import CCheck.Console.Sessions
import CCheck.Declaration.Check
import CCheck.Declaration.Declarator
import CCheck.Declaration.Diagnostic
import CCheck.Declaration.Literal
import CCheck.Declaration.Scope
import CCheck.Declaration.Session
import CCheck.Declaration.Statement
import CCheck.Fault
import CCheck.Main
import CCheck.Proofs.Declaration.Brackets
import CCheck.Proofs.Declaration.Elements
import CCheck.Proofs.Declaration.Line
import CCheck.Proofs.Declaration.Report
import CCheck.Proofs.Declaration.Run
import CCheck.Proofs.Text.Trim
import CCheck.Proofs.Token.Compose
import CCheck.Proofs.Token.LongestMatch
import CCheck.Proofs.Token.Lookahead
import CCheck.Proofs.Token.Position
import CCheck.Proofs.Token.Rows
import CCheck.Proofs.Token.Segmentation
import CCheck.Proofs.Token.Step
import CCheck.Proofs.Token.Termination
import CCheck.Proofs.Token.Unique
import CCheck.Text.Split
import CCheck.Text.Trie
import CCheck.Token.Basic
import CCheck.Token.Cursor
import CCheck.Token.Pieces
import CCheck.Token.Scan
import CCheck.Unicode.Classes
import CCheck.Unicode.CodePoint
import CCheck.Unicode.Letter
import CCheck.Unicode.Numeric
import CCheck.Unicode.Printable
import CCheck.Unicode.Ranges
import CCheck.Workload.Bench
import CCheck.Workload.Count
