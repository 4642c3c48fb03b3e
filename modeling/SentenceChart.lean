import SentenceChart.Grammar.Derivation
import SentenceChart.Loose.Chart
import SentenceChart.Loose.Checker
import SentenceChart.Loose.Tree
import SentenceChart.Main
import SentenceChart.Proofs.CommandLine.Report
import SentenceChart.Proofs.Construction
import SentenceChart.Proofs.Extension
import SentenceChart.Proofs.Lexicon
import SentenceChart.Proofs.Productions
import SentenceChart.Proofs.Tokens
import SentenceChart.Proofs.Toy
import SentenceChart.Proofs.Tree.AnyChart
import SentenceChart.Proofs.Tree.Canonical
import SentenceChart.Proofs.Json.Escape
import SentenceChart.Proofs.Json.Reading
import SentenceChart.Proofs.CommandLine.Records
import SentenceChart.Proofs.CommandLine.FileTree
import SentenceChart.Proofs.CommandLine.Logging
import SentenceChart.Proofs.StableGrouping
import SentenceChart.Proofs.Tree.Chains
import SentenceChart.Proofs.Spacing
import SentenceChart.Proofs.Position
import SentenceChart.Proofs.Tree.Outline
import SentenceChart.Proofs.Tree.Brackets
import SentenceChart.Proofs.WrittenGrammar
import SentenceChart.Proofs.DataFile
import SentenceChart.Proofs.Closure
import SentenceChart.Proofs.Chart.Store
import SentenceChart.Proofs.Renaming
import SentenceChart.Proofs.Loose
