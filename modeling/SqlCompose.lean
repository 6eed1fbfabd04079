import SqlCompose.Json.Reader
import SqlCompose.Criteria
import SqlCompose.Client
import SqlCompose.Table.Attributes
import SqlCompose.Config.Document
import SqlCompose.Config.Load
import SqlCompose.Proofs.CountStatement
import SqlCompose.Proofs.Calls
import SqlCompose.Proofs.FilterParts
import SqlCompose.Proofs.ConditionTree
import SqlCompose.Proofs.UnfilteredDelete
import SqlCompose.Proofs.ComparisonText
import SqlCompose.Proofs.Literals
import SqlCompose.Proofs.PlainTexts
import SqlCompose.Proofs.Hollow
import SqlCompose.Proofs.LiteralStructure
import SqlCompose.Proofs.Grammar
import SqlCompose.Proofs.Symbols
import SqlCompose.Proofs.Atoms
import SqlCompose.Proofs.Meaning
import SqlCompose.Proofs.ComparisonMeaning
import SqlCompose.Proofs.ConditionMeaning
import SqlCompose.Proofs.CallOrder
import SqlCompose.Proofs.FilterMeaning
import SqlCompose.Proofs.FilterOrder
import SqlCompose.Proofs.ConditionWords
import SqlCompose.Proofs.CriteriaMeaning
import SqlCompose.Proofs.CriteriaShape
import SqlCompose.Proofs.Cursors
import SqlCompose.Proofs.AuditLog
import SqlCompose.Proofs.ReadBack
import SqlCompose.Proofs.Embedding
import SqlCompose.Proofs.EscapingCost
import SqlCompose.Proofs.WrittenKeys
import SqlCompose.Proofs.ForcedOperator
import SqlCompose.Proofs.ColumnPaths
import SqlCompose.Proofs.AggregateReader
import SqlCompose.Proofs.JsonMembers
import SqlCompose.Proofs.OrderGrammar
import SqlCompose.Proofs.SiblingWalks
import SqlCompose.Proofs.ReadPaths
import SqlCompose.Proofs.CountReader
import SqlCompose.Proofs.LikePatterns
import SqlCompose.Proofs.EmptyLists
import SqlCompose.Proofs.EngineNames
import SqlCompose.Proofs.TableNames
import SqlCompose.Proofs.AttributeEntries
import SqlCompose.Proofs.Assignments
import SqlCompose.Proofs.ValidConfigs
import SqlCompose.Proofs.ConfigOrigin
import SqlCompose.Proofs.MembershipOperands
