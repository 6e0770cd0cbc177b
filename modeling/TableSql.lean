import TableSql.Text.Listing
import TableSql.Dml
import TableSql.Json.Reader
import TableSql.Import
import TableSql.Grid.Extract
import TableSql.Convert.Statement
import TableSql.Validation
import TableSql.Data.Table
import TableSql.Data.Mapping
import TableSql.Data.Config
import TableSql.File
import TableSql.Main
import TableSql.Proofs.Text.Scan
import TableSql.Proofs.Ddl.Quotes
import TableSql.Proofs.Ddl.KeyConstraint
import TableSql.Proofs.Text.Reader
import TableSql.Proofs.Text.Decoding
import TableSql.Proofs.Import.Statement
import TableSql.Proofs.Import.Values
import TableSql.Proofs.Import.AutoMap
import TableSql.Proofs.Text.Ascii
import TableSql.Proofs.Text.Words
import TableSql.Proofs.Convert.ColumnComments
import TableSql.Proofs.Convert.Statement
import TableSql.Proofs.Convert.QuotedComment
import TableSql.Proofs.Convert.TableComment
import TableSql.Proofs.Convert.Detect
import TableSql.Proofs.Convert.GeneratedSource
import TableSql.Proofs.Grid.Extract
import TableSql.Proofs.Config
import TableSql.Proofs.Text.Gaps
import TableSql.Proofs.Convert.DetectMysql
import TableSql.Proofs.Dml
import TableSql.Proofs.Ddl.CommentStatements
import TableSql.Proofs.Grid.TypeCell
import TableSql.Proofs.Convert.TypeName
import TableSql.Proofs.Convert.TypeArguments
import TableSql.Proofs.Convert.Quotes
import TableSql.Proofs.Ddl.DorisKey
import TableSql.Proofs.AutoNumber
import TableSql.Proofs.Import.FirstLine
import TableSql.Proofs.Import.OwnHeaders
import TableSql.Proofs.Convert.KeyNulls
import TableSql.Proofs.Grid.Address
import TableSql.Proofs.SampleUpdate
import TableSql.Proofs.Grid.Extracted
import TableSql.Proofs.Grid.SheetName
import TableSql.Proofs.Grid.Rows
import TableSql.Proofs.Grid.WrittenType
import TableSql.Proofs.Import.MappingOrder
import TableSql.Proofs.Findings
import TableSql.Proofs.Ddl.QuotedValues
import TableSql.Proofs.Convert.EngineSpacing
import TableSql.Proofs.Data.Fields
import TableSql.Proofs.Data.Spelling
