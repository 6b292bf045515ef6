import DuckGlue.Core.HiveLocation
import DuckGlue.Core.GlueInfo
import DuckGlue.Core.GlueFormat
import DuckGlue.Core.GlueTypes
import DuckGlue.Lib.Fallible
import DuckGlue.Planning.HiveScanInfo
import DuckGlue.Planning.PartitionReader
import DuckGlue.Planning.FileSystem
import DuckGlue.Planning.HiveMultiFileList
import DuckGlue.Planning.OwningPartition
import DuckGlue.Planning.ListedFiles
import DuckGlue.Planning.Attribution
import DuckGlue.Planning.ListingEquivalence
import DuckGlue.Lib.Expression
import DuckGlue.Planning.PartitionPruning
import DuckGlue.Planning.PruningRun
import DuckGlue.Planning.GlueHiveInsert
import DuckGlue.Planning.InsertDirectories
import DuckGlue.Planning.InsertReadsBack
import DuckGlue.Planning.SharedLocations
import DuckGlue.Lib.DelimitedText
import DuckGlue.Planning.TextFields
import DuckGlue.Core.TextSerde
import DuckGlue.Catalog.GlueTableSet
import DuckGlue.Lib.Runs
import DuckGlue.Catalog.GlueTransactionManager
import DuckGlue.Catalog.GlueTransactionCache
import DuckGlue.Catalog.CreateTableAs
import DuckGlue.Catalog.CreateTable
import DuckGlue.Catalog.AlterTable
import DuckGlue.Catalog.GluePartitionFunctions
import DuckGlue.Catalog.ColumnSet
import DuckGlue.Catalog.TableUpdates
import DuckGlue.Catalog.CreatedTable
import DuckGlue.Planning.CreateTableAsGates
import DuckGlue.Api.PartitionBatches
import DuckGlue.Lib.Draining
import DuckGlue.Api.PartitionLocations
import DuckGlue.Api.GetPartitions
import DuckGlue.Planning.InsertRegistration
import DuckGlue.Execution.ClearLocation
import DuckGlue.Core.GlueTypeParser
import DuckGlue.Core.GlueTypeSyntax
import DuckGlue.Core.GlueTypeReading
import DuckGlue.Core.GlueTypePrinting
import DuckGlue.Core.TypeWidening
import DuckGlue.Planning.ChangedColumns
import DuckGlue.Catalog.TableLookups
import DuckGlue.Catalog.TableProperties
import DuckGlue.Catalog.CSVDialect
import DuckGlue.Lib.RegularExpression
import DuckGlue.Planning.FieldEscape
import DuckGlue.Catalog.TableInput
import DuckGlue.Catalog.BatchTableLookups
import DuckGlue.Catalog.GlueRepairTable
import DuckGlue.Lib.ColumnStatistics
import DuckGlue.Planning.PartitionStatistics
import DuckGlue.Catalog.SchemaLookups
import DuckGlue.Catalog.ScanFilters
import DuckGlue.Lib.Grouping
import DuckGlue.Planning.FieldConversion
import DuckGlue.Planning.HiveScanToSQL
import DuckGlue.Planning.ExportedScan
import DuckGlue.Planning.ExportedRows
import DuckGlue.Catalog.PartitionDirectories
import DuckGlue.Catalog.GlueViewNames
import DuckGlue.Lib.KeyedCache
import DuckGlue.Catalog.GlueView
import DuckGlue.Lib.KeyOrder
import DuckGlue.Planning.SampledPartitions
import DuckGlue.Lib.Tally
import DuckGlue.Planning.TableSample
import DuckGlue.Planning.SharedSample
import DuckGlue.Lib.InTurn
import DuckGlue.Planning.PartitionValueReads
import DuckGlue.Catalog.AlterAtomicity
import DuckGlue.Catalog.AlterFrame
import DuckGlue.Catalog.ViewReading
import DuckGlue.Planning.ConcurrentInsert
import DuckGlue.Catalog.TableBeforeSchema
