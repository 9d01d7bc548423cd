import DocumentMapper.Main
import DocumentMapper.Mapping.Serialize
import DocumentMapper.Proofs.Mapping.RoundTrip
import DocumentMapper.Proofs.Query.Filter
import DocumentMapper.Query.Compilation
import DocumentMapper.Wire.Settings
import DocumentMapper.Proofs.Value.Equality
import DocumentMapper.Proofs.Data.Sort
import DocumentMapper.Proofs.Query.Chain
import DocumentMapper.Proofs.Query.Comparison
import DocumentMapper.Proofs.Query.Conjunction
import DocumentMapper.Proofs.Query.Calls
import DocumentMapper.Proofs.Query.Plan
import DocumentMapper.Proofs.Query.WellOrdered
import DocumentMapper.Proofs.Query.Construction
import DocumentMapper.Proofs.Query.Hoisting
import DocumentMapper.Proofs.Query.FlatQuery
import DocumentMapper.Proofs.Query.CallOrder
import DocumentMapper.Proofs.Wire.Framing
import DocumentMapper.Proofs.Wire.Written
import DocumentMapper.Proofs.Wire.Arrival
import DocumentMapper.Proofs.Query.Projection
import DocumentMapper.Proofs.Query.LevelFree
import DocumentMapper.Proofs.Query.Priority
import DocumentMapper.Proofs.Wire.Delimiting
import DocumentMapper.Proofs.Wire.Reencoding
import DocumentMapper.Proofs.Query.StoredPath
import DocumentMapper.Proofs.Mapping.Hierarchy
import DocumentMapper.Proofs.Mapping.Shadowing
import DocumentMapper.Proofs.Mapping.UnknownFields
import DocumentMapper.Proofs.Query.FilterForms
import DocumentMapper.Proofs.Dump
import DocumentMapper.Proofs.Query.EagerFolding
import DocumentMapper.Proofs.Query.GroupedRows
import DocumentMapper.Proofs.Query.WindowCalls
import DocumentMapper.Proofs.Query.Subqueries
import DocumentMapper.Proofs.Query.HoistedLevels
import DocumentMapper.Proofs.Query.ProjectedMembers
import DocumentMapper.Proofs.Query.ScopedWork
import DocumentMapper.Proofs.Query.ConjunctiveFilters
import DocumentMapper.Proofs.Query.ComputedKeys
import DocumentMapper.Proofs.Query.IntegerArithmetic
import DocumentMapper.Proofs.Query.RegexLiteral
import DocumentMapper.Proofs.Query.GroupScripts
import DocumentMapper.Proofs.Query.GroupKeys
import DocumentMapper.Proofs.Data.Rounding
import DocumentMapper.Proofs.Query.EqualityAndOrder
import DocumentMapper.Proofs.Query.LeftShift
import DocumentMapper.Proofs.Mapping.Identity
import DocumentMapper.Proofs.Wire.ArrayItems
import DocumentMapper.Proofs.Text.Feeding
import DocumentMapper.Proofs.Mapping.MemberKeys
import DocumentMapper.Proofs.Mapping.Forms
import DocumentMapper.Proofs.Mapping.Layout
import DocumentMapper.Proofs.Mapping.Registration
import DocumentMapper.Proofs.Wire.Refills
