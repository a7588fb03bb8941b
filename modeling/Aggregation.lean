import Aggregation.Aggregator
import Aggregation.Bson.Wrapper
import Aggregation.Expression.Binding
import Aggregation.Expression.ListBuilder
import Aggregation.Expression.Switch
import Aggregation.Proofs.Builder.Resolution
import Aggregation.Proofs.Criteria.Chain
import Aggregation.Proofs.Criteria.Constant
import Aggregation.Proofs.Criteria.Containment
import Aggregation.Proofs.Criteria.Meaning
import Aggregation.Proofs.Criteria.Negation
import Aggregation.Proofs.Criteria.Offence
import Aggregation.Proofs.Criteria.Reference
import Aggregation.Proofs.Criteria.Sigil
import Aggregation.Proofs.Criteria.TextTest
import Aggregation.Proofs.Execution
import Aggregation.Proofs.Expression.Position
import Aggregation.Proofs.Expression.Reading
import Aggregation.Proofs.Property
import Aggregation.Proofs.Record
import Aggregation.Proofs.Resolution.Agreement
import Aggregation.Proofs.Resolution.Fault
import Aggregation.Proofs.Resolution.Incomplete
import Aggregation.Proofs.Search.Emission
import Aggregation.Proofs.Splice
import Aggregation.Proofs.Stage.Constant
import Aggregation.Proofs.Stage.Emission
import Aggregation.Proofs.Stage.Grouping
import Aggregation.Proofs.Stage.Position
import Aggregation.Proofs.Stage.Projection
import Aggregation.Proofs.Stage.Scope
