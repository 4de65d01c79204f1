import Principals.Proofs.Mapping.Announcing
import Principals.Proofs.Mapping.DerivedKinds
import Principals.Proofs.Mapping.Groups
import Principals.Proofs.Mapping.Overlaying
import Principals.Proofs.Mapping.Refusals
import Principals.Proofs.Mapping.Reported
import Principals.Proofs.Mapping.StaleTokens
import Principals.Proofs.Publisher.Accounting
import Principals.Proofs.Publisher.Connections
import Principals.Proofs.Publisher.Disconnecting
import Principals.Proofs.Publisher.Subjects
import Principals.Proofs.Query.Composing
import Principals.Proofs.Query.DateSides
import Principals.Proofs.Query.Dates
import Principals.Proofs.Query.GivenAttribute
import Principals.Proofs.Query.Kinds
import Principals.Proofs.Query.LastGiven
import Principals.Proofs.Query.Owners
import Principals.Proofs.Query.Realms
import Principals.Proofs.Query.Scopes
import Principals.Proofs.Schema.ReadBack
import Principals.Schema.Samples
import Principals.Value.DocumentReader
