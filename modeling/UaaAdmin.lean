import UaaAdmin.Text.Quoted
import UaaAdmin.Text.Blank
import UaaAdmin.Text.Base64
import UaaAdmin.Text.Percent
import UaaAdmin.NameMap
import UaaAdmin.Json.Parser
import UaaAdmin.Json.Printer
import UaaAdmin.Wire.Client
import UaaAdmin.Wire.Group
import UaaAdmin.Wire.User
import UaaAdmin.Wire.Zone
import UaaAdmin.Url.Parser
import UaaAdmin.Fault
import UaaAdmin.Net.Exchange
import UaaAdmin.GroupCache
import UaaAdmin.Admin.Login
import UaaAdmin.Admin.Filter
import UaaAdmin.Declared.Client
import UaaAdmin.Declared.Group
import UaaAdmin.Declared.User
import UaaAdmin.Declared.Zone
import UaaAdmin.Admin.Session
import UaaAdmin.Lifecycle.Client
import UaaAdmin.Lifecycle.Group
import UaaAdmin.Lifecycle.User
import UaaAdmin.Lifecycle.Zone
import UaaAdmin.Proofs.NameMaps
import UaaAdmin.Proofs.Running
import UaaAdmin.Proofs.Requests
import UaaAdmin.Proofs.GroupLoading
import UaaAdmin.Proofs.Membership
import UaaAdmin.Proofs.MembershipEdits
import UaaAdmin.Proofs.Exchanges
import UaaAdmin.Proofs.RoleSync
import UaaAdmin.Proofs.CacheRuns
import UaaAdmin.Proofs.WritesLast
import UaaAdmin.Proofs.Creation
import UaaAdmin.Proofs.JsonTokens
import UaaAdmin.Proofs.JsonText
import UaaAdmin.Proofs.RecordForms
import UaaAdmin.Proofs.Utf8
import UaaAdmin.Proofs.WireForms
import UaaAdmin.Proofs.LastOfEach
import UaaAdmin.Proofs.ZoneNormal
import UaaAdmin.Proofs.ZoneWriteBack
import UaaAdmin.Proofs.DerivedHeaders
import UaaAdmin.Proofs.UserReading
import UaaAdmin.Proofs.Tasks
import UaaAdmin.Proofs.SessionRequests
import UaaAdmin.Proofs.Keeping
import UaaAdmin.Proofs.Convergence
import UaaAdmin.Proofs.ManagerCalls
import UaaAdmin.Proofs.CallSequences
import UaaAdmin.Proofs.ClientUpdates
import UaaAdmin.Proofs.CacheHandles
import UaaAdmin.Proofs.WriteBack
import UaaAdmin.Proofs.FieldReading
import UaaAdmin.Proofs.NullMembers
import UaaAdmin.Proofs.ClientRecords
import UaaAdmin.Proofs.UserUpdates
import UaaAdmin.Proofs.EndpointForms
import UaaAdmin.Proofs.UserGroups
import UaaAdmin.Proofs.Lookups
import UaaAdmin.Proofs.NameFolding
import UaaAdmin.Proofs.PlainNames
import UaaAdmin.Proofs.NumberHosts
import UaaAdmin.Proofs.DomainHosts
import UaaAdmin.Proofs.PathSegments
import UaaAdmin.Proofs.Authorities
import UaaAdmin.Proofs.WebAddresses
import UaaAdmin.Proofs.EndSlashes
import UaaAdmin.Proofs.TokenAddresses
import UaaAdmin.Proofs.SessionOpening
import UaaAdmin.Proofs.AddressesBelow
import UaaAdmin.Proofs.LookupAddresses
import UaaAdmin.Proofs.FilterLiterals
import UaaAdmin.Proofs.PathWeights
import UaaAdmin.Proofs.IdAddresses
import UaaAdmin.Proofs.MembershipRequests
import UaaAdmin.Proofs.Namesakes
import UaaAdmin.Proofs.SlashRuns
import UaaAdmin.Proofs.FaultReports
import UaaAdmin.Proofs.EnvironmentReading
