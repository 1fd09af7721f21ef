import LoadClients.CallSpace
import LoadClients.Client
import LoadClients.Command.Arguments
import LoadClients.Command.Run
import LoadClients.Document.Validity
import LoadClients.FileTree
import LoadClients.Main
import LoadClients.Modules
import LoadClients.Naming
import LoadClients.Schema.Declaration
import LoadClients.Template
import LoadClients.TextFormat
import LoadClients.Proofs.CallSpace.LeastName
import LoadClients.Proofs.Client.Lockstep
import LoadClients.Proofs.Client.SharedNames
import LoadClients.Proofs.Command.AllOrNothing
import LoadClients.Proofs.Modules.Exports
import LoadClients.Proofs.Modules.Identifiers
import LoadClients.Proofs.Modules.Imports
import LoadClients.Proofs.Modules.StatusChecks
import LoadClients.Proofs.Modules.Trimmed
import LoadClients.Proofs.Modules.Usable
import LoadClients.Proofs.Request.Address
import LoadClients.Proofs.Request.Reads
import LoadClients.Proofs.Template.Braces
import LoadClients.Proofs.Client.Scope
import LoadClients.Proofs.Request.Variants
import LoadClients.Proofs.Request.Order
import LoadClients.Proofs.Modules.ComparedStatus
import LoadClients.Proofs.Template.LongestPrefix
import LoadClients.Proofs.Client.PassedBody
import LoadClients.Proofs.Schema.InlineProperties
import LoadClients.Proofs.Schema.Repeats
import LoadClients.Proofs.Request.Comment
import LoadClients.Proofs.Value.Literal
import LoadClients.Proofs.Naming.Renamed
import LoadClients.Proofs.Text.Newlines
import LoadClients.Proofs.Document.Operations
import LoadClients.Proofs.Document.Statuses
import LoadClients.Proofs.CallSpace.Termination
import LoadClients.Proofs.Naming.Alphabets
