import BrokerAdmin.AuthMode
import BrokerAdmin.Main
import BrokerAdmin.Rehearsal
import BrokerAdmin.Proofs.Batch
import BrokerAdmin.Proofs.Batch.Accounting
import BrokerAdmin.Proofs.CommandLine.Run
import BrokerAdmin.Proofs.Connector.Upload
import BrokerAdmin.Proofs.Endpoint.RoundTrip
import BrokerAdmin.Proofs.MessageId.Json
import BrokerAdmin.Proofs.Metadata.Fields
import BrokerAdmin.Proofs.Metadata.Truncation
import BrokerAdmin.Proofs.Peek
import BrokerAdmin.Proofs.Response.Identity
import BrokerAdmin.Proofs.TopicName
import BrokerAdmin.Proofs.Base64
import BrokerAdmin.Proofs.Batch.Extension
import BrokerAdmin.Proofs.Connector.Storable
import BrokerAdmin.Proofs.Message
import BrokerAdmin.Proofs.Stored
import BrokerAdmin.Proofs.Batch.Count
import BrokerAdmin.Proofs.Batch.Cut
import BrokerAdmin.Proofs.Duration
import BrokerAdmin.Proofs.TopicName.Partition
import BrokerAdmin.Proofs.BrokerStats
import BrokerAdmin.Proofs.Metadata.ZeroTag
import BrokerAdmin.Proofs.Refusal.Fallback
