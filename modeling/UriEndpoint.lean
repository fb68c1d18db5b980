import UriEndpoint.Decoding.Decoder
import UriEndpoint.Endpoint.Session
import UriEndpoint.Endpoint.Traffic
import UriEndpoint.Http.Client
import UriEndpoint.Http.Pool
import UriEndpoint.Logging.Logbook
import UriEndpoint.Proofs.Endpoint.Interleaving
import UriEndpoint.Proofs.Endpoint.Records
import UriEndpoint.Proofs.Http.Ownership
import UriEndpoint.Proofs.Logging.Secrecy
import UriEndpoint.Proofs.Redaction.Frame
import UriEndpoint.Proofs.Redaction.QueriedUri
import UriEndpoint.Proofs.Redaction.Regions
import UriEndpoint.Proofs.Redaction.Secrecy
import UriEndpoint.Proofs.Settings.Cache
import UriEndpoint.Proofs.Settings.OverlaidPaths
import UriEndpoint.Proofs.Settings.OverlayLaws
import UriEndpoint.Proofs.Settings.Precedence
import UriEndpoint.Proofs.Template.Canonical
import UriEndpoint.Proofs.Template.Lossless
import UriEndpoint.Proofs.Template.ShortTail
import UriEndpoint.Proofs.Template.Substitution
import UriEndpoint.Proofs.Template.Wrapping
import UriEndpoint.Proofs.Toml.DistinctKeys
import UriEndpoint.Proofs.Value.Paths
import UriEndpoint.Redaction.Event
import UriEndpoint.Request.Source
import UriEndpoint.Settings.LogPlan
import UriEndpoint.Settings.Store
import UriEndpoint.Template.Basic
