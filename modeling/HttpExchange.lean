import HttpExchange.Main
import HttpExchange.Session
import HttpExchange.Request.Hosted
import HttpExchange.Response.Hosted
import HttpExchange.Session.Subject
import HttpExchange.KeySet.Listing
import HttpExchange.Proofs.Atomicity
import HttpExchange.Proofs.ContentType.Coupling
import HttpExchange.Proofs.HttpDate.RoundTrip
import HttpExchange.Proofs.Response.Commit
import HttpExchange.Proofs.Header.History
import HttpExchange.Proofs.Language.Tag
import HttpExchange.Proofs.Language.Preference
import HttpExchange.Proofs.Language.RoundTrip
import HttpExchange.Proofs.Request.Languages
import HttpExchange.Proofs.Body.Accessors
import HttpExchange.Proofs.Request.Body
import HttpExchange.Proofs.Request.Footprint
import HttpExchange.Proofs.Response.Content
import HttpExchange.Proofs.Response.Reset
import HttpExchange.Proofs.Charset.RoundTrip
import HttpExchange.Proofs.Response.Text
import HttpExchange.Proofs.Body.Reader
import HttpExchange.Proofs.Body.Reading
import HttpExchange.Proofs.Request.Reading
import HttpExchange.Proofs.HttpDate.Relay
import HttpExchange.Proofs.Request.ContentType
import HttpExchange.Proofs.ContentType.Named
import HttpExchange.Proofs.Response.ContentType
import HttpExchange.Proofs.Header.Reachable
import HttpExchange.Proofs.Header.Wire
import HttpExchange.Proofs.Request.Hosted
import HttpExchange.Proofs.MediaType.Written
import HttpExchange.Proofs.ContentType.Others
import HttpExchange.Proofs.Parameters.Snapshot
import HttpExchange.Proofs.Language.Stability
import HttpExchange.Proofs.Parameters.Refusal
import HttpExchange.Proofs.ContentType.Again
import HttpExchange.Proofs.ContentType.Overwritten
import HttpExchange.Proofs.HttpDate.Moment
import HttpExchange.Proofs.Header.Typed
import HttpExchange.Proofs.Header.Presence
import HttpExchange.Proofs.HttpDate.Older
import HttpExchange.Proofs.ContentType.Lenient
import HttpExchange.Proofs.Charset.Usable
import HttpExchange.Proofs.Request.Parts
import HttpExchange.Proofs.Response.Write
import HttpExchange.Proofs.Header.Integers
import HttpExchange.Proofs.Request.OneElement
